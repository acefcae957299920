import ListQuery.Proofs.Sorting.Permutation
import ListQuery.Proofs.Sorting.Settled
import Mathlib.Data.List.Pairwise

/-!
# Sorting is stable

If a comparison puts the items of a list into classes in an order, sorting gives the list with the
classes one after the other, each in the order that its items had:

* `Sorting.OrderOn` : a comparison that does so for items of a kind;
* `Sorting.InFront` : the place of items in the result;
* `Sorting.pairwise_insertion` : insertion puts items into their places;
* `Sorting.isConsistent_of_pairwise` : a list in order shows that the comparison is consistent, so
  that there is no other way of sorting;
* `Sorting.exists_sort?` : the result.
-/

namespace ListQuery

namespace Sorting

open List

variable {α β : Type} {cmp : α → α → Ordering}

/-! ### Orders on some of the items -/

/-- The comparison puts the items with a property into classes in an order. -/
def OrderOn (cmp : α → α → Ordering) (P : α → Prop) : Prop :=
  Std.TransCmp fun a b : { a // P a } => cmp a.1 b.1

theorem orderOn_iff {P : α → Prop} :
    OrderOn cmp P ↔ (∀ a b, P a → P b → cmp a b = (cmp b a).swap) ∧
      ∀ a b c, P a → P b → P c → (cmp a b).isLE = true → (cmp b c).isLE = true →
        (cmp a c).isLE = true := by
  constructor
  · intro h
    exact ⟨fun a b ha hb => h.eq_swap (a := ⟨a, ha⟩) (b := ⟨b, hb⟩),
      fun a b c ha hb hc => h.isLE_trans (a := ⟨a, ha⟩) (b := ⟨b, hb⟩) (c := ⟨c, hc⟩)⟩
  · rintro ⟨hswap, htrans⟩
    exact { eq_swap := hswap _ _ (Subtype.property _) (Subtype.property _)
            isLE_trans := htrans _ _ _ (Subtype.property _) (Subtype.property _)
              (Subtype.property _) }

theorem OrderOn.comap {P : α → Prop} (h : OrderOn cmp P) {Q : β → Prop} {f : β → α}
    (hf : ∀ b, Q b → P (f b)) : OrderOn (fun a b => cmp (f a) (f b)) Q := by
  obtain ⟨hswap, htrans⟩ := orderOn_iff.1 h
  exact orderOn_iff.2 ⟨fun a b ha hb => hswap _ _ (hf a ha) (hf b hb),
    fun a b c ha hb hc => htrans _ _ _ (hf a ha) (hf b hb) (hf c hc)⟩

theorem OrderOn.mono {P Q : α → Prop} (h : OrderOn cmp P) (hQ : ∀ a, Q a → P a) : OrderOn cmp Q :=
  h.comap hQ

theorem OrderOn.congr {cmp' : α → α → Ordering} {P : α → Prop} (h : OrderOn cmp P)
    (hcmp : ∀ a b, P a → P b → cmp a b = cmp' a b) : OrderOn cmp' P := by
  obtain ⟨hswap, htrans⟩ := orderOn_iff.1 h
  refine orderOn_iff.2 ⟨fun a b ha hb => ?_, fun a b c ha hb hc => ?_⟩
  · rw [← hcmp a b ha hb, ← hcmp b a hb ha]
    exact hswap a b ha hb
  · rw [← hcmp a b ha hb, ← hcmp b c hb hc, ← hcmp a c ha hc]
    exact htrans a b c ha hb hc

theorem OrderOn.swap {P : α → Prop} (h : OrderOn cmp P) :
    OrderOn (fun a b => (cmp a b).swap) P := by
  have : Std.TransCmp fun a b : { a // P a } => cmp a.1 b.1 := h
  have hopposite : OrderOn (fun a b => cmp b a) P := Std.TransCmp.opposite
  exact hopposite.congr fun a b ha hb => (orderOn_iff.1 h).1 b a hb ha

theorem OrderOn.then {cmp' : α → α → Ordering} {P : α → Prop} (h : OrderOn cmp P)
    (h' : OrderOn cmp' P) : OrderOn (fun a b => (cmp a b).then (cmp' a b)) P :=
  have : Std.TransCmp fun a b : { a // P a } => cmp a.1 b.1 := h
  have : Std.TransCmp fun a b : { a // P a } => cmp' a.1 b.1 := h'
  inferInstanceAs (Std.TransCmp (compareLex (fun a b : { a // P a } => cmp a.1 b.1)
    fun a b => cmp' a.1 b.1))

/-- What lies between two items tells their order. -/
theorem OrderOn.eq_then {P : α → Prop} (h : OrderOn cmp P) {a b c : α} (ha : P a) (hb : P b)
    (hc : P c) (hab : (cmp a b).isLE = true) (hbc : (cmp b c).isLE = true) :
    cmp a c = (cmp a b).then (cmp b c) := by
  rcases Ordering.isLE_iff_eq_lt_or_eq_eq.1 hab with hlt | heq
  · rw [hlt]
    exact h.lt_of_lt_of_isLE (a := ⟨a, ha⟩) (b := ⟨b, hb⟩) (c := ⟨c, hc⟩) hlt hbc
  · rw [heq]
    exact h.congr_left (a := ⟨a, ha⟩) (b := ⟨b, hb⟩) (c := ⟨c, hc⟩) heq

/-! ### Places -/

/-- An item is less than another by a comparison. -/
def strict (cmp : α → α → Ordering) (a b : α) : Bool :=
  cmp a b == .lt

@[simp]
theorem strict_iff {a b : α} : strict cmp a b = true ↔ cmp a b = .lt :=
  beq_iff_eq

theorem strict_eq_false_iff [Std.OrientedCmp cmp] {a b : α} :
    strict cmp a b = false ↔ (cmp b a).isLE = true := by
  have hswap : cmp a b = (cmp b a).swap := Std.OrientedCmp.eq_swap
  rw [strict, hswap]
  cases cmp b a <;> decide

/-- The place of an item is in front of that of another, `first` telling which of two equal ones
comes first. -/
def InFront (cmp : α → α → Ordering) (first : α → α → Prop) (a b : α) : Prop :=
  cmp a b = .lt ∨ cmp a b = .eq ∧ first a b

variable {first : α → α → Prop}

theorem InFront.isLE {a b : α} (h : InFront cmp first a b) : (cmp a b).isLE = true := by
  obtain hlt | ⟨heq, -⟩ := h
  · rw [hlt]
    rfl
  · rw [heq]
    rfl

theorem inFront_of_isLE {a b : α} (h : (cmp a b).isLE = true) (hfirst : first a b) :
    InFront cmp first a b :=
  (Ordering.isLE_iff_eq_lt_or_eq_eq.1 h).imp_right fun heq => ⟨heq, hfirst⟩

section TransCmp

variable [Std.TransCmp cmp]

/-! ### Insertion -/

theorem pairwise_insertDescending_of_first {a : α} {sorted : List α}
    (hsorted : sorted.Pairwise fun b c => InFront cmp first c b)
    (hfirst : ∀ b ∈ sorted, first b a) :
    (insertDescending (strict cmp) a sorted).Pairwise fun b c => InFront cmp first c b := by
  induction sorted with
  | nil => exact pairwise_singleton _ a
  | cons b rest ih =>
    obtain ⟨hb, hrest⟩ := pairwise_cons.1 hsorted
    obtain ⟨hba, hfirst⟩ := forall_mem_cons.1 hfirst
    rw [insertDescending]
    split
    case isTrue hless =>
      refine pairwise_cons.2 ⟨fun c hc => ?_, ih hrest hfirst⟩
      obtain rfl | hc := mem_cons.1 ((insertDescending_perm _ a rest).mem_iff.1 hc)
      · exact .inl (strict_iff.1 hless)
      · exact hb c hc
    case isFalse hnot =>
      have hle : (cmp b a).isLE = true := strict_eq_false_iff.1 (Bool.eq_false_iff.2 hnot)
      refine pairwise_cons.2 ⟨forall_mem_cons.2 ⟨inFront_of_isLE hle hba, fun c hc => ?_⟩, hsorted⟩
      exact inFront_of_isLE (Std.TransCmp.isLE_trans (hb c hc).isLE hle) (hfirst c hc)

/-- **Insertion puts items into their places.** -/
theorem pairwise_insertion {items : List α} (h : items.Pairwise first) :
    (insertion (strict cmp) items).Pairwise (InFront cmp first) := by
  -- The items that have been inserted stand in front of the others in the list.
  have hfold (start : List α) (hstart : start.Pairwise fun b c => InFront cmp first c b)
      (hfirst : ∀ a ∈ items, ∀ b ∈ start, first b a) :
      (items.foldl (fun sorted a => insertDescending (strict cmp) a sorted) start).Pairwise
        fun b c => InFront cmp first c b := by
    induction items generalizing start with
    | nil => exact hstart
    | cons a items ih =>
      obtain ⟨ha, hitems⟩ := pairwise_cons.1 h
      obtain ⟨hstarta, hstartItems⟩ := forall_mem_cons.1 hfirst
      refine ih hitems _ (pairwise_insertDescending_of_first hstart hstarta) fun c hc b hb => ?_
      obtain rfl | hb := mem_cons.1 ((insertDescending_perm _ a start).mem_iff.1 hb)
      · exact ha c hc
      · exact hstartItems c hc b hb
  exact pairwise_reverse.2 (hfold [] Pairwise.nil fun _ _ b hb => absurd hb not_mem_nil)

/-! ### Consistency -/

theorem drop_countEqual (less : α → α → Bool) (a : α) (items : List α) :
    items.drop (countEqual less a items) = items.dropWhile fun b => !less a b := by
  let notLess (b : α) : Bool := !less a b
  have hparts : items.takeWhile notLess ++ items.dropWhile notLess = items :=
    takeWhile_append_dropWhile
  calc items.drop (countEqual less a items)
    _ = (items.takeWhile notLess ++ items.dropWhile notLess).drop
          (items.takeWhile notLess).length := by rw [hparts]; rfl
    _ = items.dropWhile notLess := drop_left

theorem strict_of_mem_dropWhile {a b : α} {items : List α}
    (h : items.Pairwise fun a b => (cmp a b).isLE = true)
    (hb : b ∈ items.dropWhile fun b => !strict cmp a b) : strict cmp a b = true := by
  induction items with
  | nil => exact absurd hb not_mem_nil
  | cons c items ih =>
    obtain ⟨hc, hitems⟩ := pairwise_cons.1 h
    rw [dropWhile_cons] at hb
    split at hb
    case isTrue => exact ih hitems hb
    case isFalse hstrict =>
      have hac : cmp a c = .lt := by simpa using hstrict
      obtain rfl | hb := mem_cons.1 hb
      · exact strict_iff.2 hac
      · exact strict_iff.2 (Std.TransCmp.lt_of_lt_of_isLE hac (hc b hb))

theorem countEqual_congr {a b : α} (h : cmp a b = .eq) (items : List α) :
    countEqual (strict cmp) a items = countEqual (strict cmp) b items := by
  have hsame : strict cmp a = strict cmp b :=
    funext fun c => congrArg (· == Ordering.lt) (Std.TransCmp.congr_left h)
  rw [countEqual, countEqual, hsame]

theorem isConsistent_of_pairwise {items : List α}
    (h : items.Pairwise fun a b => (cmp a b).isLE = true) :
    isConsistent (strict cmp) items = true := by
  induction items with
  | nil => rfl
  | cons a rest ih =>
    obtain ⟨ha, hrest⟩ := pairwise_cons.1 h
    have hbehind : ∀ b ∈ rest, strict cmp b a = false := fun b hb => strict_eq_false_iff.2 (ha b hb)
    have hgreater : ∀ b ∈ rest.drop (countEqual (strict cmp) a rest), strict cmp a b = true := by
      rw [drop_countEqual]
      exact fun b => strict_of_mem_dropWhile hrest
    rw [isConsistent.eq_def]
    dsimp only
    rw [ih hrest, Bool.and_true, Bool.and_eq_true, Bool.and_eq_true]
    refine ⟨⟨all_eq_true.2 fun b hb => by rw [hbehind b hb]; rfl, all_eq_true.2 hgreater⟩, ?_⟩
    cases rest with
    | nil => rfl
    | cons b others =>
      -- A neighbour that is not greater is in the same class.
      dsimp only
      cases hab : strict cmp a b with
      | true => rfl
      | false =>
        have heq : cmp a b = .eq :=
          Std.OrientedCmp.isLE_antisymm (ha b mem_cons_self) (strict_eq_false_iff.1 hab)
        have hcount : countEqual (strict cmp) a (b :: others) =
            countEqual (strict cmp) a others + 1 := by
          simp [countEqual, hab]
        rw [hcount, countEqual_congr heq]
        simp

theorem sort?_eq_insertion (items : List α) :
    sort? (strict cmp) items = some (insertion (strict cmp) items) := by
  have hplaces : (insertion (strict cmp) items).Pairwise (InFront cmp fun _ _ => True) :=
    pairwise_insertion (pairwise_of_forall fun _ _ => trivial)
  have hconsistent := isConsistent_of_pairwise (hplaces.imp InFront.isLE)
  rw [sort?, hconsistent, Bool.or_true]
  rfl

end TransCmp

/-- **Sorting is stable**: it puts the classes one after the other and keeps the order in each. -/
theorem exists_sort? {items : List α} (h : OrderOn cmp (· ∈ items))
    (hitems : items.Pairwise first) :
    ∃ sorted, sort? (strict cmp) items = some sorted ∧ sorted.Pairwise (InFront cmp first) := by
  have : Std.TransCmp fun a b : { a // a ∈ items } => cmp a.1 b.1 := h
  have hsort := map_sort? (strict cmp) (Subtype.val : { a // a ∈ items } → α) items.attach
  have hinsertion : sort? (Function.onFun (strict cmp) Subtype.val) items.attach =
      some (insertion (strict fun a b : { a // a ∈ items } => cmp a.1 b.1) items.attach) :=
    sort?_eq_insertion items.attach
  rw [attach_map_subtype_val, hinsertion, Option.map_some] at hsort
  refine ⟨_, hsort.symm, pairwise_map.2 ?_⟩
  have hattach : items.attach.Pairwise fun a b => first a.1 b.1 := by
    rw [← pairwise_map (f := Subtype.val) (R := first), attach_map_subtype_val]
    exact hitems
  exact pairwise_insertion hattach

end Sorting

end ListQuery
