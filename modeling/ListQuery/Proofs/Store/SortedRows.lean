import ListQuery.Proofs.Store.AnswerOrder

/-!
# Sorted rows

If the values of each sort field are of one kind, the rows that are found stand in the order of the
first key that tells them apart, and in the order of the store if none does:

* `Row.Kind` : texts, truth values and integers of 64 bits;
* `Row.Below`, `SortKey.Precedes`, `SortKey.Before` : the order of values, of rows by a key, and of
  rows by a list of keys;
* `SortKey.compareBy_eq_lt_iff` : rows are compared in that order;
* `SortKey.compareBy_repeated` : a key for a field that has one already tells nothing;
* `Plan.sortsStably` : the rows of an answer.
-/

namespace ListQuery

open Sorting

/-! ### Values -/

namespace Row

/-- A kind of values. -/
inductive Kind where
  /-- Texts. -/
  | text
  /-- Truth values. -/
  | truth
  /-- Signed integers of 64 bits. -/
  | integer

/-- A value is of a kind. -/
def Kind.Has : Kind → Json → Prop
  | text, v => ∃ s, v = .string s
  | truth, v => ∃ b, v = .bool b
  | integer, v => ∃ n i, v = .number n ∧ n.toInteger? = some i

/-- One value is below another of its kind, a missing one being above all. -/
inductive Below : Option Json → Option Json → Prop
  /-- Texts are in the order of their characters. -/
  | text {s t : String} : s < t → Below (some (.string s)) (some (.string t))
  /-- False is below true. -/
  | truth : Below (some (.bool false)) (some (.bool true))
  /-- Integers are in their order. -/
  | integer {m n : Number} {i j : Int} : m.toInteger? = some i → n.toInteger? = some j → i < j →
      Below (some (.number m)) (some (.number n))
  /-- Missing values come last. -/
  | missing (v : Json) : Below (some v) none

theorem orderable_kind (kind : Kind) : Orderable kind.Has := by
  cases kind with
  | text => exact orderable_of_no_number fun n ⟨_, hn⟩ => by cases hn
  | truth => exact orderable_of_no_number fun n ⟨_, hn⟩ => by cases hn
  | integer => exact orderable_of_integers fun _ hv => hv

theorem orderOn_compareForSort_kind (kind : Kind) :
    OrderOn compareForSort fun v => ∀ w ∈ v, kind.Has w :=
  orderOn_compareForSort (orderOn_compareValues (orderable_kind kind))

section Kind

variable {kind : Kind}

theorem compareValues_eq_lt_iff {v w : Json} (hv : kind.Has v) (hw : kind.Has w) :
    compareValues v w = .lt ↔ Below (some v) (some w) := by
  cases kind with
  | text =>
    obtain ⟨s, rfl⟩ := hv
    obtain ⟨t, rfl⟩ := hw
    have htexts : compareValues (.string s) (.string t) = .lt ↔ s < t := compareOfLessAndEq_eq_lt
    rw [htexts]
    constructor
    · exact .text
    · rintro (hlt | _ | _ | _)
      exact hlt
  | truth =>
    obtain ⟨b, rfl⟩ := hv
    obtain ⟨c, rfl⟩ := hw
    constructor
    · intro h
      cases b <;> cases c
      case false.true => exact .truth
      all_goals cases h
    · rintro ⟨⟩
      rfl
  | integer =>
    obtain ⟨m, i, rfl, hi⟩ := hv
    obtain ⟨n, j, rfl, hj⟩ := hw
    rw [compareValues, compareNumbers, hi, hj]
    constructor
    · exact fun h => .integer hi hj (compare_lt_iff_lt.1 h)
    · rintro (_ | _ | ⟨hi', hj', hlt⟩ | _)
      cases hi.symm.trans hi'
      cases hj.symm.trans hj'
      exact compare_lt_iff_lt.2 hlt

theorem compareValues_eq_eq_iff {v w : Json} (hv : kind.Has v) (hw : kind.Has w) :
    compareValues v w = .eq ↔ v = w := by
  cases kind with
  | text =>
    obtain ⟨s, rfl⟩ := hv
    obtain ⟨t, rfl⟩ := hw
    rw [Json.string.injEq]
    exact Std.LawfulEqOrd.compare_eq_iff_eq
  | truth =>
    obtain ⟨b, rfl⟩ := hv
    obtain ⟨c, rfl⟩ := hw
    rw [Json.bool.injEq]
    exact Std.LawfulEqOrd.compare_eq_iff_eq
  | integer =>
    obtain ⟨m, i, rfl, hi⟩ := hv
    obtain ⟨n, j, rfl, hj⟩ := hw
    rw [compareValues, compareNumbers, hi, hj, Json.number.injEq]
    constructor
    · intro h
      cases compare_eq_iff_eq.1 h
      rw [eq_integer_of_toInteger? hi, eq_integer_of_toInteger? hj]
    · rintro rfl
      cases hi.symm.trans hj
      exact compare_eq_iff_eq.2 rfl

variable {a b : Option Json}

theorem compareForSort_eq_lt_iff (ha : ∀ v ∈ a, kind.Has v) (hb : ∀ v ∈ b, kind.Has v) :
    compareForSort a b = .lt ↔ Below a b := by
  cases a with
  | none => cases b <;> constructor <;> rintro ⟨⟩
  | some v =>
    cases b with
    | none => exact ⟨fun _ => .missing v, fun _ => rfl⟩
    | some w => exact compareValues_eq_lt_iff (ha v rfl) (hb w rfl)

theorem compareForSort_eq_eq_iff (ha : ∀ v ∈ a, kind.Has v) (hb : ∀ v ∈ b, kind.Has v) :
    compareForSort a b = .eq ↔ a = b := by
  cases a with
  | none =>
    cases b with
    | none => exact ⟨fun _ => rfl, fun _ => rfl⟩
    | some w => constructor <;> rintro ⟨⟩
  | some v =>
    cases b with
    | none => constructor <;> rintro ⟨⟩
    | some w =>
      rw [Option.some.injEq]
      exact compareValues_eq_eq_iff (ha v rfl) (hb w rfl)

end Kind

end Row

/-! ### Rows -/

namespace SortKey

/-- The value of the first row is in front of that of the second, in the direction of the key. -/
def Precedes (k : SortKey) (a b : Json) : Prop :=
  match k.direction with
  | .ascending => Row.Below (Row.base? a k.field) (Row.base? b k.field)
  | .descending => Row.Below (Row.base? b k.field) (Row.base? a k.field)

/-- Two rows have the same values for all keys. -/
def Agree (keys : List SortKey) (a b : Json) : Prop :=
  ∀ k ∈ keys, Row.base? a k.field = Row.base? b k.field

/-- The first row precedes the second by the first of the keys for which they do not agree. -/
def Before (keys : List SortKey) (a b : Json) : Prop :=
  ∃ front k back, keys = front ++ k :: back ∧ Agree front a b ∧ k.Precedes a b

theorem agree_cons_iff {k : SortKey} {keys : List SortKey} {a b : Json} :
    Agree (k :: keys) a b ↔ Row.base? a k.field = Row.base? b k.field ∧ Agree keys a b := by
  simp [Agree]

theorem before_cons_iff {k : SortKey} {keys : List SortKey} {a b : Json} :
    Before (k :: keys) a b ↔
      k.Precedes a b ∨ Row.base? a k.field = Row.base? b k.field ∧ Before keys a b := by
  constructor
  · rintro ⟨front, k', back, heq, hagree, hprecedes⟩
    cases front with
    | nil => cases heq; exact .inl hprecedes
    | cons k front =>
      cases heq
      obtain ⟨hk, hfront⟩ := agree_cons_iff.1 hagree
      exact .inr ⟨hk, front, k', back, rfl, hfront, hprecedes⟩
  · rintro (hprecedes | ⟨hk, front, k', back, rfl, hagree, hprecedes⟩)
    · exact ⟨[], k, keys, rfl, by simp [Agree], hprecedes⟩
    · exact ⟨k :: front, k', back, rfl, agree_cons_iff.2 ⟨hk, hagree⟩, hprecedes⟩

/-- The rows have values of one kind for each key. -/
def HasKinds (keys : List SortKey) (P : Json → Prop) : Prop :=
  ∀ k ∈ keys, ∃ kind : Row.Kind, ∀ row, P row → ∀ v ∈ Row.base? row k.field, kind.Has v

section HasKinds

variable {keys : List SortKey} {P : Json → Prop} (h : HasKinds keys P)
include h

theorem orderOn_compareBy_of_hasKinds : OrderOn (compareBy keys) P := by
  refine orderOn_compareBy fun k hk => ?_
  obtain ⟨kind, hkind⟩ := h k hk
  exact OrderOn.comap (Row.orderOn_compareForSort_kind kind) hkind

variable {a b : Json} (ha : P a) (hb : P b)
include ha hb

theorem compareRows_eq_lt_iff {k : SortKey} (hk : k ∈ keys) :
    compareRows a b k = .lt ↔ k.Precedes a b := by
  obtain ⟨kind, hkind⟩ := h k hk
  unfold compareRows Precedes
  cases k.direction with
  | ascending => exact Row.compareForSort_eq_lt_iff (hkind a ha) (hkind b hb)
  | descending =>
    dsimp only
    rw [← Row.compareForSort_eq_swap]
    exact Row.compareForSort_eq_lt_iff (hkind b hb) (hkind a ha)

theorem compareRows_eq_eq_iff {k : SortKey} (hk : k ∈ keys) :
    compareRows a b k = .eq ↔ Row.base? a k.field = Row.base? b k.field := by
  obtain ⟨kind, hkind⟩ := h k hk
  rw [← Row.compareForSort_eq_eq_iff (hkind a ha) (hkind b hb), compareRows]
  cases k.direction with
  | ascending => exact Iff.rfl
  | descending => exact Ordering.swap_eq_eq

end HasKinds

/-- **Rows are compared by the first key for which they do not agree.** -/
theorem compareBy_eq_lt_iff {keys : List SortKey} {P : Json → Prop} (h : HasKinds keys P)
    {a b : Json} (ha : P a) (hb : P b) : compareBy keys a b = .lt ↔ Before keys a b := by
  induction keys with
  | nil =>
    constructor
    · rintro ⟨⟩
    · rintro ⟨front, _, _, heq, _⟩
      cases front <;> cases heq
  | cons k keys ih =>
    have hrest : HasKinds keys P := fun k' hk' => h k' (List.mem_cons_of_mem k hk')
    rw [compareBy, Ordering.then_eq_lt, before_cons_iff, ih hrest,
      compareRows_eq_lt_iff h ha hb List.mem_cons_self,
      compareRows_eq_eq_iff h ha hb List.mem_cons_self]

theorem compareBy_eq_eq_iff {keys : List SortKey} {P : Json → Prop} (h : HasKinds keys P)
    {a b : Json} (ha : P a) (hb : P b) : compareBy keys a b = .eq ↔ Agree keys a b := by
  induction keys with
  | nil => exact ⟨fun _ _ hk => absurd hk List.not_mem_nil, fun _ => rfl⟩
  | cons k keys ih =>
    have hrest : HasKinds keys P := fun k' hk' => h k' (List.mem_cons_of_mem k hk')
    rw [compareBy, Ordering.then_eq_eq, agree_cons_iff, ih hrest,
      compareRows_eq_eq_iff h ha hb List.mem_cons_self]

theorem compareBy_append (front back : List SortKey) (a b : Json) :
    compareBy (front ++ back) a b = (compareBy front a b).then (compareBy back a b) := by
  induction front with
  | nil => rfl
  | cons k front ih => rw [List.cons_append, compareBy, compareBy, ih, Ordering.then_assoc]

theorem compareRows_eq_eq_of_field {k k' : SortKey} (hfield : k'.field = k.field) {a b : Json}
    (h : compareRows a b k = .eq) : compareRows a b k' = .eq := by
  have hvalues : Row.compareForSort (Row.base? a k.field) (Row.base? b k.field) = .eq := by
    unfold compareRows at h
    cases hdirection : k.direction with
    | ascending => simpa [hdirection] using h
    | descending => simpa [hdirection] using h
  rw [compareRows, hfield, hvalues]
  cases k'.direction <;> rfl

theorem compareRows_of_compareBy {keys : List SortKey} {a b : Json} (h : compareBy keys a b = .eq) :
    ∀ k ∈ keys, compareRows a b k = .eq := by
  induction keys with
  | nil => exact fun _ hk => absurd hk List.not_mem_nil
  | cons k keys ih =>
    obtain ⟨hk, hkeys⟩ := Ordering.then_eq_eq.1 h
    exact List.forall_mem_cons.2 ⟨hk, ih hkeys⟩

/-- **A key for a field that has one already tells nothing**, whatever the directions. -/
theorem compareBy_repeated {front : List SortKey} {k : SortKey}
    (hk : k.field ∈ front.map SortKey.field) (back : List SortKey) (a b : Json) :
    compareBy (front ++ k :: back) a b = compareBy (front ++ back) a b := by
  rw [compareBy_append, compareBy_append, compareBy]
  cases hfront : compareBy front a b with
  | lt => rfl
  | gt => rfl
  | eq =>
    obtain ⟨k', hk', hfield⟩ := List.mem_map.1 hk
    rw [compareRows_eq_eq_of_field hfield.symm (compareRows_of_compareBy hfront k' hk')]
    rfl

end SortKey

/-! ### Answers -/

namespace Sample

/-- A row with the name and the quantity of a product. -/
def stocked (name : String) (quantity : Option Int) : Json :=
  .object [("name", .string name),
    ("quantity", quantity.elim .null fun i => .number (.integer i))]

/-- Four rows, one of them without a quantity and two of them alike. -/
def stock : List Json :=
  [stocked "nail" (some 2), stocked "hose" none, stocked "axe" (some 7), stocked "nail" (some 2)]

/-- All products, the most numerous first, then by their names. -/
def byQuantity : Plan :=
  Plan.ofSort product "quantity:desc,name:asc"

theorem hasKinds_byQuantity : SortKey.HasKinds byQuantity.sort fun row =>
    row ∈ stock ∧ byQuantity.selects row = true := by
  have hsort : byQuantity.sort =
      [⟨⟨"quantity", none, "quantity", .integer⟩, .descending⟩,
        ⟨⟨"name", none, "name", .text⟩, .ascending⟩] := by decide
  rw [hsort]
  refine List.forall_mem_cons.2 ⟨⟨.integer, ?_⟩, List.forall_mem_singleton.2 ⟨.text, ?_⟩⟩
  · rintro row ⟨hrow, -⟩ v hv
    simp only [stock, List.mem_cons, List.not_mem_nil, or_false] at hrow
    rcases hrow with rfl | rfl | rfl | rfl
    · cases hv
      exact ⟨_, 2, rfl, rfl⟩
    · cases hv
    · cases hv
      exact ⟨_, 7, rfl, rfl⟩
    · cases hv
      exact ⟨_, 2, rfl, rfl⟩
  · rintro row ⟨hrow, -⟩ v hv
    simp only [stock, List.mem_cons, List.not_mem_nil, or_false] at hrow
    rcases hrow with rfl | rfl | rfl | rfl <;> cases hv <;> exact ⟨_, rfl⟩

end Sample

namespace Plan

theorem matching?_sortedBy (plan : Plan) (keys : List SortKey) (rows : List Json) :
    (plan.sortedBy keys).matching? rows =
      Sorting.sort? (fun a b => SortKey.compareBy keys a.row b.row == .lt) (plan.kept rows) :=
  rfl

/-- What sort keys do to an answer. -/
structure SortsStably (plan : Plan) (rows : List Json) : Prop where
  /-- Without keys the rows that are kept are found in the order of the store. -/
  unsorted : (plan.sortedBy []).matching? rows = some (plan.kept rows)
  /-- The same rows are found with other keys, or with none. -/
  perm {keys : List SortKey} :
    SortKey.HasKinds keys (fun row => row ∈ rows ∧ plan.selects row = true) →
      ∃ found found', plan.matching? rows = some found ∧
        (plan.sortedBy keys).matching? rows = some found' ∧ found.Perm found'
  /-- As many rows are found. -/
  total {keys : List SortKey} :
    SortKey.HasKinds keys (fun row => row ∈ rows ∧ plan.selects row = true) →
      ∃ page page', plan.fetch? rows = some page ∧
        (plan.sortedBy keys).fetch? rows = some page' ∧ page.2 = page'.2
  /-- A row stands in front of those that it precedes, and of those that agree with it and are
  stored behind it. -/
  ordered : ∃ found, plan.matching? rows = some found ∧ found.Pairwise fun a b =>
    SortKey.Before plan.sort a.row b.row ∨
      SortKey.Agree plan.sort a.row b.row ∧ a.position < b.position
  /-- A key for a field that has one already does nothing. -/
  repeated {front back : List SortKey} {k : SortKey} : plan.sort = front ++ k :: back →
    k.field ∈ front.map SortKey.field →
      plan.matching? rows = (plan.sortedBy (front ++ back)).matching? rows

theorem unsorted_sortedBy (plan : Plan) (rows : List Json) :
    (plan.sortedBy []).matching? rows = some (plan.kept rows) := by
  rw [matching?_sortedBy]
  exact sort?_eq_self (List.Pairwise.isChain (List.pairwise_of_forall fun _ _ => rfl))

theorem exists_matching?_sortedBy {plan : Plan} {rows : List Json} {keys : List SortKey}
    (h : SortKey.HasKinds keys fun row => row ∈ rows ∧ plan.selects row = true) :
    ∃ found, (plan.sortedBy keys).matching? rows = some found ∧ found.Perm (plan.kept rows) := by
  obtain ⟨found, hfound, -⟩ := @exists_matching?_of_orderOn (plan.sortedBy keys) rows
    (SortKey.orderOn_compareBy_of_hasKinds h)
  exact ⟨found, hfound, @matching?_perm (plan.sortedBy keys) rows found hfound⟩

theorem exists_fetch?_sortedBy {plan : Plan} {rows : List Json} {keys : List SortKey}
    (h : SortKey.HasKinds keys fun row => row ∈ rows ∧ plan.selects row = true) :
    ∃ page, (plan.sortedBy keys).fetch? rows = some page ∧ page.2 = (plan.kept rows).length := by
  obtain ⟨found, hfound, -⟩ := exists_matching?_sortedBy h
  have hanswers := answersKept (plan.sortedBy keys) rows
  obtain ⟨page, hpage⟩ := hanswers.isPaged.2 ⟨found, hfound⟩
  exact ⟨page, hpage, hanswers.total page hpage⟩

/-- **Answers are sorted lexicographically and stably.** -/
theorem sortsStably {plan : Plan} {rows : List Json}
    (h : SortKey.HasKinds plan.sort fun row => row ∈ rows ∧ plan.selects row = true) :
    plan.SortsStably rows where
  unsorted := unsorted_sortedBy plan rows
  perm hkeys := by
    obtain ⟨found, hfound, hperm⟩ := exists_matching?_sortedBy h
    obtain ⟨found', hfound', hperm'⟩ := exists_matching?_sortedBy hkeys
    exact ⟨found, found', hfound, hfound', hperm.trans hperm'.symm⟩
  total hkeys := by
    obtain ⟨page, hpage, htotal⟩ := exists_fetch?_sortedBy h
    obtain ⟨page', hpage', htotal'⟩ := exists_fetch?_sortedBy hkeys
    exact ⟨page, page', hpage, hpage', htotal.trans htotal'.symm⟩
  ordered := by
    obtain ⟨found, hfound, horder⟩ :=
      exists_matching?_of_orderOn (SortKey.orderOn_compareBy_of_hasKinds h)
    refine ⟨found, hfound, horder.imp_of_mem fun ha hb hfront => ?_⟩
    have ha := row_mem_of_mem_kept ((matching?_perm hfound).mem_iff.1 ha)
    have hb := row_mem_of_mem_kept ((matching?_perm hfound).mem_iff.1 hb)
    exact hfront.imp (SortKey.compareBy_eq_lt_iff h ha hb).1
      (And.imp_left (SortKey.compareBy_eq_eq_iff h ha hb).1)
  repeated {front back k} hsort hk := by
    have hcompare : SortKey.compareBy plan.sort = SortKey.compareBy (front ++ back) :=
      funext fun a => funext fun b => hsort ▸ SortKey.compareBy_repeated hk back a b
    rw [matching?_sortedBy, matching?, hcompare]

/-- The row without a quantity comes first in descending order, and the two that are alike stay in
the order of the store. -/
theorem sortsStably_stock :
    SortKey.HasKinds Sample.byQuantity.sort (fun row =>
        row ∈ Sample.stock ∧ Sample.byQuantity.selects row = true) ∧
      Sample.byQuantity.SortsStably Sample.stock ∧
      (Sample.byQuantity.matching? Sample.stock).map (List.map Entry.position) =
        some [1, 2, 0, 3] :=
  ⟨Sample.hasKinds_byQuantity, sortsStably Sample.hasKinds_byQuantity, by decide +kernel⟩

end Plan

end ListQuery
