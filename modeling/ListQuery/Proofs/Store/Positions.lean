import ListQuery.Proofs.Plan.Build
import ListQuery.Proofs.Store.Choices
import Mathlib.Algebra.BigOperators.Ring.List
import Mathlib.Algebra.Ring.Nat
import Mathlib.Data.List.FinRange
import Mathlib.Data.List.Perm.Basic
import Mathlib.Data.List.ProdSigma
import Mathlib.Data.Nat.Cast.Basic

/-!
# One binding for each choice of positions

An element that an array has twice can be chosen in two ways.  So the choices are of positions, one
in each of the arrays, and not of elements.

* `Row.Positions` : a choice of positions;
* `Row.BindsAt` : a binding has the elements at these positions, and nothing else;
* `Row.Enumerates` : bindings that are those of all choices, each choice being taken once;
* `Row.exists_enumerates` : the bindings of a row are such, if no collection is joined twice;
* `Row.Enumerates.perm` : and these are, up to their order, all alike;
* `Plan.enumeratesBindings` : what this says about the bindings of a plan.
-/

namespace ListQuery

namespace Row

variable {row : Json} {joins : List Relation} {filled : String → Prop} {name : String}

/-! ### Choices of positions -/

/-- A name is that of a joined collection which has an array with elements. -/
def IsFilled (row : Json) (joins : List Relation) (name : String) : Prop :=
  name ∈ joins.map Relation.name ∧ ∃ items, find? row name = some (.array items) ∧ items ≠ []

/-- A choice of one position in the array under each of some names. -/
abbrev Positions (row : Json) (filled : String → Prop) :=
  (name : {name // filled name}) → Fin (elements row name.1).length

/-- A binding has, under each of the names, the element at the position chosen there, and nothing
under any other. -/
structure BindsAt (positions : Positions row filled) (b : Binding) : Prop where
  /-- The names ascend, so that none stands there twice. -/
  isAscending : Ordered.IsAscending b
  /-- The elements that are bound. -/
  bound : ∀ name (h : filled name),
    Ordered.find? name b = some ((elements row name).get (positions ⟨name, h⟩))
  /-- Nothing else is bound. -/
  unbound : ∀ name, ¬filled name → Ordered.find? name b = none

/-- Bindings are those of the choices in a list, in the same order, and that list has every choice
once. -/
structure Enumerates (bindings : List Binding) (choices : List (Positions row filled)) : Prop where
  /-- No choice comes twice. -/
  once : choices.Nodup
  /-- All choices come. -/
  all : ∀ positions, positions ∈ choices
  /-- Each has its binding. -/
  binds : List.Forall₂ BindsAt choices bindings

theorem isFilled_iff : IsFilled row joins name ↔
    name ∈ joins.map Relation.name ∧ elements row name ≠ [] := by
  refine and_congr_right fun _ => ?_
  rw [elements]
  split
  case h_1 items hfind => simp [hfind]
  case h_2 hnone =>
    refine iff_of_false ?_ (not_not.2 rfl)
    rintro ⟨items, hfind, -⟩
    exact hnone items hfind

theorem rightUnique_bindsAt : Relator.RightUnique (@BindsAt row filled) := by
  intro positions b b' h h'
  refine Ordered.eq_of_find? h.isAscending h'.isAscending fun name => ?_
  by_cases hname : filled name
  · rw [h.bound name hname, h'.bound name hname]
  · rw [h.unbound name hname, h'.unbound name hname]

/-- **Bindings of the same choices are the same, up to their order.** -/
theorem Enumerates.perm {bs bs' : List Binding} {choices choices' : List (Positions row filled)}
    (h : Enumerates bs choices) (h' : Enumerates bs' choices') : bs.Perm bs' := by
  have hchoices : choices.Perm choices' :=
    (List.perm_ext_iff_of_nodup h.once h'.once).2 fun positions =>
      iff_of_true (h.all positions) (h'.all positions)
  obtain ⟨other, hbinds, hperm⟩ := List.perm_comp_forall₂ hchoices h'.binds
  rwa [List.right_unique_forall₂' rightUnique_bindsAt h.binds hbinds]

/-! ### One more collection -/

/-- A choice with a position in one more array. -/
def Positions.extend (positions : Positions row filled) (name : String)
    (i : Fin (elements row name).length) :
    Positions row fun other => other = name ∨ filled other :=
  fun other =>
    if h : other.1 = name then Fin.cast (by rw [h]) i
    else positions ⟨other.1, other.2.resolve_left h⟩

theorem Positions.extend_self (positions : Positions row filled)
    (i : Fin (elements row name).length) : positions.extend name i ⟨name, .inl rfl⟩ = i :=
  dif_pos rfl

theorem Positions.extend_of_ne (positions : Positions row filled)
    (i : Fin (elements row name).length) {other : String} (hne : other ≠ name)
    (h : filled other) : positions.extend name i ⟨other, .inr h⟩ = positions ⟨other, h⟩ :=
  dif_neg hne

theorem bindsAt_extend {positions : Positions row filled} {b : Binding} (h : BindsAt positions b)
    (i : Fin (elements row name).length) :
    BindsAt (positions.extend name i) (Ordered.put name ((elements row name).get i) b) where
  isAscending := Ordered.isAscending_put h.isAscending _ _
  bound other hother := by
    rw [Ordered.find?_put]
    by_cases heq : other = name
    · subst heq
      rw [if_pos rfl, Positions.extend_self]
    · have hfilled := hother.resolve_left heq
      rw [if_neg heq, positions.extend_of_ne i heq hfilled, h.bound other hfilled]
  unbound other hother := by
    rw [not_or] at hother
    rw [Ordered.find?_put, if_neg hother.1, h.unbound other hother.2]

/-- The choices with one more array are the choices without it, each with each of its positions. -/
theorem bijective_extend (hname : ¬filled name) :
    Function.Bijective fun c : Positions row filled × Fin (elements row name).length =>
      c.1.extend name c.2 := by
  have hne {other : String} (h : filled other) : other ≠ name := fun heq => hname (heq ▸ h)
  constructor
  · rintro ⟨positions, i⟩ ⟨positions', i'⟩ heq
    have heq : positions.extend name i = positions'.extend name i' := heq
    have hi := congrFun heq ⟨name, .inl rfl⟩
    rw [Positions.extend_self, Positions.extend_self] at hi
    refine Prod.ext (funext fun other => ?_) hi
    have hother := congrFun heq ⟨other.1, .inr other.2⟩
    rwa [positions.extend_of_ne i (hne other.2), positions'.extend_of_ne i' (hne other.2)] at hother
  · intro positions
    refine ⟨⟨fun other => positions ⟨other.1, .inr other.2⟩, positions ⟨name, .inl rfl⟩⟩, ?_⟩
    funext ⟨other, hother⟩
    by_cases heq : other = name
    · subst heq
      exact Positions.extend_self _ _
    · exact Positions.extend_of_ne _ _ heq (hother.resolve_left heq)

/-- **A further collection with elements multiplies the choices.** -/
theorem Enumerates.extend {bs : List Binding} {choices : List (Positions row filled)}
    (h : Enumerates bs choices) (hname : ¬filled name) :
    Enumerates (bs.flatMap fun b => (elements row name).map fun e => Ordered.put name e b)
      ((choices.product (List.finRange _)).map fun c => c.1.extend name c.2) where
  once := (h.once.product (List.nodup_finRange _)).map (bijective_extend hname).1
  all positions := by
    obtain ⟨c, rfl⟩ := (bijective_extend hname).2 positions
    exact List.mem_map_of_mem (List.mem_product.2 ⟨h.all c.1, List.mem_finRange c.2⟩)
  binds := by
    have hchoices : ((choices.product (List.finRange _)).map fun c => c.1.extend name c.2) =
        choices.flatMap fun positions => (List.finRange _).map (positions.extend name) := by
      rw [List.product, List.map_flatMap]
      refine List.flatMap_congr fun positions _ => ?_
      rw [List.map_map]
      rfl
    have helements (b : Binding) :
        (elements row name).map (fun e => Ordered.put name e b) =
          (List.finRange _).map fun i => Ordered.put name ((elements row name).get i) b := by
      conv_lhs => rw [← List.map_get_finRange (elements row name), List.map_map]
      rfl
    rw [hchoices]
    refine List.rel_flatMap h.binds fun positions b hb => ?_
    rw [helements, List.forall₂_map_left_iff, List.forall₂_map_right_iff, List.forall₂_same]
    exact fun i _ => bindsAt_extend hb i

/-- The bindings of a row are those of the choices of positions. -/
theorem exists_enumerates (row : Json) {joins : List Relation}
    (h : (joins.map Relation.name).Nodup) : ∃ choices : List (Positions row (IsFilled row joins)),
      Enumerates (bindings row joins) choices := by
  induction joins using List.reverseRecOn with
  | nil =>
    have hnone (name : String) : ¬IsFilled row [] name := fun hname => List.not_mem_nil hname.1
    refine ⟨[fun name => absurd name.2 (hnone name.1)], List.nodup_singleton _, fun positions => ?_,
      .cons ⟨List.Pairwise.nil, fun name hname => absurd hname (hnone name), fun _ _ => rfl⟩ .nil⟩
    exact List.mem_singleton.2 (funext fun name => absurd name.2 (hnone name.1))
  | append_singleton joins r ih =>
    rw [List.map_append, List.nodup_append] at h
    obtain ⟨hnodup, -, hfresh⟩ := h
    obtain ⟨choices, hchoices⟩ := ih hnodup
    rw [bindings_concat, choose]
    by_cases hitems : elements row r.name = []
    · have hfilled : IsFilled row (joins ++ [r]) = IsFilled row joins := by
        funext name
        refine propext ?_
        rw [isFilled_iff, isFilled_iff, List.map_append, List.mem_append]
        refine and_congr_left fun hne => or_iff_left fun hmem => hne ?_
        rw [List.mem_singleton.1 hmem, hitems]
      rw [hfilled, hitems]
      exact ⟨choices, hchoices⟩
    · have hfilled : IsFilled row (joins ++ [r]) =
          fun name => name = r.name ∨ IsFilled row joins name := by
        funext name
        refine propext ?_
        rw [isFilled_iff, isFilled_iff, List.map_append, List.mem_append, or_comm, or_and_right]
        refine or_congr_left ⟨fun hmem => List.mem_singleton.1 hmem.1, ?_⟩
        rintro rfl
        exact ⟨List.mem_singleton.2 rfl, hitems⟩
      have hname : ¬IsFilled row joins r.name := fun hname =>
        hfresh r.name hname.1 r.name (List.mem_singleton.2 rfl) rfl
      rw [hfilled, if_neg (by simpa using hitems)]
      exact ⟨_, hchoices.extend hname⟩

/-- The number of bindings is the product of the numbers of elements. -/
theorem length_bindings (row : Json) (joins : List Relation) : (bindings row joins).length =
    ((joins.map fun r => (elements row r.name).length).filter (· ≠ 0)).prod := by
  induction joins using List.reverseRecOn with
  | nil => rfl
  | append_singleton joins r ih =>
    rw [bindings_concat, choose, List.map_append, List.filter_append, List.prod_append, ← ih]
    cases hitems : elements row r.name with
    | nil => simp [hitems]
    | cons item items => simp [hitems]

end Row

namespace Plan

/-- The bindings of a row for a plan are the product of its arrays. -/
structure EnumeratesBindings (plan : Plan) (row : Json) : Prop where
  /-- Each choice of positions, in the arrays with elements, has one place among the bindings, and
  there are its elements. -/
  choices : ∃ choices : List (Row.Positions row (Row.IsFilled row plan.joins)),
    Row.Enumerates (Row.bindings row plan.joins) choices
  /-- So many there are. -/
  length : (Row.bindings row plan.joins).length =
    ((plan.joins.map fun r => (Row.elements row r.name).length).filter (· ≠ 0)).prod
  /-- There always is one. -/
  ne_nil : Row.bindings row plan.joins ≠ []
  /-- They do not depend on the order of the joins. -/
  perm : ∀ joins, joins.Perm plan.joins →
    (Row.bindings row joins).Perm (Row.bindings row plan.joins)

/-- **The bindings of a row are those of all choices of positions**, if no collection is joined
twice. -/
theorem enumeratesBindings (plan : Plan) (h : (plan.joins.map Relation.name).Nodup) (row : Json) :
    plan.EnumeratesBindings row where
  choices := Row.exists_enumerates row h
  length := Row.length_bindings row plan.joins
  ne_nil := by
    rw [← List.length_pos_iff, Row.length_bindings]
    refine Nat.pos_of_ne_zero (List.prod_ne_zero fun hzero => ?_)
    exact of_decide_eq_true (List.mem_filter.1 hzero).2 rfl
  perm joins hperm := by
    have hfilled : Row.IsFilled row joins = Row.IsFilled row plan.joins := by
      funext name
      rw [Row.IsFilled, Row.IsFilled, (hperm.map Relation.name).mem_iff]
    have hexists := Row.exists_enumerates row ((hperm.map Relation.name).nodup_iff.2 h)
    rw [hfilled] at hexists
    obtain ⟨choices, hchoices⟩ := Row.exists_enumerates row h
    obtain ⟨choices', hchoices'⟩ := hexists
    exact hchoices'.perm hchoices

end Plan

namespace Sample

/-- A row with two categories, with one tag twice, and without labels. -/
def saleTwice : Json :=
  .object [("categories", .array [.string "Tools", .string "Garden"]),
    ("tags", .array [.string "sale", .string "sale"])]

/-- A plan that joins all of these. -/
def labelledPlan : Plan :=
  { invoicePlan with joins := [categories, { tags with name := "labels" }, tags] }

end Sample

namespace Plan

/-- Two categories and two tags make four bindings, although the tags are the same. -/
theorem enumeratesBindings_saleTwice :
    (Sample.labelledPlan.joins.map Relation.name).Nodup ∧
      Sample.labelledPlan.EnumeratesBindings Sample.saleTwice ∧
      Row.bindings Sample.saleTwice Sample.labelledPlan.joins =
        [[("categories", .string "Tools"), ("tags", .string "sale")],
          [("categories", .string "Tools"), ("tags", .string "sale")],
          [("categories", .string "Garden"), ("tags", .string "sale")],
          [("categories", .string "Garden"), ("tags", .string "sale")]] := by
  have hnodup : (Sample.labelledPlan.joins.map Relation.name).Nodup := by decide
  exact ⟨hnodup, enumeratesBindings Sample.labelledPlan hnodup Sample.saleTwice, rfl⟩

end Plan

end ListQuery
