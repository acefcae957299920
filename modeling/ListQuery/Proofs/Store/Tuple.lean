import ListQuery.Proofs.Ordered
import ListQuery.Proofs.Sql.Truth
import ListQuery.Store.Binding
import Mathlib.Data.List.Induction
import Mathlib.Data.List.Nodup

/-!
# Rows joined with their elements

A database joins a row with the elements of one collection after the other, and a row for which a
collection has no elements stays, with nothing from that collection.  What is missing is compared
with nothing: the condition is unknown then.

* `Tuple` : a row with what it is joined with;
* `Tuple.joined` : all tuples of a row;
* `Tuple.truth` : the truth of a predicate in a tuple;
* `Row.bindings_eq_map_binding` : the choices of elements are the tuples;
* `Tuple.isYes_truth` : a predicate is true in a tuple just if it holds with that choice.
-/

namespace ListQuery

/-- A row joined with an element from each of some collections. -/
structure Tuple where
  /-- The row. -/
  base : Json
  /-- The elements under the names of their collections, `none` where there was nothing to join. -/
  elements : List (String × Option Json)

namespace Tuple

/-- What a row is joined with from a collection: each of its elements, or nothing, once. -/
def partners (row : Json) (name : String) : List (Option Json) :=
  match Row.elements row name with
  | [] => [none]
  | elements => elements.map some

/-- The tuple with one more element. -/
def extend (t : Tuple) (name : String) (element : Option Json) : Tuple :=
  { t with elements := t.elements ++ [(name, element)] }

/-- Tuples joined with one more collection. -/
def leftJoin (tuples : List Tuple) (name : String) : List Tuple :=
  tuples.flatMap fun t => (partners t.base name).map (t.extend name)

/-- A row joined with its collections, one after the other. -/
def joined (row : Json) (joins : List Relation) : List Tuple :=
  joins.foldl (fun tuples r => leftJoin tuples r.name) [⟨row, []⟩]

/-- The value of a field in a tuple. -/
def value? (t : Tuple) (field : Field) : Option Json :=
  match field.collection with
  | none => Row.base? t.base field
  | some name => (t.elements.lookup name).join.bind fun e => Row.element? e field

/-- How the value of a field stands to the value of a filter. -/
def compareField? (t : Tuple) (field : Field) (v : Value) : Option Ordering :=
  (t.value? field).bind (Row.compareTo? · v)

mutual

/-- The truth of a predicate in a tuple. -/
def truth (t : Tuple) : Predicate → Sql.Truth
  | .equals field v negated =>
    .ofOrdering (fun o => (o == .eq) != negated) (t.compareField? field v)
  | .compare field c v => .ofOrdering c.accepts (t.compareField? field v)
  | .containsText field needle =>
    (t.value? field).elim .unknown fun v => .ofBool (Row.containsText v needle)
  | .anyOf field vs => .any (vs.map fun v => .ofOrdering (· == .eq) (t.compareField? field v))
  | .all children => .all (truths t children)
  | .any children => .any (truths t children)

/-- The truths of predicates in a tuple. -/
def truths (t : Tuple) : List Predicate → List Sql.Truth
  | [] => []
  | p :: ps => truth t p :: truths t ps

end

/-! ### Joins -/

theorem mem_leftJoin {tuples : List Tuple} {name : String} {t : Tuple} :
    t ∈ leftJoin tuples name ↔ ∃ s ∈ tuples, ∃ e ∈ partners s.base name, s.extend name e = t := by
  simp only [leftJoin, List.mem_flatMap, List.mem_map]

theorem some_mem_partners_iff {row : Json} {name : String} {e : Json} :
    some e ∈ partners row name ↔ e ∈ Row.elements row name := by
  rw [partners]
  cases Row.elements row name <;> simp

theorem partners_ne_nil (row : Json) (name : String) : partners row name ≠ [] := by
  rw [partners]
  cases Row.elements row name <;> simp

theorem joined_concat (row : Json) (joins : List Relation) (r : Relation) :
    joined row (joins ++ [r]) = leftJoin (joined row joins) r.name := by
  rw [joined, List.foldl_append]
  rfl

theorem shape_of_mem_joined {row : Json} {joins : List Relation} {t : Tuple}
    (h : t ∈ joined row joins) :
    t.base = row ∧ t.elements.map Prod.fst = joins.map Relation.name := by
  induction joins using List.reverseRecOn generalizing t with
  | nil =>
    rw [joined, List.foldl_nil, List.mem_singleton] at h
    rw [h]
    exact ⟨rfl, rfl⟩
  | append_singleton joins r ih =>
    rw [joined_concat, mem_leftJoin] at h
    obtain ⟨s, hs, e, -, rfl⟩ := h
    obtain ⟨hbase, hnames⟩ := ih hs
    exact ⟨hbase, by rw [extend, List.map_append, List.map_append, hnames]; rfl⟩

/-! ### Choices of elements -/

/-- The elements of a tuple, without what is missing. -/
def binding (t : Tuple) : Binding :=
  t.elements.foldl (fun b p => p.2.elim b fun e => Ordered.put p.1 e b) []

theorem binding_extend_none (t : Tuple) (name : String) :
    (t.extend name none).binding = t.binding := by
  rw [binding, extend, List.foldl_append]
  rfl

theorem binding_extend_some (t : Tuple) (name : String) (e : Json) :
    (t.extend name (some e)).binding = Ordered.put name e t.binding := by
  rw [binding, extend, List.foldl_append]
  rfl

/-- A further join makes further choices, and none if there is nothing to choose from. -/
theorem map_binding_leftJoin {row : Json} {name : String} {tuples : List Tuple}
    (h : ∀ t ∈ tuples, t.base = row) :
    (leftJoin tuples name).map binding =
      Row.choose name (Row.elements row name) (tuples.map binding) := by
  -- All tuples are of one row, and so are joined with the same partners.
  have hjoin : (leftJoin tuples name).map binding =
      tuples.flatMap fun t => (partners row name).map fun e => (t.extend name e).binding := by
    rw [leftJoin, List.map_flatMap]
    refine List.flatMap_congr fun t ht => ?_
    rw [h t ht, List.map_map]
    rfl
  rw [hjoin, Row.choose, partners]
  cases hitems : Row.elements row name with
  | nil => simp [binding_extend_none, List.map_eq_flatMap]
  | cons item items =>
    simp [binding_extend_some, List.flatMap_map, Function.comp_def]

end Tuple

/-- **The choices of elements for a row are its tuples**, in the same order. -/
theorem Row.bindings_eq_map_binding (row : Json) (joins : List Relation) :
    bindings row joins = (Tuple.joined row joins).map Tuple.binding := by
  induction joins using List.reverseRecOn with
  | nil => rfl
  | append_singleton joins r ih =>
    have hbase : ∀ t ∈ Tuple.joined row joins, t.base = row :=
      fun t ht => (Tuple.shape_of_mem_joined ht).1
    rw [Tuple.joined_concat, Tuple.map_binding_leftJoin hbase, ← ih, bindings, List.foldl_append]
    rfl

namespace Tuple

/-- What stands under a name in the choice is what the tuple has there, if no collection is joined
twice. -/
theorem find?_binding {t : Tuple} (h : (t.elements.map Prod.fst).Nodup) (name : String) :
    Ordered.find? name t.binding = (t.elements.lookup name).join := by
  obtain ⟨base, elements⟩ := t
  -- The last element was put last, under a name that none in front of it has.
  induction elements using List.reverseRecOn with
  | nil => rfl
  | append_singleton elements p ih =>
    obtain ⟨other, e⟩ := p
    rw [List.map_append, List.nodup_append] at h
    obtain ⟨hnodup, -, hfresh⟩ := h
    have hextend : Tuple.mk base (elements ++ [(other, e)]) =
        (Tuple.mk base elements).extend other e := rfl
    have hlast : [(other, e)].lookup name = if name = other then some e else none :=
      Ordered.find?_cons name (other, e) []
    rw [List.lookup_append, hlast, hextend]
    cases e with
    | none =>
      rw [binding_extend_none, ih hnodup]
      cases elements.lookup name with
      | none => by_cases h : name = other <;> simp [h]
      | some e => rfl
    | some e =>
      rw [binding_extend_some, Ordered.find?_put, ih hnodup]
      by_cases h : name = other
      · have hnone : elements.lookup name = none := by
          refine List.lookup_eq_none_iff.2 fun p hp => ?_
          rw [bne_iff_ne, h]
          exact (hfresh p.1 (List.mem_map_of_mem hp) other (List.mem_singleton.2 rfl)).symm
        simp [h, h ▸ hnone]
      · simp [h]

theorem value?_binding {t : Tuple} (h : (t.elements.map Prod.fst).Nodup) (field : Field) :
    Row.value? t.base t.binding field = t.value? field := by
  rw [Row.value?, value?]
  cases field.collection with
  | none => rfl
  | some name => exact congrArg (Option.bind · _) (find?_binding h name)

theorem compareField?_binding {t : Tuple} (h : (t.elements.map Prod.fst).Nodup) (field : Field)
    (v : Value) : Row.compareField? t.base t.binding field v = t.compareField? field v := by
  rw [Row.compareField?, compareField?, value?_binding h]

/-! ### Truth -/

mutual

/-- **A predicate is true in a tuple just if it holds with the elements of the tuple**: where it is
unknown, it does not hold. -/
theorem isYes_truth {t : Tuple} (h : (t.elements.map Prod.fst).Nodup) (p : Predicate) :
    (t.truth p).isYes = p.holds t.base t.binding := by
  match p with
  | .equals field v negated =>
    rw [truth, Predicate.holds, Sql.Truth.isYes_ofOrdering, compareField?_binding h]
  | .compare field c v =>
    rw [truth, Predicate.holds, Sql.Truth.isYes_ofOrdering, compareField?_binding h]
  | .containsText field needle =>
    rw [truth, Predicate.holds, value?_binding h]
    cases t.value? field with
    | none => rfl
    | some v => rw [Option.elim_some, Sql.Truth.isYes_ofBool, Option.any_some]
  | .anyOf field vs =>
    rw [truth, Predicate.holds, Sql.Truth.isYes_any, List.any_map]
    refine congrArg (List.any vs) (funext fun v => ?_)
    rw [Function.comp_apply, Sql.Truth.isYes_ofOrdering, compareField?_binding h]
    cases t.compareField? field v <;> rfl
  | .all children =>
    rw [truth, Predicate.holds, Sql.Truth.isYes_all, all_isYes_truths h children]
  | .any children =>
    rw [truth, Predicate.holds, Sql.Truth.isYes_any, any_isYes_truths h children]

theorem all_isYes_truths {t : Tuple} (h : (t.elements.map Prod.fst).Nodup)
    (ps : List Predicate) :
    (t.truths ps).all Sql.Truth.isYes = Predicate.allHold t.base t.binding ps := by
  match ps with
  | [] => rfl
  | p :: ps =>
    rw [truths, Predicate.allHold, List.all_cons, isYes_truth h p, all_isYes_truths h ps]

theorem any_isYes_truths {t : Tuple} (h : (t.elements.map Prod.fst).Nodup)
    (ps : List Predicate) :
    (t.truths ps).any Sql.Truth.isYes = Predicate.anyHolds t.base t.binding ps := by
  match ps with
  | [] => rfl
  | p :: ps =>
    rw [truths, Predicate.anyHolds, List.any_cons, isYes_truth h p, any_isYes_truths h ps]

end

end Tuple

end ListQuery
