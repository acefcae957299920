import ListQuery.Predicate.Edit
import ListQuery.Proofs.Plan.Joins

/-!
# Calls that are all or nothing

A call checks, resolves and casts before it enters anything.  So a builder that is changed in place
is changed as by a step of a request, or not at all.

* `Builder.Edit.apply_ofExcept_bind` : what is found out in front of all changes can fail without
  any;
* `Builder.apply_registerJoins` : collections are entered from left to right;
* `Builder.Call.run_eq_settle` : a call is a step of a request, or leaves the builder as it is.
-/

namespace ListQuery

variable {m : Metadata}

/-! ### Edits -/

namespace Builder

variable {b : Builder}

/-- What comes of an attempt to change all or nothing of a builder. -/
def settle (b : Builder) : Except QueryError Builder → Except QueryError Unit × Builder
  | .ok b' => (.ok (), b')
  | .error e => (.error e, b)

namespace Edit

variable {α β : Type}

theorem apply_bind (x : Edit α) (f : α → Edit β) (b : Builder) :
    (x >>= f).apply b =
      match x.apply b with
      | (.ok a, b') => (f a).apply b'
      | (.error e, b') => (.error e, b') := by
  have h : (x >>= f).apply b =
      Id.run (StateT.run (ExceptT.bindCont f (x.apply b).1) (x.apply b).2) := rfl
  rw [h]
  rcases x.apply b with ⟨e | a, b'⟩ <;> rfl

theorem apply_modify (f : Builder → Builder) (b : Builder) :
    (modify f : Edit Unit).apply b = (.ok (), f b) :=
  rfl

theorem apply_ofExcept (x : Except QueryError α) (b : Builder) :
    (ofExcept x : Edit α).apply b = (x, b) := by
  cases x <;> rfl

/-- If all is found out before anything is changed, all is changed or nothing. -/
theorem apply_ofExcept_bind (x : Except QueryError α) {f : α → Edit Unit}
    {g : α → Except QueryError Builder} (h : ∀ a, (f a).apply b = b.settle (g a)) :
    (ofExcept x >>= f).apply b = b.settle (x >>= g) := by
  rw [apply_bind, apply_ofExcept]
  cases x with
  | error e => rfl
  | ok a => exact h a

end Edit

theorem apply_registerField (field : Field) (b : Builder) :
    (registerField field).apply b =
      (.ok (), { b with joins := register b.joins field.collection.toList }) := by
  rw [registerField, Edit.apply_modify]
  cases field.collection with
  | none => rfl
  | some name =>
    simp only [register, Option.toList_some, List.foldl_cons, List.foldl_nil]
    split <;> rfl

mutual

/-- The collections of a predicate are entered from left to right. -/
theorem apply_registerJoins (p : Predicate) (b : Builder) :
    (registerJoins p).apply b = (.ok (), { b with joins := register b.joins p.collections }) := by
  match p with
  | .equals field _ _ | .compare field _ _ | .containsText field _ | .anyOf field _ =>
    have hfield : [field].filterMap Field.collection = field.collection.toList := by
      cases h : field.collection <;> simp [h]
    rw [registerJoins, apply_registerField, Predicate.collections, Predicate.fields, hfield]
  | .all children | .any children =>
    rw [registerJoins, apply_registerAll children b, Predicate.collections, Predicate.fields,
      Predicate.fieldsOf_eq_flatMap, Predicate.flatMap_collections]

theorem apply_registerAll (ps : List Predicate) (b : Builder) :
    (registerAll ps).apply b =
      (.ok (), { b with joins := register b.joins (ps.flatMap Predicate.collections) }) := by
  match ps with
  | [] => rfl
  | p :: ps =>
    rw [registerAll, Edit.apply_bind, apply_registerJoins p b]
    dsimp only
    rw [apply_registerAll ps, List.flatMap_cons, register_append]

end

/-! ### Calls -/

theorem apply_editFilter (c : Clause) :
    (Call.editFilter m c).apply b = b.settle (addFilter m b c) := by
  simp only [Call.editFilter, addFilter]
  split
  case isFalse => rfl
  case isTrue =>
    refine Edit.apply_ofExcept_bind _ fun field => Edit.apply_ofExcept_bind _ fun p => ?_
    rw [Edit.apply_bind, apply_registerJoins]
    rfl

theorem apply_editSearch (term : String) :
    (Call.editSearch m term).apply b = b.settle (addSearch m b term) := by
  rw [Call.editSearch, addSearch]
  cases Text.nonBlank? term with
  | none => rfl
  | some needle =>
    refine Edit.apply_ofExcept_bind _ fun ps => ?_
    cases Predicate.any? ps with
    | none => rfl
    | some group =>
      dsimp only
      rw [Edit.apply_bind, apply_registerJoins]
      rfl

namespace Call

/-- The step of a request that a call stands for. -/
def step (m : Metadata) (b : Builder) : Call → Except QueryError Builder
  | filterRaw raw => addRaw m b raw
  | filter c => addFilter m b c
  | search term => addSearch m b term

/-- **A call is a step of a request, or leaves the builder as it is.** -/
theorem run_eq_settle (m : Metadata) (b : Builder) (call : Call) :
    call.run m b = b.settle (call.step m b) := by
  cases call with
  | filterRaw raw => exact Edit.apply_ofExcept_bind _ fun _ => apply_editFilter _
  | filter c => exact apply_editFilter c
  | search term => exact apply_editSearch term

end Call

end Builder

end ListQuery
