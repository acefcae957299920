import ListQuery.Predicate.Builder

/-!
# Builders that are changed in place

One builder takes all the filters and searches of a request, call by call.  What a call has done to
the builder stays done, even if the call fails then.

* `Builder.Edit` : a computation that changes a builder as it goes.
* `Builder.registerJoins` : enters the collections of a predicate, node by node.
* `Builder.Call` : a call, and what it does.
* `Builder.after` : the builder after some calls.
-/

namespace ListQuery

namespace Builder

/-- A computation that changes a builder as it goes.  A failure ends it, and undoes nothing. -/
abbrev Edit (α : Type) := ExceptT QueryError (StateM Builder) α

/-- What comes of an edit of `b`, and what becomes of `b`. -/
def Edit.apply {α : Type} (x : Edit α) (b : Builder) : Except QueryError α × Builder :=
  Id.run (StateT.run (ExceptT.run x) b)

/-- Enters the collection of a field among the joins, unless it has none or it is there. -/
def registerField (field : Field) : Edit Unit :=
  modify fun b =>
    match field.collection with
    | none => b
    | some name => if b.joins.contains name then b else { b with joins := b.joins ++ [name] }

mutual

/-- Enters the collections that a predicate looks at among the joins. -/
def registerJoins : Predicate → Edit Unit
  | .equals field _ _ => registerField field
  | .compare field _ _ => registerField field
  | .containsText field _ => registerField field
  | .anyOf field _ => registerField field
  | .all children => registerAll children
  | .any children => registerAll children

/-- Enters the collections that predicates look at, one predicate after the other. -/
def registerAll : List Predicate → Edit Unit
  | [] => return ()
  | p :: ps => do
    registerJoins p
    registerAll ps

end

/-- A call on a builder. -/
inductive Call where
  /-- Adds a raw filter. -/
  | filterRaw (raw : String)
  /-- Adds a clause. -/
  | filter (c : Clause)
  /-- Adds a search. -/
  | search (term : String)
deriving DecidableEq, Repr

namespace Call

/-- Adds a clause in place: it is checked, resolved and lowered before anything is entered. -/
def editFilter (m : Metadata) (c : Clause) : Edit Unit := do
  let path := m.resolveAlias c.field
  unless m.filterFields.contains path do throw (.disallowedField c.field)
  let field ← ofExcept (m.resolve path)
  let p ← ofExcept (c.lower field)
  registerJoins p
  modify fun b => { b with filters := b.filters ++ [p] }

/-- Adds a search in place: all fields are resolved before anything is entered. -/
def editSearch (m : Metadata) (term : String) : Edit Unit :=
  match Text.nonBlank? term with
  | none => return ()
  | some needle => do
    let ps ← ofExcept (searchMatches m needle)
    match Predicate.any? ps with
    | none => return ()
    | some group => do
      registerJoins group
      modify fun b => { b with search := some group }

/-- What a call does. -/
def edit (m : Metadata) : Call → Edit Unit
  | filterRaw raw => do
    let c ← ofExcept (Clause.parse raw)
    editFilter m c
  | filter c => editFilter m c
  | search term => editSearch m term

/-- What comes of a call on `b`, and what becomes of `b`. -/
def run (m : Metadata) (b : Builder) (call : Call) : Except QueryError Unit × Builder :=
  (call.edit m).apply b

end Call

/-- The builder after some calls, whatever came of each. -/
def after (m : Metadata) (calls : List Call) : Builder :=
  calls.foldl (fun b call => (call.run m b).2) {}

end Builder

end ListQuery
