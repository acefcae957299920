import ListQuery.Filter.Clause
import ListQuery.Filter.Value
import ListQuery.Metadata.Path
import ListQuery.Predicate.Basic

/-!
# Predicates of requests

* `Clause.lower` : the predicate of a clause on a resolved field.
* `Builder` : the predicates of a request while its filters and its search are added.
* `Builder.addFilter`, `Builder.addRaw`, `Builder.addSearch` : the steps; one that fails changes
  nothing.
* `Builder.predicate?` : all that was added, as one condition.
-/

namespace ListQuery

namespace Clause

/-- The value of a clause on the field `field`. -/
def castValue (c : Clause) (field : Field) : Except QueryError Value :=
  Value.cast c.field field.type c.rawValue

/-- The error that the operation of a clause does not go with the type of the field. -/
def unsupported (c : Clause) (field : Field) : QueryError :=
  .unsupportedOperation c.field c.operation field.type

/-- The predicate that the value of the field is the one of the clause, or, if `negated`,
another. -/
def lowerEquals (c : Clause) (field : Field) (negated : Bool) : Except QueryError Predicate :=
  (c.castValue field).map fun v => .equals field v negated

/-- The predicate that the text of the field contains the value of the clause. -/
def lowerMatches (c : Clause) (field : Field) : Except QueryError Predicate :=
  if field.type = .text then .ok (.containsText field c.rawValue) else .error (c.unsupported field)

/-- The predicate of a clause on the field `field`.  In a collection `contains` asks for an element
that is equal. -/
def lower (c : Clause) (field : Field) : Except QueryError Predicate :=
  match c.operation with
  | .compare comparison =>
    if field.type.isOrderable then
      (c.castValue field).map fun v => .compare field comparison v
    else .error (c.unsupported field)
  | .equals => c.lowerEquals field false
  | .notEquals => c.lowerEquals field true
  | .contains => if field.collection.isSome then c.lowerEquals field false else c.lowerMatches field
  | .like => c.lowerMatches field
  | .oneOf =>
    if c.listValues.isEmpty then .error (.invalidValue c.field c.rawValue .emptyList)
    else (c.listValues.mapM (Value.cast c.field field.type)).map fun vs => .anyOf field vs

end Clause

/-- The predicates of a request while it is read. -/
structure Builder where
  /-- The predicates of the filters, in the order of the request. -/
  filters : List Predicate := []
  /-- The predicate of the search. -/
  search : Option Predicate := none
  /-- The collections in use, in the order of their first use. -/
  joins : List String := []
deriving Repr

namespace Builder

/-- The collections `joins` with those of `names` that are new. -/
def register (joins names : List String) : List String :=
  names.foldl (fun joins name => if joins.contains name then joins else joins ++ [name]) joins

/-- Adds a clause to the filters. -/
def addFilter (m : Metadata) (b : Builder) (c : Clause) : Except QueryError Builder := do
  let path := m.resolveAlias c.field
  if m.filterFields.contains path then
    let field ← m.resolve path
    let p ← c.lower field
    return { b with filters := b.filters ++ [p], joins := register b.joins p.collections }
  else throw (.disallowedField c.field)

/-- Adds a raw filter to the filters. -/
def addRaw (m : Metadata) (b : Builder) (raw : String) : Except QueryError Builder := do
  addFilter m b (← Clause.parse raw)

/-- The predicates of a search for `needle`, one for each field that is searched. -/
def searchMatches (m : Metadata) (needle : String) : Except QueryError (List Predicate) :=
  m.searchFields.mapM fun path => (m.resolve path).map fun field => .containsText field needle

/-- Adds a search, in place of an earlier one.  A blank text is no search, and without fields to
search there is none. -/
def addSearch (m : Metadata) (b : Builder) (term : String) : Except QueryError Builder :=
  match Text.nonBlank? term with
  | none => .ok b
  | some needle => do
    match Predicate.any? (← searchMatches m needle) with
    | none => return b
    | some p => return { b with search := some p, joins := register b.joins p.collections }

/-- All that was added: the filters, then the search. -/
def predicate? (b : Builder) : Option Predicate :=
  Predicate.all? (b.filters ++ b.search.toList)

/-- A row may meet the predicate with several elements, so that rows must be counted once. -/
def isDistinct (b : Builder) : Bool :=
  !b.joins.isEmpty

end Builder

end ListQuery
