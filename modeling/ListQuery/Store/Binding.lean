import ListQuery.Metadata.Basic
import ListQuery.Store.Row

/-!
# Bindings of collection elements

A row meets a condition if it does so with some choice of one element from each joined collection.

* `Binding` : such a choice.
* `Row.bindings` : all choices that a row allows.
* `Predicate.holds` : whether a condition holds under a choice.
-/

namespace ListQuery

/-- An element for each of some collections, in the order of their names.  A collection without
elements has none. -/
abbrev Binding := List (String × Json)

namespace Row

/-- The elements of a collection of a row; no element if there is no array. -/
def elements (row : Json) (name : String) : List Json :=
  match find? row name with
  | some (.array items) => items
  | _ => []

/-- The bindings that arise from `bindings` by a choice among `elements` for the collection
`name`. -/
def choose (name : String) (elements : List Json) (bindings : List Binding) : List Binding :=
  if elements.isEmpty then bindings
  else bindings.flatMap fun b => elements.map fun e => Ordered.put name e b

/-- The choices of one element from each of the joined collections. -/
def bindings (row : Json) (joins : List Relation) : List Binding :=
  joins.foldl (fun bs r => choose r.name (elements row r.name) bs) [[]]

/-- The value of a field, in the row or in the element of its collection. -/
def value? (row : Json) (binding : Binding) (field : Field) : Option Json :=
  match field.collection with
  | none => base? row field
  | some name => (Ordered.find? name binding).bind fun e => element? e field

/-- How the value of a field stands to the value of a filter. -/
def compareField? (row : Json) (binding : Binding) (field : Field) (v : Value) : Option Ordering :=
  (value? row binding field).bind (compareTo? · v)

end Row

namespace Predicate

mutual

/-- The condition holds of a row with the elements of a binding. -/
def holds (row : Json) (binding : Binding) : Predicate → Bool
  | equals field v negated =>
    (Row.compareField? row binding field v).any fun o => (o == .eq) != negated
  | compare field c v => (Row.compareField? row binding field v).any c.accepts
  | containsText field needle => (Row.value? row binding field).any (Row.containsText · needle)
  | anyOf field vs => vs.any fun v => Row.compareField? row binding field v == some .eq
  | all children => allHold row binding children
  | any children => anyHolds row binding children

/-- All of the conditions hold. -/
def allHold (row : Json) (binding : Binding) : List Predicate → Bool
  | [] => true
  | p :: ps => p.holds row binding && allHold row binding ps

/-- One of the conditions holds. -/
def anyHolds (row : Json) (binding : Binding) : List Predicate → Bool
  | [] => false
  | p :: ps => p.holds row binding || anyHolds row binding ps

end

end Predicate

end ListQuery
