import ListQuery.Filter.Clause
import ListQuery.Metadata.Path

/-!
# Sort lists

* `Direction` : ascending or descending.
* `SortKey` : a field to sort by, with its direction.
* `Metadata.resolveSort` : the keys of a sort list such as `price:asc,name`.
-/

namespace ListQuery

/-- The direction of a sort. -/
inductive Direction where
  | ascending
  | descending
deriving DecidableEq, Repr

namespace Direction

/-- The direction that a token names; all but `asc` is descending. -/
def ofToken (token : String) : Direction :=
  if Text.lowerAscii (Text.trim token) = "asc" then ascending else descending

/-- The short name of a direction. -/
def name : Direction → String
  | ascending => "asc"
  | descending => "desc"

end Direction

/-- A field to sort by. -/
structure SortKey where
  /-- The field. -/
  field : Field
  /-- The direction. -/
  direction : Direction
deriving DecidableEq, Repr

namespace SortKey

/-- The field and direction that a segment of a sort list names; without a colon the direction is
descending. -/
def split (segment : String) : String × Direction :=
  match Text.cut? ':' segment.toList with
  | some (name, direction) =>
    (Text.trim (String.ofList name), Direction.ofToken (String.ofList direction))
  | none => (segment, .descending)

end SortKey

namespace Metadata

/-- The key of a segment, if it names a field of the base table to sort by. -/
def sortKey? (m : Metadata) (segment : String) : Option SortKey :=
  let (name, direction) := SortKey.split segment
  let path := m.resolveAlias name
  if m.sortFields.contains path then
    match m.resolve path with
    | .ok field => if field.collection.isNone then some ⟨field, direction⟩ else none
    | .error _ => none
  else none

/-- The keys of a sort list, in order.  Segments that name no such field are left out. -/
def resolveSort (m : Metadata) (list : String) : List SortKey :=
  (Clause.pieces list).filterMap m.sortKey?

end Metadata

end ListQuery
