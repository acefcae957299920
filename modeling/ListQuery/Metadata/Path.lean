import ListQuery.Metadata.Basic

/-!
# Paths and columns

A path goes through a collection if the name of the collection is the whole path, or is followed in
it by a dot.  The longest such name counts.

* `Metadata.relationFor?` : the collection that a path goes through.
* `Metadata.resolve` : the field that a path denotes.
-/

namespace ListQuery

namespace Metadata

/-- What follows the name of the collection in a path that goes through it. -/
def remainder? (name path : String) : Option (List Char) :=
  match Text.dropFront? name.toList path.toList with
  | some [] => some []
  | some ('.' :: rest) => some ('.' :: rest)
  | _ => none

/-- The one of two relations with the longer name, the second if they are equally long. -/
def longerName (best : Option Relation) (r : Relation) : Option Relation :=
  match best with
  | none => some r
  | some b => if r.name.utf8ByteSize < b.name.utf8ByteSize then some b else some r

/-- The collection that a path goes through: of those possible, the last with the longest name. -/
def relationFor? (m : Metadata) (path : String) : Option Relation :=
  (m.collections.filter fun r => (remainder? r.name path).isSome).foldl longerName none

/-- The column of a path without a collection: its own name, with `_` for the dots. -/
def baseColumn (path : String) : String :=
  String.ofList (Text.replaceChar '.' ['_'] path.toList)

/-- The column that a path through the relation `r` denotes, by what follows the name of `r`. -/
def elementColumn (r : Relation) (path : String) : Except PathFault String :=
  let rest := ((remainder? r.name path).getD []).dropWhile (· == '.')
  if rest.isEmpty then r.elementColumn.elim (.error (.noElementColumn r.name)) .ok
  else if rest.contains '.' then .error (.tooDeep path)
  else .ok (String.ofList rest)

/-- The column that a path denotes, and the collection through which. -/
def column (m : Metadata) (path : String) : Except PathFault (Option String × String) :=
  match m.relationFor? path with
  | none => .ok (none, (m.explicitColumn? path).getD (baseColumn path))
  | some r =>
    match m.explicitColumn? path with
    | some column => .ok (some r.name, column)
    | none => (elementColumn r path).map fun column => (some r.name, column)

/-- The field that a path denotes. -/
def resolve (m : Metadata) (path : String) : Except QueryError Field :=
  match m.column path with
  | .ok (collection, column) => .ok ⟨path, collection, column, m.fieldType path⟩
  | .error fault => .error (.invalidMetadata m.entity (.path fault))

end Metadata

end ListQuery
