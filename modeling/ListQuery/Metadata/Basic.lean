import ListQuery.Error
import ListQuery.Ordered

/-!
# Metadata of entities

What an entity lets clients ask for.

* `Relation` : a collection-valued field and the tables behind it.
* `Metadata` : the fields that may be searched, filtered and sorted by, their names and types, and
  the collections.
-/

namespace ListQuery

/-- What a field is, where that does not follow from its path. -/
structure Descriptor where
  /-- The type of the values. -/
  type : FieldType := .text
  /-- The column, if it is not named after the path. -/
  column : Option String := none
deriving DecidableEq, Repr

/-- How the elements of a collection are found from a row of the base table. -/
inductive Link where
  /-- The foreign key of an element is the identifier of the row. -/
  | oneToMany (foreignKey : String)
  /-- A row of the link table has the identifier of the row under `joinKey`, and that of the element
  under `inverseKey`. -/
  | manyToMany (joinTable joinKey inverseKey : String)
deriving DecidableEq, Repr

/-- The identifying column of a table that names none. -/
def defaultIdColumn : String := "id"

/-- A collection-valued field. -/
structure Relation where
  /-- The name of the field, under which its table is joined too. -/
  name : String
  /-- The table of the elements. -/
  table : String
  /-- The identifying column of that table. -/
  targetKey : String := defaultIdColumn
  /-- How the elements are found. -/
  link : Link
  /-- The column that stands for an element as a whole. -/
  elementColumn : Option String := none
deriving DecidableEq, Repr

namespace Relation

/-- The name under which the link table is joined. -/
def linkAlias (r : Relation) : String :=
  r.name ++ "__link"

/-- The tables and columns that the relation names. -/
def identifiers (r : Relation) : List String :=
  [r.table, r.targetKey] ++
    (match r.link with
      | .oneToMany foreignKey => [foreignKey]
      | .manyToMany joinTable joinKey inverseKey => [joinTable, joinKey, inverseKey]) ++
    r.elementColumn.toList

end Relation

/-- What an entity lets clients ask for. -/
structure Metadata where
  /-- The name of the entity. -/
  entity : String
  /-- The base table. -/
  table : String
  /-- The identifying column of the base table. -/
  idColumn : String := defaultIdColumn
  /-- The paths that a search looks at, in order. -/
  searchFields : List String := []
  /-- The paths that filters may name, in order. -/
  filterFields : List String := []
  /-- The paths that rows may be sorted by, in order. -/
  sortFields : List String := []
  /-- Paths under the other names that clients may use for them. -/
  aliases : List (String × String) := []
  /-- The collections. -/
  collections : List Relation := []
  /-- Descriptors under paths. -/
  fields : List (String × Descriptor) := []
deriving DecidableEq, Repr

namespace Metadata

/-! ### Building -/

/-- The metadata with another identifying column. -/
def withIdColumn (m : Metadata) (column : String) : Metadata :=
  { m with idColumn := column }

/-- The metadata with more fields to search. -/
def withSearchFields (m : Metadata) (paths : List String) : Metadata :=
  { m with searchFields := Ordered.insertAllBy id m.searchFields paths }

/-- The metadata with more fields to filter by. -/
def withFilterFields (m : Metadata) (paths : List String) : Metadata :=
  { m with filterFields := Ordered.insertAllBy id m.filterFields paths }

/-- The metadata with more fields to sort by. -/
def withSortFields (m : Metadata) (paths : List String) : Metadata :=
  { m with sortFields := Ordered.insertAllBy id m.sortFields paths }

/-- The metadata with another name for a path. -/
def withAlias (m : Metadata) (name path : String) : Metadata :=
  { m with aliases := Ordered.put name path m.aliases }

/-- The metadata with one more collection. -/
def withCollection (m : Metadata) (r : Relation) : Metadata :=
  { m with collections := m.collections ++ [r] }

/-- The metadata with a descriptor for a path. -/
def withField (m : Metadata) (path : String) (d : Descriptor) : Metadata :=
  { m with fields := Ordered.put path d m.fields }

/-- The metadata with a type for a path. -/
def withFieldType (m : Metadata) (path : String) (type : FieldType) : Metadata :=
  m.withField path { type := type }

/-! ### Names -/

/-- The path that a client's name for a field stands for. -/
def resolveAlias (m : Metadata) (name : String) : String :=
  (Ordered.find? name m.aliases).getD name

/-- The type of a path. -/
def fieldType (m : Metadata) (path : String) : FieldType :=
  (Ordered.find? path m.fields).elim .text Descriptor.type

/-- The column that a path is given explicitly. -/
def explicitColumn? (m : Metadata) (path : String) : Option String :=
  (Ordered.find? path m.fields).bind Descriptor.column

/-- The first collection with a given name. -/
def collection? (m : Metadata) (name : String) : Option Relation :=
  m.collections.find? (·.name == name)

/-- The names of the collections. -/
def collectionNames (m : Metadata) : List String :=
  m.collections.map Relation.name

end Metadata

end ListQuery
