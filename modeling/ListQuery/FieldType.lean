/-!
# Types of fields

* `FieldType` : what the values of a field mean, and so how the text of a filter is read.
* `Field` : a resolved field, as the column of a table.
-/

namespace ListQuery

/-- What the values of a field mean. -/
inductive FieldType where
  /-- Free text. -/
  | text
  /-- A truth value. -/
  | boolean
  /-- A signed integer of 64 bits. -/
  | integer
  /-- A binary fraction of 64 bits. -/
  | numeric
  /-- A universally unique identifier. -/
  | uuid
  /-- An instant. -/
  | timestamp
  /-- One of the names of a list. -/
  | enumeration (names : List String)
deriving DecidableEq, Repr

namespace FieldType

/-- The types whose values are compared by order. -/
def isOrderable : FieldType → Bool
  | integer | numeric | timestamp => true
  | _ => false

/-- The name of a type in messages. -/
def name : FieldType → String
  | text => "text"
  | boolean => "boolean"
  | integer => "integer"
  | numeric => "numeric"
  | uuid => "uuid"
  | timestamp => "timestamp"
  | enumeration _ => "enumeration"

/-- The type with a given name, of those without a list. -/
def ofName? (name : String) : Option FieldType :=
  [text, boolean, integer, numeric, uuid, timestamp].find? (·.name == name)

end FieldType

/-- A path of an entity, resolved to a column. -/
structure Field where
  /-- The path as the entity declares it. -/
  path : String
  /-- The collection that the path goes through, if any. -/
  collection : Option String
  /-- The column, of the base table or of the table of the collection. -/
  column : String
  /-- The type of the values. -/
  type : FieldType
deriving DecidableEq, Repr

end ListQuery
