import ListQuery.Json.Basic
import ListQuery.Metadata.Basic
import ListQuery.Toml.Document

/-!
# Metadata in files

* `Tree` : what a JSON or a TOML value says to a reader of metadata.
* `Metadata.ofJson?` : the metadata that a JSON value describes.
* `Metadata.ofToml?` : the metadata that a TOML document describes.

A record may also be written as a list of its fields in order.
-/

namespace ListQuery

/-- What a value says to a reader of metadata. -/
inductive Tree where
  /-- A text. -/
  | text (s : String)
  /-- Items in order. -/
  | list (items : List Tree)
  /-- Values under names. -/
  | table (members : List (String × Tree))
  /-- The word for no value. -/
  | absent
  /-- A value of another kind. -/
  | other

namespace Tree

mutual

/-- What a JSON value says. -/
def ofJson : Json → Tree
  | .null => absent
  | .string s => text s
  | .array items => list (ofJsonItems items)
  | .object members => table (ofJsonMembers members)
  | .bool _ => other
  | .number _ => other

/-- What the items of a JSON array say. -/
def ofJsonItems : List Json → List Tree
  | [] => []
  | v :: rest => ofJson v :: ofJsonItems rest

/-- What the members of a JSON object say. -/
def ofJsonMembers : List (String × Json) → List (String × Tree)
  | [] => []
  | (name, v) :: rest => (name, ofJson v) :: ofJsonMembers rest

end

/-- The name under which a date or a time of TOML stands in a table of its own. -/
def datetimeName : String := "$__toml_private_datetime"

mutual

/-- What a TOML value says. -/
def ofToml : Toml → Tree
  | .text s => text s
  | .array items => list (ofTomlItems items)
  | .table _ members => table (ofTomlMembers members)
  | .tables elements => list (ofTomlTables elements)
  | .integer _ => other
  | .float _ => other
  | .boolean _ => other
  | .datetime d => table [(datetimeName, text d.write)]

/-- What the items of a TOML array say. -/
def ofTomlItems : List Toml → List Tree
  | [] => []
  | v :: rest => ofToml v :: ofTomlItems rest

/-- What the members of a TOML table say. -/
def ofTomlMembers : List (String × Toml) → List (String × Tree)
  | [] => []
  | (name, v) :: rest => (name, ofToml v) :: ofTomlMembers rest

/-- What tables with a shared header say. -/
def ofTomlTables : List (List (String × Toml)) → List Tree
  | [] => []
  | members :: rest => table (ofTomlMembers members) :: ofTomlTables rest

end

/-- The points in which the two formats differ. -/
structure Dialect where
  /-- What may stand under the name of a type that takes no list. -/
  isUnit : Tree → Bool
  /-- Items behind the last field of a record do no harm. -/
  allowsExcess : Bool

/-- JSON: the word for no value stands for a type without a list. -/
def json : Dialect where
  isUnit t := match t with
    | absent => true
    | _ => false
  allowsExcess := false

/-- TOML: an empty table or array stands for a type without a list. -/
def toml : Dialect where
  isUnit t := match t with
    | table [] | list [] => true
    | _ => false
  allowsExcess := true

/-! ### Parts -/

/-- A text. -/
def text? : Tree → Option String
  | text s => some s
  | _ => none

/-- A text, or none. -/
def optionalText? : Tree → Option (Option String)
  | absent => some none
  | t => (text? t).map some

/-- A list of what `read` gives for each item. -/
def list? {α : Type} (read : Tree → Option α) : Tree → Option (List α)
  | list items => items.mapM read
  | _ => none

/-- A map of what `read` gives under each name. -/
def map? {α : Type} (read : Tree → Option α) : Tree → Option (List (String × α))
  | table members => do
    let entries ← members.mapM fun p => (read p.2).map fun a => (p.1, a)
    return Ordered.ofListBy Prod.fst entries
  | _ => none

/-- What is there for each field of a record. -/
def slots? (allowsExcess : Bool) (fields : List String) : Tree → Option (List (Option Tree))
  | table members => some (fields.map fun field => members.lookup field)
  | list items =>
    if items.length ≤ fields.length || allowsExcess then
      some ((items.map some ++ List.replicate fields.length none).take fields.length)
    else none
  | _ => none

/-- What `read` makes of a field that has a value by default. -/
def withDefault {α : Type} (default : α) (read : Tree → Option α) (t : Option Tree) : Option α :=
  t.elim (some default) read

/-! ### Metadata -/

/-- A type: a name, or a name with what belongs to it. -/
def type? (d : Dialect) : Tree → Option FieldType
  | text name => FieldType.ofName? name
  | table [(name, payload)] =>
    if name = "enumeration" then (list? text? payload).map .enumeration
    else if d.isUnit payload then FieldType.ofName? name
    else none
  | _ => none

/-- A descriptor. -/
def descriptor? (d : Dialect) (t : Tree) : Option Descriptor := do
  match ← slots? d.allowsExcess ["type", "column"] t with
  | [type, column] => do
    return {
      type := ← withDefault .text (type? d) type
      column := ← withDefault none optionalText? column }
  | _ => none

/-- The links of one kind, with what is there for each of their fields. -/
def linkOf? (kind : String) (slots : List String → Option (List (Option Tree))) : Option Link := do
  match kind with
  | "one_to_many" => do
    match ← slots ["foreign_key"] with
    | [key] => return .oneToMany (← key.bind text?)
    | _ => none
  | "many_to_many" => do
    match ← slots ["join_table", "join_key", "inverse_key"] with
    | [joinTable, key, inverse] =>
      return .manyToMany (← joinTable.bind text?) (← key.bind text?) (← inverse.bind text?)
    | _ => none
  | _ => none

/-- A link, with its kind among its fields or in front of them. -/
def link? : Tree → Option Link
  | table members => do
    let kind ← (members.lookup "kind").bind text?
    linkOf? kind fun fields => slots? false fields (table members)
  | list (first :: rest) => do
    let kind ← text? first
    linkOf? kind fun fields => slots? false fields (list rest)
  | _ => none

/-- A collection. -/
def relation? (d : Dialect) (t : Tree) : Option Relation := do
  match ← slots? d.allowsExcess ["name", "table", "target_key", "join", "element_column"] t with
  | [name, elementTable, targetKey, link, elementColumn] => do
    return {
      name := ← name.bind text?
      table := ← elementTable.bind text?
      targetKey := ← withDefault defaultIdColumn text? targetKey
      link := ← link.bind link?
      elementColumn := ← withDefault none optionalText? elementColumn }
  | _ => none

/-- The fields of metadata, in order. -/
def metadataFields : List String :=
  ["entity", "table", "id_column", "search_fields", "filter_fields", "sort_fields", "aliases",
    "collections", "fields"]

/-- A set of names. -/
def names? (t : Tree) : Option (List String) :=
  (list? text? t).map Ordered.ofList

/-- The metadata of an entity. -/
def metadata? (d : Dialect) (t : Tree) : Option Metadata := do
  match ← slots? d.allowsExcess metadataFields t with
  | [entity, baseTable, idColumn, searchFields, filterFields, sortFields, aliases, collections,
      fields] => do
    return {
      entity := ← entity.bind text?
      table := ← baseTable.bind text?
      idColumn := ← withDefault defaultIdColumn text? idColumn
      searchFields := ← withDefault [] names? searchFields
      filterFields := ← withDefault [] names? filterFields
      sortFields := ← withDefault [] names? sortFields
      aliases := ← withDefault [] (map? text?) aliases
      collections := ← withDefault [] (list? (relation? d)) collections
      fields := ← withDefault [] (map? (descriptor? d)) fields }
  | _ => none

end Tree

namespace Metadata

/-- The metadata that a JSON value describes. -/
def ofJson? (v : Json) : Option Metadata :=
  Tree.metadata? Tree.json (Tree.ofJson v)

/-- The metadata that a TOML document describes. -/
def ofToml? (source : String) : Option Metadata := do
  let members ← Toml.read? source
  Tree.metadata? Tree.toml (.table (Tree.ofTomlMembers members))

end Metadata

end ListQuery
