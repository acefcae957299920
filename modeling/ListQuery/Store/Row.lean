import ListQuery.Json.Printer
import ListQuery.Predicate.Basic
import ListQuery.Text.Case
import ListQuery.Text.Split

/-!
# Rows and their values

A row is a JSON object with its columns as names.  A collection is an array under its name, the
elements being objects with their columns as names, or the values themselves.

* `Row.find?` : the value under a path.
* `Row.base?` : the value of a field of the base table.
* `Row.compareTo?` : how a stored value stands to the value of a filter.
* `Row.textOf?` : the text of a stored value.
* `Row.compareForSort` : the order in which rows are sorted by a field.
-/

namespace ListQuery

namespace Row

/-- The value under a path, the whole path being a name or else its parts being names of objects in
one another. -/
def find? (row : Json) (path : String) : Option Json :=
  (row.get? path).or ((Text.splitOn '.' path).foldlM Json.get? row)

/-- A value that is there. -/
def present (v : Json) : Option Json :=
  if v.isNull then none else some v

/-- The value of a field of the base table, under its column or else under its path. -/
def base? (row : Json) (field : Field) : Option Json :=
  ((row.get? field.column).or (find? row field.path)).bind present

/-- The value of a field in an element of a collection. -/
def element? (element : Json) (field : Field) : Option Json :=
  match element with
  | .object _ => (element.get? field.column).bind present
  | v => present v

/-- How the number `n` stands to the integer `i`: exactly if `n` is a signed integer of 64 bits,
else by the nearest binary fractions. -/
def compareInteger (n : Number) (i : Int) : Ordering :=
  match n.toInteger? with
  | some j => compare j i
  | none => compare n.units (Binary64.unitsOfInt i)

/-- How a stored value stands to the value of a filter; `none` if they cannot be compared. -/
def compareTo? (stored : Json) (v : Value) : Option Ordering :=
  match v, stored with
  | .text s, .string t => some (compare t s)
  | .enumeration s, .string t => some (compare t s)
  | .boolean b, .bool c => some (compare c b)
  | .integer i, .number n => some (compareInteger n i)
  | .numeric x, .number n => some (compare n.units x.units)
  | .uuid u, .string t => (Uuid.read? t.toList).map (Uuid.compare · u)
  | .timestamp t, .string s => (Instant.read? s).map (Instant.compare · t)
  | _, _ => none

/-- The text of a stored value, in which a part is searched for. -/
def textOf? : Json → Option String
  | .null => none
  | .string s => some s
  | v => some v.compact

/-- The text of the stored value contains `needle`, whatever the case. -/
def containsText (stored : Json) (needle : String) : Bool :=
  (textOf? stored).any fun s =>
    Text.occursIn (Text.lowerChars needle.toList) (Text.lowerChars s.toList)

/-- The order of numbers: exact for signed integers of 64 bits, else that of the nearest binary
fractions. -/
def compareNumbers (a b : Number) : Ordering :=
  match a.toInteger?, b.toInteger? with
  | some i, some j => compare i j
  | _, _ => compare a.units b.units

/-- The order of values: that of their kind, or of their texts if they are of different kinds. -/
def compareValues : Json → Json → Ordering
  | .number a, .number b => compareNumbers a b
  | .string a, .string b => compare a b
  | .bool a, .bool b => compare a b
  | a, b => compare (textOf? a) (textOf? b)

/-- The ascending order of the values of a field, missing ones last. -/
def compareForSort : Option Json → Option Json → Ordering
  | none, none => .eq
  | none, some _ => .gt
  | some _, none => .lt
  | some a, some b => compareValues a b

end Row

end ListQuery
