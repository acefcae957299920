import ListQuery.Error
import ListQuery.Json.Printer
import ListQuery.Time.Instant
import ListQuery.Uuid

/-!
# Values of filters

* `Value` : a value of one of the field types.
* `Value.cast` : the value that a raw text denotes in a type.
* `Value.display` : the canonical text of a value.
* `Value.toJson` : the value as JSON.
-/

namespace ListQuery

/-- A value that a field is compared with. -/
inductive Value where
  | text (s : String)
  | boolean (b : Bool)
  | integer (i : Int)
  | numeric (x : Binary64)
  | uuid (u : Uuid)
  | timestamp (t : Instant)
  | enumeration (name : String)
deriving DecidableEq, Repr

namespace Value

/-- The truth value that a word names, whatever the case of its letters. -/
def readBoolean? (raw : String) : Option Bool :=
  let word := Text.lowerAscii raw
  if word = "true" then some true else if word = "false" then some false else none

/-- The identifier that a text in groups of digits names; the shorter and longer forms are not
accepted in a filter. -/
def readUuid? (raw : String) : Option Uuid :=
  if raw.toList.length = 36 then Uuid.read? raw.toList else none

/-- The value that `raw` denotes in a type, or why it denotes none. -/
def read (type : FieldType) (raw : String) : Except ValueFault Value :=
  match type with
  | .text => .ok (text raw)
  | .boolean => (readBoolean? raw).elim (.error .notBoolean) fun b => .ok (boolean b)
  | .integer => (Integer.read? raw.toList).elim (.error .notInteger) fun i => .ok (integer i)
  | .numeric =>
    ((Decimal.read? raw.toList).bind Decimal.toBinary64?).elim (.error .notNumber) fun x =>
      .ok (numeric x)
  | .uuid => (readUuid? raw).elim (.error .notUuid) fun u => .ok (uuid u)
  | .timestamp => (Instant.read? raw).elim (.error .notTimestamp) fun t => .ok (timestamp t)
  | .enumeration names =>
    if names.contains raw then .ok (enumeration raw) else .error (.notOneOf names)

/-- The value that `raw` denotes in the type of the field `field`. -/
def cast (field : String) (type : FieldType) (raw : String) : Except QueryError Value :=
  (read type raw).mapError (.invalidValue field raw)

/-- How binary fractions are displayed: shortest digits, a half away from zero, never an
exponent. -/
def style : Decimal.Style :=
  ⟨.away, none, false⟩

/-- The canonical text of a value. -/
def display : Value → String
  | text s => s
  | boolean b => if b then "true" else "false"
  | integer i => toString i
  | numeric x => x.write style
  | uuid u => u.write
  | timestamp t => t.write
  | enumeration name => name

/-- The kind of a value, in a word. -/
def kind : Value → String
  | text _ => "text"
  | boolean _ => "boolean"
  | integer _ => "integer"
  | numeric _ => "numeric"
  | uuid _ => "uuid"
  | timestamp _ => "timestamp"
  | enumeration _ => "enum"

/-- The value as JSON. -/
def toJson : Value → Json
  | text s => .string s
  | boolean b => .bool b
  | integer i => .number (.integer i)
  | numeric x => .number (.real x)
  | uuid u => .string u.write
  | timestamp t => .string t.writeZulu
  | enumeration name => .string name

end Value

end ListQuery
