import ListQuery.Number.Decimal
import ListQuery.Ordered

/-!
# JSON values

* `Number` : a number of a JSON text, either an integer of 64 bits or a binary fraction.
* `Number.ofLiteral?` : the number of a literal.
* `Json` : a value.  The members of an object are in ascending order of their names, each name
  occurring once, when the object is made by `Json.ofMembers`.
* `Json.get?` : the member of an object under a name.
-/

namespace ListQuery

/-- A number of a JSON text. -/
inductive Number where
  /-- An integer of 64 bits, signed or unsigned. -/
  | integer (i : Int)
  /-- Any other number, as the nearest binary fraction. -/
  | real (x : Binary64)
deriving DecidableEq, Repr

namespace Number

/-- The greatest 64-bit unsigned integer. -/
def maxUnsigned64 : Nat := 18446744073709551615

/-- The number as a signed integer of 64 bits, if it is one. -/
def toInteger? : Number → Option Int
  | integer i => if Integer.min64 ≤ i && i ≤ Integer.max64 then some i else none
  | real _ => none

/-- The value in units of the nearest binary fraction. -/
def units : Number → Int
  | integer i => Binary64.unitsOfInt i
  | real x => x.units

/-- How binary fractions are written: shortest digits, a half to the even neighbour, without an
exponent from `1e-5` up to `1e+16`, and `.0` for whole numbers. -/
def style : Decimal.Style :=
  ⟨.even, some (-5, 15), true⟩

/-- The text of a number. -/
def write : Number → String
  | integer i => toString i
  | real x => x.write style

/-! ### Literals -/

/-- The number of a literal with a sign, the digits before and behind the point, and an exponent, as
far as they are there.  Without point and exponent it is an integer, if 64 bits suffice; any other
is the nearest binary fraction, and so is `-0`.  `none` if it is out of range. -/
def ofLiteral? (negative : Bool) (whole : List Char) (fraction : Option (List Char))
    (exponent : Option Int) : Option Number :=
  let n := Digits.value whole
  if fraction.isNone && exponent.isNone && !negative && n ≤ maxUnsigned64 then some (integer n)
  else if fraction.isNone && exponent.isNone && negative && n ≠ 0 && -(n : Int) ≥ Integer.min64 then
    some (integer (-(n : Int)))
  else
    let places := fraction.getD []
    (Binary64.ofDecimal? negative (Digits.value (whole ++ places))
      (exponent.getD 0 - places.length)).map real

end Number

/-- A value of a JSON text. -/
inductive Json where
  /-- No value. -/
  | null
  /-- A truth value. -/
  | bool (b : Bool)
  /-- A number. -/
  | number (n : Number)
  /-- A text. -/
  | string (s : String)
  /-- A sequence of values. -/
  | array (items : List Json)
  /-- Values under names. -/
  | object (members : List (String × Json))

namespace Json

/-- The object with the given members, of those with one name the last. -/
def ofMembers (members : List (String × Json)) : Json :=
  object (Ordered.ofListBy Prod.fst members)

/-- The integer `n`. -/
def ofNat (n : Nat) : Json :=
  number (.integer n)

/-- The text `s`, or no value. -/
def ofText? (s : Option String) : Json :=
  s.elim null string

/-- The list of texts. -/
def ofTexts (texts : List String) : Json :=
  array (texts.map string)

/-- The member under `name`, if the value is an object that has one. -/
def get? (v : Json) (name : String) : Option Json :=
  match v with
  | object members => Ordered.find? name members
  | _ => none

/-- The value is the one for no value. -/
def isNull : Json → Bool
  | null => true
  | _ => false

/-- The text, if the value is one. -/
def text? : Json → Option String
  | string s => some s
  | _ => none

/-- The items, if the value is a sequence. -/
def items? : Json → Option (List Json)
  | array items => some items
  | _ => none

end Json

end ListQuery
