/-!
# Decimal integers in text

* `Digits.value` : the number that a list of decimal digits denotes.
* `Natural.read` : an unsigned number up to a limit, with the reason of a refusal.
* `Integer.read?` : a signed number between two limits.

The digits are the ASCII ones.  One leading `+` is allowed.
-/

namespace ListQuery

/-- The value of the digits `cs`, read after a number `n`. -/
def Digits.valueFrom (n : Nat) : List Char → Nat
  | [] => n
  | c :: cs => Digits.valueFrom (n * 10 + (c.toNat - '0'.toNat)) cs

/-- The number written by the decimal digits `cs`. -/
def Digits.value (cs : List Char) : Nat :=
  Digits.valueFrom 0 cs

/-- `cs` is a non-empty list of decimal digits. -/
def Digits.valid (cs : List Char) : Bool :=
  !cs.isEmpty && cs.all Char.isDigit

/-- Why a text is no integer of the asked range. -/
inductive IntegerError where
  /-- There is no text at all. -/
  | empty
  /-- A character is no digit, or no digit follows the sign. -/
  | invalidDigit
  /-- The number is above the limit. -/
  | tooLarge
deriving DecidableEq, Repr

/-- The wording of an error. -/
def IntegerError.message : IntegerError → String
  | empty => "cannot parse integer from empty string"
  | invalidDigit => "invalid digit found in string"
  | tooLarge => "number too large to fit in target type"

namespace Natural

/-- Reads the digits `cs` after a number `n`, refusing the first that is no digit or that leads
above `limit`. -/
def readFrom (limit n : Nat) : List Char → Except IntegerError Nat
  | [] => .ok n
  | c :: cs =>
    if c.isDigit then
      let next := n * 10 + (c.toNat - '0'.toNat)
      if next ≤ limit then readFrom limit next cs else .error .tooLarge
    else .error .invalidDigit

/-- The unsigned number up to `limit` that `cs` writes. -/
def read (limit : Nat) : List Char → Except IntegerError Nat
  | [] => .error .empty
  | ['+'] => .error .invalidDigit
  | '+' :: cs => readFrom limit 0 cs
  | cs => readFrom limit 0 cs

end Natural

namespace Integer

/-- The least 64-bit signed integer. -/
def min64 : Int := -9223372036854775808

/-- The greatest 64-bit signed integer. -/
def max64 : Int := 9223372036854775807

/-- The sign of a number, as `-` is there or not, and the text behind the sign. -/
def splitSign : List Char → Bool × List Char
  | '-' :: cs => (true, cs)
  | '+' :: cs => (false, cs)
  | cs => (false, cs)

/-- The signed number that `cs` writes. -/
def value? (cs : List Char) : Option Int :=
  let (negative, digits) := splitSign cs
  if Digits.valid digits then
    let n : Int := Digits.value digits
    some (if negative then -n else n)
  else none

/-- The 64-bit signed number that `cs` writes. -/
def read? (cs : List Char) : Option Int :=
  (value? cs).filter fun i => min64 ≤ i && i ≤ max64

end Integer

end ListQuery
