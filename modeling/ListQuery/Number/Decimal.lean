import ListQuery.Number.Binary64
import ListQuery.Number.Integer

/-!
# Decimal fractions

* `Decimal` : a coefficient with a power of ten and a sign.
* `Decimal.read?` : the fraction that a text writes, with a point and an exponent if there are any.
* `Binary64.shortest` : a decimal with the fewest digits that reads back as a given binary number.
* `Decimal.write` : the text of a decimal in a given style.
-/

namespace ListQuery

/-- The number `± coefficient * 10 ^ exponent`. -/
structure Decimal where
  /-- The sign, which zero has too. -/
  negative : Bool
  /-- The digits, as a whole number. -/
  coefficient : Nat
  /-- The power of ten. -/
  exponent : Int
deriving DecidableEq, Repr

namespace Decimal

/-- The binary number nearest to `d`, unless `d` is out of range. -/
def toBinary64? (d : Decimal) : Option Binary64 :=
  Binary64.ofDecimal? d.negative d.coefficient d.exponent

/-! ### Reading -/

/-- The exponent that `cs` writes; no text stands for the exponent 0. -/
def readExponent? : List Char → Option Int
  | [] => some 0
  | c :: cs => if c = 'e' || c = 'E' then Integer.value? cs else none

/-- The digits behind a decimal point, if there is one, and what follows them. -/
def splitFraction : List Char → List Char × List Char
  | '.' :: cs => (cs.takeWhile Char.isDigit, cs.dropWhile Char.isDigit)
  | cs => ([], cs)

/-- The decimal that `cs` writes: a sign, digits with or without a point, at least one digit, and an
exponent.  Only the digits are necessary. -/
def read? (cs : List Char) : Option Decimal :=
  let (negative, body) := Integer.splitSign cs
  let whole := body.takeWhile Char.isDigit
  let (fraction, rest) := splitFraction (body.dropWhile Char.isDigit)
  if whole.isEmpty && fraction.isEmpty then none
  else
    (readExponent? rest).map fun e =>
      ⟨negative, Digits.value (whole ++ fraction), e - fraction.length⟩

/-! ### Writing -/

/-- Which of two equally near decimals is taken. -/
inductive Tie where
  /-- The one of greater magnitude. -/
  | away
  /-- The one with an even last digit. -/
  | even
deriving DecidableEq, Repr

/-- How decimals are written. -/
structure Style where
  /-- Which of two equally near decimals is taken. -/
  tie : Tie
  /-- The least and greatest power of ten of the first digit with which a number is written without
  an exponent; `none` if it never has one. -/
  positional : Option (Int × Int)
  /-- A whole number is marked by `.0`. -/
  marksWhole : Bool

/-- `n` zeros. -/
def zeros (n : Nat) : List Char :=
  List.replicate n '0'

/-- The digits `ds` with the decimal point `point` places behind the start of them. -/
def placePoint (marksWhole : Bool) (ds : List Char) (point : Int) : List Char :=
  if point ≤ 0 then '0' :: '.' :: zeros (-point).toNat ++ ds
  else if point < ds.length then ds.take point.toNat ++ '.' :: ds.drop point.toNat
  else
    ds ++ zeros (point - ds.length).toNat ++ (if marksWhole then ['.', '0'] else [])

/-- The digits `ds` with a point behind the first and the power of ten `e`. -/
def placeExponent (ds : List Char) (e : Int) : List Char :=
  let front := match ds with
    | d :: r@(_ :: _) => d :: '.' :: r
    | ds => ds
  front ++ 'e' :: (if e < 0 then '-' else '+') :: Nat.toDigits 10 e.natAbs

/-- The text of `d`. -/
def write (style : Style) (d : Decimal) : String :=
  let sign := if d.negative then ['-'] else []
  if d.coefficient = 0 then
    String.ofList (sign ++ '0' :: (if style.marksWhole then ['.', '0'] else []))
  else
    let ds := Nat.toDigits 10 d.coefficient
    let point := d.exponent + ds.length
    let isPositional := match style.positional with
      | none => true
      | some (least, greatest) => least ≤ point - 1 && point - 1 ≤ greatest
    String.ofList (sign ++
      (if isPositional then placePoint style.marksWhole ds point else placeExponent ds (point - 1)))

end Decimal

namespace Binary64

/-- The value of `x` as a decimal.  With `e` for the exponent of the unit, a unit is
`5 ^ e * 10 ^ -e`. -/
def exact (x : Binary64) : Decimal :=
  ⟨x.negative, x.magnitude * Nat.pow 5 unitExponent, -unitExponent⟩

/-- The nearest decimal to `x` with at most `n` digits of those that read back as `x`, if there is
one.  Only the two neighbours of `x` on the grid of such decimals come into question. -/
def roundTo? (tie : Decimal.Tie) (x : Binary64) (n : Nat) : Option Decimal :=
  let length := (Nat.toDigits 10 x.exact.coefficient).length
  let grid := Nat.pow 10 (length - n)
  let low := x.exact.coefficient / grid
  let rest := x.exact.coefficient % grid
  let exponent : Int := x.exact.exponent + (length - n : Nat)
  let below : Decimal := ⟨x.negative, low, exponent⟩
  let above : Decimal :=
    if low + 1 = Nat.pow 10 n then ⟨x.negative, 1, exponent + n⟩
    else ⟨x.negative, low + 1, exponent⟩
  let nearer :=
    if 2 * rest < grid then below
    else if grid < 2 * rest then above
    else match tie with
      | .away => above
      | .even => if low % 2 = 0 then below else above
  let readsBack (d : Decimal) : Bool := d.toBinary64? == some x
  if readsBack nearer then some nearer
  else if readsBack below then some below
  else if readsBack above then some above
  else none

/-- The decimal with the fewest digits that reads back as `x`.  Seventeen digits suffice for every
number, so that the exact value is never the one taken. -/
def shortest (tie : Decimal.Tie) (x : Binary64) : Decimal :=
  if x.magnitude = 0 then ⟨x.negative, 0, 0⟩
  else ((List.range' 1 17).findSome? (roundTo? tie x)).getD x.exact

/-- The text of `x`: the shortest decimal that reads back as `x`. -/
def write (style : Decimal.Style) (x : Binary64) : String :=
  (x.shortest style.tie).write style

end Binary64

end ListQuery
