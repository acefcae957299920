import ListQuery.Text.Character

/-!
# Addresses of the internet protocol

Which texts are addresses.

* `IpAddress.isVersion4` : four numbers of one byte with points between them.
* `IpAddress.isVersion6` : eight units of sixteen bits with colons between them, a run of zeros
  being left out perhaps and the last two units being written as four bytes perhaps.
* `IpAddress.isLooseVersion4` : one to four numbers in any of three bases, as in a URL.
-/

namespace ListQuery

namespace IpAddress

/-! ### Strict forms -/

/-- A decimal number up to 255 without a zero in front. -/
def isByte (cs : List Char) : Bool :=
  match cs with
  | [a] => a.isDigit
  | [a, b] => a.isDigit && a ≠ '0' && b.isDigit
  | [a, b, c] => (a = '1' && b.isDigit && c.isDigit) ||
      (a = '2' && ((b.isDigit && b < '5' && c.isDigit) || (b = '5' && c.isDigit && c < '6')))
  | _ => false

/-- An address of four bytes. -/
def isVersion4 (cs : List Char) : Bool :=
  match cs.splitOn '.' with
  | [a, b, c, d] => isByte a && isByte b && isByte c && isByte d
  | _ => false

/-- One to four hexadecimal digits. -/
def isUnit (cs : List Char) : Bool :=
  1 ≤ cs.length && cs.length ≤ 4 && cs.all fun c => (hexDigit? c).isSome

/-- The pieces between the colons of a text, none if the text is empty. -/
def groups (cs : List Char) : List (List Char) :=
  if cs.isEmpty then [] else cs.splitOn ':'

/-- How many units the groups at the end of an address are; the last one may be four bytes. -/
def countUnits? : List (List Char) → Option Nat
  | [] => some 0
  | [g] => if isUnit g then some 1 else if isVersion4 g then some 2 else none
  | g :: rest => if isUnit g then (countUnits? rest).map (· + 1) else none

/-- The parts before and after the first two colons in a row. -/
def cutDoubleColon? : List Char → Option (List Char × List Char)
  | ':' :: ':' :: cs => some ([], cs)
  | c :: cs => (cutDoubleColon? cs).map fun p => (c :: p.1, p.2)
  | [] => none

/-- An address of eight units.  Two colons in a row stand for one zero at least. -/
def isVersion6 (cs : List Char) : Bool :=
  match cutDoubleColon? cs with
  | none => countUnits? (groups cs) == some 8
  | some (front, back) =>
    let front := groups front
    front.all isUnit && (countUnits? (groups back)).any fun n => front.length + n ≤ 7

/-- An address of either version. -/
def isAddress (cs : List Char) : Bool :=
  isVersion4 cs || isVersion6 cs

/-! ### Loose forms -/

/-- The number that digits of a base write, zero if there are none. -/
def valueInBase? (base : Nat) (cs : List Char) : Option Nat := do
  let digits ← cs.mapM hexDigit?
  if digits.all fun d => d.val < base then
    some (digits.foldl (fun n d => n * base + d.val) 0)
  else none

/-- The number that a text writes: in base sixteen behind `0x`, in base eight behind `0`, in base
ten otherwise. -/
def looseNumber? : List Char → Option Nat
  | [] => none
  | '0' :: c :: cs => if c = 'x' || c = 'X' then valueInBase? 16 cs else valueInBase? 8 (c :: cs)
  | cs => valueInBase? 10 cs

/-- The labels of a name, without an empty one at the end. -/
def labels (cs : List Char) : List (List Char) :=
  let parts := cs.splitOn '.'
  if parts.getLast? = some [] then parts.dropLast else parts

/-- The last label of a name is a number, so that the name has to be an address. -/
def endsInNumber (cs : List Char) : Bool :=
  (labels cs).getLast?.any fun l =>
    (!l.isEmpty && l.all Char.isDigit) || (looseNumber? l).isSome

/-- One to four numbers: all but the last are one byte each, and the last is the rest of four
bytes. -/
def isLooseVersion4 (cs : List Char) : Bool :=
  match (labels cs).mapM looseNumber? with
  | some numbers =>
    numbers.length ≤ 4 && numbers.dropLast.all (· < 256) &&
      numbers.getLast?.any fun n => n < Nat.pow 256 (5 - numbers.length)
  | none => false

end IpAddress

end ListQuery
