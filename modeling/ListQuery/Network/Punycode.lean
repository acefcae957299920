import ListQuery.Text.Character

/-!
# Punycode

Labels of domain names that stand for characters outside ASCII.

* `Punycode.decode?` : the characters outside ASCII that a label stands for.

The characters are written as growing numbers, each as digits in a base that varies from one to the
next.  Decoding is a machine that reads one digit at a time (`Punycode.State.feed?`).
-/

namespace ListQuery

namespace Punycode

/-- The value of a digit: letters of either case, then the decimal digits. -/
def digit? (c : Char) : Option Nat :=
  let n := c.toNat
  if 0x61 ≤ n && n ≤ 0x7A then some (n - 0x61)
  else if 0x41 ≤ n && n ≤ 0x5A then some (n - 0x41)
  else if 0x30 ≤ n && n ≤ 0x39 then some (n - 0x30 + 26)
  else none

/-- A digit below this limit ends its number. -/
def threshold (place bias : Nat) : Nat :=
  if place ≤ bias then 1 else if bias + 26 ≤ place then 26 else place - bias

/-- Divides `delta` by 35 until it is small, counting the divisions. -/
def scale (delta divisions : Nat) : Nat × Nat :=
  if 455 < delta then scale (delta / 35) (divisions + 1) else (delta, divisions)
termination_by delta
decreasing_by omega

/-- The bias for the number behind one that was `delta`, when there are `count` characters. -/
def adapt (delta count : Nat) (isFirst : Bool) : Nat :=
  let delta := if isFirst then delta / 700 else delta / 2
  let (delta, divisions) := scale (delta + delta / count) 0
  36 * divisions + 36 * delta / (delta + 38)

/-- The state of the decoder between two digits. -/
structure State where
  /-- The number of characters so far. -/
  count : Nat
  /-- The code point that was written last. -/
  code : Nat := 128
  /-- How the limits for digits lie. -/
  bias : Nat := 72
  /-- The number before the present one. -/
  old : Nat := 0
  /-- The number, as far as it is read. -/
  index : Nat := 0
  /-- What a digit is worth. -/
  weight : Nat := 1
  /-- The place of the next digit: 36 for the first of a number. -/
  place : Nat := 36
  /-- The characters decoded, the latest first. -/
  chars : List Char := []

/-- One more digit. -/
def State.feed? (s : State) (c : Char) : Option State := do
  let d ← digit? c
  let index := s.index + d * s.weight
  let limit := threshold s.place s.bias
  if limit ≤ d then
    return { s with index := index, weight := s.weight * (36 - limit), place := s.place + 36 }
  else
    let count := s.count + 1
    let code := s.code + index / count
    let next := index % count + 1
    return {
      count := count
      code := code
      bias := adapt (index - s.old) count (s.old == 0)
      old := next
      index := next
      chars := (← Text.char? code) :: s.chars }

/-- The characters before the last hyphen stand for themselves; what follows are digits. -/
def split (cs : List Char) : List Char × List Char :=
  let digits := (cs.reverse.takeWhile (· ≠ '-')).reverse
  (cs.take (cs.length - digits.length - 1), if digits.length + 1 = cs.length then cs else digits)

/-- The characters outside ASCII that a label stands for. -/
def decode? (cs : List Char) : Option (List Char) := do
  let (basic, digits) := split cs
  let s ← digits.foldlM State.feed? { count := basic.length }
  if s.place = 36 then some s.chars.reverse else none

end Punycode

end ListQuery
