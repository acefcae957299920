import ListQuery.Text.Reader
import ListQuery.Time.Instant

/-!
# Dates and times of TOML

* `Toml.Datetime` : a date, a time of day, or both, these with or without an offset.
* `Toml.Datetime.read` : the one at the start of a text.
* `Toml.Datetime.write` : its usual text, with `T` between date and time and no zeros at the end of
  a fraction.
-/

namespace ListQuery

namespace Toml

/-- What is said about the distance of a local time from UTC. -/
inductive Offset where
  /-- The time is one in UTC. -/
  | utc
  /-- Local clocks are so many seconds ahead. -/
  | ahead (seconds : Int)
deriving DecidableEq, Repr

/-- A date, a time of day, or both, these with or without an offset. -/
structure Datetime where
  /-- The date. -/
  date : Option CivilDate := none
  /-- The second of the day, and the nanoseconds beyond it. -/
  time : Option (Nat × Nat) := none
  /-- The offset. -/
  offset : Option Offset := none
deriving DecidableEq, Repr

namespace Datetime

/-! ### Reading -/

/-- An offset, if there is one. -/
def readOffset : Reader (Option Offset) := fun cs =>
  match cs with
  | 'Z' :: rest | 'z' :: rest => some (some .utc, rest)
  | '+' :: rest => (Instant.readDistance? rest).map fun p => (some (.ahead p.1), p.2)
  | '-' :: rest => (Instant.readDistance? rest).map fun p => (some (.ahead (-p.1)), p.2)
  | cs => some (none, cs)

/-- A time of day and an offset. -/
def readClock : Reader ((Nat × Nat) × Option Offset) := do
  let time ← Instant.readTime?
  return (time, ← readOffset)

/-- The text that follows a date starts with a separator and an hour; a blank without an hour behind
it ends the date. -/
def startsClock (cs : List Char) : Bool :=
  match cs with
  | c :: a :: b :: ':' :: _ =>
    (c = 'T' || c = 't' || c = ' ') && a.isDigit && b.isDigit && Digits.value [a, b] ≤ 23
  | _ => false

/-- A date, and the time that may follow it. -/
def readDated : Reader Datetime := do
  let date ← Instant.readDate?
  if startsClock (← get) then
    let _ ← Reader.next
    let (time, offset) ← readClock
    return ⟨some date, some time, offset⟩
  else return ⟨some date, none, none⟩

/-- A text that starts with four digits and a hyphen is a date, one that starts with two digits and
a colon is a time of day. -/
def isStart (cs : List Char) : Bool :=
  match cs with
  | a :: b :: ':' :: _ => a.isDigit && b.isDigit
  | a :: b :: c :: d :: '-' :: _ => a.isDigit && b.isDigit && c.isDigit && d.isDigit
  | _ => false

/-- A date, a time of day, or both. -/
def read : Reader Datetime := fun cs =>
  match cs with
  | _ :: _ :: ':' :: _ => (Instant.readTime? cs).map fun p => (⟨none, some p.1, none⟩, p.2)
  | cs => readDated cs

/-! ### Writing -/

/-- The digits `ds` without the zeros at their end. -/
def dropZeros (ds : List Char) : List Char :=
  (ds.reverse.dropWhile (· = '0')).reverse

/-- The fraction of a second, none if it is zero. -/
def writeFraction (nanosecond : Nat) : List Char :=
  match dropZeros (Instant.padded 9 (nanosecond % Instant.billion)) with
  | [] => []
  | ds => '.' :: ds

/-- A time of day. -/
def writeTime (time : Nat × Nat) : List Char :=
  Instant.writeClock time ++ writeFraction time.2

/-- An offset; one of zero is written with a plus sign. -/
def writeOffset : Offset → List Char
  | .utc => ['Z']
  | .ahead seconds =>
    let n := seconds.natAbs
    (if seconds < 0 then '-' else '+') :: Instant.padded 2 (n / 3600) ++
      ':' :: Instant.padded 2 (n / 60 % 60)

/-- The usual text. -/
def write (d : Datetime) : String :=
  String.ofList (
    d.date.elim [] Instant.writeCivil ++
    (if d.date.isSome && d.time.isSome then ['T'] else []) ++
    d.time.elim [] writeTime ++
    d.offset.elim [] writeOffset)

end Datetime

end Toml

end ListQuery
