import ListQuery.Number.Integer
import ListQuery.Time.Calendar

/-!
# Instants and their text

* `Instant` : a point in time, to the nanosecond.
* `Instant.read?` : the instant that a timestamp such as `2024-03-01T10:00:00.5+02:00` denotes.
* `Instant.write` : the timestamp of an instant in UTC.

A leap second `:60` is the second `:59` with a fraction of one second or more.
-/

namespace ListQuery

/-- A point in time. -/
structure Instant where
  /-- Whole seconds since 1970-01-01T00:00:00 UTC, leap seconds not counted. -/
  second : Int
  /-- The nanoseconds beyond them: a billion and more in a leap second. -/
  nanosecond : Nat
deriving DecidableEq, Repr

namespace Instant

/-- Instants in the order of time. -/
def compare (a b : Instant) : Ordering :=
  (Ord.compare a.second b.second).then (Ord.compare a.nanosecond b.nanosecond)

/-- The nanoseconds in a second. -/
def billion : Nat := 1000000000

/-- The seconds in a day. -/
def secondsPerDay : Int := 86400

/-! ### Reading -/

/-- The number that the first `n` characters write in digits, and the rest. -/
def takeDigits? (n : Nat) (cs : List Char) : Option (Nat × List Char) :=
  let ds := cs.take n
  if ds.length = n && ds.all Char.isDigit then some (Digits.value ds, cs.drop n) else none

/-- The text behind the character `c`. -/
def skip? (c : Char) : List Char → Option (List Char)
  | d :: cs => if d = c then some cs else none
  | [] => none

/-- The date at the start of a timestamp, and the rest. -/
def readDate? (cs : List Char) : Option (CivilDate × List Char) := do
  let (year, cs) ← takeDigits? 4 cs
  let cs ← skip? '-' cs
  let (month, cs) ← takeDigits? 2 cs
  let cs ← skip? '-' cs
  let (day, cs) ← takeDigits? 2 cs
  let date : CivilDate := ⟨year, month, day⟩
  if date.isValid then some (date, cs) else none

/-- The text behind the character between date and time. -/
def skipSeparator? : List Char → Option (List Char)
  | c :: cs => if c = 'T' || c = 't' || c = ' ' then some cs else none
  | [] => none

/-- The nanoseconds of a fraction with the digits `ds`, those beyond the ninth being cut off. -/
def fractionOf (ds : List Char) : Nat :=
  let ds := ds.take 9
  Digits.value ds * Nat.pow 10 (9 - ds.length)

/-- The nanoseconds of the fraction, if there is one, and the rest. -/
def readFraction? : List Char → Option (Nat × List Char)
  | '.' :: cs =>
    let ds := cs.takeWhile Char.isDigit
    if ds.isEmpty then none else some (fractionOf ds, cs.dropWhile Char.isDigit)
  | cs => some (0, cs)

/-- The second of the day and the nanoseconds beyond it that a time of day gives. -/
def timeOfDay? (hour minute second nanosecond : Nat) : Option (Nat × Nat) :=
  if hour ≤ 23 && minute ≤ 59 && second ≤ 60 then
    if second = 60 then some (hour * 3600 + minute * 60 + 59, nanosecond + billion)
    else some (hour * 3600 + minute * 60 + second, nanosecond)
  else none

/-- The time of day, as its second and the nanoseconds beyond, and the rest. -/
def readTime? (cs : List Char) : Option ((Nat × Nat) × List Char) := do
  let (hour, cs) ← takeDigits? 2 cs
  let cs ← skip? ':' cs
  let (minute, cs) ← takeDigits? 2 cs
  let cs ← skip? ':' cs
  let (second, cs) ← takeDigits? 2 cs
  let (nanosecond, cs) ← readFraction? cs
  let time ← timeOfDay? hour minute second nanosecond
  some (time, cs)

/-- The distance `hh:mm` of a local time from UTC, in seconds, and the rest. -/
def readDistance? (cs : List Char) : Option (Int × List Char) := do
  let (hour, cs) ← takeDigits? 2 cs
  let cs ← skip? ':' cs
  let (minute, cs) ← takeDigits? 2 cs
  if hour ≤ 23 && minute ≤ 59 then some ((hour : Int) * 3600 + minute * 60, cs) else none

/-- The minus sign of typography. -/
def minusSign : Char := Char.ofNat 0x2212

/-- How far local time is ahead of UTC, in seconds, and the rest. -/
def readOffset? : List Char → Option (Int × List Char)
  | [] => none
  | c :: cs =>
    if c = 'Z' || c = 'z' then some (0, cs)
    else if c = '+' then readDistance? cs
    else if c = '-' || c = minusSign then (readDistance? cs).map fun p => (-p.1, p.2)
    else none

/-- The instant at which clocks `offset` seconds ahead of UTC show the given local date and time. -/
def ofLocal (date : CivilDate) (time : Nat × Nat) (offset : Int) : Instant :=
  ⟨date.toDay * secondsPerDay + time.1 - offset, time.2⟩

/-- The instant that the timestamp `cs` denotes. -/
def readChars? (cs : List Char) : Option Instant := do
  let (date, cs) ← readDate? cs
  let cs ← skipSeparator? cs
  let (time, cs) ← readTime? cs
  let (offset, cs) ← readOffset? cs
  if cs.isEmpty then some (ofLocal date time offset) else none

/-- The instant that the timestamp `s` denotes. -/
def read? (s : String) : Option Instant :=
  readChars? s.toList

/-! ### Writing -/

/-- The decimal digits of `n`, with zeros in front up to `width` digits. -/
def padded (width n : Nat) : List Char :=
  let ds := Nat.toDigits 10 n
  List.replicate (width - ds.length) '0' ++ ds

/-- A year of four digits, or with a sign if it is outside of 0 to 9999. -/
def writeYear (year : Int) : List Char :=
  if year < 0 then '-' :: padded 4 year.natAbs
  else if 9999 < year then '+' :: padded 4 year.natAbs
  else padded 4 year.natAbs

/-- The date of an instant in UTC. -/
def date (t : Instant) : CivilDate :=
  CivilDate.ofDay (t.second / secondsPerDay)

/-- A date as text. -/
def writeCivil (d : CivilDate) : List Char :=
  writeYear d.year ++ '-' :: padded 2 d.month ++ '-' :: padded 2 d.day

/-- A time of day to the second, as text. -/
def writeClock (time : Nat × Nat) : List Char :=
  let n := time.1
  padded 2 (n / 3600) ++ ':' :: padded 2 (n / 60 % 60) ++ ':' ::
    padded 2 (n % 60 + time.2 / billion)

/-- The date of an instant in UTC, as text. -/
def writeDate (t : Instant) : List Char :=
  writeCivil t.date

/-- The time of day of an instant in UTC to the second, as text. -/
def writeTime (t : Instant) : List Char :=
  writeClock ((t.second % secondsPerDay).toNat, t.nanosecond)

/-- The nanoseconds of the fraction of a second. -/
def fraction (t : Instant) : Nat :=
  t.nanosecond % billion

/-- The fraction of a second with three, six or nine digits as needed, none if it is zero. -/
def writeFraction (t : Instant) : List Char :=
  let n := t.fraction
  if n = 0 then []
  else if n % 1000000 = 0 then '.' :: padded 3 (n / 1000000)
  else if n % 1000 = 0 then '.' :: padded 6 (n / 1000)
  else '.' :: padded 9 n

/-- The timestamp of an instant in UTC, with `zone` as the name of that offset. -/
def writeWith (zone : String) (t : Instant) : String :=
  String.ofList (t.writeDate ++ 'T' :: t.writeTime ++ t.writeFraction) ++ zone

/-- The timestamp of an instant in UTC, the offset being written as a distance. -/
def write (t : Instant) : String :=
  t.writeWith "+00:00"

/-- The timestamp of an instant in UTC, the offset being written `Z`. -/
def writeZulu (t : Instant) : String :=
  t.writeWith "Z"

end Instant

end ListQuery
