/-!
# Readers

A reader takes what it understands off the front of a text and gives its meaning, or fails.

* `Reader` : the type of readers.
* `Reader.next`, `Reader.peek?`, `Reader.char`, `Reader.takeWhile`, `Reader.atEnd` : single steps.
* `Reader.repeatUntil` : items up to a closing character.
* `Reader.run?` : the meaning of a text read to its end.
-/

namespace ListQuery

/-- A partial reading of a text: a result and the rest of the text. -/
abbrev Reader := StateT (List Char) Option

namespace Reader

variable {α : Type}

/-- Takes one character off. -/
def next : Reader Char := fun cs =>
  match cs with
  | [] => none
  | c :: rest => some (c, rest)

/-- The first character, left in place. -/
def peek? : Reader (Option Char) := fun cs =>
  some (cs.head?, cs)

/-- Takes the character `c` off. -/
def char (c : Char) : Reader Unit := fun cs =>
  match cs with
  | [] => none
  | d :: rest => if d = c then some ((), rest) else none

/-- Takes the given text off. -/
def text (front : List Char) : Reader Unit := fun cs =>
  match front, cs with
  | [], cs => some ((), cs)
  | _ :: _, [] => none
  | a :: front, c :: cs => if a = c then text front cs else none

/-- Takes off the longest front whose characters are all in the class `p`. -/
def takeWhile (p : Char → Bool) : Reader (List Char) := fun cs =>
  some (cs.takeWhile p, cs.dropWhile p)

/-- Takes off the longest front whose characters are all in the class `p`, at least one. -/
def takeWhile1 (p : Char → Bool) : Reader (List Char) := do
  let cs ← takeWhile p
  if cs.isEmpty then failure else return cs

/-- Succeeds at the end of the text. -/
def atEnd : Reader Unit := fun cs =>
  if cs.isEmpty then some ((), cs) else none

/-- Whether the next character is `c`, which is then taken off. -/
def accept (c : Char) : Reader Bool := fun cs =>
  match cs with
  | [] => some (false, cs)
  | d :: rest => if d = c then some (true, rest) else some (false, cs)

/-- The items that `step` reads one after the other, until it gives none.  Each takes at least one
character, so that `limit`, the length of the text, is enough of them. -/
def repeatUpTo (limit : Nat) (step : Reader (Option α)) : Reader (List α) :=
  match limit with
  | 0 => failure
  | limit + 1 => do
    match ← step with
    | none => return []
    | some a => return a :: (← repeatUpTo limit step)

/-- The items that `step` reads one after the other, until it gives none. -/
def repeatUntil (step : Reader (Option α)) : Reader (List α) := do
  repeatUpTo ((← get).length + 1) step

/-- The meaning of a text that `r` reads to its end. -/
def run? (r : Reader α) (cs : List Char) : Option α :=
  match r cs with
  | some (a, []) => some a
  | _ => none

end Reader

end ListQuery
