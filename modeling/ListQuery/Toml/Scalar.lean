import ListQuery.Number.Decimal
import ListQuery.Text.Character
import ListQuery.Text.Reader
import ListQuery.Toml.Basic

/-!
# Strings and numbers of TOML

* `Toml.readString` : a string in one of its four forms.
* `Toml.readNumber` : an integer or a fraction.
* `Toml.readKey` : a dotted key.
-/

namespace ListQuery

namespace Toml

/-- A space or a tab. -/
def isSpace (c : Char) : Bool :=
  c = ' ' || c = '\t'

/-- Skips spaces and tabs. -/
def skipSpace : Reader Unit := do
  let _ ← Reader.takeWhile isSpace

/-- A character that may stand in strings and comments: no control character but the tab. -/
def isPrintable (c : Char) : Bool :=
  c = '\t' || (32 ≤ c.toNat && c.toNat ≠ 127)

/-- Whether a line ends here, the end of the line being taken off. -/
def acceptNewline : Reader Bool := fun cs =>
  match cs with
  | '\n' :: rest => some (true, rest)
  | '\r' :: '\n' :: rest => some (true, rest)
  | cs => some (false, cs)

/-! ### Strings -/

/-- The character that `count` hexadecimal digits give. -/
def readHexScalar (count : Nat) : Reader Char := do
  let digits ← (List.replicate count ()).mapM fun _ => do
    match hexDigit? (← Reader.next) with
    | some d => return d
    | none => failure
  match Text.char? (digits.foldl (fun n d => n * 16 + d.val) 0) with
  | some c => return c
  | none => failure

/-- The character of an escape, behind its backslash. -/
def readEscape : Reader Char := do
  match ← Reader.next with
  | 'b' => return Char.ofNat 8
  | 't' => return Char.ofNat 9
  | 'n' => return Char.ofNat 10
  | 'f' => return Char.ofNat 12
  | 'r' => return Char.ofNat 13
  | '"' => return '"'
  | '\\' => return '\\'
  | 'u' => readHexScalar 4
  | 'U' => readHexScalar 8
  | _ => failure

/-- A string between double quotes, behind the first. -/
def readBasic : Reader (List Char) := do
  let chars ← Reader.repeatUntil do
    match ← Reader.next with
    | '"' => return none
    | '\\' => return some (← readEscape)
    | c => if isPrintable c then return some c else failure
  return chars

/-- A string between single quotes, behind the first. -/
def readLiteral : Reader (List Char) := do
  let chars ← Reader.repeatUntil do
    match ← Reader.next with
    | '\'' => return none
    | c => if isPrintable c then return some c else failure
  return chars

/-- Skips blanks and ends of lines behind a backslash at the end of a line. -/
def skipLines : Reader Unit := do
  let _ ← Reader.repeatUntil (α := Unit) do
    match ← Reader.takeWhile isSpace with
    | _ :: _ => return some ()
    | [] => if ← acceptNewline then return some () else return none

/-- What follows a backslash in a string of several lines: an escape, or the end of the line. -/
def readLineEscape : Reader (List Char) := do
  match ← Reader.peek? with
  | some c =>
    if isSpace c || c = '\n' || c = '\r' then
      skipSpace
      if ← acceptNewline then
        skipLines
        return []
      else failure
    else return [← readEscape]
  | none => failure

/-- The next part of a string of several lines that is closed by three of `quote`; one or two of
them, also in front of the closing ones, are part of the string. -/
def readLinePart (quote : Char) (escapes : Bool) : Reader (Option (List Char × Bool)) := do
  if ← acceptNewline then return some (['\n'], false)
  let quotes ← Reader.takeWhile (· = quote)
  match quotes.length with
  | 0 => do
    let c ← Reader.next
    if escapes && c = '\\' then return some (← readLineEscape, false)
    else if isPrintable c then return some ([c], false)
    else failure
  | 1 | 2 => return some (quotes, false)
  | n => if n ≤ 5 then return some (List.replicate (n - 3) quote, true) else failure

/-- A string of several lines, behind the opening quotes; an end of line right behind these is not
part of it. -/
def readLines (quote : Char) (escapes : Bool) : Reader (List Char) := do
  let _ ← acceptNewline
  let limit := (← get).length + 1
  let rec go : Nat → Reader (List Char)
    | 0 => failure
    | limit + 1 => do
      match ← readLinePart quote escapes with
      | none => return []
      | some (part, true) => return part
      | some (part, false) => return part ++ (← go limit)
  go limit

/-- A string in one of its four forms. -/
def readString : Reader String := fun cs =>
  let r : Reader (List Char) :=
    match cs with
    | '"' :: '"' :: '"' :: _ => do Reader.text ['"', '"', '"']; readLines '"' true
    | '"' :: _ => do Reader.char '"'; readBasic
    | '\'' :: '\'' :: '\'' :: _ => do Reader.text ['\'', '\'', '\'']; readLines '\'' false
    | '\'' :: _ => do Reader.char '\''; readLiteral
    | _ => failure
  (r cs).map fun p => (String.ofList p.1, p.2)

/-! ### Keys -/

/-- A character of a key without quotes. -/
def isBare (c : Char) : Bool :=
  c.isAlphanum || c = '-' || c = '_'

/-- A single key. -/
def readSimpleKey : Reader String := do
  match ← Reader.peek? with
  | some '"' => do Reader.char '"'; return String.ofList (← readBasic)
  | some '\'' => do Reader.char '\''; return String.ofList (← readLiteral)
  | _ => return String.ofList (← Reader.takeWhile1 isBare)

/-- A single key with the space around it. -/
def readSpacedKey : Reader String := do
  skipSpace
  let key ← readSimpleKey
  skipSpace
  return key

/-- The greatest number of keys in a dotted key, and of brackets and braces inside one another. -/
def maxDepth : Nat := 79

/-- A dotted key: the keys in front, and the last one. -/
def readKey : Reader (List String × String) := do
  let first ← readSpacedKey
  let rest ← Reader.repeatUntil do
    if ← Reader.accept '.' then return some (← readSpacedKey) else return none
  let keys := first :: rest
  match keys.getLast? with
  | some last => if keys.length ≤ maxDepth then return (keys.dropLast, last) else failure
  | none => failure

/-! ### Numbers -/

/-- Digits of the class `p`, with single underscores between them. -/
def readDigits (p : Char → Bool) : Reader (List Char) := do
  let first ← Reader.takeWhile1 p
  let rest ← Reader.repeatUntil do
    if ← Reader.accept '_' then return some (← Reader.takeWhile1 p) else return none
  return first ++ rest.flatten

/-- A sign, if there is one. -/
def readSign : Reader (List Char) := fun cs =>
  match cs with
  | '+' :: rest => some ([], rest)
  | '-' :: rest => some (['-'], rest)
  | cs => some ([], cs)

/-- The sign and digits of a decimal integer, which has no zero in front. -/
def readDecimal : Reader (List Char) := do
  let sign ← readSign
  match ← Reader.peek? with
  | some '0' => do Reader.char '0'; return sign ++ ['0']
  | _ => return sign ++ (← readDigits Char.isDigit)

/-- The fraction of a number, with its point. -/
def readFraction : Reader (List Char) := do
  if ← Reader.accept '.' then return '.' :: (← readDigits Char.isDigit) else return []

/-- The exponent of a number. -/
def readExponent : Reader (List Char) := do
  match ← Reader.peek? with
  | some c =>
    if c = 'e' || c = 'E' then
      Reader.char c
      let sign ← readSign
      return 'e' :: sign ++ (← readDigits Char.isDigit)
    else return []
  | none => return []

/-- A literal above the range of fractions is refused, one below it is not. -/
def isFloat (literal : List Char) : Bool :=
  match Decimal.read? literal with
  | some d => d.negative || d.toBinary64?.isSome
  | none => false

/-- A decimal integer or a fraction. -/
def readDecimalNumber : Reader Toml := do
  let whole ← readDecimal
  let fraction ← readFraction
  let exponent ← readExponent
  if fraction.isEmpty && exponent.isEmpty then
    match Integer.read? whole with
    | some i => return integer i
    | none => failure
  else
    let literal := whole ++ fraction ++ exponent
    if isFloat literal then return float (String.ofList literal) else failure

/-- An integer in base `base`, behind its mark. -/
def readRadix (base : Nat) : Reader Toml := do
  let isDigitOf (c : Char) : Bool := (hexDigit? c).any fun d => d.val < base
  let digits ← readDigits isDigitOf
  let n := (digits.filterMap hexDigit?).foldl (fun n d => n * base + d.val) 0
  if (n : Int) ≤ Integer.max64 then return integer n else failure

/-- Infinity or no number, behind the sign. -/
def readSpecial : Reader Toml := do
  let sign ← readSign
  match ← Reader.peek? with
  | some 'i' => do
    Reader.text ['i', 'n', 'f']
    return float (String.ofList (sign ++ ['i', 'n', 'f']))
  | _ => do
    Reader.text ['n', 'a', 'n']
    return float (String.ofList (sign ++ ['n', 'a', 'n']))

/-- An integer or a fraction. -/
def readNumber : Reader Toml := fun cs =>
  match cs with
  | '0' :: 'x' :: rest => readRadix 16 rest
  | '0' :: 'o' :: rest => readRadix 8 rest
  | '0' :: 'b' :: rest => readRadix 2 rest
  | 'i' :: _ | 'n' :: _ | '+' :: 'i' :: _ | '+' :: 'n' :: _ | '-' :: 'i' :: _ | '-' :: 'n' :: _ =>
    readSpecial cs
  | cs => readDecimalNumber cs

end Toml

end ListQuery
