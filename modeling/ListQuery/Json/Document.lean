import ListQuery.Json.Basic
import ListQuery.Text.Character
import ListQuery.Text.Reader

/-!
# JSON documents

A document is a JSON text as it is written: the members of an object stand in the order of the text,
a name may occur twice, and a leaf may denote no value.

* `Document` : the trees of a text, as far as they are not nested too deep.
* `Document.read?` : the document that a text writes.
* `Document.value?` : its value, if every leaf has one.
* `Json.read?` : the value that a text writes.
-/

namespace ListQuery

/-- A JSON text as it is written. -/
inductive Document where
  /-- The word for no value. -/
  | null
  /-- A truth value. -/
  | bool (b : Bool)
  /-- A number, `none` if it is out of range. -/
  | number (n : Option Number)
  /-- A string, `none` if half of a surrogate pair is missing. -/
  | string (s : Option String)
  /-- Items between brackets. -/
  | array (items : List Document)
  /-- Named members between braces. -/
  | object (members : List (Option String × Document))
  /-- An array or an object that is nested too deep to have a value. -/
  | deep

namespace Document

/-- How many levels of brackets and braces a value may have. -/
def maxDepth : Nat := 127

/-! ### Strings -/

/-- A part of a string: a character, or a sixteen-bit unit given by its number. -/
inductive Piece where
  /-- A character that stands for itself or has an escape of its own. -/
  | char (c : Char)
  /-- A unit of UTF-16. -/
  | codeUnit (n : Nat)

/-- The character that a backslash makes of `c`. -/
def escaped? (c : Char) : Option Char :=
  if c = '"' || c = '\\' || c = '/' then some c
  else if c = 'b' then some (Char.ofNat 8)
  else if c = 'f' then some (Char.ofNat 12)
  else if c = 'n' then some (Char.ofNat 10)
  else if c = 'r' then some (Char.ofNat 13)
  else if c = 't' then some (Char.ofNat 9)
  else none

/-- The number with the four hexadecimal digits. -/
def hexUnit? (a b c d : Char) : Option Nat := do
  let a ← hexDigit? a
  let b ← hexDigit? b
  let c ← hexDigit? c
  let d ← hexDigit? d
  return ((a.val * 16 + b.val) * 16 + c.val) * 16 + d.val

/-- The parts of a string up to its closing quote, and the text behind it. -/
def readPieces? : List Char → Option (List Piece × List Char)
  | [] => none
  | '"' :: cs => some ([], cs)
  | '\\' :: 'u' :: a :: b :: c :: d :: cs => do
    let n ← hexUnit? a b c d
    let (pieces, rest) ← readPieces? cs
    return (.codeUnit n :: pieces, rest)
  | '\\' :: c :: cs => do
    let c ← escaped? c
    let (pieces, rest) ← readPieces? cs
    return (.char c :: pieces, rest)
  | c :: cs =>
    if c.toNat < 32 || c = '\\' then none
    else do
      let (pieces, rest) ← readPieces? cs
      return (.char c :: pieces, rest)

/-- The characters of a string; two surrogates in the right order are one character. -/
def joinPieces? : List Piece → Option (List Char)
  | [] => some []
  | .char c :: rest => (joinPieces? rest).map (c :: ·)
  | .codeUnit n :: rest =>
    if n < 0xD800 || 0xDFFF < n then (joinPieces? rest).map (Char.ofNat n :: ·)
    else if 0xDC00 ≤ n then none
    else
      match rest with
      | .codeUnit m :: rest =>
        if 0xDC00 ≤ m && m ≤ 0xDFFF then
          (joinPieces? rest).map (Char.ofNat (0x10000 + (n - 0xD800) * 1024 + (m - 0xDC00)) :: ·)
        else none
      | _ => none

/-- A string, behind its opening quote. -/
def readString : Reader (Option String) := fun cs =>
  (readPieces? cs).map fun p => ((joinPieces? p.1).map String.ofList, p.2)

/-! ### Numbers -/

/-- The digits before the point: no zero stands in front of another digit. -/
def readWhole : Reader (List Char) := do
  let ds ← Reader.takeWhile1 Char.isDigit
  match ds with
  | '0' :: _ :: _ => failure
  | ds => return ds

/-- The digits behind the point, if there is one. -/
def readFraction : Reader (Option (List Char)) := do
  if ← Reader.accept '.' then
    return some (← Reader.takeWhile1 Char.isDigit)
  else
    return none

/-- The exponent, if there is one. -/
def readExponent : Reader (Option Int) := do
  match ← Reader.takeWhile fun c => c = 'e' || c = 'E' with
  | [] => return none
  | [_] => do
    let negative ← Reader.accept '-'
    let _ ← if negative then pure false else Reader.accept '+'
    let n : Int := Digits.value (← Reader.takeWhile1 Char.isDigit)
    return some (if negative then -n else n)
  | _ => failure

/-- A number. -/
def readNumber : Reader (Option Number) := do
  let negative ← Reader.accept '-'
  let whole ← readWhole
  let fraction ← readFraction
  let exponent ← readExponent
  return Number.ofLiteral? negative whole fraction exponent

/-! ### Values -/

/-- The characters that may stand between two parts of a text. -/
def isSpace (c : Char) : Bool :=
  c = ' ' || c = '\n' || c = '\t' || c = '\r'

/-- Skips the space in front of the next part. -/
def skipSpace : Reader Unit := do
  let _ ← Reader.takeWhile isSpace

/-- Items separated by commas, up to the bracket `close`. -/
def readItems {α : Type} (close : Char) (item : Reader α) : Reader (List α) := do
  skipSpace
  if ← Reader.accept close then return []
  let first ← item
  let rest ← Reader.repeatUntil do
    skipSpace
    if ← Reader.accept ',' then
      skipSpace
      return some (← item)
    else
      Reader.char close
      return none
  return first :: rest

/-- A member of an object: its name and what `value` reads behind the colon. -/
def readMember {α : Type} (value : Reader α) : Reader (Option String × α) := do
  Reader.char '"'
  let name ← readString
  skipSpace
  Reader.char ':'
  return (name, ← value)

/-- A string, a word or a number. -/
def readLeaf : Reader Document := do
  match ← Reader.peek? with
  | some '"' => do
    Reader.char '"'
    return .string (← readString)
  | some 'n' => do
    Reader.text "null".toList
    return .null
  | some 't' => do
    Reader.text "true".toList
    return .bool true
  | some 'f' => do
    Reader.text "false".toList
    return .bool false
  | _ => return .number (← readNumber)

/-- Goes over what stands between brackets and braces, up to the last of the closing ones in
`pending`, the innermost first.  `isFirst` says that nothing stands yet in the innermost.  Each step
takes at least one character, so that `limit`, the length of the text, is enough of them. -/
def skipNested (limit : Nat) (isFirst : Bool) (pending : List Char) : Reader Unit :=
  match limit, pending with
  | _, [] => return ()
  | 0, _ :: _ => failure
  | limit + 1, close :: outer => do
    skipSpace
    if ← Reader.accept close then skipNested limit false outer
    else
      if !isFirst then Reader.char ','
      skipSpace
      if close = '\x7d' then
        let _ ← readMember (pure ())
        skipSpace
      if ← Reader.accept '[' then skipNested limit true (']' :: pending)
      else if ← Reader.accept '\x7b' then skipNested limit true ('\x7d' :: pending)
      else
        let _ ← readLeaf
        skipNested limit false pending

/-- An array or an object of whatever depth, behind its opening bracket or brace. -/
def readDeep (close : Char) : Reader Document := do
  skipNested ((← get).length + 1) true [close]
  return .deep

/-- A value, and the space in front of it.  What has more than `depth` levels of brackets and braces
is read as far as these go. -/
def readValue (depth : Nat) : Reader Document := do
  skipSpace
  match ← Reader.peek? with
  | some '[' => do
    Reader.char '['
    match depth with
    | 0 => readDeep ']'
    | depth + 1 => return .array (← readItems ']' (readValue depth))
  | some '\x7b' => do
    Reader.char '\x7b'
    match depth with
    | 0 => readDeep '\x7d'
    | depth + 1 => return .object (← readItems '\x7d' (readMember (readValue depth)))
  | _ => readLeaf

/-- The document that a text writes. -/
def read? (s : String) : Option Document :=
  Reader.run? (do let d ← readValue maxDepth; skipSpace; return d) s.toList

/-! ### Meaning -/

mutual

/-- The value of a document, if every leaf has one and none is nested too deep; of members with one
name the last counts. -/
def value? : Document → Option Json
  | null => some .null
  | bool b => some (.bool b)
  | number n => n.map .number
  | string s => s.map .string
  | array items => (values? items).map .array
  | object members => (memberValues? members).map .ofMembers
  | deep => none

/-- The values of items. -/
def values? : List Document → Option (List Json)
  | [] => some []
  | d :: rest => do
    let v ← value? d
    return v :: (← values? rest)

/-- The names and values of members. -/
def memberValues? : List (Option String × Document) → Option (List (String × Json))
  | [] => some []
  | (name, d) :: rest => do
    let name ← name
    let v ← value? d
    return (name, v) :: (← memberValues? rest)

end

end Document

namespace Json

/-- The value that a text writes. -/
def read? (s : String) : Option Json :=
  (Document.read? s).bind Document.value?

end Json

end ListQuery
