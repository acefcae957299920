import ListQuery.Toml.Scalar

/-!
# TOML documents

* `Toml.readValue` : a value.
* `Toml.Line` : what one line of a document says; the word is read by `Toml.readLine`.
* `Toml.read?` : the table that a document writes.
-/

namespace ListQuery

namespace Toml

/-! ### Values -/

/-- Skips a comment, if there is one. -/
def skipComment : Reader Unit := do
  if ← Reader.accept '#' then
    let _ ← Reader.takeWhile isPrintable

/-- Skips blanks, comments and ends of lines. -/
def skipBlankLines : Reader Unit := do
  let _ ← Reader.repeatUntil (α := Unit) do
    match ← Reader.peek? with
    | some c =>
      if isSpace c then
        skipSpace
        return some ()
      else if c = '#' then
        skipComment
        if ← acceptNewline then return some () else failure
      else if ← acceptNewline then return some ()
      else return none
    | none => return none

/-- Items between brackets, behind the opening one; a comma may follow the last. -/
def readItems (item : Reader Toml) : Reader (List Toml) := do
  skipBlankLines
  if ← Reader.accept ']' then return []
  let first ← item
  let rest ← Reader.repeatUntil do
    skipBlankLines
    if ← Reader.accept ',' then
      skipBlankLines
      if ← Reader.accept ']' then return none
      return some (← item)
    else
      Reader.char ']'
      return none
  return first :: rest

/-- A pair of a dotted key and a value. -/
def readPair (value : Reader Toml) : Reader ((List String × String) × Toml) := do
  let key ← readKey
  Reader.char '='
  skipSpace
  return (key, ← value)

/-- The pairs between braces, behind the opening one: on one line, with commas between them only. -/
def readPairs (value : Reader Toml) : Reader (List ((List String × String) × Toml)) := do
  skipSpace
  if ← Reader.accept '\x7d' then return []
  let first ← readPair value
  let rest ← Reader.repeatUntil do
    skipSpace
    if ← Reader.accept ',' then return some (← readPair value)
    else
      Reader.char '\x7d'
      return none
  return first :: rest

/-- A string, number, date or truth value. -/
def readScalar : Reader Toml := fun cs =>
  match cs with
  | '"' :: _ | '\'' :: _ => (readString cs).map fun p => (text p.1, p.2)
  | 't' :: _ => (Reader.text "true".toList cs).map fun p => (boolean true, p.2)
  | 'f' :: _ => (Reader.text "false".toList cs).map fun p => (boolean false, p.2)
  | cs =>
    if Datetime.isStart cs then (Datetime.read cs).map fun p => (datetime p.1, p.2)
    else readNumber cs

/-- A value with at most `depth` levels of brackets and braces. -/
def readValue (depth : Nat) : Reader Toml := do
  match ← Reader.peek? with
  | some '[' =>
    match depth with
    | 0 => failure
    | depth + 1 => do
      Reader.char '['
      return array (← readItems (readValue depth))
  | some '\x7b' =>
    match depth with
    | 0 => failure
    | depth + 1 => do
      Reader.char '\x7b'
      match inlineTable (← readPairs (readValue depth)) with
      | some members => return table .inline members
      | none => failure
  | _ => readScalar

/-! ### Lines -/

/-- What a line of a document says. -/
inductive Line where
  /-- Nothing. -/
  | blank
  /-- The header of a table. -/
  | header (way : List String) (key : String)
  /-- The header of one of several tables. -/
  | element (way : List String) (key : String)
  /-- A value under a dotted key. -/
  | pair (way : List String) (key : String) (v : Toml)

/-- Reads to the end of the line, over a comment at most. -/
def readLineEnd : Reader Unit := do
  skipSpace
  skipComment
  if ← acceptNewline then return () else Reader.atEnd

/-- A line, with its end. -/
def readLine : Reader Line := do
  skipSpace
  match ← get with
  | '#' :: _ | '\n' :: _ | '\r' :: _ => do
    readLineEnd
    return .blank
  | '[' :: '[' :: _ => do
    Reader.text ['[', '[']
    let (way, key) ← readKey
    Reader.text [']', ']']
    readLineEnd
    return .element way key
  | '[' :: _ => do
    Reader.char '['
    let (way, key) ← readKey
    Reader.char ']'
    readLineEnd
    return .header way key
  | _ => do
    let ((way, key), v) ← readPair (readValue maxDepth)
    readLineEnd
    return .pair way key v

/-- The lines of a document. -/
def readLinesOf : Reader (List Line) :=
  Reader.repeatUntil do
    skipSpace
    if (← get).isEmpty then return none else return some (← readLine)

/-- The table of a document while its lines are read, and the header that is in force. -/
structure State where
  /-- The keys of the header. -/
  header : List String
  /-- The table so far. -/
  members : Members

/-- What a line does. -/
def State.add (s : State) : Line → Option State
  | .blank => some s
  | .header way key => (openTable way key s.members).map (⟨way ++ [key], ·⟩)
  | .element way key => (openElement way key s.members).map (⟨way ++ [key], ·⟩)
  | .pair way key v => (assign s.header way key v s.members).map (⟨s.header, ·⟩)

/-- The character that may stand in front of a document as a mark of its encoding. -/
def byteOrderMark : Char := Char.ofNat 0xFEFF

/-- The text without a mark of its encoding. -/
def dropMark : List Char → List Char
  | c :: cs => if c = byteOrderMark then cs else c :: cs
  | [] => []

/-- The table that a document writes. -/
def read? (s : String) : Option Members := do
  let lines ← Reader.run? readLinesOf (dropMark s.toList)
  let state ← lines.foldlM State.add ⟨[], []⟩
  return state.members

end Toml

end ListQuery
