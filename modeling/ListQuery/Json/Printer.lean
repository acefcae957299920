import ListQuery.Json.Basic
import ListQuery.Text.Character

/-!
# The text of JSON values

* `Json.compact` : the text without blanks.
* `Json.pretty` : the text over several lines, indented by two spaces a level.
-/

namespace ListQuery

namespace Json

/-- How a character is written inside a string. -/
def escapeChar (c : Char) : List Char :=
  let n := c.toNat
  if c = '"' then ['\\', '"']
  else if c = '\\' then ['\\', '\\']
  else if n = 8 then ['\\', 'b']
  else if n = 9 then ['\\', 't']
  else if n = 10 then ['\\', 'n']
  else if n = 12 then ['\\', 'f']
  else if n = 13 then ['\\', 'r']
  else if n < 32 then
    ['\\', 'u', '0', '0', hexChar (lastHexDigit (n / 16)), hexChar (lastHexDigit n)]
  else [c]

/-- A text between quotes. -/
def quote (s : String) : List Char :=
  '"' :: s.toList.flatMap escapeChar ++ ['"']

/-- The opening bracket of an object. -/
def openBrace : Char := '\x7b'

/-- The closing bracket of an object. -/
def closeBrace : Char := '\x7d'

mutual

/-- The characters of the compact text. -/
def compactChars : Json → List Char
  | null => "null".toList
  | bool true => "true".toList
  | bool false => "false".toList
  | number n => n.write.toList
  | string s => quote s
  | array items => '[' :: compactItems items ++ [']']
  | object members => openBrace :: compactMembers members ++ [closeBrace]

/-- The items of a sequence, with commas between them. -/
def compactItems : List Json → List Char
  | [] => []
  | [v] => compactChars v
  | v :: rest => compactChars v ++ ',' :: compactItems rest

/-- The members of an object, with commas between them. -/
def compactMembers : List (String × Json) → List Char
  | [] => []
  | [(name, v)] => quote name ++ ':' :: compactChars v
  | (name, v) :: rest => quote name ++ ':' :: compactChars v ++ ',' :: compactMembers rest

end

/-- The text without blanks. -/
def compact (v : Json) : String :=
  String.ofList v.compactChars

/-- A new line, indented for the level `level`. -/
def newLine (level : Nat) : List Char :=
  '\n' :: List.replicate (2 * level) ' '

mutual

/-- The characters of the text over several lines, the value standing at `level`. -/
def prettyChars (level : Nat) : Json → List Char
  | array [] => ['[', ']']
  | array items => '[' :: prettyItems (level + 1) items ++ newLine level ++ [']']
  | object [] => [openBrace, closeBrace]
  | object members =>
    openBrace :: prettyMembers (level + 1) members ++ newLine level ++ [closeBrace]
  | v => compactChars v

/-- The items of a sequence, each on a line of its own. -/
def prettyItems (level : Nat) : List Json → List Char
  | [] => []
  | [v] => newLine level ++ prettyChars level v
  | v :: rest => newLine level ++ prettyChars level v ++ ',' :: prettyItems level rest

/-- The members of an object, each on a line of its own. -/
def prettyMembers (level : Nat) : List (String × Json) → List Char
  | [] => []
  | [(name, v)] => newLine level ++ quote name ++ ':' :: ' ' :: prettyChars level v
  | (name, v) :: rest =>
    newLine level ++ quote name ++ ':' :: ' ' :: prettyChars level v ++
      ',' :: prettyMembers level rest

end

/-- The text over several lines. -/
def pretty (v : Json) : String :=
  String.ofList (v.prettyChars 0)

end Json

end ListQuery
