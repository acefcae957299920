import ListQuery.Filter.Value

/-!
# SQL conditions

* `Sql.Column` : a column of a named table.
* `Sql.Condition` : what may stand behind `WHERE`.
* `Sql.Condition.write` : its text.
* `Sql.quoteString` : a string literal.
-/

namespace ListQuery

namespace Sql

/-! ### Identifiers and literals -/

/-- An identifier between double quotes; one inside is written twice. -/
def quoteIdentifier (name : String) : List Char :=
  '"' :: Text.replaceChar '"' ['"', '"'] name.toList ++ ['"']

/-- A column, with the name under which its table is known. -/
structure Column where
  /-- The name of the table. -/
  table : String
  /-- The name of the column. -/
  name : String
deriving DecidableEq, Repr

/-- The text of a column. -/
def Column.write (c : Column) : List Char :=
  quoteIdentifier c.table ++ '.' :: quoteIdentifier c.name

/-- How a character is written inside a string literal. -/
def escapeChar (c : Char) : List Char :=
  if c = '\\' then ['\\', '\\']
  else if c = '"' then ['\\', '"']
  else if c = '\'' then ['\\', '\'']
  else if c.toNat = 0 then ['\\', '0']
  else if c.toNat = 8 then ['\\', 'b']
  else if c.toNat = 9 then ['\\', 't']
  else if c.toNat = 26 then ['\\', 'z']
  else if c.toNat = 10 then ['\\', 'n']
  else if c.toNat = 13 then ['\\', 'r']
  else [c]

/-- A string literal, of the form with escapes if it has any. -/
def quoteString (s : String) : List Char :=
  let body := s.toList.flatMap escapeChar
  (if body.contains '\\' then ['E'] else []) ++ '\'' :: body ++ ['\'']

/-- A constant in a statement. -/
inductive Literal where
  /-- A text. -/
  | string (s : String)
  /-- A truth value. -/
  | boolean (b : Bool)
  /-- An integer. -/
  | integer (i : Int)
  /-- A binary fraction. -/
  | real (x : Binary64)
  /-- An identifier of an object. -/
  | uuid (u : Uuid)
  /-- An instant. -/
  | timestamp (t : Instant)
deriving DecidableEq, Repr

namespace Literal

/-- The constant that stands for the value of a filter. -/
def ofValue : Value → Literal
  | .text s => string s
  | .enumeration name => string name
  | .boolean b => boolean b
  | .integer i => integer i
  | .numeric x => real x
  | .uuid u => uuid u
  | .timestamp t => timestamp t

/-- An instant in UTC to the microsecond, the rest being cut off. -/
def writeInstant (t : Instant) : List Char :=
  t.writeDate ++ ' ' :: t.writeTime ++ '.' :: Instant.padded 6 (t.fraction / 1000) ++
    " +00:00".toList

/-- The text of a constant. -/
def write : Literal → List Char
  | string s => quoteString s
  | boolean b => (if b then "TRUE" else "FALSE").toList
  | integer i => (toString i).toList
  | real x => (x.write Value.style).toList
  | uuid u => '\'' :: u.write.toList ++ ['\'']
  | timestamp t => '\'' :: writeInstant t ++ ['\'']

end Literal

/-! ### Conditions -/

/-- A comparison of a column with a constant. -/
inductive Operator where
  | equal
  | notEqual
  | order (c : Comparison)
deriving DecidableEq, Repr

/-- The sign of a comparison. -/
def Operator.write : Operator → List Char
  | equal => ['=']
  | notEqual => ['<', '>']
  | order .greaterThan => ['>']
  | order .greaterOrEqual => ['>', '=']
  | order .lessThan => ['<']
  | order .lessOrEqual => ['<', '=']

/-- What may stand behind `WHERE`. -/
inductive Condition where
  /-- A truth value. -/
  | constant (b : Bool)
  /-- A column compared with a constant. -/
  | compare (column : Column) (operator : Operator) (v : Literal)
  /-- A column that has one of several values. -/
  | oneOf (column : Column) (vs : List Literal)
  /-- A column, cast to a text if need be, whose lower-case form is like a pattern. -/
  | like (column : Column) (isCast : Bool) (pattern : String)
  /-- Both conditions. -/
  | both (a b : Condition)
  /-- One of two conditions. -/
  | either (a b : Condition)
deriving Repr

namespace Condition

/-- Conditions joined from left to right by `join`; one alone stands for itself, and none is the
constant `ofNone`. -/
def chain (join : Condition → Condition → Condition) (ofNone : Bool) : List Condition → Condition
  | [] => constant ofNone
  | c :: cs => cs.foldl join c

/-- All of the conditions. -/
def all (cs : List Condition) : Condition :=
  chain both true cs

/-- One of the conditions. -/
def any (cs : List Condition) : Condition :=
  chain either false cs

/-- The condition is one of two parts joined by `AND` or `OR`. -/
def isJoined : Condition → Bool
  | both _ _ => true
  | either _ _ => true
  | _ => false

/-- The text of a column as a text in lower case. -/
def writeLower (column : Column) (isCast : Bool) : List Char :=
  if isCast then "LOWER(CAST(".toList ++ column.write ++ " AS text))".toList
  else "LOWER(".toList ++ column.write ++ [')']

/-- The texts of constants with commas between them. -/
def writeList : List Literal → List Char
  | [] => []
  | [v] => v.write
  | v :: vs => v.write ++ ',' :: ' ' :: writeList vs

/-- A text between round brackets, if `isNeeded`. -/
def bracket (isNeeded : Bool) (cs : List Char) : List Char :=
  if isNeeded then '(' :: cs ++ [')'] else cs

/-- The text of a condition.  A joined part stands between brackets, unless it is the first part of
the same kind. -/
def write : Condition → List Char
  | constant b => (if b then "TRUE" else "FALSE").toList
  | compare column operator v => column.write ++ ' ' :: operator.write ++ ' ' :: v.write
  | oneOf _ [] => "1 = 2".toList
  | oneOf column vs => column.write ++ " IN (".toList ++ writeList vs ++ [')']
  | like column isCast pattern => writeLower column isCast ++ " LIKE ".toList ++ quoteString pattern
  | both a b =>
    let needsBrackets := match a with
      | either _ _ => true
      | _ => false
    bracket needsBrackets a.write ++ " AND ".toList ++ bracket b.isJoined b.write
  | either a b =>
    let needsBrackets := match a with
      | both _ _ => true
      | _ => false
    bracket needsBrackets a.write ++ " OR ".toList ++ bracket b.isJoined b.write

end Condition

/-! ### Patterns -/

/-- How a character is written in a pattern, where it stands for itself. -/
def escapePatternChar (c : Char) : List Char :=
  if c = '\\' ∨ c = '%' ∨ c = '_' then ['\\', c] else [c]

/-- A text as a part of a pattern, its characters standing for themselves. -/
def escapePattern (cs : List Char) : List Char :=
  cs.flatMap escapePatternChar

/-- The pattern of the texts that contain `needle` in lower case. -/
def containsPattern (needle : String) : String :=
  String.ofList ('%' :: escapePattern (Text.lowerChars needle.toList) ++ ['%'])

end Sql

end ListQuery
