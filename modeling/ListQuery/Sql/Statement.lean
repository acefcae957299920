import ListQuery.Sort
import ListQuery.Sql.Condition

/-!
# SQL statements

* `Sql.Join` : a table joined on the equality of two columns.
* `Sql.IdQuery` : the identifiers of the rows that meet a condition with some joined rows.
* `Sql.Select` : the rows of a page.
* `Sql.Count` : the number of all rows.
-/

namespace ListQuery

namespace Sql

/-- A table joined to those in front of it, rows without a partner being kept. -/
structure Join where
  /-- The table. -/
  table : String
  /-- The name under which it is known in the statement. -/
  name : String
  /-- A column of one of the tables in front. -/
  left : Column
  /-- The column that must equal it. -/
  right : Column
deriving DecidableEq, Repr

/-- The text of a join. -/
def Join.write (j : Join) : List Char :=
  " LEFT JOIN ".toList ++ quoteIdentifier j.table ++ " AS ".toList ++ quoteIdentifier j.name ++
    " ON ".toList ++ j.left.write ++ " = ".toList ++ j.right.write

/-- The text of a condition behind `WHERE`, if there is one. -/
def writeWhere : Option Condition → List Char
  | none => []
  | some c => " WHERE ".toList ++ c.write

/-- The identifiers, each once, of the rows of a table that meet a condition with some rows of the
joined tables. -/
structure IdQuery where
  /-- The column of the identifiers, in the base table. -/
  column : Column
  /-- The joined tables. -/
  joins : List Join
  /-- The condition. -/
  condition : Option Condition
deriving Repr

/-- The text of a query for identifiers. -/
def IdQuery.write (q : IdQuery) : List Char :=
  "SELECT DISTINCT ".toList ++ q.column.write ++ " FROM ".toList ++
    quoteIdentifier q.column.table ++ q.joins.flatMap Join.write ++ writeWhere q.condition

/-- Which rows of the base table are meant. -/
inductive Restriction where
  /-- Those that meet a condition; all without one. -/
  | plain (condition : Option Condition)
  /-- Those whose identifiers a query gives. -/
  | byId (q : IdQuery)
deriving Repr

/-- The text of a restriction. -/
def Restriction.write : Restriction → List Char
  | plain condition => writeWhere condition
  | byId q => " WHERE ".toList ++ q.column.write ++ " IN (".toList ++ q.write ++ [')']

/-- A column to sort by. -/
structure OrderKey where
  /-- The column. -/
  column : Column
  /-- The direction. -/
  direction : Direction
deriving DecidableEq, Repr

/-- The text of a column to sort by. -/
def OrderKey.write (k : OrderKey) : List Char :=
  k.column.write ++ (match k.direction with
    | .ascending => " ASC"
    | .descending => " DESC").toList

/-- The texts of columns to sort by, with commas between them. -/
def writeOrderKeys : List OrderKey → List Char
  | [] => []
  | [k] => k.write
  | k :: ks => k.write ++ ',' :: ' ' :: writeOrderKeys ks

/-- The text of an order, if there is one. -/
def writeOrder (keys : List OrderKey) : List Char :=
  if keys.isEmpty then [] else " ORDER BY ".toList ++ writeOrderKeys keys

/-- The rows of a page. -/
structure Select where
  /-- The base table. -/
  table : String
  /-- Which of its rows are meant. -/
  restriction : Restriction
  /-- Their order. -/
  order : List OrderKey
  /-- The greatest number of rows. -/
  limit : Nat
  /-- The number of rows in front of them. -/
  offset : Nat
deriving Repr

/-- The characters of the text of a query for rows. -/
def Select.chars (s : Select) : List Char :=
  "SELECT ".toList ++ quoteIdentifier s.table ++ ".* FROM ".toList ++ quoteIdentifier s.table ++
    s.restriction.write ++ writeOrder s.order ++ " LIMIT ".toList ++ Nat.toDigits 10 s.limit ++
    " OFFSET ".toList ++ Nat.toDigits 10 s.offset

/-- The text of a query for rows. -/
def Select.write (s : Select) : String :=
  String.ofList s.chars

/-- The number of all rows that are meant. -/
inductive Count where
  /-- The rows of a table that meet a condition. -/
  | rows (table : String) (condition : Option Condition)
  /-- The identifiers that a query gives. -/
  | ids (q : IdQuery)
deriving Repr

/-- The name of the query whose rows are counted. -/
def countedName : String := "matching"

/-- The characters of the text of a query for a number. -/
def Count.chars : Count → List Char
  | rows table condition =>
    "SELECT COUNT(*) FROM ".toList ++ quoteIdentifier table ++ writeWhere condition
  | ids q =>
    "SELECT COUNT(*) FROM (".toList ++ q.write ++ ") AS ".toList ++ quoteIdentifier countedName

/-- The text of a query for a number. -/
def Count.write (c : Count) : String :=
  String.ofList c.chars

end Sql

end ListQuery
