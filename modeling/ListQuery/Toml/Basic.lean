import ListQuery.Toml.Datetime

/-!
# TOML values

* `Toml` : a value of a TOML document.
* `Toml.Origin` : how a table came about, which decides how it may be extended.
* `Toml.descend` : a change at the end of a path of keys.
* `Toml.openTable`, `Toml.openElement`, `Toml.assign` : what the lines of a document do to its
  table.
-/

namespace ListQuery

/-- How a table came about. -/
inductive Toml.Origin where
  /-- It has a header of its own, or is the table of the whole document. -/
  | header
  /-- It stands on the way in the header of another table. -/
  | way
  /-- It stands on the way in a dotted key. -/
  | dotted
  /-- It is written between braces. -/
  | inline
deriving DecidableEq, Repr

/-- A value of a document. -/
inductive Toml where
  /-- A string. -/
  | text (s : String)
  /-- An integer. -/
  | integer (i : Int)
  /-- A fraction, as it is written. -/
  | float (literal : String)
  /-- A truth value. -/
  | boolean (b : Bool)
  /-- A date, a time or both. -/
  | datetime (d : Toml.Datetime)
  /-- Items between brackets. -/
  | array (items : List Toml)
  /-- Values under keys. -/
  | table (origin : Toml.Origin) (members : List (String × Toml))
  /-- Tables that share one header, each with its own values. -/
  | tables (elements : List (List (String × Toml)))

namespace Toml

/-- Values under keys, each key once. -/
abbrev Members := List (String × Toml)

/-- A step of a path: a key, and whether it is part of a dotted key. -/
structure Step where
  /-- The key. -/
  key : String
  /-- It is part of a dotted key, not of a header. -/
  isDotted : Bool

/-- The members with another value under a key that is there. -/
def replace (key : String) (v : Toml) (members : Members) : Members :=
  members.map fun p => if p.1 = key then (key, v) else p

/-- Changes the table at the end of a path by `f`, or fails.  Tables on the way are made where they
are missing.  The way does not lead into a value between braces, and dotted keys do not lead into a
table that has a header; in tables with a shared header it leads into the last one. -/
def descend (f : Origin → Members → Option Members) : List Step → Origin → Members → Option Members
  | [], origin, members => f origin members
  | s :: path, _, members =>
    match members.lookup s.key with
    | none => do
      let origin := if s.isDotted then Origin.dotted else Origin.way
      let inner ← descend f path origin []
      return members ++ [(s.key, table origin inner)]
    | some (table origin inner) =>
      if origin = .inline ∨ (s.isDotted ∧ origin = .header) then none
      else do
        let inner ← descend f path origin inner
        return replace s.key (table origin inner) members
    | some (tables elements) => do
      let last ← elements.getLast?
      let last ← descend f path .header last
      return replace s.key (tables (elements.dropLast ++ [last])) members
    | some _ => none

/-- The steps of a header. -/
def headerSteps (keys : List String) : List Step :=
  keys.map (⟨·, false⟩)

/-- The steps of the keys in front of the last of a dotted key. -/
def dottedSteps (keys : List String) : List Step :=
  keys.map (⟨·, true⟩)

/-- A header `[way.key]`: the table must be new, or known only from the way to another one. -/
def openTable (way : List String) (key : String) (members : Members) : Option Members :=
  descend (fun _ inner =>
    match inner.lookup key with
    | none => some (inner ++ [(key, table .header [])])
    | some (table .way own) => some (replace key (table .header own) inner)
    | some _ => none) (headerSteps way) .header members

/-- A header `[[way.key]]`: one more table under a shared header. -/
def openElement (way : List String) (key : String) (members : Members) : Option Members :=
  descend (fun _ inner =>
    match inner.lookup key with
    | none => some (inner ++ [(key, tables [[]])])
    | some (tables elements) => some (replace key (tables (elements ++ [[]])) inner)
    | some _ => none) (headerSteps way) .header members

/-- Puts a value under a new key into the table that the steps of a dotted key lead to: behind such
steps only a table made by a dotted key takes values. -/
def putNew (isBehindDots : Bool) (key : String) (v : Toml) (origin : Origin) (members : Members) :
    Option Members :=
  if isBehindDots ∧ origin ≠ .dotted then none
  else
    match members.lookup key with
    | none => some (members ++ [(key, v)])
    | some _ => none

/-- A line `way.key = v` below the header `header`. -/
def assign (header way : List String) (key : String) (v : Toml) (members : Members) :
    Option Members :=
  descend (putNew (!way.isEmpty) key v) (headerSteps header ++ dottedSteps way) .header members

/-- The table between braces with the given pairs of dotted keys and values. -/
def inlineTable (pairs : List ((List String × String) × Toml)) : Option Members :=
  pairs.foldlM (fun members p =>
    descend (putNew (!p.1.1.isEmpty) p.1.2 p.2) (dottedSteps p.1.1) .inline members) []

end Toml

end ListQuery
