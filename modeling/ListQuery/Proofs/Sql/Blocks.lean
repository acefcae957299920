import ListQuery.Proofs.Sql.Tokens
import Mathlib.Data.List.Perm.Basic

/-!
# The tables that a statement names

Each `SELECT` of a statement introduces names for its tables, and its columns are qualified by
names.  Which names these are can be told from the tokens: a name behind `FROM` or `AS` is
introduced there, and a name in front of a point qualifies what stands behind it.

* `Sql.Block` : a `SELECT`, with the names that it introduces and uses;
* `Sql.Select.blocks`, `Sql.Count.blocks` : those of a statement;
* `Sql.Block.IsScoped` : names are used where they have been introduced;
* `Sql.Select.mentions_tokens`, `Sql.Count.mentions_tokens` : a statement mentions no other names.
-/

namespace ListQuery

namespace Sql

open Token (keyword mark)

open scoped List

/-! ### Blocks -/

/-- The columns that a condition names.  Where there are no constants, the column is not written. -/
def Condition.columns : Condition → List Column
  | constant _ => []
  | compare column _ _ => [column]
  | oneOf _ [] => []
  | oneOf column (_ :: _) => [column]
  | like column _ _ => [column]
  | both a b => a.columns ++ b.columns
  | either a b => a.columns ++ b.columns

/-- The columns of a condition, if there is one. -/
def columnsOf (condition : Option Condition) : List Column :=
  condition.elim [] Condition.columns

/-- A `SELECT` of a statement. -/
structure Block where
  /-- The name that its `FROM` introduces. -/
  base : String
  /-- Its joins, each of which introduces a name. -/
  joins : List Join
  /-- The names that qualify what it selects, tests and sorts by. -/
  qualifiers : List String

/-- A place of a name in a statement. -/
inductive Mention where
  /-- The name is given to a table. -/
  | introduces (name : String)
  /-- The name tells whose column follows. -/
  | qualifies (name : String)
deriving DecidableEq

namespace Block

/-- The names that a block introduces. -/
def names (block : Block) : List String :=
  block.base :: block.joins.map Join.name

/-- The names that a block uses. -/
def uses (block : Block) : List String :=
  (block.joins.flatMap fun j => [j.left.table, j.right.table]) ++ block.qualifiers

/-- All places of names in a block. -/
def mentions (block : Block) : List Mention :=
  block.names.map .introduces ++ block.uses.map .qualifies

/-- Each join compares a column of a table in front of it, of which `names` are the first, with one
of its own. -/
def JoinsInScope (names : List String) : List Join → Prop
  | [] => True
  | j :: joins =>
    j.left.table ∈ names ∧ j.right.table = j.name ∧ JoinsInScope (names ++ [j.name]) joins

/-- Names are used where they have been introduced. -/
structure IsScoped (block : Block) : Prop where
  /-- A join uses names in front of it, and its own. -/
  joins : JoinsInScope [block.base] block.joins
  /-- All else is behind the joins. -/
  qualifiers : ∀ name ∈ block.qualifiers, name ∈ block.names

end Block

/-- The block of a query for identifiers. -/
def IdQuery.block (q : IdQuery) : Block where
  base := q.column.table
  joins := q.joins
  qualifiers := q.column.table :: (columnsOf q.condition).map Column.table

namespace Restriction

/-- The names that qualify the columns of the restriction itself. -/
def qualifiers : Restriction → List String
  | plain condition => (columnsOf condition).map Column.table
  | byId q => [q.column.table]

/-- The blocks inside a restriction. -/
def blocks : Restriction → List Block
  | plain _ => []
  | byId q => [q.block]

end Restriction

namespace Select

/-- The outer block of a query for rows, which joins nothing. -/
def outer (s : Select) : Block where
  base := s.table
  joins := []
  qualifiers := s.table :: s.restriction.qualifiers ++ s.order.map (·.column.table)

/-- The blocks of a query for rows. -/
def blocks (s : Select) : List Block :=
  s.outer :: s.restriction.blocks

end Select

/-- The blocks of a query for a number. -/
def Count.blocks : Count → List Block
  | rows table condition => [⟨table, [], (columnsOf condition).map Column.table⟩]
  | ids q => [⟨countedName, [], []⟩, q.block]

/-! ### Names among tokens -/

/-- What the key words are that introduce names. -/
def Token.introduces (w : List Char) : Bool :=
  w == "FROM".toList || w == "AS".toList

/-- The place of a name that two tokens show, one behind the other. -/
def mention? (t u : Token) : Option Mention :=
  match t, u with
  | .identifier name, .symbol s =>
    if s = ['.'] then some (.qualifies (String.ofList name)) else none
  | .word w, .identifier name =>
    if Token.introduces w then some (.introduces (String.ofList name)) else none
  | _, _ => none

/-- The places of names that tokens show, from left to right. -/
def mentions : List Token → List Mention
  | t :: u :: rest => (mention? t u).toList ++ mentions (u :: rest)
  | _ => []

/-- The token has no part in the place of a name. -/
def Token.isSeparator : Token → Bool
  | .word w => !Token.introduces w
  | .symbol s => s != ['.']
  | _ => false

section Mentions

variable {t u : Token} {ts us : List Token}

theorem mention?_separator (h : t.isSeparator = true) (u : Token) : mention? t u = none := by
  cases t with
  | word w =>
    have hw : Token.introduces w = false := by simpa [Token.isSeparator] using h
    cases u <;> simp [mention?, hw]
  | symbol s => cases u <;> rfl
  | _ => exact absurd h Bool.false_ne_true

theorem mention?_before_separator (h : u.isSeparator = true) (t : Token) : mention? t u = none := by
  cases u with
  | word w => cases t <;> rfl
  | symbol s =>
    have hs : s ≠ ['.'] := by simpa [Token.isSeparator] using h
    cases t <;> simp [mention?, hs]
  | _ => exact absurd h Bool.false_ne_true

theorem mentions_append (h : ∀ t ∈ ts.getLast?, ∀ u ∈ us.head?, mention? t u = none) :
    mentions (ts ++ us) = mentions ts ++ mentions us := by
  induction ts with
  | nil => rfl
  | cons t ts ih =>
    cases ts with
    | nil =>
      cases us with
      | nil => rfl
      | cons u us =>
        have hnone : mention? t u = none := h t rfl u rfl
        simp [mentions, hnone]
    | cons t' ts =>
      have ih := ih (by simpa using h)
      simp only [List.cons_append, mentions, List.append_assoc] at ih ⊢
      rw [ih]

/-- What a separator, or nothing, stands behind can be looked at by itself. -/
theorem mentions_append_of_head (h : us.head?.all Token.isSeparator = true) :
    mentions (ts ++ us) = mentions ts ++ mentions us := by
  refine mentions_append fun t _ u hu => mention?_before_separator ?_ t
  rw [Option.mem_def] at hu
  simpa [hu] using h

theorem mentions_cons (hu : u.isSeparator = true) : mentions (u :: us) = mentions us := by
  cases us with
  | nil => rfl
  | cons v us => simp [mentions, mention?_separator hu]

theorem mentions_append_cons (hu : u.isSeparator = true) :
    mentions (ts ++ u :: us) = mentions ts ++ mentions us := by
  rw [mentions_append_of_head (by simpa using hu), mentions_cons hu]

end Mentions

/-! ### Parts of statements -/

theorem mentions_column (c : Column) : mentions c.tokens = [.qualifies c.table] := by
  simp [mentions, mention?, Column.tokens, Token.name, mark]

theorem mentions_column_append_cons (c : Column) {u : Token} {us : List Token}
    (hu : u.isSeparator = true) :
    mentions (c.tokens ++ u :: us) = .qualifies c.table :: mentions us := by
  rw [mentions_append_cons hu, mentions_column]
  rfl

theorem mentions_literal (v : Literal) : mentions v.tokens = [] := by
  have hnumber (cs : List Char) : mentions (numberTokens cs) = [] := by
    unfold numberTokens
    split <;> rfl
  cases v with
  | integer i => exact hnumber _
  | real x => exact hnumber _
  | _ => rfl

theorem mentions_listTokens (vs : List Literal) : mentions (listTokens vs) = [] := by
  induction vs with
  | nil => rfl
  | cons v vs ih =>
    cases vs with
    | nil => exact mentions_literal v
    | cons w vs =>
      have hlist : listTokens (v :: w :: vs) = v.tokens ++ mark "," :: listTokens (w :: vs) := rfl
      rw [hlist, mentions_append_cons rfl, mentions_literal, ih]
      rfl

theorem mentions_bracketTokens (isNeeded : Bool) (tokens : List Token) :
    mentions (bracketTokens isNeeded tokens) = mentions tokens := by
  cases isNeeded with
  | false => rfl
  | true =>
    have h : bracketTokens true tokens = mark "(" :: (tokens ++ [mark ")"]) := rfl
    rw [h, mentions_cons rfl, mentions_append_cons rfl]
    exact List.append_nil _

/-- A condition mentions its columns. -/
theorem Condition.mentions_tokens (c : Condition) :
    mentions c.tokens = (c.columns.map Column.table).map .qualifies := by
  induction c with
  | constant b => rfl
  | compare column operator v =>
    have hoperator : (Token.symbol operator.write).isSeparator = true := by
      cases operator with
      | order c => cases c <;> rfl
      | _ => rfl
    rw [tokens, mentions_column_append_cons column hoperator, mentions_literal]
    rfl
  | oneOf column vs =>
    cases vs with
    | nil => rfl
    | cons v vs =>
      simp only [tokens, List.append_assoc, List.cons_append, List.nil_append]
      rw [mentions_column_append_cons column rfl, mentions_cons rfl, mentions_append_cons rfl,
        mentions_listTokens]
      rfl
  | like column isCast pattern =>
    have hlower : mentions (lowerTokens column isCast) = [.qualifies column.table] := by
      -- The `AS` of a cast has a type behind it, and so introduces no name.
      cases isCast <;>
        simp [lowerTokens, mentions, mention?, Column.tokens, Token.name, mark, keyword]
    have hlike : tokens (like column isCast pattern) =
        lowerTokens column isCast ++ keyword "LIKE" :: [.ofString pattern] :=
      List.append_assoc ..
    rw [hlike, mentions_append_cons rfl, hlower]
    rfl
  | both a b iha ihb =>
    simp only [tokens, List.append_assoc, List.cons_append, List.nil_append]
    rw [mentions_append_cons rfl, mentions_bracketTokens, mentions_bracketTokens, iha, ihb,
      columns, List.map_append, List.map_append]
  | either a b iha ihb =>
    simp only [tokens, List.append_assoc, List.cons_append, List.nil_append]
    rw [mentions_append_cons rfl, mentions_bracketTokens, mentions_bracketTokens, iha, ihb,
      columns, List.map_append, List.map_append]

theorem Join.mentions_tokens (j : Join) :
    mentions j.tokens =
      [.introduces j.name, .qualifies j.left.table, .qualifies j.right.table] := by
  simp [tokens, mentions, mention?, Token.introduces, Column.tokens, Token.name, mark, keyword]

theorem mentions_flatMap_join (joins : List Join) :
    mentions (joins.flatMap Join.tokens) = joins.flatMap fun j => mentions j.tokens := by
  induction joins with
  | nil => rfl
  | cons j joins ih =>
    have hhead : (joins.flatMap Join.tokens).head?.all Token.isSeparator = true := by
      cases joins <;> rfl
    rw [List.flatMap_cons, List.flatMap_cons, mentions_append_of_head hhead, ih]

theorem mentions_whereTokens (condition : Option Condition) :
    mentions (whereTokens condition) =
      ((columnsOf condition).map Column.table).map .qualifies := by
  cases condition with
  | none => rfl
  | some c => exact (mentions_cons rfl).trans c.mentions_tokens

theorem head?_whereTokens (condition : Option Condition) :
    (whereTokens condition).head?.all Token.isSeparator = true := by
  cases condition <;> rfl

theorem IdQuery.mentions_tokens (q : IdQuery) : mentions q.tokens ~ q.block.mentions := by
  have hjoins : (q.joins.flatMap Join.tokens).head?.all Token.isSeparator = true := by
    cases q.joins <;> rfl
  have hfront : mentions ([keyword "SELECT", keyword "DISTINCT"] ++ q.column.tokens ++
      [keyword "FROM"] ++ [.name q.column.table]) =
        [.qualifies q.column.table, .introduces q.column.table] := by
    simp [mentions, mention?, Token.introduces, Column.tokens, Token.name, mark, keyword]
  rw [tokens, mentions_append_of_head (head?_whereTokens _), mentions_append_of_head hjoins, hfront,
    mentions_flatMap_join, mentions_whereTokens]
  have hnames : q.joins.flatMap (fun j => mentions j.tokens) ~
      (q.joins.map Join.name).map .introduces ++
        (q.joins.flatMap fun j => [j.left.table, j.right.table]).map .qualifies := by
    rw [List.map_flatMap, List.map_map]
    simp only [Join.mentions_tokens]
    exact (List.map_append_flatMap_perm q.joins _ _).symm
  rw [List.perm_iff_count]
  intro place
  have hcount := hnames.count_eq place
  simp only [Block.mentions, Block.names, Block.uses, block, List.count_append, List.map_append,
    List.map_cons, List.count_cons, List.count_nil] at hcount ⊢
  omega

theorem Restriction.mentions_tokens (restriction : Restriction) :
    mentions restriction.tokens ~
      restriction.qualifiers.map .qualifies ++ restriction.blocks.flatMap Block.mentions := by
  cases restriction with
  | plain condition =>
    refine .of_eq ((mentions_whereTokens condition).trans ?_)
    exact (List.append_nil _).symm
  | byId q =>
    have htokens : (byId q).tokens =
        keyword "WHERE" :: (q.column.tokens ++ keyword "IN" :: mark "(" ::
          (q.tokens ++ [mark ")"])) := by
      simp [tokens]
    rw [htokens, mentions_cons rfl, mentions_append_cons rfl, mentions_cons rfl,
      mentions_append_cons rfl, mentions_column]
    simpa [qualifiers, blocks, mentions] using q.mentions_tokens

theorem mentions_orderTokens (keys : List OrderKey) :
    mentions (orderTokens keys) = (keys.map (·.column.table)).map .qualifies := by
  have hkey (k : OrderKey) :
      mentions (k.column.tokens ++ [directionToken k.direction]) = [.qualifies k.column.table] := by
    have hdirection : (directionToken k.direction).isSeparator = true := by
      cases k.direction <;> rfl
    rw [mentions_append_cons hdirection, mentions_column]
    rfl
  have hkeys : mentions (orderKeyTokens keys) = (keys.map (·.column.table)).map .qualifies := by
    induction keys with
    | nil => rfl
    | cons k keys ih =>
      cases keys with
      | nil => exact hkey k
      | cons l keys =>
        rw [orderKeyTokens, mentions_append_cons rfl, hkey, ih]
        · rfl
        · simp
  cases keys with
  | nil => rfl
  | cons k keys => exact (mentions_cons rfl).trans ((mentions_cons rfl).trans hkeys)

/-- **A query for rows mentions the names of its blocks**, and no others. -/
theorem Select.mentions_tokens (s : Select) :
    mentions s.tokens ~ s.blocks.flatMap Block.mentions := by
  have hrestriction : s.restriction.tokens.head?.all Token.isSeparator = true := by
    cases h : s.restriction with
    | plain condition => exact head?_whereTokens condition
    | byId q => rfl
  have horder : (orderTokens s.order).head?.all Token.isSeparator = true := by
    cases s.order <;> rfl
  have hfront : mentions ([keyword "SELECT"] ++ [.name s.table] ++
      [mark ".", mark "*", keyword "FROM"] ++ [.name s.table]) =
        [.qualifies s.table, .introduces s.table] := by
    simp [mentions, mention?, Token.introduces, Token.name, mark, keyword]
  have htokens : s.tokens = ([keyword "SELECT"] ++ [.name s.table] ++
      [mark ".", mark "*", keyword "FROM"] ++ [.name s.table]) ++ s.restriction.tokens ++
        orderTokens s.order ++ keyword "LIMIT" :: .number (Nat.toDigits 10 s.limit) ::
          keyword "OFFSET" :: [.number (Nat.toDigits 10 s.offset)] := by
    simp [tokens]
  have hlimits : mentions (.number (Nat.toDigits 10 s.limit) ::
      keyword "OFFSET" :: [.number (Nat.toDigits 10 s.offset)]) = [] := rfl
  rw [htokens, mentions_append_cons rfl, mentions_append_of_head horder,
    mentions_append_of_head hrestriction, hfront, hlimits, mentions_orderTokens,
    List.perm_iff_count]
  intro place
  have hcount := s.restriction.mentions_tokens.count_eq place
  simp only [blocks, outer, Block.mentions, Block.names, Block.uses, List.flatMap_cons,
    List.flatMap_nil, List.count_append, List.map_append, List.map_cons, List.map_nil,
    List.count_cons, List.count_nil, List.nil_append, List.cons_append] at hcount ⊢
  omega

theorem Count.mentions_tokens (c : Count) :
    mentions c.tokens ~ c.blocks.flatMap Block.mentions := by
  cases c with
  | rows table condition =>
    have hfront : mentions ([keyword "SELECT", keyword "COUNT", mark "(", mark "*", mark ")",
        keyword "FROM"] ++ [.name table]) = [.introduces table] := by
      simp [mentions, mention?, Token.introduces, Token.name, mark, keyword]
    rw [tokens, mentions_append_of_head (head?_whereTokens _), hfront, mentions_whereTokens]
    refine .of_eq ?_
    simp [blocks, Block.mentions, Block.names, Block.uses]
  | ids q =>
    have hname : mentions [keyword "AS", .name countedName] = [.introduces countedName] := rfl
    have htokens : (ids q).tokens = ([keyword "SELECT", keyword "COUNT", mark "(", mark "*",
        mark ")", keyword "FROM"] ++ mark "(" :: q.tokens) ++ mark ")" ::
          [keyword "AS", .name countedName] := by
      simp [tokens]
    have hfront : mentions [keyword "SELECT", keyword "COUNT", mark "(", mark "*", mark ")",
        keyword "FROM"] = [] := rfl
    rw [htokens, mentions_append_cons rfl, mentions_append_cons rfl, hfront, hname]
    have hblocks : (ids q).blocks.flatMap Block.mentions =
        .introduces countedName :: q.block.mentions := by
      simp [blocks, Block.mentions, Block.names, Block.uses]
    rw [hblocks]
    exact (List.perm_append_singleton _ _).trans (q.mentions_tokens.cons _)

end Sql

end ListQuery
