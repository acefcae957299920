import ListQuery.Proofs.Sql.Lexer
import ListQuery.Sql.Statement

/-!
# The tokens of statements

Each part of a statement is read as the tokens that its parts are read as, if all names in it have
characters.

* `Sql.IsNumber.of_integer`, `Sql.IsNumber.of_binary64` : numbers are written as numbers are read;
* `Sql.Literal.reads`, `Sql.Condition.reads`, `Sql.IdQuery.reads` : the tokens of the parts;
* `Sql.Select.lex_write`, `Sql.Count.lex_write` : the tokens of statements.
-/

namespace ListQuery

namespace Sql

open Lexer

/-- The key word. -/
def Token.keyword (s : String) : Token :=
  .word s.toList

/-- The operator or delimiter. -/
def Token.mark (s : String) : Token :=
  .symbol s.toList

/-- The name between double quotes. -/
def Token.name (s : String) : Token :=
  .identifier s.toList

open Token (keyword mark)

/-! ### Numbers -/

theorem isDigit_of_mem_zeros {n : Nat} {c : Char} (h : c ∈ Decimal.zeros n) : c.isDigit = true := by
  rw [List.eq_of_mem_replicate h]
  rfl

theorem isDigit_of_mem_toDigits {n : Nat} {c : Char} (h : c ∈ Nat.toDigits 10 n) :
    c.isDigit = true :=
  Nat.isDigit_of_mem_toDigits (by decide) (by decide) h

theorem IsUnsigned.of_nat (n : Nat) : IsUnsigned (Nat.toDigits 10 n) :=
  .whole Nat.toDigits_ne_nil fun _ => isDigit_of_mem_toDigits

theorem IsNumber.of_integer (i : Int) : IsNumber (toString i).toList := by
  cases i with
  | ofNat n =>
    have h : (toString (Int.ofNat n)).toList = Nat.toDigits 10 n := String.toList_ofList
    exact h ▸ .inl (.of_nat n)
  | negSucc n =>
    have h : (toString (Int.negSucc n)).toList = '-' :: Nat.toDigits 10 (n + 1) := by
      change ("-" ++ String.ofList (Nat.toDigits 10 (n + 1))).toList = _
      simp [String.toList_append]
    exact .inr ⟨_, .of_nat (n + 1), h⟩

theorem IsUnsigned.of_placePoint {ds : List Char} (hds : ∀ c ∈ ds, c.isDigit = true)
    (hne : ds ≠ []) (point : Int) : IsUnsigned (Decimal.placePoint false ds point) := by
  unfold Decimal.placePoint
  -- The point stands in front of the digits, between two of them, or behind them all.
  split
  case isTrue =>
    refine .fraction (List.cons_ne_nil '0' []) (by simp) fun c hc => ?_
    obtain hc | hc := List.mem_append.1 hc
    · exact isDigit_of_mem_zeros hc
    · exact hds c hc
  case isFalse hpos =>
    split
    case isTrue hlt =>
      refine .fraction ?_ (fun c hc => hds c (List.mem_of_mem_take hc))
        fun c hc => hds c (List.mem_of_mem_drop hc)
      have hlength : 0 < (ds.take point.toNat).length := by
        rw [List.length_take]
        omega
      exact List.length_pos_iff.1 hlength
    case isFalse =>
      refine .whole (by simp [hne]) fun c hc => ?_
      simp only [Bool.false_eq_true, if_false, List.append_nil, List.mem_append] at hc
      obtain hc | hc := hc
      · exact hds c hc
      · exact isDigit_of_mem_zeros hc

/-- A binary fraction is written as a number, never with an exponent. -/
theorem IsNumber.of_binary64 (x : Binary64) : IsNumber (x.write Value.style).toList := by
  have hsign {cs : List Char} (hcs : IsUnsigned cs) (negative : Bool) :
      IsNumber ((if negative then ['-'] else []) ++ cs) := by
    cases negative with
    | true => exact .inr ⟨cs, hcs, rfl⟩
    | false => exact .inl hcs
  rw [Binary64.write, Decimal.write]
  split
  · rw [String.toList_ofList]
    exact hsign (.of_nat 0) _
  · rw [String.toList_ofList]
    exact hsign (.of_placePoint (fun _ => isDigit_of_mem_toDigits) Nat.toDigits_ne_nil _) _

/-! ### Columns -/

/-- The names of the column have characters. -/
def Column.IsNamed (c : Column) : Prop :=
  c.table ≠ "" ∧ c.name ≠ ""

/-- The tokens of a column. -/
def Column.tokens (c : Column) : List Token :=
  [.name c.table, mark ".", .name c.name]

namespace Lexer

theorem run_identifierQuote {name : String} (h : name ≠ "") (cs : List Char) :
    run (.identifierQuote name.toList) ('.' :: cs) = (run .point cs).behind [.name name] := by
  have hname : name.toList.isEmpty = false := by simpa using h
  have hstep : step (.identifierQuote name.toList) '.' = some ([.name name], .point) := by
    simp [step, hname, start, Token.name]
  exact run_cons_of_step hstep cs

end Lexer

theorem Column.reads {c : Column} (h : c.IsNamed) : Reads c.write c.tokens := by
  have hname : c.name.toList.isEmpty = false := by simpa using h.2
  have hrun : run .between c.write =
      some ([.name c.table, mark "."], .identifierQuote c.name.toList) := by
    -- The name of the table ends at a point, which is no delimiter, so `Reads` says nothing of it.
    have hquote : run .point (quoteIdentifier c.name) =
        some ([mark "."], .identifierQuote c.name.toList) :=
      (run_cons_of_step rfl _).trans
        (congrArg (Progress.behind [mark "."]) (run_identifier [] c.name.toList))
    rw [Column.write, run_append_of_run (run_quoteIdentifier c.table),
      run_identifierQuote h.1, hquote]
    rfl
  refine reads_of_run hrun (forall_isDelimiter.2 ⟨?_, ?_, ?_⟩) <;> simp [step, hname, Token.name]

/-! ### Constants -/

theorem escapeChar_of_isDigit {c : Char} (h : c.isDigit = true) : escapeChar c = [c] := by
  have hge : 48 ≤ c.toNat := by
    rw [Char.isDigit, Bool.and_eq_true, decide_eq_true_eq] at h
    exact UInt32.le_iff_toNat_le.1 h.1
  have hle : c.toNat ≤ 57 := by
    rw [Char.isDigit, Bool.and_eq_true, decide_eq_true_eq, decide_eq_true_eq] at h
    exact UInt32.le_iff_toNat_le.1 h.2
  have h0 : c.toNat ≠ 0 := by omega
  have h8 : c.toNat ≠ 8 := by omega
  have h9 : c.toNat ≠ 9 := by omega
  have h26 : c.toNat ≠ 26 := by omega
  have h10 : c.toNat ≠ 10 := by omega
  have h13 : c.toNat ≠ 13 := by omega
  simp [escapeChar, ne_of_isDigit h, h0, h8, h9, h10, h13, h26]

theorem quoteString_of_plain {s : String} (h : ∀ c ∈ s.toList, escapeChar c = [c]) :
    quoteString s = '\'' :: s.toList ++ ['\''] := by
  have hbody : s.toList.flatMap escapeChar = s.toList :=
    (List.flatMap_congr h).trans (List.flatMap_singleton' s.toList)
  have hslash : '\\' ∉ s.toList := fun hmem => absurd (h _ hmem) (by decide)
  simp [quoteString, hbody, hslash]

theorem plain_of_uuid (u : Uuid) : ∀ c ∈ u.write.toList, escapeChar c = [c] := by
  have hhex (d : Fin 16) : escapeChar (hexChar d) = [hexChar d] := by
    revert d
    decide
  have hmem {c : Char} {ds : List Char} (hsub : ds ⊆ u.digits.map hexChar) (hc : c ∈ ds) :
      escapeChar c = [c] := by
    obtain ⟨d, -, rfl⟩ := List.mem_map.1 (hsub hc)
    exact hhex d
  have hhyphen : escapeChar '-' = ['-'] := by decide
  rw [Uuid.write, String.toList_ofList]
  simp only [List.append_assoc, List.cons_append, List.forall_mem_append, List.forall_mem_cons]
  have hpart (n k : Nat) : ((u.digits.map hexChar).drop n).take k ⊆ u.digits.map hexChar :=
    fun c hc => List.drop_subset n _ (List.take_subset k _ hc)
  exact ⟨fun c => hmem (List.take_subset 8 _), hhyphen, fun c => hmem (hpart 8 4), hhyphen,
    fun c => hmem (hpart 12 4), hhyphen, fun c => hmem (hpart 16 4), hhyphen,
    fun c => hmem (List.drop_subset 20 _)⟩

theorem plain_of_instant (t : Instant) : ∀ c ∈ Literal.writeInstant t, escapeChar c = [c] := by
  have hpadded (width n : Nat) : ∀ c ∈ Instant.padded width n, escapeChar c = [c] := by
    intro c hc
    obtain hc | hc := List.mem_append.1 hc
    · exact escapeChar_of_isDigit (isDigit_of_mem_zeros hc)
    · exact escapeChar_of_isDigit (isDigit_of_mem_toDigits hc)
  have hyear (year : Int) : ∀ c ∈ Instant.writeYear year, escapeChar c = [c] := by
    unfold Instant.writeYear
    split_ifs
    · exact List.forall_mem_cons.2 ⟨by decide, hpadded 4 year.natAbs⟩
    · exact List.forall_mem_cons.2 ⟨by decide, hpadded 4 year.natAbs⟩
    · exact hpadded 4 year.natAbs
  have hzone : ∀ c ∈ " +00:00".toList, escapeChar c = [c] := by simp [escapeChar]
  simp only [Literal.writeInstant, Instant.writeDate, Instant.writeCivil, Instant.writeTime,
    Instant.writeClock, List.append_assoc, List.cons_append, List.forall_mem_append,
    List.forall_mem_cons]
  refine ⟨hyear _, by decide, hpadded _ _, by decide, hpadded _ _, by decide, hpadded _ _,
    by decide, hpadded _ _, by decide, hpadded _ _, by decide, hpadded _ _, hzone⟩

theorem Literal.write_uuid (u : Uuid) : (uuid u).write = quoteString u.write :=
  (quoteString_of_plain (plain_of_uuid u)).symm

theorem Literal.write_timestamp (t : Instant) :
    (timestamp t).write = quoteString (String.ofList (writeInstant t)) := by
  have hplain : ∀ c ∈ (String.ofList (writeInstant t)).toList, escapeChar c = [c] := by
    rw [String.toList_ofList]
    exact plain_of_instant t
  rw [write, quoteString_of_plain hplain, String.toList_ofList]

/-- The tokens of a constant. -/
def Literal.tokens : Literal → List Token
  | string s => [.ofString s]
  | boolean b => [keyword (if b then "TRUE" else "FALSE")]
  | integer i => numberTokens (toString i).toList
  | real x => numberTokens (x.write Value.style).toList
  | uuid u => [.ofString u.write]
  | timestamp t => [.ofString (String.ofList (writeInstant t))]

theorem reads_truth (b : Bool) :
    Reads (if b then "TRUE" else "FALSE").toList [keyword (if b then "TRUE" else "FALSE")] := by
  cases b with
  | true =>
    have h : run .between "TRUE".toList = some ([], .word "TRUE".toList) := rfl
    exact reads_of_run h (forall_isDelimiter.2 ⟨rfl, rfl, rfl⟩)
  | false =>
    have h : run .between "FALSE".toList = some ([], .word "FALSE".toList) := rfl
    exact reads_of_run h (forall_isDelimiter.2 ⟨rfl, rfl, rfl⟩)

theorem Literal.reads (v : Literal) : Reads v.write v.tokens := by
  cases v with
  | string s => exact reads_quoteString s
  | boolean b => exact reads_truth b
  | integer i => exact (IsNumber.of_integer i).reads
  | real x => exact (IsNumber.of_binary64 x).reads
  | uuid u =>
    rw [write_uuid]
    exact reads_quoteString u.write
  | timestamp t =>
    rw [write_timestamp]
    exact reads_quoteString _

/-! ### Conditions -/

theorem Reads.behind_blank {cs : List Char} {tokens : List Token} (h : Reads cs tokens) :
    Reads (' ' :: cs) tokens := by
  have hblank : Closes [' '] [] := closes_of_run rfl
  exact hblank.append_reads h

/-- The tokens of constants with commas between them. -/
def listTokens : List Literal → List Token
  | [] => []
  | [v] => v.tokens
  | v :: vs => v.tokens ++ mark "," :: listTokens vs

theorem reads_writeList {vs : List Literal} (h : vs ≠ []) :
    Reads (Condition.writeList vs) (listTokens vs) := by
  induction vs with
  | nil => exact absurd rfl h
  | cons v vs ih =>
    cases vs with
    | nil => exact v.reads
    | cons w vs =>
      have hcomma : Closes ", ".toList [mark ","] := closes_of_run rfl
      exact v.reads.append rfl (hcomma.append_reads (ih (List.cons_ne_nil w vs)))

/-- The tokens between round brackets, if `isNeeded`. -/
def bracketTokens (isNeeded : Bool) (tokens : List Token) : List Token :=
  if isNeeded then mark "(" :: tokens ++ [mark ")"] else tokens

theorem Reads.bracket {cs : List Char} {tokens : List Token} (h : Reads cs tokens)
    (isNeeded : Bool) :
    Reads (Condition.bracket isNeeded cs) (bracketTokens isNeeded tokens) := by
  cases isNeeded with
  | false => exact h
  | true =>
    have hopen : Closes ['('] [mark "("] := closes_of_run rfl
    have hclose : Closes [')'] [mark ")"] := closes_of_run rfl
    exact (hopen.append_reads h).append rfl hclose.reads

theorem Operator.reads (operator : Operator) :
    Reads operator.write [.symbol operator.write] := by
  have hrun : run .between operator.write = some ([], .operator operator.write) := by
    cases operator with
    | order c => cases c <;> rfl
    | _ => rfl
  refine reads_of_run hrun ?_
  cases operator with
  | order c => cases c <;> exact forall_isDelimiter.2 ⟨rfl, rfl, rfl⟩
  | _ => exact forall_isDelimiter.2 ⟨rfl, rfl, rfl⟩

namespace Condition

/-- The tokens of a column as a text in lower case. -/
def lowerTokens (column : Column) (isCast : Bool) : List Token :=
  if isCast then
    [keyword "LOWER", mark "(", keyword "CAST", mark "("] ++ column.tokens ++
      [keyword "AS", keyword "text", mark ")", mark ")"]
  else [keyword "LOWER", mark "("] ++ column.tokens ++ [mark ")"]

/-- The tokens of a condition. -/
def tokens : Condition → List Token
  | constant b => [keyword (if b then "TRUE" else "FALSE")]
  | compare column operator v => column.tokens ++ .symbol operator.write :: v.tokens
  | oneOf _ [] => [.number ['1'], mark "=", .number ['2']]
  | oneOf column vs => column.tokens ++ [keyword "IN", mark "("] ++ listTokens vs ++ [mark ")"]
  | like column isCast pattern =>
    lowerTokens column isCast ++ [keyword "LIKE"] ++ [.ofString pattern]
  | both a b =>
    let needsBrackets := match a with
      | either _ _ => true
      | _ => false
    bracketTokens needsBrackets a.tokens ++ [keyword "AND"] ++ bracketTokens b.isJoined b.tokens
  | either a b =>
    let needsBrackets := match a with
      | both _ _ => true
      | _ => false
    bracketTokens needsBrackets a.tokens ++ [keyword "OR"] ++ bracketTokens b.isJoined b.tokens

/-- The names of the columns in a condition have characters. -/
def IsNamed : Condition → Prop
  | constant _ => True
  | compare column _ _ => column.IsNamed
  | oneOf column _ => column.IsNamed
  | like column _ _ => column.IsNamed
  | both a b => a.IsNamed ∧ b.IsNamed
  | either a b => a.IsNamed ∧ b.IsNamed

theorem closes_writeLower {column : Column} (h : column.IsNamed) (isCast : Bool) :
    Closes (writeLower column isCast) (lowerTokens column isCast) := by
  cases isCast with
  | true =>
    have hfront : Closes "LOWER(CAST(".toList
        [keyword "LOWER", mark "(", keyword "CAST", mark "("] := closes_of_run rfl
    have hback : Closes " AS text))".toList
        [keyword "AS", keyword "text", mark ")", mark ")"] := closes_of_run rfl
    exact (hfront.append_reads (Column.reads h)).append_closes rfl hback
  | false =>
    have hfront : Closes "LOWER(".toList [keyword "LOWER", mark "("] := closes_of_run rfl
    have hback : Closes [')'] [mark ")"] := closes_of_run rfl
    exact (hfront.append_reads (Column.reads h)).append_closes rfl hback

/-- **A condition is read as its tokens.** -/
theorem reads {c : Condition} (h : c.IsNamed) : Reads c.write c.tokens := by
  induction c with
  | constant b => exact reads_truth b
  | compare column operator v =>
    exact ((Column.reads h).append rfl operator.reads.behind_blank).append rfl
      v.reads.behind_blank
  | oneOf column vs =>
    cases vs with
    | nil =>
      -- Where there are no constants, the column is not written.
      have hrun : run .between "1 = 2".toList =
          some ([.number ['1'], mark "="], .number ['2']) := rfl
      exact reads_of_run hrun (forall_isDelimiter.2 ⟨rfl, rfl, rfl⟩)
    | cons v vs =>
      have hin : Closes " IN (".toList [keyword "IN", mark "("] := closes_of_run rfl
      have hclose : Closes [')'] [mark ")"] := closes_of_run rfl
      have hlist := reads_writeList (List.cons_ne_nil v vs)
      exact ((((Column.reads h).append_closes rfl hin).append_reads hlist).append_closes rfl
        hclose).reads
  | like column isCast pattern =>
    have hlike : Closes " LIKE ".toList [keyword "LIKE"] := closes_of_run rfl
    exact ((closes_writeLower h isCast).append hlike).append_reads (reads_quoteString pattern)
  | both a b iha ihb =>
    have hand : Closes " AND ".toList [keyword "AND"] := closes_of_run rfl
    exact (((iha h.1).bracket _).append_closes rfl hand).append_reads ((ihb h.2).bracket _)
  | either a b iha ihb =>
    have hor : Closes " OR ".toList [keyword "OR"] := closes_of_run rfl
    exact (((iha h.1).bracket _).append_closes rfl hor).append_reads ((ihb h.2).bracket _)

end Condition

/-! ### Statements -/

/-- The names in a join have characters. -/
def Join.IsNamed (j : Join) : Prop :=
  j.table ≠ "" ∧ j.name ≠ "" ∧ j.left.IsNamed ∧ j.right.IsNamed

/-- The tokens of a join. -/
def Join.tokens (j : Join) : List Token :=
  [keyword "LEFT", keyword "JOIN"] ++ [.name j.table] ++ [keyword "AS"] ++ [.name j.name] ++
    [keyword "ON"] ++ j.left.tokens ++ [mark "="] ++ j.right.tokens

theorem Join.reads {j : Join} (h : j.IsNamed) : Reads j.write j.tokens := by
  have hjoin : Closes " LEFT JOIN ".toList [keyword "LEFT", keyword "JOIN"] := closes_of_run rfl
  have has : Closes " AS ".toList [keyword "AS"] := closes_of_run rfl
  have hon : Closes " ON ".toList [keyword "ON"] := closes_of_run rfl
  have hequal : Closes " = ".toList [mark "="] := closes_of_run rfl
  obtain ⟨htable, hname, hleft, hright⟩ := h
  have hnames := ((hjoin.append_reads (reads_quoteIdentifier htable)).append_closes rfl
    has).append_reads (reads_quoteIdentifier hname)
  exact (((hnames.append_closes rfl hon).append_reads (Column.reads hleft)).append_closes rfl
    hequal).append_reads (Column.reads hright)

theorem Reads.append_joins {cs : List Char} {tokens : List Token} (h : Reads cs tokens)
    {joins : List Join} (hjoins : ∀ j ∈ joins, j.IsNamed) :
    Reads (cs ++ joins.flatMap Join.write) (tokens ++ joins.flatMap Join.tokens) := by
  induction joins generalizing cs tokens with
  | nil => simpa using h
  | cons j joins ih =>
    rw [List.forall_mem_cons] at hjoins
    have hj := h.append rfl (Join.reads hjoins.1)
    rw [List.flatMap_cons, List.flatMap_cons, ← List.append_assoc, ← List.append_assoc]
    exact ih hj hjoins.2

/-- The tokens of a condition behind `WHERE`, if there is one. -/
def whereTokens : Option Condition → List Token
  | none => []
  | some c => [keyword "WHERE"] ++ c.tokens

theorem Reads.append_where {cs : List Char} {tokens : List Token} (h : Reads cs tokens)
    {condition : Option Condition} (hcondition : ∀ c ∈ condition, c.IsNamed) :
    Reads (cs ++ writeWhere condition) (tokens ++ whereTokens condition) := by
  cases condition with
  | none =>
    have hnone : Reads (cs ++ []) (tokens ++ []) := by simpa using h
    exact hnone
  | some c =>
    have hwhere : Closes " WHERE ".toList [keyword "WHERE"] := closes_of_run rfl
    exact h.append rfl (hwhere.append_reads (Condition.reads (hcondition c rfl)))

namespace IdQuery

/-- The names in a query for identifiers have characters. -/
structure IsNamed (q : IdQuery) : Prop where
  column : q.column.IsNamed
  joins : ∀ j ∈ q.joins, j.IsNamed
  condition : ∀ c ∈ q.condition, c.IsNamed

/-- The tokens of a query for identifiers. -/
def tokens (q : IdQuery) : List Token :=
  [keyword "SELECT", keyword "DISTINCT"] ++ q.column.tokens ++ [keyword "FROM"] ++
    [.name q.column.table] ++ q.joins.flatMap Join.tokens ++ whereTokens q.condition

theorem reads {q : IdQuery} (h : q.IsNamed) : Reads q.write q.tokens := by
  have hselect : Closes "SELECT DISTINCT ".toList [keyword "SELECT", keyword "DISTINCT"] :=
    closes_of_run rfl
  have hfrom : Closes " FROM ".toList [keyword "FROM"] := closes_of_run rfl
  have htable := ((hselect.append_reads (Column.reads h.column)).append_closes rfl
    hfrom).append_reads (reads_quoteIdentifier h.column.1)
  exact (htable.append_joins h.joins).append_where h.condition

end IdQuery

namespace Restriction

/-- The names in a restriction have characters. -/
def IsNamed : Restriction → Prop
  | plain condition => ∀ c ∈ condition, c.IsNamed
  | byId q => q.IsNamed

/-- The tokens of a restriction. -/
def tokens : Restriction → List Token
  | plain condition => whereTokens condition
  | byId q => [keyword "WHERE"] ++ q.column.tokens ++ [keyword "IN", mark "("] ++ q.tokens ++
      [mark ")"]

end Restriction

theorem Reads.append_restriction {cs : List Char} {tokens : List Token} (h : Reads cs tokens)
    {restriction : Restriction} (hrestriction : restriction.IsNamed) :
    Reads (cs ++ restriction.write) (tokens ++ restriction.tokens) := by
  cases restriction with
  | plain condition => exact h.append_where hrestriction
  | byId q =>
    have hwhere : Closes " WHERE ".toList [keyword "WHERE"] := closes_of_run rfl
    have hin : Closes " IN (".toList [keyword "IN", mark "("] := closes_of_run rfl
    have hclose : Closes [')'] [mark ")"] := closes_of_run rfl
    have hcolumn := (hwhere.append_reads (Column.reads hrestriction.column)).append_closes rfl hin
    have hquery := hcolumn.append_reads (IdQuery.reads hrestriction)
    exact h.append rfl (hquery.append_closes rfl hclose).reads

/-- The word for a direction. -/
def directionToken : Direction → Token
  | .ascending => keyword "ASC"
  | .descending => keyword "DESC"

/-- The tokens of columns to sort by. -/
def orderKeyTokens : List OrderKey → List Token
  | [] => []
  | [k] => k.column.tokens ++ [directionToken k.direction]
  | k :: ks => k.column.tokens ++ [directionToken k.direction] ++ mark "," :: orderKeyTokens ks

/-- The tokens of an order, if there is one. -/
def orderTokens (keys : List OrderKey) : List Token :=
  if keys.isEmpty then [] else [keyword "ORDER", keyword "BY"] ++ orderKeyTokens keys

theorem OrderKey.reads {k : OrderKey} (h : k.column.IsNamed) :
    Reads k.write (k.column.tokens ++ [directionToken k.direction]) := by
  obtain ⟨column, direction⟩ := k
  cases direction with
  | ascending =>
    have hrun : run .between " ASC".toList = some ([], .word "ASC".toList) := rfl
    have hhead : " ASC".toList.head?.any isDelimiter = true := rfl
    exact (Column.reads h).append hhead
      (reads_of_run hrun (forall_isDelimiter.2 ⟨rfl, rfl, rfl⟩))
  | descending =>
    have hrun : run .between " DESC".toList = some ([], .word "DESC".toList) := rfl
    have hhead : " DESC".toList.head?.any isDelimiter = true := rfl
    exact (Column.reads h).append hhead
      (reads_of_run hrun (forall_isDelimiter.2 ⟨rfl, rfl, rfl⟩))

theorem reads_writeOrderKeys {keys : List OrderKey} (hkeys : ∀ k ∈ keys, k.column.IsNamed)
    (hne : keys ≠ []) : Reads (writeOrderKeys keys) (orderKeyTokens keys) := by
  induction keys with
  | nil => exact absurd rfl hne
  | cons k keys ih =>
    rw [List.forall_mem_cons] at hkeys
    cases keys with
    | nil => exact OrderKey.reads hkeys.1
    | cons l keys =>
      have hcomma : Closes ", ".toList [mark ","] := closes_of_run rfl
      exact (OrderKey.reads hkeys.1).append rfl
        (hcomma.append_reads (ih hkeys.2 (List.cons_ne_nil l keys)))

theorem Reads.append_order {cs : List Char} {tokens : List Token} (h : Reads cs tokens)
    {keys : List OrderKey} (hkeys : ∀ k ∈ keys, k.column.IsNamed) :
    Reads (cs ++ writeOrder keys) (tokens ++ orderTokens keys) := by
  cases keys with
  | nil => simpa [writeOrder, orderTokens] using h
  | cons k keys =>
    have horder : Closes " ORDER BY ".toList [keyword "ORDER", keyword "BY"] := closes_of_run rfl
    exact h.append rfl
      (horder.append_reads (reads_writeOrderKeys hkeys (List.cons_ne_nil k keys)))

namespace Select

/-- The names in a query for rows have characters. -/
structure IsNamed (s : Select) : Prop where
  table : s.table ≠ ""
  restriction : s.restriction.IsNamed
  order : ∀ k ∈ s.order, k.column.IsNamed

/-- The tokens of a query for rows. -/
def tokens (s : Select) : List Token :=
  [keyword "SELECT"] ++ [.name s.table] ++ [mark ".", mark "*", keyword "FROM"] ++
    [.name s.table] ++ s.restriction.tokens ++ orderTokens s.order ++ [keyword "LIMIT"] ++
    [.number (Nat.toDigits 10 s.limit)] ++ [keyword "OFFSET"] ++
    [.number (Nat.toDigits 10 s.offset)]

/-- **A query for rows is read as its tokens.** -/
theorem lex_write {s : Select} (h : s.IsNamed) : lex s.write.toList = some s.tokens := by
  have hselect : Closes "SELECT ".toList [keyword "SELECT"] := closes_of_run rfl
  have hstar : Closes (quoteIdentifier s.table ++ ".* FROM ".toList)
      ([.name s.table] ++ [mark ".", mark "*", keyword "FROM"]) := by
    refine closes_of_run ((run_append_of_run (run_quoteIdentifier s.table) _).trans ?_)
    have hfrom : run .point "* FROM ".toList =
        some ([mark ".", mark "*", keyword "FROM"], .between) := rfl
    exact congrArg (Progress.behind [])
      ((run_identifierQuote h.table _).trans (congrArg (Progress.behind _) hfrom))
  have hlimit : Closes " LIMIT ".toList [keyword "LIMIT"] := closes_of_run rfl
  have hoffset : Closes " OFFSET ".toList [keyword "OFFSET"] := closes_of_run rfl
  have hfront : Closes ("SELECT ".toList ++ quoteIdentifier s.table ++ ".* FROM ".toList)
      ([keyword "SELECT"] ++ [.name s.table] ++ [mark ".", mark "*", keyword "FROM"]) := by
    rw [List.append_assoc, List.append_assoc]
    exact hselect.append hstar
  have htable := hfront.append_reads (reads_quoteIdentifier h.table)
  have hrows := (htable.append_restriction h.restriction).append_order h.order
  have hpage := (hrows.append_closes rfl hlimit).append_reads (IsUnsigned.of_nat s.limit).reads
  have hchars := (hpage.append_closes rfl hoffset).append_reads (IsUnsigned.of_nat s.offset).reads
  rw [write, String.toList_ofList]
  exact hchars.lex_eq

end Select

namespace Count

/-- The names in a query for a number have characters. -/
def IsNamed : Count → Prop
  | rows table condition => table ≠ "" ∧ ∀ c ∈ condition, c.IsNamed
  | ids q => q.IsNamed

/-- The tokens of a query for a number. -/
def tokens : Count → List Token
  | rows table condition =>
    [keyword "SELECT", keyword "COUNT", mark "(", mark "*", mark ")", keyword "FROM"] ++
      [.name table] ++ whereTokens condition
  | ids q =>
    [keyword "SELECT", keyword "COUNT", mark "(", mark "*", mark ")", keyword "FROM", mark "("] ++
      q.tokens ++ [mark ")", keyword "AS"] ++ [.name countedName]

/-- **A query for a number is read as its tokens.** -/
theorem lex_write {c : Count} (h : c.IsNamed) : lex c.write.toList = some c.tokens := by
  rw [write, String.toList_ofList]
  refine Reads.lex_eq ?_
  cases c with
  | rows table condition =>
    have hselect : Closes "SELECT COUNT(*) FROM ".toList
        [keyword "SELECT", keyword "COUNT", mark "(", mark "*", mark ")", keyword "FROM"] :=
      closes_of_run rfl
    exact (hselect.append_reads (reads_quoteIdentifier h.1)).append_where h.2
  | ids q =>
    have hselect : Closes "SELECT COUNT(*) FROM (".toList
        [keyword "SELECT", keyword "COUNT", mark "(", mark "*", mark ")", keyword "FROM",
          mark "("] := closes_of_run rfl
    have has : Closes ") AS ".toList [mark ")", keyword "AS"] := closes_of_run rfl
    have hname : countedName ≠ "" := by decide
    exact ((hselect.append_reads (IdQuery.reads h)).append_closes rfl has).append_reads
      (reads_quoteIdentifier hname)

end Count

end Sql

end ListQuery
