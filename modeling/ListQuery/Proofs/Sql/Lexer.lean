import ListQuery.Sql.Condition
import Mathlib.Data.List.Basic

/-!
# Reading the text of a statement

How a server takes a text apart, one character at a time: words, numbers, operators, identifiers
between double quotes, and string literals, those that start with `E` having escapes.  Whatever a
server may take for something else is not read at all: comments, line breaks, dollar quotes, other
kinds of literals, identifiers of no characters, and literals without an end.

* `Sql.Lexer.step`, `Sql.Lexer.run` : the reading of one character, and of a text.
* `Sql.lex` : the tokens of a text, if it can be read to its end.
* `Sql.Closes`, `Sql.Reads` : a text has the same tokens in whatever text it starts, or starts in
  front of a delimiter.
* `Sql.reads_quoteString` : a string is one literal, whatever its characters.
-/

namespace ListQuery

namespace Sql

/-! ### Tokens -/

/-- A part of a statement, as it is read. -/
inductive Token where
  /-- A key word. -/
  | word (cs : List Char)
  /-- A number without a sign. -/
  | number (cs : List Char)
  /-- An operator or a delimiter. -/
  | symbol (cs : List Char)
  /-- A name between double quotes. -/
  | identifier (name : List Char)
  /-- A string literal, with what stands between its quotes. -/
  | literal (hasEscapes : Bool) (body : List Char)
deriving DecidableEq, Repr

namespace Token

/-- The token, what stands in a literal left out. -/
def erase : Token → Token
  | literal _ _ => literal false []
  | t => t

/-- The token is a string literal. -/
def isLiteral : Token → Bool
  | literal _ _ => true
  | _ => false

/-- The literal that a string is written as. -/
def ofString (s : String) : Token :=
  let body := s.toList.flatMap escapeChar
  literal (body.contains '\\') body

end Token

/-! ### Reading -/

namespace Lexer

/-- Where a character may stand. -/
inductive State where
  /-- Between tokens. -/
  | between
  /-- In a key word. -/
  | word (cs : List Char)
  /-- In a number. -/
  | number (cs : List Char)
  /-- In an operator. -/
  | operator (cs : List Char)
  /-- Behind a point. -/
  | point
  /-- In a name between double quotes. -/
  | identifier (name : List Char)
  /-- Behind a double quote in such a name, which may be its end. -/
  | identifierQuote (name : List Char)
  /-- In a string literal. -/
  | literal (hasEscapes : Bool) (body : List Char)
  /-- Behind a backslash in a literal with escapes. -/
  | escape (body : List Char)
  /-- Behind a quote in a literal, which may be its end. -/
  | literalQuote (hasEscapes : Bool) (body : List Char)
deriving DecidableEq, Repr

/-- A character that words start with. -/
def isWordStart (c : Char) : Bool :=
  c.isAlpha || c == '_' || 0x80 ≤ c.toNat

/-- A character that words go on with. -/
def isWordChar (c : Char) : Bool :=
  isWordStart c || c.isDigit

/-- A character that operators consist of. -/
def isOperatorChar (c : Char) : Bool :=
  "+-*/<>=~!@#%^&|?".toList.contains c

/-- Tokens that have been read, and the state behind them. -/
abbrev Progress := Option (List Token × State)

/-- A character between tokens, behind those that are done. -/
def start (done : List Token) (c : Char) : Progress :=
  if c = ' ' then some (done, .between)
  else if c = '(' || c = ')' || c = ',' then some (done ++ [.symbol [c]], .between)
  else if c = '.' then some (done, .point)
  else if c = '"' then some (done, .identifier [])
  else if c = '\'' then some (done, .literal false [])
  else if c.isDigit then some (done, .number [c])
  else if isWordStart c then some (done, .word [c])
  else if isOperatorChar c then some (done, .operator [c])
  else none

/-- The tokens of an operator: a sign at the end of a longer one is not part of it, and is not
read. -/
def operatorTokens? (cs : List Char) : Option (List Token) :=
  match cs with
  | [_] => some [.symbol cs]
  | _ => if cs.getLast?.any (fun c => c == '+' || c == '-') then none else some [.symbol cs]

/-- Reads one character. -/
def step (s : State) (c : Char) : Progress :=
  match s with
  | .between => start [] c
  | .word cs =>
    if isWordChar c then some ([], .word (cs ++ [c]))
    else if c = '\'' then
      -- Of the literals that start with a letter, only those with escapes are read.
      if cs = ['E'] || cs = ['e'] then some ([], .literal true []) else none
    else start [.word cs] c
  | .number cs =>
    if c.isDigit || (c == '.' && !cs.contains '.') then some ([], .number (cs ++ [c]))
    else if isWordChar c || c == '.' then none
    else start [.number cs] c
  | .operator cs =>
    if isOperatorChar c then
      -- Two of these characters may start a comment.
      if cs.getLast? = some '-' && c == '-' || cs.getLast? = some '/' && c == '*' then none
      else some ([], .operator (cs ++ [c]))
    else if c = '"' || c = '\'' then none
    else (operatorTokens? cs).bind (start · c)
  | .point => if c.isDigit || c == '.' then none else start [.symbol ['.']] c
  | .identifier name =>
    if c = '"' then some ([], .identifierQuote name) else some ([], .identifier (name ++ [c]))
  | .identifierQuote name =>
    if c = '"' then some ([], .identifier (name ++ ['"']))
    else if name.isEmpty then none
    else start [.identifier name] c
  | .literal hasEscapes body =>
    if c = '\'' then some ([], .literalQuote hasEscapes body)
    else if hasEscapes && c == '\\' then some ([], .escape body)
    else some ([], .literal hasEscapes (body ++ [c]))
  | .escape body =>
    -- An escape by code point needs digits behind it, which a server checks.
    if c = 'u' || c = 'U' then none else some ([], .literal true (body ++ ['\\', c]))
  | .literalQuote hasEscapes body =>
    if c = '\'' then some ([], .literal hasEscapes (body ++ ['\'', '\'']))
    else start [.literal hasEscapes body] c

/-- The progress with tokens that have been read before. -/
def Progress.behind (tokens : List Token) (p : Progress) : Progress :=
  p.map (Prod.map (tokens ++ ·) id)

/-- Reads a text. -/
def run (s : State) : List Char → Progress
  | [] => some ([], s)
  | c :: cs => (step s c).bind fun p => (run p.2 cs).behind p.1

end Lexer

open Lexer

/-- The tokens of a text, which is read as if a blank stood behind it. -/
def lex (cs : List Char) : Option (List Token) :=
  match run .between (cs ++ [' ']) with
  | some (tokens, .between) => some tokens
  | _ => none

/-- The character ends whatever token it stands behind, unless that is a literal or a name between
quotes. -/
def isDelimiter (c : Char) : Bool :=
  c == ' ' || c == ')' || c == ','

/-- The text has the tokens, whatever stands behind it. -/
def Closes (cs : List Char) (tokens : List Token) : Prop :=
  ∀ rest, run .between (cs ++ rest) = (run .between rest).behind tokens

/-- The text has the tokens, if a delimiter stands behind it. -/
def Reads (cs : List Char) (tokens : List Token) : Prop :=
  ∀ c rest, isDelimiter c = true →
    run .between (cs ++ c :: rest) = (run .between (c :: rest)).behind tokens

/-! ### Texts in parts -/

namespace Lexer

@[simp] theorem Progress.behind_none (tokens : List Token) :
    Progress.behind tokens none = none :=
  rfl

@[simp] theorem Progress.behind_some (tokens more : List Token) (s : State) :
    Progress.behind tokens (some (more, s)) = some (tokens ++ more, s) :=
  rfl

@[simp] theorem Progress.behind_nil (p : Progress) : p.behind [] = p := by
  cases p <;> rfl

theorem Progress.behind_behind (tokens more : List Token) (p : Progress) :
    (p.behind more).behind tokens = p.behind (tokens ++ more) := by
  cases p with
  | none => rfl
  | some p => exact congrArg (fun cs => some (cs, p.2)) (List.append_assoc ..).symm

theorem run_cons_of_step {s s' : State} {c : Char} {done : List Token}
    (h : step s c = some (done, s')) (cs : List Char) :
    run s (c :: cs) = (run s' cs).behind done := by
  rw [run, h, Option.bind_some]

theorem run_append (s : State) (cs rest : List Char) :
    run s (cs ++ rest) = (run s cs).bind fun p => (run p.2 rest).behind p.1 := by
  induction cs generalizing s with
  | nil => rw [List.nil_append, run, Option.bind_some, Progress.behind_nil]
  | cons c cs ih =>
    rw [List.cons_append, run, run]
    cases step s c with
    | none => rfl
    | some p =>
      rw [Option.bind_some, Option.bind_some, ih]
      cases run p.2 cs with
      | none => rfl
      | some q => exact Progress.behind_behind p.1 q.1 _

theorem run_append_of_run {s s' : State} {cs : List Char} {done : List Token}
    (h : run s cs = some (done, s')) (rest : List Char) :
    run s (cs ++ rest) = (run s' rest).behind done := by
  rw [run_append, h, Option.bind_some]

theorem start_append (done more : List Token) (c : Char) :
    start (done ++ more) c = (start more c).behind done := by
  unfold start
  simp only [apply_ite (Progress.behind done), Progress.behind_some, Progress.behind_none,
    List.append_assoc]

end Lexer

theorem forall_isDelimiter {p : Char → Prop} :
    (∀ c, isDelimiter c = true → p c) ↔ p ' ' ∧ p ')' ∧ p ',' := by
  simp [isDelimiter, or_imp, forall_and, and_assoc]

variable {cs cs' : List Char} {tokens tokens' : List Token}

theorem closes_of_run (h : run .between cs = some (tokens, .between)) : Closes cs tokens :=
  fun rest => run_append_of_run h rest

/-- A text that ends in the middle of a token is read if a delimiter ends the token. -/
theorem reads_of_run {s : State} {done : List Token} (h : run .between cs = some (done, s))
    (hstep : ∀ c, isDelimiter c = true → step s c = start tokens c) :
    Reads cs (done ++ tokens) := by
  intro c rest hc
  have hstart : start tokens c = (start [] c).behind tokens := by
    rw [← start_append, List.append_nil]
  rw [run_append_of_run h, run, run, hstep c hc, step, hstart, ← Progress.behind_behind]
  refine congrArg (Progress.behind done) ?_
  cases start [] c with
  | none => rfl
  | some p => exact (Progress.behind_behind tokens p.1 _).symm

theorem Closes.reads (h : Closes cs tokens) : Reads cs tokens :=
  fun c rest _ => h (c :: rest)

theorem Closes.append (h : Closes cs tokens) (h' : Closes cs' tokens') :
    Closes (cs ++ cs') (tokens ++ tokens') := by
  intro rest
  rw [List.append_assoc, h, h', Progress.behind_behind]

theorem Closes.append_reads (h : Closes cs tokens) (h' : Reads cs' tokens') :
    Reads (cs ++ cs') (tokens ++ tokens') := by
  intro c rest hc
  rw [List.append_assoc, h, h' c rest hc, Progress.behind_behind]

theorem Reads.run_append (h : Reads cs tokens) (hhead : cs'.head?.any isDelimiter = true)
    (rest : List Char) :
    run .between (cs ++ cs' ++ rest) = (run .between (cs' ++ rest)).behind tokens := by
  cases cs' with
  | nil => cases hhead
  | cons c cs' => rw [List.append_assoc, List.cons_append, h c _ hhead]

theorem Reads.append_closes (h : Reads cs tokens) (hhead : cs'.head?.any isDelimiter = true)
    (h' : Closes cs' tokens') : Closes (cs ++ cs') (tokens ++ tokens') := by
  intro rest
  rw [h.run_append hhead, h', Progress.behind_behind]

theorem Reads.append (h : Reads cs tokens) (hhead : cs'.head?.any isDelimiter = true)
    (h' : Reads cs' tokens') : Reads (cs ++ cs') (tokens ++ tokens') := by
  intro c rest hc
  rw [h.run_append hhead, h' c rest hc, Progress.behind_behind]

theorem Reads.lex_eq (h : Reads cs tokens) : lex cs = some tokens := by
  rw [lex, h ' ' [] rfl]
  simp [run, step, start]

/-! ### Names -/

namespace Lexer

theorem run_identifier (name cs : List Char) :
    run (.identifier name) (Text.replaceChar '"' ['"', '"'] cs ++ ['"']) =
      some ([], .identifierQuote (name ++ cs)) := by
  induction cs generalizing name with
  | nil => rw [List.append_nil]; rfl
  | cons c cs ih =>
    have hname : name ++ c :: cs = name ++ [c] ++ cs := by simp
    have hchar : run (.identifier name) (if c = '"' then ['"', '"'] else [c]) =
        some ([], .identifier (name ++ [c])) := by
      split
      case isTrue hc => rw [hc]; rfl
      case isFalse hc => simp [run, step, hc]
    rw [Text.replaceChar, List.flatMap_cons, List.append_assoc, run_append_of_run hchar,
      Progress.behind_nil, hname]
    exact ih (name ++ [c])

theorem run_quoteIdentifier (name : String) :
    run .between (quoteIdentifier name) = some ([], .identifierQuote name.toList) :=
  (run_cons_of_step rfl _).trans (congrArg (Progress.behind []) (run_identifier [] name.toList))

end Lexer

/-- **A name between quotes is one identifier**, whatever its characters, if there are any. -/
theorem reads_quoteIdentifier {name : String} (h : name ≠ "") :
    Reads (quoteIdentifier name) [.identifier name.toList] := by
  have hname : name.toList.isEmpty = false := by simpa using h
  refine reads_of_run (run_quoteIdentifier name) (forall_isDelimiter.2 ⟨?_, ?_, ?_⟩) <;>
    simp [step, hname]

/-! ### Strings -/

theorem escapeChar_eq (c : Char) :
    (escapeChar c = [c] ∧ c ≠ '\'' ∧ c ≠ '\\') ∨
      ∃ d, escapeChar c = ['\\', d] ∧ d ≠ 'u' ∧ d ≠ 'U' := by
  generalize hcs : escapeChar c = cs
  rw [escapeChar] at hcs
  repeat' split at hcs
  all_goals subst hcs
  case isFalse => exact .inl ⟨rfl, ‹_›, ‹_›⟩
  all_goals exact .inr ⟨_, rfl, by decide, by decide⟩

theorem quote_notMem_of_slash_notMem {cs : List Char} (h : '\\' ∉ cs.flatMap escapeChar) :
    '\'' ∉ cs.flatMap escapeChar := by
  intro hmem
  obtain ⟨c, hc, hmem⟩ := List.mem_flatMap.1 hmem
  obtain ⟨heq, hquote, -⟩ | ⟨d, heq, -⟩ := escapeChar_eq c
  · rw [heq, List.mem_singleton] at hmem
    exact hquote hmem.symm
  · exact h (List.mem_flatMap.2 ⟨c, hc, heq ▸ List.mem_cons_self⟩)

namespace Lexer

theorem run_literal {cs : List Char} (h : '\'' ∉ cs) (body : List Char) :
    run (.literal false body) cs = some ([], .literal false (body ++ cs)) := by
  induction cs generalizing body with
  | nil => rw [List.append_nil]; rfl
  | cons c cs ih =>
    rw [List.mem_cons, not_or] at h
    have hstep : step (.literal false body) c = some ([], .literal false (body ++ [c])) := by
      simp [step, Ne.symm h.1]
    rw [run_cons_of_step hstep, ih h.2, Progress.behind_some]
    simp

/-- With escapes, a literal goes on over a character that is written as it is written there. -/
theorem run_escapeChar (body : List Char) (c : Char) :
    run (.literal true body) (escapeChar c) = some ([], .literal true (body ++ escapeChar c)) := by
  obtain ⟨heq, hquote, hslash⟩ | ⟨d, heq, hu, hU⟩ := escapeChar_eq c
  · have hstep : step (.literal true body) c = some ([], .literal true (body ++ [c])) := by
      simp [step, hquote, hslash]
    rw [heq, run_cons_of_step hstep]
    rfl
  · have hslash : step (.literal true body) '\\' = some ([], .escape body) := rfl
    have hstep : step (.escape body) d = some ([], .literal true (body ++ ['\\', d])) := by
      simp [step, hu, hU]
    rw [heq, run_cons_of_step hslash, run_cons_of_step hstep]
    rfl

theorem run_escaped (body cs : List Char) :
    run (.literal true body) (cs.flatMap escapeChar) =
      some ([], .literal true (body ++ cs.flatMap escapeChar)) := by
  induction cs generalizing body with
  | nil => rw [List.flatMap_nil, List.append_nil]; rfl
  | cons c cs ih =>
    rw [List.flatMap_cons, run_append_of_run (run_escapeChar body c), ih, Progress.behind_some]
    simp

end Lexer

/-- **A string is one literal**, whatever its characters. -/
theorem reads_quoteString (s : String) : Reads (quoteString s) [.ofString s] := by
  let body := s.toList.flatMap escapeChar
  have hquote : quoteString s =
      (if body.contains '\\' then ['E'] else []) ++ '\'' :: (body ++ ['\'']) :=
    List.append_assoc ..
  have hrun : run .between (quoteString s) =
      some ([], .literalQuote (body.contains '\\') body) := by
    rw [hquote]
    -- The literal is one with escapes where a backslash stands in it.
    cases hbody : body.contains '\\' with
    | true =>
      have hstart : run .between ['E', '\''] = some ([], .literal true []) := rfl
      exact (run_append_of_run hstart _).trans
        (congrArg (Progress.behind []) (run_append_of_run (run_escaped [] s.toList) _))
    | false =>
      have hplain : '\'' ∉ body := by
        refine quote_notMem_of_slash_notMem fun hslash => ?_
        rw [← List.contains_iff_mem, hbody] at hslash
        exact Bool.false_ne_true hslash
      have hstart : run .between ['\''] = some ([], .literal false []) := rfl
      exact (run_append_of_run hstart _).trans
        (congrArg (Progress.behind []) (run_append_of_run (run_literal hplain []) _))
  have hstep (c : Char) (hc : c ≠ '\'') :
      step (.literalQuote (body.contains '\\') body) c = start [.ofString s] c :=
    if_neg hc
  exact reads_of_run hrun
    (forall_isDelimiter.2 ⟨hstep ' ' (by decide), hstep ')' (by decide), hstep ',' (by decide)⟩)

/-! ### Numbers -/

namespace Lexer

theorem run_digits {ds : List Char} (hds : ∀ c ∈ ds, c.isDigit = true) (cs : List Char) :
    run (.number cs) ds = some ([], .number (cs ++ ds)) := by
  induction ds generalizing cs with
  | nil => rw [List.append_nil]; rfl
  | cons d ds ih =>
    rw [List.forall_mem_cons] at hds
    have hstep : step (.number cs) d = some ([], .number (cs ++ [d])) := by
      simp [step, hds.1]
    rw [run_cons_of_step hstep, ih hds.2, Progress.behind_some]
    simp

theorem ne_of_isDigit {c d : Char} (hd : d.isDigit = true) (hc : c.isDigit = false) : d ≠ c := by
  rintro rfl
  exact Bool.false_ne_true (hc.symm.trans hd)

/-- A digit between tokens is none of the other characters that tokens start with. -/
theorem start_digit {d : Char} (hd : d.isDigit = true) (done : List Token) :
    start done d = some (done, .number [d]) := by
  simp [start, hd, ne_of_isDigit hd]

theorem run_whole {ds : List Char} (hne : ds ≠ []) (hds : ∀ c ∈ ds, c.isDigit = true) :
    run .between ds = some ([], .number ds) := by
  cases ds with
  | nil => exact absurd rfl hne
  | cons d ds =>
    rw [List.forall_mem_cons] at hds
    have hstep : step .between d = some ([], .number [d]) := start_digit hds.1 []
    rw [run_cons_of_step hstep, run_digits hds.2]
    rfl

theorem run_sign {d : Char} (hd : d.isDigit = true) (cs : List Char) :
    run .between ('-' :: d :: cs) = (run .between (d :: cs)).behind [.symbol ['-']] := by
  have hsign : step .between '-' = some ([], .operator ['-']) := rfl
  have hoperator : isOperatorChar d = false := by
    have hall : ∀ c ∈ "+-*/<>=~!@#%^&|?".toList, c.isDigit = false := by simp
    rw [isOperatorChar, ← Bool.not_eq_true, List.contains_iff_mem]
    exact fun hmem => Bool.false_ne_true ((hall d hmem).symm.trans hd)
  have hstep : step (.operator ['-']) d = some ([.symbol ['-']], .number [d]) := by
    simp [step, hoperator, ne_of_isDigit hd, operatorTokens?, start_digit hd]
  have hstart : step .between d = some ([], .number [d]) := start_digit hd []
  rw [run_cons_of_step hsign, run_cons_of_step hstep, run_cons_of_step hstart,
    Progress.behind_nil, Progress.behind_nil]

end Lexer

/-- Digits, with a point behind some of them or without one. -/
inductive IsUnsigned : List Char → Prop where
  | whole {ds : List Char} (hne : ds ≠ []) (hds : ∀ c ∈ ds, c.isDigit = true) : IsUnsigned ds
  | fraction {ds places : List Char} (hne : ds ≠ []) (hds : ∀ c ∈ ds, c.isDigit = true)
      (hplaces : ∀ c ∈ places, c.isDigit = true) : IsUnsigned (ds ++ '.' :: places)

theorem IsUnsigned.exists_digit {cs : List Char} (h : IsUnsigned cs) :
    ∃ d rest, d.isDigit = true ∧ cs = d :: rest := by
  obtain ⟨ds, rest, hne, hds, rfl⟩ :
      ∃ ds rest, ds ≠ [] ∧ (∀ c ∈ ds, c.isDigit = true) ∧ cs = ds ++ rest := by
    cases h with
    | whole hne hds => exact ⟨cs, [], hne, hds, (List.append_nil cs).symm⟩
    | fraction hne hds _ => exact ⟨_, _, hne, hds, rfl⟩
  cases ds with
  | nil => exact absurd rfl hne
  | cons d ds => exact ⟨d, ds ++ rest, hds d List.mem_cons_self, rfl⟩

theorem IsUnsigned.reads {cs : List Char} (h : IsUnsigned cs) : Reads cs [.number cs] := by
  have hrun : run .between cs = some ([], .number cs) := by
    cases h with
    | whole hne hds => exact run_whole hne hds
    | @fraction ds places hne hds hplaces =>
      have hpoint : '.' ∉ ds := fun hmem => Bool.false_ne_true (hds '.' hmem)
      have hstep : step (.number ds) '.' = some ([], .number (ds ++ ['.'])) := by
        simp [step, hpoint]
      rw [run_append_of_run (run_whole hne hds), run_cons_of_step hstep, run_digits hplaces]
      simp
  exact reads_of_run hrun (forall_isDelimiter.2 ⟨rfl, rfl, rfl⟩)

/-- A number with a sign or without one. -/
def IsNumber (cs : List Char) : Prop :=
  IsUnsigned cs ∨ ∃ ds, IsUnsigned ds ∧ cs = '-' :: ds

/-- The tokens of a number, which has a sign or none. -/
def numberTokens : List Char → List Token
  | '-' :: cs => [.symbol ['-'], .number cs]
  | cs => [.number cs]

/-- **A number is one token**, behind another for its sign. -/
theorem IsNumber.reads {cs : List Char} (h : IsNumber cs) : Reads cs (numberTokens cs) := by
  obtain h | ⟨ds, h, rfl⟩ := h
  · obtain ⟨d, rest, hd, hcs⟩ := h.exists_digit
    have htokens : numberTokens cs = [.number cs] := by
      rw [hcs, numberTokens]
      rintro _ ⟨⟩
      exact Bool.false_ne_true hd
    exact htokens ▸ h.reads
  · obtain ⟨d, rest, hd, rfl⟩ := h.exists_digit
    intro c behind hc
    exact (run_sign hd _).trans ((congrArg (Progress.behind _) (h.reads c behind hc)).trans
      (Progress.behind_behind ..))

end Sql

end ListQuery
