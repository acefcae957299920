import ListQuery.Proofs.Sql.Tokens

/-!
# The words of a condition

To tell how a condition is put together, it need not be known what the names and constants in it
are.  So its text is taken apart into words only: they stand between blanks, and brackets and commas
are words of their own, but what is between quotes is part of one word, whatever its characters.

* `Sql.Scan`, `Sql.words?` : the words of a text, if it does not end within quotes.
* `Sql.Splits` : a text has the words, with rules for texts in parts.
* `Sql.isWord_column`, `Sql.isWord_literal` : a column is one word, and so is a constant.
* `Sql.Condition.inWords`, `Sql.Condition.splits` : the words of a condition.
-/

namespace ListQuery

namespace Sql

/-- A word of a text. -/
abbrev Word := List Char

/-! ### Taking a text apart -/

/-- Where a character may stand. -/
inductive Scan where
  /-- Behind the characters of a word, or between words if there are none. -/
  | word (cs : Word)
  /-- Between quotes within a word. -/
  | quoted (quote : Char) (hasEscapes : Bool) (cs : Word)
  /-- Behind a backslash between quotes with escapes. -/
  | escaped (quote : Char) (cs : Word)
deriving DecidableEq, Repr

namespace Scan

/-- A character that is a word of its own. -/
def isMark (c : Char) : Bool :=
  c == '(' || c == ')' || c == ','

/-- A character that goes on with a word, whatever stands before it. -/
def isPlain (c : Char) : Bool :=
  !(c.isWhitespace || isMark c || c == '"' || c == '\'')

/-- Behind these characters of a word, a quote opens a string with escapes. -/
def opensEscapes (cs : Word) : Bool :=
  cs.take 2 == ['E'] || cs.take 2 == ['E', '\'']

/-- A word that ends, if it has characters. -/
def done (cs : Word) : List Word :=
  if cs.isEmpty then [] else [cs]

/-- Reads one character. -/
def step (s : Scan) (c : Char) : List Word × Scan :=
  match s with
  | .word cs =>
    if c.isWhitespace then (done cs, .word [])
    else if isMark c then (done cs ++ [[c]], .word [])
    else if c = '"' then ([], .quoted c false (cs ++ [c]))
    else if c = '\'' then ([], .quoted c (opensEscapes cs) (cs ++ [c]))
    else ([], .word (cs ++ [c]))
  | .quoted quote hasEscapes cs =>
    -- A quote written twice ends the quotes, and opens others at once.
    if c = quote then ([], .word (cs ++ [c]))
    else if hasEscapes && c == '\\' then ([], .escaped quote (cs ++ [c]))
    else ([], .quoted quote hasEscapes (cs ++ [c]))
  | .escaped quote cs => ([], .quoted quote true (cs ++ [c]))

/-- Reads a text. -/
def run (s : Scan) : List Char → List Word × Scan
  | [] => ([], s)
  | c :: cs => ((step s c).1 ++ (run (step s c).2 cs).1, (run (step s c).2 cs).2)

theorem run_append (s : Scan) (cs rest : List Char) : run s (cs ++ rest) =
    ((run s cs).1 ++ (run (run s cs).2 rest).1, (run (run s cs).2 rest).2) := by
  induction cs generalizing s with
  | nil => rfl
  | cons c cs ih => simp only [List.cons_append, run, ih, List.append_assoc]

theorem run_append_of_run {s s' : Scan} {cs : List Char} (h : run s cs = ([], s'))
    (rest : List Char) : run s (cs ++ rest) = run s' rest := by
  rw [run_append, h, List.nil_append]

theorem run_cons_of_step {s s' : Scan} {c : Char} (h : step s c = ([], s')) (cs : List Char) :
    run s (c :: cs) = run s' cs := by
  rw [run, h, List.nil_append]

end Scan

/-- The words of a text, if it does not end within quotes. -/
def words? (cs : List Char) : Option (List Word) :=
  match Scan.run (.word []) cs with
  | (ws, .word w) => some (ws ++ Scan.done w)
  | _ => none

/-- The text has the words. -/
def Splits (cs : List Char) (ws : List Word) : Prop :=
  words? cs = some ws

/-- The text is one word. -/
structure IsWord (cs : List Char) : Prop where
  /-- It has characters. -/
  ne_nil : cs ≠ []
  /-- It is read to the end of a word. -/
  run_eq : Scan.run (.word []) cs = ([], .word cs)

/-! ### Texts in parts -/

variable {cs cs' : List Char} {ws ws' : List Word}

theorem splits_iff : Splits cs ws ↔
    ∃ front w, Scan.run (.word []) cs = (front, .word w) ∧ ws = front ++ Scan.done w := by
  rw [Splits, words?]
  split
  case h_1 front w h => simp [h, eq_comm]
  case h_2 h =>
    refine iff_of_false nofun ?_
    rintro ⟨front, w, hrun, -⟩
    exact h front w hrun

theorem splits_nil : Splits [] [] :=
  rfl

theorem IsWord.splits (h : IsWord cs) : Splits cs [cs] := by
  refine splits_iff.2 ⟨[], cs, h.run_eq, ?_⟩
  simp [Scan.done, h.ne_nil]

theorem Splits.blank (h : Splits cs ws) (h' : Splits cs' ws') :
    Splits (cs ++ ' ' :: cs') (ws ++ ws') := by
  obtain ⟨front, w, hrun, rfl⟩ := splits_iff.1 h
  obtain ⟨front', w', hrun', rfl⟩ := splits_iff.1 h'
  have hblank : Scan.step (.word w) ' ' = (Scan.done w, .word []) := rfl
  refine splits_iff.2 ⟨front ++ Scan.done w ++ front', w', ?_, (List.append_assoc ..).symm⟩
  rw [Scan.run_append, hrun, Scan.run, hblank, hrun', List.append_assoc]

theorem Splits.mark {c : Char} (hc : Scan.isMark c = true) (h : Splits cs ws)
    (h' : Splits cs' ws') : Splits (cs ++ c :: cs') (ws ++ [c] :: ws') := by
  obtain ⟨front, w, hrun, rfl⟩ := splits_iff.1 h
  obtain ⟨front', w', hrun', rfl⟩ := splits_iff.1 h'
  have hmark : Scan.step (.word w) c = (Scan.done w ++ [[c]], .word []) := by
    simp only [Scan.isMark, Bool.or_eq_true, beq_iff_eq] at hc
    obtain (rfl | rfl) | rfl := hc <;> rfl
  refine splits_iff.2 ⟨front ++ (Scan.done w ++ [[c]] ++ front'), w', ?_, ?_⟩
  · rw [Scan.run_append, hrun, Scan.run, hmark, hrun']
  · simp

/-! ### Names, strings and numbers -/

namespace Scan

theorem run_plain (h : ∀ c ∈ cs, isPlain c = true) (w : Word) :
    run (.word w) cs = ([], .word (w ++ cs)) := by
  induction cs generalizing w with
  | nil => rw [List.append_nil]; rfl
  | cons c cs ih =>
    rw [List.forall_mem_cons] at h
    have hstep : step (.word w) c = ([], .word (w ++ [c])) := by
      have hc := h.1
      simp only [isPlain, Bool.not_eq_true', Bool.or_eq_false_iff, beq_eq_false_iff_ne] at hc
      simp [step, hc]
    rw [run_cons_of_step hstep, ih h.2]
    simp

theorem run_quoted {quote : Char} (h : quote ∉ cs) (w : Word) :
    run (.quoted quote false w) cs = ([], .quoted quote false (w ++ cs)) := by
  induction cs generalizing w with
  | nil => rw [List.append_nil]; rfl
  | cons c cs ih =>
    rw [List.mem_cons, not_or] at h
    have hstep : step (.quoted quote false w) c = ([], .quoted quote false (w ++ [c])) := by
      simp [step, Ne.symm h.1]
    rw [run_cons_of_step hstep, ih h.2]
    simp

theorem run_replaceChar (name : List Char) (w : Word) :
    run (.quoted '"' false w) (Text.replaceChar '"' ['"', '"'] name) =
      ([], .quoted '"' false (w ++ Text.replaceChar '"' ['"', '"'] name)) := by
  induction name generalizing w with
  | nil => rw [Text.replaceChar, List.flatMap_nil, List.append_nil]; rfl
  | cons c name ih =>
    have hchar : run (.quoted '"' false w) (if c = '"' then ['"', '"'] else [c]) =
        ([], .quoted '"' false (w ++ if c = '"' then ['"', '"'] else [c])) := by
      split
      case isTrue => simp [run, step, isMark]
      case isFalse hc => simp [run, step, hc]
    rw [Text.replaceChar] at ih ⊢
    rw [List.flatMap_cons, run_append_of_run hchar, ih, List.append_assoc]

theorem run_quoteIdentifier (name : String) (w : Word) :
    run (.word w) (quoteIdentifier name) = ([], .word (w ++ quoteIdentifier name)) := by
  have hopen : step (.word w) '"' = ([], .quoted '"' false (w ++ ['"'])) := rfl
  have hclose (v : Word) : run (.quoted '"' false v) ['"'] = ([], .word (v ++ ['"'])) := rfl
  rw [quoteIdentifier, List.cons_append, run_cons_of_step hopen,
    run_append_of_run (run_replaceChar _ _), hclose]
  simp

/-- With escapes, a string goes on over a character that is written as it is written there. -/
theorem run_escapeChar (w : Word) (c : Char) :
    run (.quoted '\'' true w) (escapeChar c) = ([], .quoted '\'' true (w ++ escapeChar c)) := by
  obtain ⟨heq, hquote, hslash⟩ | ⟨d, heq, -⟩ := escapeChar_eq c
  · simp [heq, run, step, hquote, hslash]
  · simp [heq, run, step]

theorem run_escaped (s : List Char) (w : Word) :
    run (.quoted '\'' true w) (s.flatMap escapeChar) =
      ([], .quoted '\'' true (w ++ s.flatMap escapeChar)) := by
  induction s generalizing w with
  | nil => rw [List.flatMap_nil, List.append_nil]; rfl
  | cons c s ih =>
    rw [List.flatMap_cons, run_append_of_run (run_escapeChar w c), ih, List.append_assoc]

end Scan

theorem isWord_column (c : Column) : IsWord c.write := by
  refine ⟨by simp [Column.write, quoteIdentifier], ?_⟩
  have hpoint (w : Word) : Scan.step (.word w) '.' = ([], .word (w ++ ['.'])) := rfl
  rw [Column.write, Scan.run_append_of_run (Scan.run_quoteIdentifier c.table []),
    Scan.run_cons_of_step (hpoint _), Scan.run_quoteIdentifier]
  simp

theorem isWord_of_plain (hne : cs ≠ []) (h : ∀ c ∈ cs, Scan.isPlain c = true) : IsWord cs :=
  ⟨hne, Scan.run_plain h []⟩

/-- What is written for the characters of a string goes on with it.  Where there is a backslash, the
string is one with escapes; without, there is no quote either. -/
theorem Scan.run_body (cs : List Char) (w : Word) :
    run (.quoted '\'' ((cs.flatMap escapeChar).contains '\\') w) (cs.flatMap escapeChar) =
      ([], .quoted '\'' ((cs.flatMap escapeChar).contains '\\') (w ++ cs.flatMap escapeChar)) := by
  cases hslash : (cs.flatMap escapeChar).contains '\\' with
  | true => exact run_escaped cs w
  | false =>
    refine run_quoted (quote_notMem_of_slash_notMem fun hmem => ?_) w
    rw [← List.contains_iff_mem, hslash] at hmem
    exact Bool.false_ne_true hmem

/-- **A string is one word**, whatever its characters. -/
theorem isWord_quoteString (s : String) : IsWord (quoteString s) := by
  generalize hbody : s.toList.flatMap escapeChar = body
  generalize hfront : (if body.contains '\\' then ['E'] else []) ++ ['\''] = front
  have hquote : quoteString s = front ++ (body ++ ['\'']) := by
    simp [quoteString, hbody, ← hfront]
  have hopen : Scan.run (.word []) front = ([], .quoted '\'' (body.contains '\\') front) := by
    rw [← hfront]
    cases body.contains '\\' <;> rfl
  have hclose (w : Word) : Scan.run (.quoted '\'' (body.contains '\\') w) ['\''] =
      ([], .word (w ++ ['\''])) := rfl
  have hrun := Scan.run_body s.toList front
  rw [hbody] at hrun
  refine ⟨by simp [hquote], ?_⟩
  rw [hquote, Scan.run_append_of_run hopen, Scan.run_append_of_run hrun, hclose, List.append_assoc]

theorem isPlain_of_isDigit {c : Char} (h : c.isDigit = true) : Scan.isPlain c = true := by
  simp [Scan.isPlain, Scan.isMark, Char.isWhitespace, Lexer.ne_of_isDigit h]

theorem IsUnsigned.isPlain (h : IsUnsigned cs) : ∀ c ∈ cs, Scan.isPlain c = true := by
  cases h with
  | whole _ hds => exact fun c hc => isPlain_of_isDigit (hds c hc)
  | fraction _ hds hplaces =>
    rw [List.forall_mem_append, List.forall_mem_cons]
    exact ⟨fun c hc => isPlain_of_isDigit (hds c hc), by decide,
      fun c hc => isPlain_of_isDigit (hplaces c hc)⟩

theorem IsNumber.isWord (h : IsNumber cs) : IsWord cs := by
  obtain h | ⟨ds, h, rfl⟩ := h
  · obtain ⟨d, rest, -, hcs⟩ := h.exists_digit
    exact isWord_of_plain (hcs ▸ List.cons_ne_nil d rest) h.isPlain
  · exact isWord_of_plain (List.cons_ne_nil '-' ds) (List.forall_mem_cons.2 ⟨by decide, h.isPlain⟩)

theorem Literal.isWord (v : Literal) : IsWord v.write := by
  cases v with
  | string s => exact isWord_quoteString s
  | boolean b => cases b <;> exact ⟨by decide, rfl⟩
  | integer i => exact (IsNumber.of_integer i).isWord
  | real x => exact (IsNumber.of_binary64 x).isWord
  | uuid u =>
    rw [write_uuid]
    exact isWord_quoteString u.write
  | timestamp t =>
    rw [write_timestamp]
    exact isWord_quoteString _

/-! ### Conditions -/

namespace Condition

/-- The words of constants with commas between them. -/
def listWords : List Literal → List Word
  | [] => []
  | [v] => [v.write]
  | v :: vs => v.write :: [','] :: listWords vs

/-- The words between round brackets, if `isNeeded`. -/
def bracketWords (isNeeded : Bool) (ws : List Word) : List Word :=
  if isNeeded then ['('] :: ws ++ [[')']] else ws

/-- The words of a column as a text in lower case. -/
def lowerWords (column : Column) (isCast : Bool) : List Word :=
  if isCast then
    ["LOWER".toList, ['('], "CAST".toList, ['('], column.write, "AS".toList, "text".toList, [')'],
      [')']]
  else ["LOWER".toList, ['('], column.write, [')']]

/-- The condition is one of two parts joined by `AND`. -/
def isBoth : Condition → Bool
  | both _ _ => true
  | _ => false

/-- The condition is one of two parts joined by `OR`. -/
def isEither : Condition → Bool
  | either _ _ => true
  | _ => false

/-- The words of a condition. -/
def inWords : Condition → List Word
  | constant b => [(if b then "TRUE" else "FALSE").toList]
  | compare column operator v => [column.write, operator.write, v.write]
  | oneOf _ [] => [['1'], ['='], ['2']]
  | oneOf column vs => column.write :: "IN".toList :: ['('] :: listWords vs ++ [[')']]
  | like column isCast pattern => lowerWords column isCast ++ ["LIKE".toList, quoteString pattern]
  | both a b =>
    bracketWords a.isEither a.inWords ++ "AND".toList :: bracketWords b.isJoined b.inWords
  | either a b =>
    bracketWords a.isBoth a.inWords ++ "OR".toList :: bracketWords b.isJoined b.inWords

theorem write_both (a b : Condition) : (both a b).write =
    bracket a.isEither a.write ++ " AND ".toList ++ bracket b.isJoined b.write := by
  cases a <;> rfl

theorem write_either (a b : Condition) : (either a b).write =
    bracket a.isBoth a.write ++ " OR ".toList ++ bracket b.isJoined b.write := by
  cases a <;> rfl

theorem splits_bracket (h : Splits cs ws) (isNeeded : Bool) :
    Splits (bracket isNeeded cs) (bracketWords isNeeded ws) := by
  cases isNeeded with
  | false => exact h
  | true =>
    have hclose : Splits (cs ++ [')']) (ws ++ [[')']]) := h.mark rfl splits_nil
    have hopen := splits_nil.mark (c := '(') rfl hclose
    exact hopen

theorem splits_writeList (vs : List Literal) : Splits (writeList vs) (listWords vs) := by
  induction vs with
  | nil => exact splits_nil
  | cons v vs ih =>
    cases vs with
    | nil => exact v.isWord.splits
    | cons w vs => exact v.isWord.splits.mark rfl (splits_nil.blank ih)

theorem isWord_operator (operator : Operator) : IsWord operator.write := by
  cases operator with
  | order c => cases c <;> exact ⟨by decide, rfl⟩
  | _ => exact ⟨by decide, rfl⟩

theorem splits_writeLower (column : Column) (isCast : Bool) :
    Splits (writeLower column isCast) (lowerWords column isCast) := by
  have hlower : Splits "LOWER".toList ["LOWER".toList] := rfl
  have hcolumn := (isWord_column column).splits
  cases isCast with
  | true =>
    have hcast : Splits "CAST".toList ["CAST".toList] := rfl
    have htext : Splits "AS text))".toList ["AS".toList, "text".toList, [')'], [')']] := rfl
    have hword := hlower.mark (c := '(') rfl (hcast.mark (c := '(') rfl (hcolumn.blank htext))
    rw [writeLower, if_pos rfl, List.append_assoc]
    exact hword
  | false =>
    have hword := hlower.mark (c := '(') rfl (hcolumn.mark (c := ')') rfl splits_nil)
    rw [writeLower, if_neg Bool.false_ne_true, List.append_assoc]
    exact hword

theorem Splits.join {keyword : List Char} (hkeyword : IsWord keyword) (h : Splits cs ws)
    (h' : Splits cs' ws') :
    Splits (cs ++ (' ' :: keyword ++ [' ']) ++ cs') (ws ++ keyword :: ws') := by
  have hjoin := h.blank (hkeyword.splits.blank h')
  simpa using hjoin

/-- **The words of a condition.** -/
theorem splits (c : Condition) : Splits c.write c.inWords := by
  induction c with
  | constant b => cases b <;> rfl
  | compare column operator v =>
    have hwords :=
      Splits.join (isWord_operator operator) (isWord_column column).splits v.isWord.splits
    rw [write, inWords]
    simpa using hwords
  | oneOf column vs =>
    cases vs with
    | nil => rfl
    | cons v vs =>
      have hin : IsWord "IN".toList := ⟨by decide, rfl⟩
      have hlist := (splits_writeList (v :: vs)).mark (c := ')') rfl splits_nil
      have hwords := Splits.join hin (isWord_column column).splits
        (splits_nil.mark (c := '(') rfl hlist)
      simpa [write, inWords] using hwords
  | like column isCast pattern =>
    have hlike : IsWord "LIKE".toList := ⟨by decide, rfl⟩
    have hwords := Splits.join hlike (splits_writeLower column isCast)
      (isWord_quoteString pattern).splits
    exact hwords
  | both a b iha ihb =>
    have hand : IsWord "AND".toList := ⟨by decide, rfl⟩
    rw [write_both, inWords]
    exact Splits.join hand (splits_bracket iha _) (splits_bracket ihb _)
  | either a b iha ihb =>
    have hor : IsWord "OR".toList := ⟨by decide, rfl⟩
    rw [write_either, inWords]
    exact Splits.join hor (splits_bracket iha _) (splits_bracket ihb _)

end Condition

end Sql

end ListQuery
