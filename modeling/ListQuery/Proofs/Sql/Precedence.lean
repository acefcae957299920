import ListQuery.Proofs.Sql.Truth
import ListQuery.Proofs.Sql.Words
import ListQuery.Sql.Rendering
import ListQuery.Store.Binding

/-!
# How a condition is read

A server takes the words of a condition apart by its rules of precedence: a comparison binds closer
than `AND`, `AND` closer than `OR`, each of these from left to right, and brackets bind closer than
all.  A condition is written without brackets where these rules make them needless, and is read as
it was meant.

* `Sql.Expression` : comparisons joined by `AND` and `OR`, and its value.
* `Sql.Parse`, `Sql.Expression.ofText?` : the expression that a text is read as.
* `Sql.Condition.isRead` : what is read up to the end of a condition, within whatever stands around.
* `Sql.Condition.ofText?_write` : a condition is read as the expression that it is.
* `Plan.reads_condition` : the condition of a predicate is read with the meaning of the predicate.
-/

namespace ListQuery

namespace Sql

/-! ### Expressions -/

/-- Comparisons joined by `AND` and `OR`. -/
inductive Expression (α : Type) where
  /-- A truth value. -/
  | constant (b : Bool)
  /-- A comparison. -/
  | comparison (a : α)
  /-- Both expressions. -/
  | both (e f : Expression α)
  /-- One of two expressions. -/
  | either (e f : Expression α)
deriving DecidableEq, Repr

namespace Expression

variable {α β : Type}

/-- The truth of an expression, given that of each comparison. -/
def value (v : α → Truth) : Expression α → Truth
  | constant b => .ofBool b
  | comparison a => v a
  | both e f => (e.value v).both (f.value v)
  | either e f => (e.value v).either (f.value v)

/-- The expression with other comparisons. -/
def map (f : α → β) : Expression α → Expression β
  | constant b => constant b
  | comparison a => comparison (f a)
  | both e e' => both (e.map f) (e'.map f)
  | either e e' => either (e.map f) (e'.map f)

/-- Expressions joined from left to right; one alone stands for itself, and none is the constant
`ofNone`. -/
def chain (join : Expression α → Expression α → Expression α) (ofNone : Bool) :
    List (Expression α) → Expression α
  | [] => constant ofNone
  | e :: es => es.foldl join e

/-- All of the expressions. -/
def all (es : List (Expression α)) : Expression α :=
  chain both true es

/-- One of the expressions. -/
def any (es : List (Expression α)) : Expression α :=
  chain either false es

theorem map_all (f : α → β) (es : List (Expression α)) : (all es).map f = all (es.map (map f)) := by
  cases es with
  | nil => rfl
  | cons e es => exact (List.foldl_map_hom fun _ _ => rfl).symm

theorem map_any (f : α → β) (es : List (Expression α)) : (any es).map f = any (es.map (map f)) := by
  cases es with
  | nil => rfl
  | cons e es => exact (List.foldl_map_hom fun _ _ => rfl).symm

theorem value_all (v : α → Truth) (es : List (Expression α)) :
    (all es).value v = Truth.all (es.map (value v)) := by
  cases es with
  | nil => rfl
  | cons e es =>
    rw [List.map_cons, Truth.all_cons, ← Truth.foldl_both]
    exact (List.foldl_map_hom fun _ _ => rfl).symm

theorem value_any (v : α → Truth) (es : List (Expression α)) :
    (any es).value v = Truth.any (es.map (value v)) := by
  cases es with
  | nil => rfl
  | cons e es =>
    rw [List.map_cons, Truth.any_cons, ← Truth.foldl_either]
    exact (List.foldl_map_hom fun _ _ => rfl).symm

/-! ### Reading -/

/-- The truth value of a constant condition: a key word, or two numbers compared. -/
def constant? : List Word → Option Bool
  | [w] =>
    if w = "TRUE".toList then some true else if w = "FALSE".toList then some false else none
  | [a, sign, b] =>
    if sign = ['='] then
      (Integer.value? a).bind fun i => (Integer.value? b).map fun j => i == j
    else none
  | _ => none

/-- The expression of words without connectives. -/
def ofWords (ws : List Word) : Expression (List Word) :=
  (constant? ws).elim (comparison ws) constant

theorem ofWords_of_value?_eq_none {w : Word} (h : Integer.value? w = none) {ws : List Word}
    (hne : ws ≠ []) : ofWords (w :: ws) = comparison (w :: ws) := by
  have hconstant : constant? (w :: ws) = none := by
    match ws, hne with
    | [_], _ => rfl
    | [_, _], _ => simp [constant?, h]
    | _ :: _ :: _ :: _, _ => rfl
  rw [ofWords, hconstant, Option.elim_none]

end Expression

/-- What a server has read of an expression, up to the operand that it reads next. -/
structure Frame where
  /-- What stands in front of the last `OR`. -/
  either : Option (Expression (List Word)) := none
  /-- What stands behind that, and in front of the last `AND`. -/
  both : Option (Expression (List Word)) := none

namespace Frame

/-- What stands behind the last `OR`, if `e` comes last. -/
def conjoin (f : Frame) (e : Expression (List Word)) : Expression (List Word) :=
  f.both.elim e fun front => .both front e

/-- The whole expression, if `e` comes last. -/
def finish (f : Frame) (e : Expression (List Word)) : Expression (List Word) :=
  f.either.elim (f.conjoin e) fun front => .either front (f.conjoin e)

end Frame

/-- What a server has read of an operand. -/
inductive Operand where
  /-- Nothing. -/
  | missing
  /-- Some words of a comparison, with a number of brackets open in them. -/
  | comparison (ws : List Word) (depth : Nat)
  /-- An expression between brackets. -/
  | bracketed (e : Expression (List Word))

/-- The expression of an operand that is complete. -/
def Operand.expression? : Operand → Option (Expression (List Word))
  | missing => none
  | comparison ws depth => if depth = 0 then some (.ofWords ws) else none
  | bracketed e => some e

/-- What a server has read of a condition. -/
structure Parse where
  /-- What stands in front of the brackets that are open, the innermost first. -/
  outer : List Frame
  /-- What stands behind the innermost. -/
  frame : Frame
  /-- What has been read of the next operand. -/
  operand : Operand

namespace Parse

/-- A word that ends an operand. -/
def isEnd (w : Word) : Bool :=
  w == "AND".toList || w == "OR".toList || w == [')']

/-- The number of brackets open in a comparison behind one more word. -/
def depthAfter (depth : Nat) (w : Word) : Nat :=
  if w = ['('] then depth + 1 else if w = [')'] then depth - 1 else depth

/-- Reads a word behind a complete operand. -/
def join (outer : List Frame) (f : Frame) (e : Expression (List Word)) (w : Word) : Option Parse :=
  if w = "AND".toList then some ⟨outer, { f with both := some (f.conjoin e) }, .missing⟩
  else if w = "OR".toList then some ⟨outer, { either := some (f.finish e) }, .missing⟩
  else if w = [')'] then
    match outer with
    | [] => none
    | g :: outer => some ⟨outer, g, .bracketed (f.finish e)⟩
  else none

/-- Reads a word. -/
def step (r : Parse) (w : Word) : Option Parse :=
  match r.operand with
  | .missing =>
    if w = ['('] then some ⟨r.frame :: r.outer, {}, .missing⟩
    else if isEnd w then none
    else some { r with operand := .comparison [w] 0 }
  | .comparison ws depth =>
    -- Connectives within the brackets of a comparison are part of it.
    if depth = 0 && isEnd w then join r.outer r.frame (.ofWords ws) w
    else some { r with operand := .comparison (ws ++ [w]) (depthAfter depth w) }
  | .bracketed e => join r.outer r.frame e w

/-- The expression that has been read, if all brackets are closed and no operand is missing. -/
def result? (r : Parse) : Option (Expression (List Word)) :=
  if r.outer.isEmpty then r.operand.expression?.map r.frame.finish else none

end Parse

/-- The expression that a text is read as. -/
def Expression.ofText? (cs : List Char) : Option (Expression (List Word)) := do
  let r ← (← words? cs).foldlM Parse.step ⟨[], {}, .missing⟩
  r.result?

/-! ### Comparisons -/

/-- A word that has no part in how a condition is put together. -/
def isInert (w : Word) : Bool :=
  !(Parse.isEnd w || w == ['('])

theorem isInert_iff {w : Word} : isInert w = true ↔ Parse.isEnd w = false ∧ w ≠ ['('] := by
  simp [isInert]

/-- Connectives and brackets are told from other words by their first characters. -/
theorem isInert_of_head {c : Char} {cs : List Char} (h : c ∉ ['(', ')', 'A', 'O']) :
    isInert (c :: cs) = true := by
  simp only [List.mem_cons, List.not_mem_nil, or_false, not_or] at h
  simp [isInert, Parse.isEnd, h]

theorem Column.isInert_write (c : Column) : isInert c.write = true :=
  isInert_of_head (by decide)

theorem isInert_quoteString (s : String) : isInert (quoteString s) = true := by
  rw [quoteString]
  split
  · exact isInert_of_head (by decide)
  · exact isInert_of_head (by decide)

theorem IsNumber.isInert {cs : List Char} (h : IsNumber cs) : isInert cs = true := by
  obtain h | ⟨ds, h, rfl⟩ := h
  · obtain ⟨d, rest, hd, rfl⟩ := h.exists_digit
    exact isInert_of_head (by simp [Lexer.ne_of_isDigit hd])
  · exact isInert_of_head (by decide)

theorem Literal.isInert_write (v : Literal) : isInert v.write = true := by
  cases v with
  | string s => exact isInert_quoteString s
  | boolean b => cases b <;> rfl
  | integer i => exact (IsNumber.of_integer i).isInert
  | real x => exact (IsNumber.of_binary64 x).isInert
  | uuid u => exact write_uuid u ▸ isInert_quoteString u.write
  | timestamp t => exact write_timestamp t ▸ isInert_quoteString _

theorem Operator.isInert_write (operator : Operator) : isInert operator.write = true := by
  cases operator with
  | order c => cases c <;> rfl
  | _ => rfl

namespace Parse

/-- The number of brackets open in a comparison behind some words, unless one of them ends it. -/
def depth? (depth : Nat) : List Word → Option Nat
  | [] => some depth
  | w :: ws => if depth = 0 && isEnd w then none else depth? (depthAfter depth w) ws

theorem depth?_append (depth : Nat) (ws ws' : List Word) :
    depth? depth (ws ++ ws') = (depth? depth ws).bind (depth? · ws') := by
  induction ws generalizing depth with
  | nil => rfl
  | cons w ws ih =>
    rw [List.cons_append, depth?, depth?]
    split
    · rfl
    · exact ih _

theorem depth?_cons_of_isInert {w : Word} (h : isInert w = true) (depth : Nat) (ws : List Word) :
    depth? depth (w :: ws) = depth? depth ws := by
  obtain ⟨hend, hopen⟩ := isInert_iff.1 h
  have hclose : w ≠ [')'] := by
    rintro rfl
    cases hend
  rw [depth?, hend, Bool.and_false, if_neg Bool.false_ne_true, depthAfter, if_neg hopen,
    if_neg hclose]

theorem foldlM_comparison {outer : List Frame} {f : Frame} {ws ws' : List Word} {depth depth' : Nat}
    (h : depth? depth ws' = some depth') :
    ws'.foldlM step ⟨outer, f, .comparison ws depth⟩ =
      some ⟨outer, f, .comparison (ws ++ ws') depth'⟩ := by
  induction ws' generalizing ws depth with
  | nil =>
    cases h
    rw [List.append_nil]
    rfl
  | cons w ws' ih =>
    rw [depth?] at h
    split at h
    case isTrue => cases h
    case isFalse hend =>
      have hstep : step ⟨outer, f, .comparison ws depth⟩ w =
          some ⟨outer, f, .comparison (ws ++ [w]) (depthAfter depth w)⟩ := if_neg hend
      rw [List.foldlM_cons, hstep, Option.bind_eq_bind, Option.bind_some, ih h]
      simp

theorem foldlM_missing {outer : List Frame} {f : Frame} {w : Word} {ws : List Word}
    (hw : isInert w = true) (h : depth? 0 ws = some 0) :
    (w :: ws).foldlM step ⟨outer, f, .missing⟩ = some ⟨outer, f, .comparison (w :: ws) 0⟩ := by
  have hstep : step ⟨outer, f, .missing⟩ w = some ⟨outer, f, .comparison [w] 0⟩ := by
    obtain ⟨hend, hopen⟩ := isInert_iff.1 hw
    simp [step, hend, hopen]
  rw [List.foldlM_cons, hstep, Option.bind_eq_bind, Option.bind_some, foldlM_comparison h]
  rfl

/-- Behind a complete operand it does not matter what the operand is. -/
theorem step_of_isEnd {outer : List Frame} {f : Frame} {o : Operand} {e : Expression (List Word)}
    {w : Word} (ho : o.expression? = some e) (hw : isEnd w = true) :
    step ⟨outer, f, o⟩ w = join outer f e w := by
  cases o with
  | missing => cases ho
  | comparison ws depth =>
    rw [Operand.expression?] at ho
    split at ho
    case isTrue hdepth =>
      cases ho
      simp [step, hdepth, hw]
    case isFalse => cases ho
  | bracketed e' =>
    cases ho
    rfl

end Parse

/-! ### Conditions -/

namespace Condition

open Parse

/-- The expression that a condition is. -/
def expression : Condition → Expression (List Word)
  | constant b => .constant b
  | compare column operator v => .comparison (compare column operator v).inWords
  | oneOf _ [] => .constant false
  | oneOf column (v :: vs) => .comparison (oneOf column (v :: vs)).inWords
  | like column isCast pattern => .comparison (like column isCast pattern).inWords
  | both a b => .both a.expression b.expression
  | either a b => .either a.expression b.expression

theorem expression_all (cs : List Condition) :
    (all cs).expression = .all (cs.map expression) := by
  cases cs with
  | nil => rfl
  | cons c cs => exact (List.foldl_map_hom fun _ _ => rfl).symm

theorem expression_any (cs : List Condition) :
    (any cs).expression = .any (cs.map expression) := by
  cases cs with
  | nil => rfl
  | cons c cs => exact (List.foldl_map_hom fun _ _ => rfl).symm

theorem depth?_listWords (vs : List Literal) : depth? 1 (listWords vs) = some 1 := by
  induction vs with
  | nil => rfl
  | cons v vs ih =>
    cases vs with
    | nil => exact (depth?_cons_of_isInert v.isInert_write 1 []).trans rfl
    | cons w vs =>
      have hcomma : isInert [','] = true := rfl
      rw [listWords, depth?_cons_of_isInert v.isInert_write, depth?_cons_of_isInert hcomma, ih]
      exact nofun

theorem depth?_lowerWords (column : Column) (isCast : Bool) :
    ∃ ws, lowerWords column isCast = "LOWER".toList :: ws ∧ depth? 0 ws = some 0 := by
  cases isCast with
  | true =>
    refine ⟨_, rfl, ?_⟩
    have hopen (ws : List Word) : depth? 0 (['('] :: "CAST".toList :: ['('] :: ws) =
        depth? 2 ws := rfl
    rw [hopen, depth?_cons_of_isInert column.isInert_write]
    rfl
  | false =>
    refine ⟨_, rfl, ?_⟩
    have hopen (ws : List Word) : depth? 0 (['('] :: ws) = depth? 1 ws := rfl
    rw [hopen, depth?_cons_of_isInert column.isInert_write]
    rfl

theorem value?_column (column : Column) : Integer.value? column.write = none :=
  rfl

theorem inWords_of_not_isJoined {c : Condition} (h : c.isJoined = false) :
    ∃ w ws, c.inWords = w :: ws ∧ isInert w = true ∧ depth? 0 ws = some 0 ∧
      Expression.ofWords c.inWords = c.expression := by
  cases c with
  | constant b => cases b <;> exact ⟨_, [], rfl, rfl, rfl, rfl⟩
  | compare column operator v =>
    refine ⟨_, _, rfl, column.isInert_write, ?_, ?_⟩
    · rw [depth?_cons_of_isInert operator.isInert_write, depth?_cons_of_isInert v.isInert_write]
      rfl
    · exact Expression.ofWords_of_value?_eq_none (value?_column column) (List.cons_ne_nil _ _)
  | oneOf column vs =>
    cases vs with
    | nil => exact ⟨_, _, rfl, rfl, rfl, rfl⟩
    | cons v vs =>
      refine ⟨_, "IN".toList :: ['('] :: (listWords (v :: vs) ++ [[')']]), rfl,
        column.isInert_write, ?_, ?_⟩
      · have hopen : depth? 0 ("IN".toList :: ['('] :: (listWords (v :: vs) ++ [[')']])) =
            depth? 1 (listWords (v :: vs) ++ [[')']]) := rfl
        rw [hopen, depth?_append, depth?_listWords]
        rfl
      · exact Expression.ofWords_of_value?_eq_none (value?_column column) (List.cons_ne_nil _ _)
  | like column isCast pattern =>
    obtain ⟨ws, hws, hdepth⟩ := depth?_lowerWords column isCast
    have hwords : (like column isCast pattern).inWords =
        "LOWER".toList :: (ws ++ ["LIKE".toList, quoteString pattern]) := by
      rw [inWords, hws, List.cons_append]
    have hlike : isInert "LIKE".toList = true := rfl
    refine ⟨_, _, hwords, rfl, ?_, ?_⟩
    · rw [depth?_append, hdepth, Option.bind_some, depth?_cons_of_isInert hlike,
        depth?_cons_of_isInert (isInert_quoteString pattern)]
      rfl
    · have hlower : Integer.value? "LOWER".toList = none := rfl
      rw [expression, hwords]
      exact Expression.ofWords_of_value?_eq_none hlower (by simp)
  | both a b => cases h
  | either a b => cases h

/-- **What is read up to the end of a condition**, in whatever brackets: its expression, if an
operand stands last, and no part of an `OR` unless it is joined by `OR` itself. -/
def IsRead (c : Condition) : Prop :=
  ∀ outer, ∃ f o e, c.inWords.foldlM step ⟨outer, {}, .missing⟩ = some ⟨outer, f, o⟩ ∧
    o.expression? = some e ∧ f.finish e = c.expression ∧ (c.isEither = false → f.either = none)

theorem foldlM_of_not_isJoined {c : Condition} (h : c.isJoined = false) (outer : List Frame)
    (f : Frame) : ∃ o, c.inWords.foldlM step ⟨outer, f, .missing⟩ = some ⟨outer, f, o⟩ ∧
      o.expression? = some c.expression := by
  obtain ⟨w, ws, hwords, hw, hdepth, hexpression⟩ := inWords_of_not_isJoined h
  refine ⟨.comparison c.inWords 0, ?_, congrArg some hexpression⟩
  rw [hwords, foldlM_missing hw hdepth]

theorem IsRead.of_not_isJoined {c : Condition} (h : c.isJoined = false) : c.IsRead := by
  intro outer
  obtain ⟨o, hrun, ho⟩ := foldlM_of_not_isJoined h outer {}
  exact ⟨{}, o, c.expression, hrun, ho, rfl, fun _ => rfl⟩

theorem IsRead.foldlM_bracketed {c : Condition} (h : c.IsRead) (outer : List Frame) (f : Frame) :
    ∃ o, (bracketWords true c.inWords).foldlM step ⟨outer, f, .missing⟩ = some ⟨outer, f, o⟩ ∧
      o.expression? = some c.expression := by
  obtain ⟨g, o, e, hrun, ho, hfinish, -⟩ := h (f :: outer)
  refine ⟨.bracketed c.expression, ?_, rfl⟩
  have hopen : step ⟨outer, f, .missing⟩ ['('] = some ⟨f :: outer, {}, .missing⟩ := rfl
  have hclose : step ⟨f :: outer, g, o⟩ [')'] = some ⟨outer, f, .bracketed c.expression⟩ := by
    rw [step_of_isEnd ho rfl, ← hfinish]
    rfl
  simp only [bracketWords, if_true, List.cons_append, List.foldlM_cons, List.foldlM_append, hopen,
    hrun, hclose, List.foldlM_nil, Option.bind_eq_bind, Option.bind_some]
  rfl

theorem IsRead.foldlM_second {c : Condition} (h : c.IsRead) (outer : List Frame) (f : Frame) :
    ∃ o, (bracketWords c.isJoined c.inWords).foldlM step ⟨outer, f, .missing⟩ =
      some ⟨outer, f, o⟩ ∧ o.expression? = some c.expression := by
  cases hjoined : c.isJoined with
  | true => exact h.foldlM_bracketed outer f
  | false => exact foldlM_of_not_isJoined hjoined outer f

/-- The first of two joined conditions is read with what it is joined of, unless it stands between
brackets. -/
theorem IsRead.foldlM_first {c : Condition} (h : c.IsRead) (outer : List Frame) (isNeeded : Bool) :
    ∃ f o e, (bracketWords isNeeded c.inWords).foldlM step ⟨outer, {}, .missing⟩ =
        some ⟨outer, f, o⟩ ∧
      o.expression? = some e ∧ f.finish e = c.expression ∧
        ((c.isEither = true → isNeeded = true) → f.either = none) := by
  cases isNeeded with
  | true =>
    obtain ⟨o, hrun, ho⟩ := h.foldlM_bracketed outer {}
    exact ⟨{}, o, c.expression, hrun, ho, rfl, fun _ => rfl⟩
  | false =>
    obtain ⟨f, o, e, hrun, ho, hfinish, heither⟩ := h outer
    refine ⟨f, o, e, hrun, ho, hfinish, fun hnot => heither ?_⟩
    cases hc : c.isEither with
    | true => exact absurd (hnot hc) Bool.false_ne_true
    | false => rfl

/-- **Every condition is read so.** -/
theorem isRead (c : Condition) : c.IsRead := by
  induction c with
  | both a b iha ihb =>
    -- No part of an `OR` is pending behind `a`, so all of it stands before the `AND`.
    intro outer
    obtain ⟨f, o, e, hrun, ho, hfinish, heither⟩ := iha.foldlM_first outer a.isEither
    have hconjoin : f.conjoin e = a.expression := by
      rw [← hfinish, Frame.finish, heither id, Option.elim_none]
    obtain ⟨o', hrun', ho'⟩ := ihb.foldlM_second outer { f with both := some a.expression }
    have hand : step ⟨outer, f, o⟩ "AND".toList =
        some ⟨outer, { f with both := some a.expression }, .missing⟩ := by
      rw [step_of_isEnd ho rfl, ← hconjoin]
      rfl
    refine ⟨{ f with both := some a.expression }, o', b.expression, ?_, ho', ?_,
      fun _ => heither id⟩
    · simp only [inWords, List.foldlM_append, List.foldlM_cons, hrun, hand, hrun',
        Option.bind_eq_bind, Option.bind_some]
    · rw [Frame.finish, heither id]
      rfl
  | either a b iha ihb =>
    -- An `OR` takes all that was read, and what is pending behind it is only `b`.
    intro outer
    obtain ⟨f, o, e, hrun, ho, hfinish, -⟩ := iha.foldlM_first outer a.isBoth
    obtain ⟨o', hrun', ho'⟩ := ihb.foldlM_second outer { either := some a.expression }
    have hor : step ⟨outer, f, o⟩ "OR".toList =
        some ⟨outer, { either := some a.expression }, .missing⟩ := by
      rw [step_of_isEnd ho rfl, ← hfinish]
      rfl
    refine ⟨{ either := some a.expression }, o', b.expression, ?_, ho', rfl, Bool.noConfusion⟩
    simp only [inWords, List.foldlM_append, List.foldlM_cons, hrun, hor, hrun', Option.bind_eq_bind,
      Option.bind_some]
  | _ => exact .of_not_isJoined rfl

/-- **A condition is read as the expression that it is.** -/
theorem ofText?_write (c : Condition) : Expression.ofText? c.write = some c.expression := by
  obtain ⟨f, o, e, hrun, ho, hfinish, -⟩ := c.isRead []
  have hwords : words? c.write = some c.inWords := c.splits
  simp only [Expression.ofText?, hwords, hrun, Option.bind_eq_bind, Option.bind_some, result?,
    List.isEmpty_nil, if_true, ho, Option.map_some, hfinish]

/-- With brackets, and with as many of them left out as can be. -/
example :
    Expression.ofText? "a AND (b OR c)".toList =
        some (.both (.comparison [['a']]) (.either (.comparison [['b']]) (.comparison [['c']]))) ∧
      Expression.ofText? "a OR b AND c".toList =
        some (.either (.comparison [['a']]) (.both (.comparison [['b']]) (.comparison [['c']]))) :=
  ⟨rfl, rfl⟩

end Condition

end Sql

/-! ### Predicates -/

namespace Predicate

mutual

/-- The truth of a predicate, given that of each comparison in it. -/
def truthWith (v : Predicate → Sql.Truth) : Predicate → Sql.Truth
  | equals field x negated => v (equals field x negated)
  | compare field c x => v (compare field c x)
  | containsText field needle => v (containsText field needle)
  | anyOf field xs => if xs.isEmpty then .no else v (anyOf field xs)
  | all children => .all (truthsWith v children)
  | any children => .any (truthsWith v children)

/-- The truths of predicates. -/
def truthsWith (v : Predicate → Sql.Truth) : List Predicate → List Sql.Truth
  | [] => []
  | p :: ps => truthWith v p :: truthsWith v ps

end

mutual

/-- The comparisons of a predicate, as they are joined.  To be one of no values is no comparison. -/
def expression : Predicate → Sql.Expression Predicate
  | equals field x negated => .comparison (equals field x negated)
  | compare field c x => .comparison (compare field c x)
  | containsText field needle => .comparison (containsText field needle)
  | anyOf field xs => if xs.isEmpty then .constant false else .comparison (anyOf field xs)
  | all children => .all (expressions children)
  | any children => .any (expressions children)

/-- The expressions of predicates. -/
def expressions : List Predicate → List (Sql.Expression Predicate)
  | [] => []
  | p :: ps => expression p :: expressions ps

end

mutual

theorem value_expression (v : Predicate → Sql.Truth) (p : Predicate) :
    p.expression.value v = p.truthWith v := by
  match p with
  | equals _ _ _ => rfl
  | compare _ _ _ => rfl
  | containsText _ _ => rfl
  | anyOf field xs =>
    rw [expression, truthWith]
    split <;> rfl
  | all children => rw [expression, truthWith, Sql.Expression.value_all, map_value_expressions]
  | any children => rw [expression, truthWith, Sql.Expression.value_any, map_value_expressions]

theorem map_value_expressions (v : Predicate → Sql.Truth) (ps : List Predicate) :
    (expressions ps).map (Sql.Expression.value v) = truthsWith v ps := by
  match ps with
  | [] => rfl
  | p :: ps =>
    rw [expressions, List.map_cons, value_expression v p, map_value_expressions v ps, truthsWith]

end

mutual

/-- Given which comparisons hold, a predicate is true where it holds. -/
theorem truthWith_holds (row : Json) (b : Binding) (p : Predicate) :
    p.truthWith (fun q => .ofBool (q.holds row b)) = .ofBool (p.holds row b) := by
  match p with
  | equals _ _ _ => rfl
  | compare _ _ _ => rfl
  | containsText _ _ => rfl
  | anyOf field xs =>
    cases xs with
    | nil => rfl
    | cons x xs => rfl
  | all children => rw [truthWith, holds, all_truthsWith_holds row b children]
  | any children => rw [truthWith, holds, any_truthsWith_holds row b children]

theorem all_truthsWith_holds (row : Json) (b : Binding) (ps : List Predicate) :
    Sql.Truth.all (truthsWith (fun q => .ofBool (q.holds row b)) ps) =
      .ofBool (allHold row b ps) := by
  match ps with
  | [] => rfl
  | p :: ps =>
    rw [truthsWith, allHold, Sql.Truth.all_cons, truthWith_holds row b p,
      all_truthsWith_holds row b ps, Sql.Truth.both_ofBool]

theorem any_truthsWith_holds (row : Json) (b : Binding) (ps : List Predicate) :
    Sql.Truth.any (truthsWith (fun q => .ofBool (q.holds row b)) ps) =
      .ofBool (anyHolds row b ps) := by
  match ps with
  | [] => rfl
  | p :: ps =>
    rw [truthsWith, anyHolds, Sql.Truth.any_cons, truthWith_holds row b p,
      any_truthsWith_holds row b ps, Sql.Truth.either_ofBool]

end

end Predicate

namespace Plan

variable (plan : Plan)

/-- The words of the text of a comparison. -/
def comparisonWords (p : Predicate) : List Sql.Word :=
  (Sql.words? (plan.condition p).write).getD []

theorem comparisonWords_eq (p : Predicate) :
    plan.comparisonWords p = (plan.condition p).inWords := by
  have hwords : Sql.words? (plan.condition p).write = some (plan.condition p).inWords :=
    (plan.condition p).splits
  rw [comparisonWords, hwords, Option.getD_some]

mutual

/-- The condition of a predicate is the expression of the predicate. -/
theorem expression_condition (p : Predicate) :
    (plan.condition p).expression = p.expression.map plan.comparisonWords := by
  match p with
  | .equals field x negated =>
    rw [Predicate.expression, Sql.Expression.map, comparisonWords_eq]
    rfl
  | .compare field c x =>
    rw [Predicate.expression, Sql.Expression.map, comparisonWords_eq]
    rfl
  | .containsText field needle =>
    rw [Predicate.expression, Sql.Expression.map, comparisonWords_eq]
    rfl
  | .anyOf field xs =>
    cases xs with
    | nil => rfl
    | cons x xs =>
      have hcomparison : (Predicate.anyOf field (x :: xs)).expression =
          .comparison (.anyOf field (x :: xs)) := rfl
      rw [hcomparison, Sql.Expression.map, comparisonWords_eq]
      rfl
  | .all children =>
    rw [condition, Predicate.expression, Sql.Condition.expression_all, Sql.Expression.map_all,
      map_expression_conditions children]
  | .any children =>
    rw [condition, Predicate.expression, Sql.Condition.expression_any, Sql.Expression.map_any,
      map_expression_conditions children]

theorem map_expression_conditions (ps : List Predicate) :
    (plan.conditions ps).map Sql.Condition.expression =
      (Predicate.expressions ps).map (Sql.Expression.map plan.comparisonWords) := by
  match ps with
  | [] => rfl
  | p :: ps =>
    rw [conditions, Predicate.expressions, List.map_cons, List.map_cons, expression_condition p,
      map_expression_conditions ps]

end

/-- **The condition of a predicate is read with the meaning of the predicate**, however deep and
wide it is: as comparisons joined so that, whichever of them are true, the whole has the truth of
the predicate.  Where these are the comparisons that hold of a row, the predicate holds of it. -/
theorem reads_condition (p : Predicate) :
    ∃ e : Sql.Expression Predicate,
      Sql.Expression.ofText? (plan.condition p).write = some (e.map plan.comparisonWords) ∧
        (∀ v, e.value v = p.truthWith v) ∧
        ∀ row b, p.truthWith (fun q => .ofBool (q.holds row b)) = .ofBool (p.holds row b) := by
  refine ⟨p.expression, ?_, fun v => p.value_expression v, fun row b => p.truthWith_holds row b⟩
  rw [Sql.Condition.ofText?_write, plan.expression_condition]

end Plan

end ListQuery
