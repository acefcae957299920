import ListQuery.Sql.Condition
import Mathlib.Data.List.Infix

/-!
# What conditions say

Conditions have one of three truth values: a comparison with a missing value, or with a value of
another kind, is neither true nor false.

* `Sql.Truth` : the truth values, with `both` and `either` of two of them;
* `Sql.likes` : whether a text matches a pattern;
* `Sql.Condition.truth` : the truth of a condition, given the values of the columns;
* `Sql.likes_substring`, `Sql.likes_containsPattern` : the pattern written for a text is that of the
  texts that contain it.
-/

namespace ListQuery

namespace Sql

/-- A truth value. -/
inductive Truth where
  | no
  /-- Neither true nor false. -/
  | unknown
  | yes
deriving DecidableEq, Repr

namespace Truth

/-- The truth value of a decided question. -/
def ofBool (b : Bool) : Truth :=
  if b then yes else no

/-- The condition holds: rows for which it is false and those for which it is unknown are left out
alike. -/
def isYes : Truth → Bool
  | yes => true
  | _ => false

/-- Both conditions. -/
def both : Truth → Truth → Truth
  | no, _ => no
  | _, no => no
  | yes, yes => yes
  | _, _ => unknown

/-- One of two conditions. -/
def either : Truth → Truth → Truth
  | yes, _ => yes
  | _, yes => yes
  | no, no => no
  | _, _ => unknown

/-- All of some conditions. -/
def all (ts : List Truth) : Truth :=
  ts.foldr both yes

/-- One of some conditions. -/
def any (ts : List Truth) : Truth :=
  ts.foldr either no

/-- A comparison by order; unknown where the order is. -/
def ofOrdering (accepts : Ordering → Bool) (o : Option Ordering) : Truth :=
  o.elim unknown fun o => ofBool (accepts o)

@[simp] theorem isYes_ofBool (b : Bool) : (ofBool b).isYes = b := by
  cases b <;> rfl

@[simp] theorem isYes_both (a b : Truth) : (both a b).isYes = (a.isYes && b.isYes) := by
  cases a <;> cases b <;> rfl

@[simp] theorem isYes_either (a b : Truth) : (either a b).isYes = (a.isYes || b.isYes) := by
  cases a <;> cases b <;> rfl

theorem both_ofBool (a b : Bool) : both (ofBool a) (ofBool b) = ofBool (a && b) := by
  cases a <;> cases b <;> rfl

theorem either_ofBool (a b : Bool) : either (ofBool a) (ofBool b) = ofBool (a || b) := by
  cases a <;> cases b <;> rfl

theorem all_cons (t : Truth) (ts : List Truth) : all (t :: ts) = both t (all ts) :=
  rfl

theorem any_cons (t : Truth) (ts : List Truth) : any (t :: ts) = either t (any ts) :=
  rfl

@[simp] theorem isYes_all (ts : List Truth) : (all ts).isYes = ts.all isYes := by
  induction ts with
  | nil => rfl
  | cons t ts ih => simp [all] at ih ⊢; rw [ih]

@[simp] theorem isYes_any (ts : List Truth) : (any ts).isYes = ts.any isYes := by
  induction ts with
  | nil => rfl
  | cons t ts ih => simp [any] at ih ⊢; rw [ih]

/-- An unknown comparison counts as one that fails. -/
@[simp] theorem isYes_ofOrdering (accepts : Ordering → Bool) (o : Option Ordering) :
    (ofOrdering accepts o).isYes = o.any accepts := by
  cases o with
  | none => rfl
  | some o => simp [ofOrdering]

theorem both_yes (a : Truth) : both a yes = a := by cases a <;> rfl

theorem both_assoc (a b c : Truth) : both (both a b) c = both a (both b c) := by
  cases a <;> cases b <;> cases c <;> rfl

theorem either_no (a : Truth) : either a no = a := by cases a <;> rfl

theorem either_assoc (a b c : Truth) : either (either a b) c = either a (either b c) := by
  cases a <;> cases b <;> cases c <;> rfl

theorem foldl_both (a : Truth) (ts : List Truth) : ts.foldl both a = both a (all ts) := by
  induction ts generalizing a with
  | nil => exact (both_yes a).symm
  | cons t ts ih => rw [List.foldl_cons, ih, both_assoc]; rfl

theorem foldl_either (a : Truth) (ts : List Truth) : ts.foldl either a = either a (any ts) := by
  induction ts generalizing a with
  | nil => exact (either_no a).symm
  | cons t ts ih => rw [List.foldl_cons, ih, either_assoc]; rfl

end Truth

/-! ### Patterns -/

/-- What a part of a pattern stands for. -/
inductive PatternItem where
  /-- Any text. -/
  | anyText
  /-- Any one character. -/
  | anyChar
  /-- The character itself. -/
  | char (c : Char)
deriving DecidableEq, Repr

/-- The parts of a pattern.  A character behind a backslash stands for itself; there must be one. -/
def readPattern : List Char → Option (List PatternItem)
  | [] => some []
  | ['\\'] => none
  | '\\' :: c :: cs => (readPattern cs).map (.char c :: ·)
  | '%' :: cs => (readPattern cs).map (.anyText :: ·)
  | '_' :: cs => (readPattern cs).map (.anyChar :: ·)
  | c :: cs => (readPattern cs).map (.char c :: ·)

/-- A text is made of what the parts of a pattern stand for. -/
def PatternItem.fit : List PatternItem → List Char → Bool
  | [], text => text.isEmpty
  | anyText :: items, text => text.tails.any (fit items)
  | anyChar :: items, _ :: text => fit items text
  | char c :: items, d :: text => c == d && fit items text
  | _ :: _, [] => false

/-- A text matches a pattern. -/
def likes (pattern text : List Char) : Bool :=
  (readPattern pattern).any fun items => PatternItem.fit items text

theorem readPattern_escapePatternChar (c : Char) (cs : List Char) :
    readPattern (escapePatternChar c ++ cs) = (readPattern cs).map (.char c :: ·) := by
  rw [escapePatternChar]
  split
  case isTrue => rfl
  case isFalse h =>
    simp only [not_or] at h
    simp only [List.singleton_append]
    rw [readPattern]
    · exact fun hc _ => h.1 hc
    · exact fun _ _ hc _ => h.1 hc
    · exact h.2.1
    · exact h.2.2

theorem readPattern_escapePattern (needle cs : List Char) :
    readPattern (escapePattern needle ++ cs) =
      (readPattern cs).map (needle.map .char ++ ·) := by
  induction needle with
  | nil => simp [escapePattern]
  | cons c needle ih =>
    rw [escapePattern] at ih ⊢
    rw [List.flatMap_cons, List.append_assoc, readPattern_escapePatternChar, ih, Option.map_map]
    rfl

theorem fit_anyText {items : List PatternItem} {text : List Char} :
    PatternItem.fit (.anyText :: items) text = true ↔
      ∃ rest, rest <:+ text ∧ PatternItem.fit items rest = true := by
  simp [PatternItem.fit, List.any_eq_true, List.mem_tails]

theorem fit_map_char {needle text : List Char} :
    PatternItem.fit (needle.map .char ++ [.anyText]) text = true ↔ needle <+: text := by
  induction needle generalizing text with
  | nil =>
    simp only [List.map_nil, List.nil_append, fit_anyText, List.nil_prefix, iff_true]
    exact ⟨[], List.nil_suffix, rfl⟩
  | cons c needle ih =>
    cases text with
    | nil => simp [PatternItem.fit]
    | cons d text => simp [PatternItem.fit, ih, List.cons_prefix_cons]

/-- The parts of the pattern for a text: its characters, which stand for themselves, between two of
any text. -/
theorem readPattern_substring (needle : List Char) :
    readPattern ('%' :: escapePattern needle ++ ['%']) =
      some (.anyText :: (needle.map .char ++ [.anyText])) := by
  have hlast : readPattern ['%'] = some [.anyText] := rfl
  have hfirst (cs : List Char) : readPattern ('%' :: cs) =
      (readPattern cs).map (.anyText :: ·) := rfl
  rw [List.cons_append, hfirst, readPattern_escapePattern, hlast]
  rfl

theorem likes_substring {needle text : List Char} :
    likes ('%' :: escapePattern needle ++ ['%']) text = true ↔ needle <:+: text := by
  rw [likes, readPattern_substring, Option.any_some, fit_anyText]
  constructor
  · rintro ⟨rest, hrest, hfit⟩
    exact (fit_map_char.1 hfit).isInfix.trans hrest.isInfix
  · rintro ⟨front, back, h⟩
    refine ⟨needle ++ back, ⟨front, by rw [← h, List.append_assoc]⟩, ?_⟩
    exact fit_map_char.2 (List.prefix_append _ _)

/-- **The pattern written for a text is that of the texts that contain it**, whatever characters it
has. -/
theorem likes_containsPattern (needle : String) (text : List Char) :
    likes (containsPattern needle).toList text =
      Text.occursIn (Text.lowerChars needle.toList) text := by
  rw [containsPattern, String.toList_ofList, Bool.eq_iff_iff, likes_substring, Text.occursIn_iff]

/-! ### Conditions -/

/-- How a server takes the values that stand in columns. -/
structure Reading (V : Type) where
  /-- How a value stands to a constant; `none` if they cannot be compared. -/
  compare : V → Literal → Option Ordering
  /-- The text of a value in lower case. -/
  lowerText : V → List Char

/-- The orders that a comparison accepts. -/
def Operator.accepts : Operator → Ordering → Bool
  | equal, o => o == .eq
  | notEqual, o => o != .eq
  | order c, o => c.accepts o

namespace Condition

variable {V : Type} (R : Reading V) (value : Column → Option V)

/-- The truth of a comparison of a column with a constant. -/
def comparisonTruth (column : Column) (operator : Operator) (v : Literal) : Truth :=
  .ofOrdering operator.accepts ((value column).bind (R.compare · v))

/-- The truth of a condition, given the values of the columns.  A column has one of several values
if it equals the first, or the second, and so on. -/
def truth : Condition → Truth
  | constant b => .ofBool b
  | compare column operator v => comparisonTruth R value column operator v
  | oneOf column vs => .any (vs.map (comparisonTruth R value column .equal))
  | like column _ pattern =>
    (value column).elim .unknown fun v => .ofBool (likes pattern.toList (R.lowerText v))
  | both a b => a.truth.both b.truth
  | either a b => a.truth.either b.truth

theorem truth_foldl_both (c : Condition) (cs : List Condition) :
    (cs.foldl both c).truth R value =
      (cs.map (truth R value)).foldl Truth.both (c.truth R value) := by
  induction cs generalizing c with
  | nil => rfl
  | cons d cs ih => exact ih (both c d)

theorem truth_foldl_either (c : Condition) (cs : List Condition) :
    (cs.foldl either c).truth R value =
      (cs.map (truth R value)).foldl Truth.either (c.truth R value) := by
  induction cs generalizing c with
  | nil => rfl
  | cons d cs ih => exact ih (either c d)

@[simp] theorem truth_all (cs : List Condition) :
    (all cs).truth R value = Truth.all (cs.map (truth R value)) := by
  cases cs with
  | nil => rfl
  | cons c cs => exact (truth_foldl_both R value c cs).trans (Truth.foldl_both _ _)

@[simp] theorem truth_any (cs : List Condition) :
    (any cs).truth R value = Truth.any (cs.map (truth R value)) := by
  cases cs with
  | nil => rfl
  | cons c cs => exact (truth_foldl_either R value c cs).trans (Truth.foldl_either _ _)

end Condition

end Sql

end ListQuery
