import ListQuery.Proofs.Sql.Tokens

/-!
# The strings in a statement

* `Sql.Condition.erase_tokens_withoutTexts` : texts have no part in the tokens of a condition but
  for the contents of literals;
* `Sql.Condition.filter_tokens` : each string in a condition is one literal, and there are no
  others;
* `Sql.Select.filter_tokens`, `Sql.Count.filter_tokens` : the same of whole statements.
-/

namespace ListQuery

namespace Sql

open Token (erase isLiteral ofString keyword mark name)

/-! ### Tokens that are no literals -/

@[simp] theorem isLiteral_keyword (s : String) : isLiteral (keyword s) = false :=
  rfl

@[simp] theorem isLiteral_mark (s : String) : isLiteral (mark s) = false :=
  rfl

@[simp] theorem isLiteral_name (s : String) : isLiteral (name s) = false :=
  rfl

@[simp] theorem isLiteral_ofString (s : String) : isLiteral (ofString s) = true :=
  rfl

@[simp] theorem erase_keyword (s : String) : erase (keyword s) = keyword s :=
  rfl

@[simp] theorem erase_mark (s : String) : erase (mark s) = mark s :=
  rfl

/-! ### Constants -/

/-- The constant with the empty text for whatever text it has. -/
def Literal.withoutText : Literal → Literal
  | string _ => string ""
  | v => v

/-- What of a constant stands between quotes. -/
def Literal.strings : Literal → List String
  | string s => [s]
  | uuid u => [u.write]
  | timestamp t => [String.ofList (writeInstant t)]
  | _ => []

theorem filter_numberTokens (cs : List Char) : (numberTokens cs).filter isLiteral = [] := by
  unfold numberTokens
  split <;> rfl

theorem Literal.filter_tokens (v : Literal) :
    v.tokens.filter isLiteral = v.strings.map ofString := by
  cases v with
  | integer i => exact filter_numberTokens _
  | real x => exact filter_numberTokens _
  | _ => rfl

theorem Literal.erase_tokens_withoutText (v : Literal) :
    v.withoutText.tokens.map erase = v.tokens.map erase := by
  cases v <;> rfl

theorem erase_listTokens_withoutText (vs : List Literal) :
    (listTokens (vs.map Literal.withoutText)).map erase = (listTokens vs).map erase := by
  induction vs with
  | nil => rfl
  | cons v vs ih =>
    cases vs with
    | nil => exact v.erase_tokens_withoutText
    | cons w vs =>
      simp only [List.map_cons, listTokens, List.map_append, v.erase_tokens_withoutText] at ih ⊢
      rw [ih]

theorem filter_listTokens (vs : List Literal) :
    (listTokens vs).filter isLiteral = (vs.flatMap Literal.strings).map ofString := by
  induction vs with
  | nil => rfl
  | cons v vs ih =>
    rw [List.flatMap_cons, List.map_append, ← ih, ← v.filter_tokens]
    cases vs with
    | nil => exact (List.append_nil _).symm
    | cons w vs => simp [listTokens]

/-! ### Conditions -/

theorem erase_bracketTokens (isNeeded : Bool) (tokens : List Token) :
    (bracketTokens isNeeded tokens).map erase = bracketTokens isNeeded (tokens.map erase) := by
  cases isNeeded <;> simp [bracketTokens]

theorem filter_bracketTokens (isNeeded : Bool) (tokens : List Token) :
    (bracketTokens isNeeded tokens).filter isLiteral = tokens.filter isLiteral := by
  cases isNeeded <;> simp [bracketTokens]

namespace Condition

/-- The condition with empty texts. -/
def withoutTexts : Condition → Condition
  | compare column operator v => compare column operator v.withoutText
  | oneOf column vs => oneOf column (vs.map Literal.withoutText)
  | like column isCast _ => like column isCast ""
  | both a b => both a.withoutTexts b.withoutTexts
  | either a b => either a.withoutTexts b.withoutTexts
  | c => c

/-- What stands between quotes, from left to right. -/
def strings : Condition → List String
  | constant _ => []
  | compare _ _ v => v.strings
  | oneOf _ vs => vs.flatMap Literal.strings
  | like _ _ pattern => [pattern]
  | both a b => a.strings ++ b.strings
  | either a b => a.strings ++ b.strings

/-- **Texts have no part in the tokens of a condition** but for the contents of literals. -/
theorem erase_tokens_withoutTexts (c : Condition) :
    c.withoutTexts.tokens.map erase = c.tokens.map erase := by
  induction c with
  | constant b => rfl
  | compare column operator v =>
    simp [withoutTexts, tokens, v.erase_tokens_withoutText]
  | oneOf column vs =>
    cases vs with
    | nil => rfl
    | cons v vs =>
      have hvs := erase_listTokens_withoutText (v :: vs)
      simp only [List.map_cons] at hvs
      simp only [withoutTexts, List.map_cons, tokens, List.map_append, hvs]
  | like column isCast pattern => simp [withoutTexts, tokens, ofString, erase]
  | both a b iha ihb =>
    -- Brackets depend on the shape of a condition, in which texts have no part either.
    have hjoined : b.withoutTexts.isJoined = b.isJoined := by cases b <;> rfl
    simp only [withoutTexts, tokens, List.map_append, erase_bracketTokens, iha, ihb, hjoined]
    cases a <;> rfl
  | either a b iha ihb =>
    have hjoined : b.withoutTexts.isJoined = b.isJoined := by cases b <;> rfl
    simp only [withoutTexts, tokens, List.map_append, erase_bracketTokens, iha, ihb, hjoined]
    cases a <;> rfl

theorem filter_column_tokens (column : Column) : column.tokens.filter isLiteral = [] :=
  rfl

theorem filter_lowerTokens (column : Column) (isCast : Bool) :
    (lowerTokens column isCast).filter isLiteral = [] := by
  cases isCast <;> rfl

/-- **Each string in a condition is one literal**, and there are no others. -/
theorem filter_tokens (c : Condition) : c.tokens.filter isLiteral = c.strings.map ofString := by
  induction c with
  | constant b => rfl
  | compare column operator v =>
    rw [tokens, List.filter_append, filter_column_tokens, List.nil_append,
      List.filter_cons_of_neg Bool.false_ne_true, v.filter_tokens, strings]
  | oneOf column vs =>
    cases vs with
    | nil => rfl
    | cons v vs =>
      simp [tokens, filter_column_tokens, filter_listTokens, strings]
  | like column isCast pattern =>
    simp [tokens, filter_lowerTokens, strings]
  | both a b iha ihb =>
    simp [tokens, filter_bracketTokens, iha, ihb, strings]
  | either a b iha ihb =>
    simp [tokens, filter_bracketTokens, iha, ihb, strings]

/-! ### Conditions in a row -/

section Chain

variable {join : Condition → Condition → Condition} (ofNone : Bool) (cs : List Condition)

theorem strings_chain (hjoin : ∀ a b, (join a b).strings = a.strings ++ b.strings) :
    (chain join ofNone cs).strings = cs.flatMap strings := by
  cases cs with
  | nil => rfl
  | cons c cs =>
    have hfold (c : Condition) : (cs.foldl join c).strings = c.strings ++ cs.flatMap strings := by
      induction cs generalizing c with
      | nil => exact (List.append_nil _).symm
      | cons d cs ih => rw [List.foldl_cons, ih, hjoin, List.flatMap_cons, List.append_assoc]
    exact hfold c

theorem withoutTexts_chain
    (hjoin : ∀ a b, (join a b).withoutTexts = join a.withoutTexts b.withoutTexts) :
    (chain join ofNone cs).withoutTexts = chain join ofNone (cs.map withoutTexts) := by
  cases cs with
  | nil => rfl
  | cons c cs =>
    have hfold (c : Condition) :
        (cs.foldl join c).withoutTexts = (cs.map withoutTexts).foldl join c.withoutTexts := by
      induction cs generalizing c with
      | nil => rfl
      | cons d cs ih => rw [List.foldl_cons, ih, hjoin, List.map_cons, List.foldl_cons]
    exact hfold c

theorem withoutTexts_all : (all cs).withoutTexts = all (cs.map withoutTexts) :=
  withoutTexts_chain true cs fun _ _ => rfl

theorem withoutTexts_any : (any cs).withoutTexts = any (cs.map withoutTexts) :=
  withoutTexts_chain false cs fun _ _ => rfl

end Chain

end Condition

/-! ### Statements -/

theorem erase_whereTokens {condition condition' : Option Condition}
    (h : condition.map Condition.withoutTexts = condition'.map Condition.withoutTexts) :
    (whereTokens condition).map erase = (whereTokens condition').map erase := by
  cases condition <;> cases condition' <;> simp only [Option.map_some, Option.map_none,
    reduceCtorEq, Option.some.injEq] at h
  · rfl
  · rw [whereTokens, whereTokens, List.map_append, List.map_append,
      ← Condition.erase_tokens_withoutTexts, h, Condition.erase_tokens_withoutTexts]

/-- The strings of a condition, if there is one. -/
def stringsOf (condition : Option Condition) : List String :=
  condition.elim [] Condition.strings

theorem filter_whereTokens (condition : Option Condition) :
    (whereTokens condition).filter isLiteral = (stringsOf condition).map ofString := by
  cases condition with
  | none => rfl
  | some c => exact c.filter_tokens

theorem IdQuery.filter_tokens (q : IdQuery) :
    q.tokens.filter isLiteral = (stringsOf q.condition).map ofString := by
  have hjoins : (q.joins.flatMap Join.tokens).filter isLiteral = [] := by
    rw [List.filter_flatMap, List.flatMap_eq_nil_iff]
    exact fun _ _ => rfl
  rw [tokens, List.filter_append, List.filter_append, hjoins, filter_whereTokens]
  rfl

/-- What stands between quotes in a restriction. -/
def Restriction.strings : Restriction → List String
  | plain condition => stringsOf condition
  | byId q => stringsOf q.condition

theorem Restriction.filter_tokens (restriction : Restriction) :
    restriction.tokens.filter isLiteral = restriction.strings.map ofString := by
  cases restriction with
  | plain condition => exact filter_whereTokens condition
  | byId q =>
    rw [tokens, List.filter_append, List.filter_append, q.filter_tokens]
    exact List.append_nil _

theorem filter_orderTokens (keys : List OrderKey) : (orderTokens keys).filter isLiteral = [] := by
  have hkey (k : OrderKey) :
      (k.column.tokens ++ [directionToken k.direction]).filter isLiteral = [] := by
    cases hdirection : k.direction <;> rfl
  have hkeys : (orderKeyTokens keys).filter isLiteral = [] := by
    induction keys with
    | nil => rfl
    | cons k keys ih =>
      cases keys with
      | nil => exact hkey k
      | cons l keys =>
        have hrest : (mark "," :: orderKeyTokens (l :: keys)).filter isLiteral = [] := ih
        exact (List.filter_append _ _).trans (by rw [hkey, hrest, List.append_nil])
  cases keys with
  | nil => rfl
  | cons k keys => exact hkeys

theorem Select.filter_tokens (s : Select) :
    s.tokens.filter isLiteral = s.restriction.strings.map ofString := by
  have hnumber (n : Nat) : isLiteral (.number (Nat.toDigits 10 n)) = false := rfl
  simp [tokens, filter_orderTokens, s.restriction.filter_tokens, hnumber]

/-- What stands between quotes in a query for a number. -/
def Count.strings : Count → List String
  | rows _ condition => stringsOf condition
  | ids q => stringsOf q.condition

theorem Count.filter_tokens (c : Count) :
    c.tokens.filter isLiteral = c.strings.map ofString := by
  cases c with
  | rows table condition => exact filter_whereTokens condition
  | ids q =>
    simp [tokens, q.filter_tokens, strings]

end Sql

end ListQuery
