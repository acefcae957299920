import ListQuery.Proofs.Filter.Clause
import ListQuery.Proofs.Sql.Naming
import ListQuery.Proofs.Sql.Strings
import ListQuery.Sample

/-!
# Values cannot change a statement

What clients write into filters and searches comes to stand in the text of the statements.  Whatever
it is, a server reads it as the contents of string literals, and the rest of the text as if it were
not there.

* `Predicate.withoutTexts`, `Predicate.strings` : a condition apart from its texts, and these;
* `Plan.withoutTexts_condition`, `Plan.strings_condition` : so they come to stand in a statement;
* `Plan.readAlike` : the statements of plans that differ in texts alone are read alike.
-/

namespace ListQuery

open Sql (Condition Literal)

/-! ### Predicates -/

/-- The value with the empty text for whatever text it has. -/
def Value.withoutText : Value → Value
  | text _ => text ""
  | enumeration _ => enumeration ""
  | v => v

namespace Predicate

mutual

/-- The condition with empty texts. -/
def withoutTexts : Predicate → Predicate
  | equals field v negated => equals field v.withoutText negated
  | compare field c v => compare field c v.withoutText
  | containsText field _ => containsText field ""
  | anyOf field vs => anyOf field (vs.map Value.withoutText)
  | all children => all (withoutTextsOf children)
  | any children => any (withoutTextsOf children)

/-- The conditions with empty texts. -/
def withoutTextsOf : List Predicate → List Predicate
  | [] => []
  | p :: ps => p.withoutTexts :: withoutTextsOf ps

end

mutual

/-- What of a condition comes to stand between quotes, from left to right.  A text that is searched
for does so in a pattern. -/
def strings : Predicate → List String
  | equals _ v _ => (Literal.ofValue v).strings
  | compare _ _ v => (Literal.ofValue v).strings
  | containsText _ needle => [Sql.containsPattern needle]
  | anyOf _ vs => vs.flatMap fun v => (Literal.ofValue v).strings
  | all children => stringsOf children
  | any children => stringsOf children

/-- What of conditions comes to stand between quotes, from left to right. -/
def stringsOf : List Predicate → List String
  | [] => []
  | p :: ps => p.strings ++ stringsOf ps

end

end Predicate

namespace Plan

variable {plan plan' : Plan}

theorem withoutText_ofValue (v : Value) :
    (Literal.ofValue v).withoutText = (Literal.ofValue v.withoutText).withoutText := by
  cases v <;> rfl

mutual

theorem withoutTexts_condition (htable : plan.table = plan'.table) (p : Predicate) :
    (plan.condition p).withoutTexts = (plan'.condition p.withoutTexts).withoutTexts := by
  have hcolumn (field : Field) : plan.fieldColumn field = plan'.fieldColumn field := by
    rw [fieldColumn, fieldColumn, sourceAlias, sourceAlias, htable]
  match p with
  | .equals field v negated =>
    rw [condition, Predicate.withoutTexts, condition, Condition.withoutTexts, hcolumn,
      withoutText_ofValue, Condition.withoutTexts]
  | .compare field c v =>
    rw [condition, Predicate.withoutTexts, condition, Condition.withoutTexts, hcolumn,
      withoutText_ofValue, Condition.withoutTexts]
  | .containsText field needle =>
    rw [condition, Predicate.withoutTexts, condition, Condition.withoutTexts, hcolumn,
      Condition.withoutTexts]
  | .anyOf field vs =>
    rw [condition, Predicate.withoutTexts, condition, Condition.withoutTexts, hcolumn,
      Condition.withoutTexts, List.map_map, List.map_map, List.map_map]
    exact congrArg (Condition.oneOf _) (List.map_congr_left fun v _ => withoutText_ofValue v)
  | .all children =>
    have h := withoutTexts_conditions htable children
    rw [condition, Predicate.withoutTexts, condition, Condition.withoutTexts_all,
      Condition.withoutTexts_all, h]
  | .any children =>
    have h := withoutTexts_conditions htable children
    rw [condition, Predicate.withoutTexts, condition, Condition.withoutTexts_any,
      Condition.withoutTexts_any, h]

theorem withoutTexts_conditions (htable : plan.table = plan'.table) (ps : List Predicate) :
    (plan.conditions ps).map Condition.withoutTexts =
      (plan'.conditions (Predicate.withoutTextsOf ps)).map Condition.withoutTexts := by
  match ps with
  | [] => rfl
  | p :: ps =>
    rw [conditions, Predicate.withoutTextsOf, conditions, List.map_cons, List.map_cons,
      withoutTexts_condition htable p, withoutTexts_conditions htable ps]

end

mutual

theorem strings_condition (plan : Plan) (p : Predicate) :
    (plan.condition p).strings = p.strings := by
  match p with
  | .equals field v negated => rfl
  | .compare field c v => rfl
  | .containsText field needle => rfl
  | .anyOf field vs =>
    rw [condition, Condition.strings, List.flatMap_map]
    rfl
  | .all children =>
    rw [condition, Condition.all, Condition.strings_chain _ _ fun _ _ => rfl,
      strings_conditions plan children, Predicate.strings]
  | .any children =>
    rw [condition, Condition.any, Condition.strings_chain _ _ fun _ _ => rfl,
      strings_conditions plan children, Predicate.strings]

theorem strings_conditions (plan : Plan) (ps : List Predicate) :
    (plan.conditions ps).flatMap Condition.strings = Predicate.stringsOf ps := by
  match ps with
  | [] => rfl
  | p :: ps =>
    rw [conditions, List.flatMap_cons, strings_condition plan p, strings_conditions plan ps,
      Predicate.stringsOf]

end

/-! ### Two plans -/

/-- The plan with empty texts. -/
def withoutTexts (plan : Plan) : Plan :=
  { plan with predicate := plan.predicate.map Predicate.withoutTexts }

/-- What of a plan comes to stand between quotes in its statements, from left to right. -/
def strings (plan : Plan) : List String :=
  plan.predicate.toList.flatMap Predicate.strings

theorem stringsOf_whereCondition (plan : Plan) :
    Sql.stringsOf plan.whereCondition = plan.strings := by
  rw [whereCondition, strings]
  cases plan.predicate with
  | none => rfl
  | some p => exact (strings_condition plan p).trans (List.flatMap_singleton ..).symm

theorem strings_select (plan : Plan) : plan.select.restriction.strings = plan.strings := by
  rw [select, ← stringsOf_whereCondition]
  cases plan.isDistinct <;> rfl

theorem strings_count (plan : Plan) : plan.count.strings = plan.strings := by
  rw [count, ← stringsOf_whereCondition]
  cases plan.isDistinct <;> rfl

end Plan

open Sql (lex)
open Sql.Token (erase isLiteral ofString)

/-- Two texts are read as the same tokens, but for the contents of the literals.  These are the
given strings, one literal for each. -/
def ReadAlike (text text' : String) (strings strings' : List String) : Prop :=
  ∃ tokens tokens', lex text.toList = some tokens ∧ lex text'.toList = some tokens' ∧
    tokens.map erase = tokens'.map erase ∧
    tokens.filter isLiteral = strings.map ofString ∧
    tokens'.filter isLiteral = strings'.map ofString

/-! ### A named product -/

namespace Sample

/-- The name of a product. -/
def nameField : Field :=
  ⟨"name", none, "name", .text⟩

/-- The fields of a product that are searched. -/
def searchedFields : List Field :=
  [⟨"categories.name", some "categories", "name", .text⟩,
    ⟨"description", none, "description", .text⟩, nameField]

/-- The raw filter for an operation on the name of a product. -/
def nameFilter (token value : String) : String :=
  "name" ++ ":" ++ token ++ ":" ++ value

theorem parse_nameFilter {token : String} {operation : Operation} (htoken : ':' ∉ token.toList)
    (hoperation : Operation.ofToken? token = some operation) (value : String) :
    Clause.parse (nameFilter token value) = .ok ⟨"name", operation, value⟩ := by
  have htrim : Text.trim "name" = "name" := by decide
  have hne : "name" ≠ "" := by decide
  exact Clause.parse_eq_ok_iff.2
    ⟨"name", token, rfl, by decide, htoken, htrim, hne, hoperation⟩

/-- The request for products of a given name, with a term to search for. -/
def namedRequest (raw term : String) : Parameters :=
  { Parameters.default with search := some term, filters := [raw] }

/-- The plan of such a request. -/
def namedPlan (name term : String) : Plan where
  entity := "product"
  table := "product"
  idColumn := "id"
  joins := [categories]
  predicate := some (.all [.equals nameField (.text name) false,
    .any (searchedFields.map (.containsText · term))])
  sort := []
  isDistinct := true
  page := Parameters.defaultPage
  pageSize := Parameters.defaultPageSize
  offset := 0
  limit := Parameters.defaultPageSize

theorem build_named {raw name term : String}
    (hclause : Clause.parse raw = .ok ⟨"name", .equals, name⟩)
    (hterm : Text.nonBlank? term = some term) :
    Plan.build product (namedRequest raw term) = .ok (namedPlan name term) := by
  have hpaths : product.searchFields = searchedFields.map Field.path := by decide
  have hresolves : ∀ field ∈ searchedFields, product.resolve field.path = .ok field := by decide
  have hallowed : product.resolveAlias "name" ∈ product.filterFields := by decide
  have hresolve : product.resolve (product.resolveAlias "name") = .ok nameField := by decide
  have hjoins : ["categories"].filterMap product.collection? = [categories] := by decide
  have hsearch : product.Searches (some term)
      (some (.any (searchedFields.map (.containsText · term)))) := by
    rw [Metadata.searches_iff, Option.bind_some, hterm]
    refine ⟨searchedFields, hpaths.symm, fun field hfield => ?_, rfl⟩
    exact ⟨hpaths ▸ List.mem_map_of_mem hfield, hresolves field hfield⟩
  have hfilter : product.Lowers raw (.equals nameField (.text name) false) :=
    ⟨_, hclause, hallowed, nameField, hresolve, rfl⟩
  have hbuilder : Plan.builder product (namedRequest raw term) = .ok
      ⟨[.equals nameField (.text name) false],
        some (.any (searchedFields.map (.containsText · term))), ["categories"]⟩ :=
    Plan.builder_eq_ok_iff.2 ⟨_, _, .cons hfilter .nil, hsearch, rfl⟩
  refine Plan.build_eq_ok_iff.2 ⟨_, hbuilder, ?_⟩
  rw [namedPlan, ← hjoins]
  rfl

end Sample

/-! ### Statements that differ in texts -/

namespace Plan

variable {plan plan' : Plan} {m : Metadata} {r r' : Parameters}

section Same

variable (hsame : plan.withoutTexts = plan'.withoutTexts)
include hsame

theorem idColumnRef_eq : plan.idColumnRef = plan'.idColumnRef := by
  obtain ⟨-, htable, hid, -⟩ := mk.inj hsame
  rw [idColumnRef, idColumnRef, htable, hid]

theorem order_eq : plan.order = plan'.order := by
  obtain ⟨-, htable, -, -, -, hsort, -⟩ := mk.inj hsame
  have hcolumn : plan.fieldColumn = plan'.fieldColumn := by
    funext field
    rw [fieldColumn, fieldColumn, sourceAlias, sourceAlias, htable]
  rw [order, order, hsort, hcolumn]

theorem erase_whereTokens :
    (Sql.whereTokens plan.whereCondition).map erase =
      (Sql.whereTokens plan'.whereCondition).map erase := by
  obtain ⟨-, htable, -, -, hpredicate, -⟩ := mk.inj hsame
  -- Both conditions come from the predicate without texts, by one function.
  let erased (p : Predicate) : Condition := (plan'.condition p).withoutTexts
  have hleft : Condition.withoutTexts ∘ plan.condition = erased ∘ Predicate.withoutTexts :=
    funext fun p => withoutTexts_condition htable p
  have hright : Condition.withoutTexts ∘ plan'.condition = erased ∘ Predicate.withoutTexts :=
    funext fun p => withoutTexts_condition rfl p
  refine Sql.erase_whereTokens ?_
  rw [whereCondition, whereCondition, Option.map_map, Option.map_map, hleft, hright,
    ← Option.map_map, ← Option.map_map, hpredicate]

theorem erase_tokens_idQuery :
    plan.idQuery.tokens.map erase = plan'.idQuery.tokens.map erase := by
  obtain ⟨-, -, -, hjoins, -⟩ := mk.inj hsame
  have hid := idColumnRef_eq hsame
  have hrelation : plan.relationJoins = plan'.relationJoins := by
    funext relation
    rw [relationJoins, relationJoins, hid]
  simp only [idQuery, Sql.IdQuery.tokens, List.map_append, hid, hjoins, hrelation,
    erase_whereTokens hsame]

theorem erase_tokens_count : plan.count.tokens.map erase = plan'.count.tokens.map erase := by
  obtain ⟨-, htable, -, -, -, -, hdistinct, -⟩ := mk.inj hsame
  rw [count, count, hdistinct]
  cases plan'.isDistinct with
  | true => simp [Sql.Count.tokens, erase_tokens_idQuery hsame]
  | false => simp [Sql.Count.tokens, htable, erase_whereTokens hsame]

theorem erase_tokens_restriction :
    plan.select.restriction.tokens.map erase = plan'.select.restriction.tokens.map erase := by
  obtain ⟨-, -, -, -, -, -, hdistinct, -⟩ := mk.inj hsame
  rw [select, select, hdistinct]
  cases plan'.isDistinct with
  | true =>
    have hcolumn : plan.idQuery.column = plan'.idQuery.column := idColumnRef_eq hsame
    simp [Sql.Restriction.tokens, hcolumn, erase_tokens_idQuery hsame]
  | false => exact erase_whereTokens hsame

theorem erase_tokens_select : plan.select.tokens.map erase = plan'.select.tokens.map erase := by
  obtain ⟨-, htable, -, -, -, -, -, -, -, hoffset, hlimit⟩ := mk.inj hsame
  have hselect : plan.select.table = plan'.select.table ∧ plan.select.order = plan'.select.order ∧
      plan.select.limit = plan'.select.limit ∧ plan.select.offset = plan'.select.offset :=
    ⟨htable, order_eq hsame, hlimit, hoffset⟩
  simp only [Sql.Select.tokens, List.map_append, hselect, erase_tokens_restriction hsame]

end Same

/-- **Values cannot change a statement**: plans of one entity that differ in texts alone have
statements that are read alike. -/
theorem readAlike (hvalid : m.ensureValid = .ok ()) (h : build m r = .ok plan)
    (h' : build m r' = .ok plan') (hsame : plan.withoutTexts = plan'.withoutTexts) :
    ReadAlike plan.count.write plan'.count.write plan.strings plan'.strings ∧
      ReadAlike plan.select.write plan'.select.write plan.strings plan'.strings := by
  constructor
  · refine ⟨_, _, Sql.Count.lex_write (isNamed_count hvalid h),
      Sql.Count.lex_write (isNamed_count hvalid h'), erase_tokens_count hsame, ?_, ?_⟩
    · rw [Sql.Count.filter_tokens, strings_count]
    · rw [Sql.Count.filter_tokens, strings_count]
  · refine ⟨_, _, Sql.Select.lex_write (isNamed_select hvalid h),
      Sql.Select.lex_write (isNamed_select hvalid h'), erase_tokens_select hsame, ?_, ?_⟩
    · rw [Sql.Select.filter_tokens, strings_select]
    · rw [Sql.Select.filter_tokens, strings_select]

/-- A name with a quote, which ends with a backslash, and a search that would end the statement if it
could. -/
theorem readAlike_products :
    ∃ plan plan', build Sample.product (Sample.namedRequest "name:EQUALS:O'Brien\\" "'; --") =
        .ok plan ∧
      build Sample.product (Sample.namedRequest "name:EQUALS:Hammer" "steel") = .ok plan' ∧
      plan.withoutTexts = plan'.withoutTexts ∧
      ReadAlike plan.count.write plan'.count.write plan.strings plan'.strings ∧
      ReadAlike plan.select.write plan'.select.write plan.strings plan'.strings := by
  have hvalid : Sample.product.ensureValid = .ok () := rfl
  have hclause : Clause.parse "name:EQUALS:O'Brien\\" = .ok ⟨"name", .equals, "O'Brien\\"⟩ := by
    decide
  have hclause' : Clause.parse "name:EQUALS:Hammer" = .ok ⟨"name", .equals, "Hammer"⟩ := by decide
  have hterm : Text.nonBlank? "'; --" = some "'; --" := by decide
  have hterm' : Text.nonBlank? "steel" = some "steel" := by decide
  have h := Sample.build_named hclause hterm
  have h' := Sample.build_named hclause' hterm'
  exact ⟨_, _, h, h', rfl, readAlike hvalid h h' rfl⟩

end Plan

end ListQuery
