import ListQuery.Proofs.Sql.Naming
import ListQuery.Proofs.Sql.Scoping

/-!
# The identifiers in statements

A statement is made of the words of its writer, of names between double quotes, of constants and of
signs.  Whatever a request says, the names are those that the metadata give to tables, columns and
collections, and the check of the metadata has looked at each of them.

* `Sql.Token.NamesOnly` : a token that names nothing but what is allowed;
* `Sql.Select.namesOnly_tokens`, `Sql.Count.namesOnly_tokens` : the tokens of a statement name what
  stands in it between quotes;
* `Metadata.tableNames`, `Metadata.aliasNames` : the names that the metadata give;
* `Plan.namesChecked` : the text of a statement has no other names, and these are harmless.
-/

namespace ListQuery

open Sql (Condition)

namespace Sql

/-- The words that statements are written with. -/
def words : List String :=
  ["SELECT", "DISTINCT", "COUNT", "FROM", "LEFT", "JOIN", "AS", "ON", "WHERE", "IN", "LIKE",
    "LOWER", "CAST", "text", "AND", "OR", "TRUE", "FALSE", "ORDER", "BY", "ASC", "DESC", "LIMIT",
    "OFFSET"]

/-! ### Tokens -/

namespace Token

variable {allowed : String → Prop}

/-- The token is no word but one of those that statements are written with, and no name but an
allowed one. -/
def NamesOnly (allowed : String → Prop) : Token → Prop
  | word w => String.ofList w ∈ words
  | identifier name => allowed (String.ofList name)
  | _ => True

@[simp] theorem namesOnly_keyword {s : String} :
    (keyword s).NamesOnly allowed ↔ s ∈ words := by
  rw [keyword, NamesOnly, String.ofList_toList]

@[simp] theorem namesOnly_name {s : String} : (name s).NamesOnly allowed ↔ allowed s := by
  rw [name, NamesOnly, String.ofList_toList]

@[simp] theorem namesOnly_mark (s : String) : (mark s).NamesOnly allowed :=
  trivial

@[simp] theorem namesOnly_symbol (cs : List Char) : (symbol cs).NamesOnly allowed :=
  trivial

@[simp] theorem namesOnly_number (cs : List Char) : (number cs).NamesOnly allowed :=
  trivial

@[simp] theorem namesOnly_ofString (s : String) : (ofString s).NamesOnly allowed :=
  trivial

end Token

/-- The tokens name nothing but what is allowed. -/
def NamesOnly (allowed : String → Prop) (tokens : List Token) : Prop :=
  ∀ t ∈ tokens, t.NamesOnly allowed

section Parts

variable {allowed : String → Prop} {t : Token} {ts us : List Token}

@[simp] theorem namesOnly_nil : NamesOnly allowed [] :=
  nofun

@[simp] theorem namesOnly_cons :
    NamesOnly allowed (t :: ts) ↔ t.NamesOnly allowed ∧ NamesOnly allowed ts :=
  List.forall_mem_cons

@[simp] theorem namesOnly_append :
    NamesOnly allowed (ts ++ us) ↔ NamesOnly allowed ts ∧ NamesOnly allowed us :=
  List.forall_mem_append

@[simp] theorem namesOnly_bracketTokens {isNeeded : Bool} :
    NamesOnly allowed (bracketTokens isNeeded ts) ↔ NamesOnly allowed ts := by
  cases isNeeded <;> simp [bracketTokens]

/-! ### Names between quotes -/

/-- The names of a column. -/
def Column.names (c : Column) : List String :=
  [c.table, c.name]

/-- The names in a condition, if there is one. -/
def namesOf (condition : Option Condition) : List String :=
  (columnsOf condition).flatMap Column.names

/-- The names in a join. -/
def Join.names (j : Join) : List String :=
  [j.table, j.name] ++ j.left.names ++ j.right.names

/-- The names in a query for identifiers. -/
def IdQuery.names (q : IdQuery) : List String :=
  q.column.names ++ q.joins.flatMap Join.names ++ namesOf q.condition

/-- The names in a restriction. -/
def Restriction.names : Restriction → List String
  | plain condition => namesOf condition
  | byId q => q.names

/-- The names in a query for rows. -/
def Select.names (s : Select) : List String :=
  s.table :: s.restriction.names ++ s.order.flatMap (·.column.names)

/-- The names in a query for a number. -/
def Count.names : Count → List String
  | rows table condition => table :: namesOf condition
  | ids q => countedName :: q.names

/-! ### Parts of statements -/

theorem Column.namesOnly_tokens {c : Column} (h : ∀ name ∈ c.names, allowed name) :
    NamesOnly allowed c.tokens := by
  simpa [names, tokens] using h

@[simp] theorem Literal.namesOnly_tokens (v : Literal) : NamesOnly allowed v.tokens := by
  have hnumber (cs : List Char) : NamesOnly allowed (numberTokens cs) := by
    unfold numberTokens
    split <;> simp
  cases v with
  | boolean b => cases b <;> simp [tokens, words]
  | integer i => exact hnumber _
  | real x => exact hnumber _
  | _ => simp [tokens]

theorem namesOnly_listTokens (vs : List Literal) : NamesOnly allowed (listTokens vs) := by
  induction vs with
  | nil => exact namesOnly_nil
  | cons v vs ih =>
    cases vs with
    | nil => exact v.namesOnly_tokens
    | cons w vs => simpa [listTokens] using ih

theorem Condition.namesOnly_tokens {c : Condition}
    (h : ∀ name ∈ c.columns.flatMap Column.names, allowed name) : NamesOnly allowed c.tokens := by
  have hone {column : Column} (h : ∀ name ∈ [column].flatMap Column.names, allowed name) :
      NamesOnly allowed column.tokens :=
    Column.namesOnly_tokens (by simpa using h)
  induction c with
  | constant b => cases b <;> simp [tokens, words]
  | compare column operator v => simp [tokens, hone h]
  | oneOf column vs =>
    cases vs with
    | nil => simp [tokens]
    | cons v vs => simp [tokens, hone h, words, namesOnly_listTokens]
  | like column isCast pattern =>
    cases isCast <;> simp [tokens, lowerTokens, hone h, words]
  | both a b iha ihb | either a b iha ihb =>
    rw [columns, List.flatMap_append, List.forall_mem_append] at h
    simp [tokens, iha h.1, ihb h.2, words]

theorem Join.namesOnly_tokens {j : Join} (h : ∀ name ∈ j.names, allowed name) :
    NamesOnly allowed j.tokens := by
  simp only [names, List.forall_mem_append, List.forall_mem_cons] at h
  obtain ⟨⟨⟨htable, hname, -⟩, hleft⟩, hright⟩ := h
  simp [tokens, words, htable, hname, Column.namesOnly_tokens hleft,
    Column.namesOnly_tokens hright]

theorem namesOnly_whereTokens {condition : Option Condition}
    (h : ∀ name ∈ namesOf condition, allowed name) : NamesOnly allowed (whereTokens condition) := by
  cases condition with
  | none => exact namesOnly_nil
  | some c => simp [whereTokens, words, Condition.namesOnly_tokens h]

theorem IdQuery.namesOnly_tokens {q : IdQuery} (h : ∀ name ∈ q.names, allowed name) :
    NamesOnly allowed q.tokens := by
  rw [names, List.forall_mem_append, List.forall_mem_append] at h
  obtain ⟨⟨hcolumn, hjoins⟩, hcondition⟩ := h
  have htable : allowed q.column.table := hcolumn _ (List.mem_cons_self ..)
  have hjoinTokens : NamesOnly allowed (q.joins.flatMap Join.tokens) := by
    intro t ht
    obtain ⟨j, hj, ht⟩ := List.mem_flatMap.1 ht
    exact Join.namesOnly_tokens
      (fun name hname => hjoins name (List.mem_flatMap.2 ⟨j, hj, hname⟩)) t ht
  simp [tokens, words, htable, Column.namesOnly_tokens hcolumn, hjoinTokens,
    namesOnly_whereTokens hcondition]

theorem Restriction.namesOnly_tokens {restriction : Restriction}
    (h : ∀ name ∈ restriction.names, allowed name) : NamesOnly allowed restriction.tokens := by
  cases restriction with
  | plain condition => exact namesOnly_whereTokens h
  | byId q =>
    have hcolumn : ∀ name ∈ q.column.names, allowed name := fun name hname =>
      h name (List.mem_append_left _ (List.mem_append_left _ hname))
    simp [tokens, words, Column.namesOnly_tokens hcolumn, IdQuery.namesOnly_tokens h]

theorem namesOnly_orderTokens {keys : List OrderKey}
    (h : ∀ name ∈ keys.flatMap (·.column.names), allowed name) :
    NamesOnly allowed (orderTokens keys) := by
  have hdirection (d : Direction) : (directionToken d).NamesOnly allowed := by
    cases d <;> simp [directionToken, words]
  have hkeys : NamesOnly allowed (orderKeyTokens keys) := by
    induction keys with
    | nil => exact namesOnly_nil
    | cons k keys ih =>
      rw [List.flatMap_cons, List.forall_mem_append] at h
      have hk := Column.namesOnly_tokens h.1
      cases keys with
      | nil => simp [orderKeyTokens, hk, hdirection]
      | cons l keys => simp [orderKeyTokens, hk, hdirection, ih h.2]
  unfold orderTokens
  split
  · exact namesOnly_nil
  · simp [words, hkeys]

/-- **A query for rows names nothing but what stands in it between quotes.** -/
theorem Select.namesOnly_tokens {s : Select} (h : ∀ name ∈ s.names, allowed name) :
    NamesOnly allowed s.tokens := by
  rw [names, List.cons_append, List.forall_mem_cons, List.forall_mem_append] at h
  obtain ⟨htable, hrestriction, horder⟩ := h
  simp [tokens, words, htable, Restriction.namesOnly_tokens hrestriction,
    namesOnly_orderTokens horder]

theorem Count.namesOnly_tokens {c : Count} (h : ∀ name ∈ c.names, allowed name) :
    NamesOnly allowed c.tokens := by
  cases c with
  | rows table condition =>
    rw [names, List.forall_mem_cons] at h
    simp [tokens, words, h.1, namesOnly_whereTokens h.2]
  | ids q =>
    rw [names, List.forall_mem_cons] at h
    simp [tokens, words, h.1, IdQuery.namesOnly_tokens h.2]

end Parts

end Sql

/-! ### Names of metadata -/

/-- The keys, and the table between, that a link names. -/
def Link.names : Link → List String
  | oneToMany foreignKey => [foreignKey]
  | manyToMany joinTable joinKey inverseKey => [joinTable, joinKey, inverseKey]

/-- The tables and keys of a relation. -/
def Relation.tablesAndKeys (r : Relation) : List String :=
  r.table :: r.targetKey :: r.link.names

theorem Relation.tablesAndKeys_subset (r : Relation) : r.tablesAndKeys ⊆ r.identifiers := by
  rw [tablesAndKeys, identifiers]
  cases r.link <;> simp [Link.names]

namespace Metadata

variable {m : Metadata} {name : String}

/-- The tables and columns that the metadata name: the base table and its identifiers, those of the
collections, and the columns of the paths that clients may use. -/
def tableNames (m : Metadata) : List String :=
  m.table :: m.idColumn :: m.collections.flatMap Relation.tablesAndKeys ++
    m.declaredPaths.filterMap fun path => (m.resolve path).toOption.map Field.column

/-- The names under which collections and their link tables are joined. -/
def aliasNames (m : Metadata) : List String :=
  m.collections.flatMap fun relation => [relation.name, relation.linkAlias]

/-- A harmless name of the metadata, or the one that statements have of their own. -/
structure IsChecked (m : Metadata) (name : String) : Prop where
  /-- The name is one of a list that has nothing to do with any request. -/
  origin : name ∈ Sql.countedName :: m.tableNames ++ m.aliasNames
  /-- It consists of letters, digits and underscores; there may be dots in the name of a
  collection. -/
  chars : (∀ c ∈ name.toList, isIdentifierChar c = true) ∨
    name ∈ m.aliasNames ∧ ∀ c ∈ name.toList, isIdentifierChar c = true ∨ c = '.'
  /-- There is no quote in it that could end it. -/
  noQuote : '"' ∉ name.toList

theorem column_mem_tableNames {path : String} {field : Field} (hpath : path ∈ m.declaredPaths)
    (hfield : m.resolve path = .ok field) : field.column ∈ m.tableNames :=
  List.mem_append_right _ (List.mem_filterMap.2 ⟨path, hpath, by rw [hfield]; rfl⟩)

theorem mem_tableNames_of_mem_collections {relation : Relation}
    (hrelation : relation ∈ m.collections) (hname : name ∈ relation.tablesAndKeys) :
    name ∈ m.tableNames :=
  List.mem_append_left _ (List.mem_cons_of_mem _ (List.mem_cons_of_mem _
    (List.mem_flatMap.2 ⟨relation, hrelation, hname⟩)))

theorem forall_isIdentifierChar (h : isIdentifier name = true) :
    ∀ c ∈ name.toList, isIdentifierChar c = true := by
  simp only [isIdentifier, Bool.and_eq_true, List.all_eq_true] at h
  exact h.1.2

/-- **The check of metadata looks at every table and column** that they name. -/
theorem isIdentifier_of_mem_tableNames (hvalid : m.ensureValid = .ok ()) (h : name ∈ m.tableNames) :
    isIdentifier name = true := by
  obtain ⟨htable, hid, hcollections, hpaths, -⟩ := ensureValid_eq_ok_iff.1 hvalid
  simp only [tableNames, List.cons_append, List.mem_cons, List.mem_append, List.mem_flatMap,
    List.mem_filterMap] at h
  obtain rfl | rfl | ⟨relation, hrelation, hname⟩ | ⟨path, hpath, hname⟩ := h
  · exact htable
  · exact hid
  · exact (hcollections relation hrelation).2 name (relation.tablesAndKeys_subset hname)
  · obtain ⟨field, hfield, hcolumn⟩ := hpaths path hpath
    rw [hfield] at hname
    cases hname
    exact hcolumn

theorem forall_chars_of_mem_aliasNames (hvalid : m.ensureValid = .ok ())
    (h : name ∈ m.aliasNames) : ∀ c ∈ name.toList, isIdentifierChar c = true ∨ c = '.' := by
  obtain ⟨relation, hrelation, hname⟩ := List.mem_flatMap.1 h
  obtain ⟨-, -, hcollections, -⟩ := ensureValid_eq_ok_iff.1 hvalid
  have hbase : ∀ c ∈ relation.name.toList, isIdentifierChar c = true ∨ c = '.' := by
    intro c hc
    refine or_iff_not_imp_right.2 fun hdot => ?_
    -- The check looks at the name with underscores for its dots.
    refine forall_isIdentifierChar (hcollections relation hrelation).1 c ?_
    rw [baseColumn, String.toList_ofList, Text.replaceChar, List.mem_flatMap]
    exact ⟨c, hc, by simp [hdot]⟩
  obtain rfl | rfl := List.mem_pair.1 hname
  · exact hbase
  · have hlink : "__link".toList.all isIdentifierChar = true := by decide
    rw [Relation.linkAlias, String.toList_append, List.forall_mem_append]
    exact ⟨hbase, fun c hc => .inl (List.all_eq_true.1 hlink c hc)⟩

theorem not_mem_quote (h : ∀ c ∈ name.toList, isIdentifierChar c = true ∨ c = '.') :
    '"' ∉ name.toList := fun hquote =>
  absurd (h _ hquote) (by decide)

theorem isChecked_of_mem_tableNames (hvalid : m.ensureValid = .ok ()) (h : name ∈ m.tableNames) :
    m.IsChecked name := by
  have hchars := forall_isIdentifierChar (isIdentifier_of_mem_tableNames hvalid h)
  exact ⟨List.mem_cons_of_mem _ (List.mem_append_left _ h), .inl hchars,
    not_mem_quote fun c hc => .inl (hchars c hc)⟩

theorem isChecked_of_mem_aliasNames (hvalid : m.ensureValid = .ok ()) (h : name ∈ m.aliasNames) :
    m.IsChecked name := by
  have hchars := forall_chars_of_mem_aliasNames hvalid h
  exact ⟨List.mem_append_right _ h, .inr ⟨h, hchars⟩, not_mem_quote hchars⟩

theorem isChecked_countedName (m : Metadata) : m.IsChecked Sql.countedName := by
  have hchars : Sql.countedName.toList.all isIdentifierChar = true := by decide
  exact ⟨List.mem_cons_self, .inl (List.all_eq_true.1 hchars), by decide⟩

end Metadata

/-! ### Plans -/

namespace Plan

variable {m : Metadata} {r : Parameters} {plan : Plan}

section Build

variable (hvalid : m.ensureValid = .ok ()) (h : build m r = .ok plan)
include hvalid h

theorem isChecked_table : m.IsChecked plan.table :=
  Metadata.isChecked_of_mem_tableNames hvalid (table_of_build h ▸ List.mem_cons_self)

theorem isChecked_idColumn : m.IsChecked plan.idColumn :=
  Metadata.isChecked_of_mem_tableNames hvalid
    (idColumn_of_build h ▸ List.mem_cons_of_mem _ List.mem_cons_self)

theorem isChecked_fieldColumn {field : Field} (hfield : field ∈ plan.fields) :
    ∀ name ∈ (plan.fieldColumn field).names, m.IsChecked name := by
  obtain ⟨hpath, hresolve⟩ := declares_of_mem_fields h hfield
  have hcolumn := Metadata.column_mem_tableNames (Metadata.mem_declaredPaths.2 hpath) hresolve
  have htable : m.IsChecked (plan.sourceAlias field.collection) := by
    rw [sourceAlias]
    cases hname : field.collection with
    | none => exact isChecked_table hvalid h
    | some name =>
      obtain ⟨relation, hrelation, rfl⟩ := Metadata.exists_relation_of_resolve hresolve hname
      exact Metadata.isChecked_of_mem_aliasNames hvalid
        (List.mem_flatMap.2 ⟨relation, hrelation, List.mem_cons_self⟩)
  rw [fieldColumn, Sql.Column.names, List.forall_mem_cons, List.forall_mem_singleton]
  exact ⟨htable, Metadata.isChecked_of_mem_tableNames hvalid hcolumn⟩

theorem isChecked_relationJoins {relation : Relation} (hrelation : relation ∈ plan.joins) :
    ∀ name ∈ (plan.relationJoins relation).flatMap Sql.Join.names, m.IsChecked name := by
  have hmem := mem_collections_of_mem_joins h hrelation
  have htable := isChecked_table hvalid h
  have hid := isChecked_idColumn hvalid h
  have halias {name : String} (hname : name ∈ [relation.name, relation.linkAlias]) :
      m.IsChecked name :=
    Metadata.isChecked_of_mem_aliasNames hvalid (List.mem_flatMap.2 ⟨relation, hmem, hname⟩)
  have hname : m.IsChecked relation.name := halias List.mem_cons_self
  have hlink : m.IsChecked relation.linkAlias := halias (by simp)
  have hkeys : ∀ name ∈ relation.tablesAndKeys, m.IsChecked name := fun name hname =>
    Metadata.isChecked_of_mem_tableNames hvalid
      (Metadata.mem_tableNames_of_mem_collections hmem hname)
  rw [Relation.tablesAndKeys] at hkeys
  rw [relationJoins]
  cases hkind : relation.link with
  | oneToMany foreignKey =>
    simp only [hkind, Link.names, List.forall_mem_cons] at hkeys
    simp [Sql.Join.names, Sql.Column.names, idColumnRef, htable, hid, hname, hkeys]
  | manyToMany joinTable joinKey inverseKey =>
    simp only [hkind, Link.names, List.forall_mem_cons] at hkeys
    simp [Sql.Join.names, Sql.Column.names, idColumnRef, htable, hid, hname, hlink, hkeys]

theorem isChecked_whereCondition : ∀ name ∈ Sql.namesOf plan.whereCondition, m.IsChecked name := by
  intro name hname
  obtain ⟨column, hcolumn, hname⟩ := List.mem_flatMap.1 hname
  obtain ⟨field, hfield, rfl⟩ := List.mem_map.1 (plan.columnsOf_whereCondition_subset hcolumn)
  exact isChecked_fieldColumn hvalid h (List.mem_append_left _ hfield) name hname

theorem isChecked_idQuery : ∀ name ∈ plan.idQuery.names, m.IsChecked name := by
  rw [Sql.IdQuery.names, List.forall_mem_append, List.forall_mem_append]
  refine ⟨⟨?_, fun name hname => ?_⟩, isChecked_whereCondition hvalid h⟩
  · exact List.forall_mem_cons.2 ⟨isChecked_table hvalid h,
      List.forall_mem_singleton.2 (isChecked_idColumn hvalid h)⟩
  · rw [idQuery, List.flatMap_assoc] at hname
    obtain ⟨relation, hrelation, hname⟩ := List.mem_flatMap.1 hname
    exact isChecked_relationJoins hvalid h hrelation name hname

/-- **All names in the statement for rows are checked ones.** -/
theorem isChecked_select : ∀ name ∈ plan.select.names, m.IsChecked name := by
  rw [Sql.Select.names, List.cons_append, List.forall_mem_cons, List.forall_mem_append]
  refine ⟨isChecked_table hvalid h, ?_, fun name hname => ?_⟩
  · rw [select]
    cases plan.isDistinct with
    | true => exact isChecked_idQuery hvalid h
    | false => exact isChecked_whereCondition hvalid h
  · obtain ⟨key, hkey, hname⟩ := List.mem_flatMap.1 hname
    obtain ⟨k, hk, rfl⟩ := List.mem_map.1 hkey
    exact isChecked_fieldColumn hvalid h
      (List.mem_append_right _ (List.mem_map_of_mem hk)) name hname

theorem isChecked_count : ∀ name ∈ plan.count.names, m.IsChecked name := by
  rw [count]
  cases plan.isDistinct with
  | true =>
    exact List.forall_mem_cons.2 ⟨m.isChecked_countedName, isChecked_idQuery hvalid h⟩
  | false =>
    exact List.forall_mem_cons.2 ⟨isChecked_table hvalid h, isChecked_whereCondition hvalid h⟩

end Build

/-- A server reads the text of a statement as the words of the writer, checked names between quotes,
constants and signs. -/
def NamesChecked (m : Metadata) (text : String) : Prop :=
  ∃ tokens, Sql.lex text.toList = some tokens ∧ Sql.NamesOnly m.IsChecked tokens

/-- **Every identifier in a statement is one that has been checked**, and none comes from the
request. -/
theorem namesChecked (hvalid : m.ensureValid = .ok ()) (h : build m r = .ok plan) :
    NamesChecked m plan.count.write ∧ NamesChecked m plan.select.write :=
  ⟨⟨_, Sql.Count.lex_write (isNamed_count hvalid h),
      Sql.Count.namesOnly_tokens (isChecked_count hvalid h)⟩,
    ⟨_, Sql.Select.lex_write (isNamed_select hvalid h),
      Sql.Select.namesOnly_tokens (isChecked_select hvalid h)⟩⟩

/-- The statements for products of a category that are on sale join two tables, one of them behind a
link table. -/
theorem namesChecked_products :
    Sample.product.ensureValid = .ok () ∧
      ∃ plan, build Sample.product Sample.collectionRequest = .ok plan ∧
        NamesChecked Sample.product plan.count.write ∧
        NamesChecked Sample.product plan.select.write := by
  have hvalid : Sample.product.ensureValid = .ok () := rfl
  have hplan : ∃ plan, build Sample.product Sample.collectionRequest = .ok plan := ⟨_, rfl⟩
  obtain ⟨plan, h⟩ := hplan
  exact ⟨hvalid, plan, h, namesChecked hvalid h⟩

end Plan

end ListQuery
