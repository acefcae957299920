import ListQuery.Proofs.Plan.Joins
import ListQuery.Proofs.Sql.Blocks
import ListQuery.Sql.Rendering

/-!
# The statements of a plan use the names that they introduce

The columns of a condition are those of the fields that it looks at, and the collections among these
are joined; rows are sorted by fields of the base table.

* `Plan.columns_condition_subset` : the columns of a condition;
* `Plan.joinsInScope_flatMap_relationJoins` : a join uses names in front of it;
* `Plan.isScoped_block_idQuery` : the query for identifiers;
* `Plan.wellScoped` : whole statements.
-/

namespace ListQuery

open Sql (Block Column Condition Join mentions)

open scoped List

namespace Sql

theorem Condition.columns_chain_subset {join : Condition → Condition → Condition} (ofNone : Bool)
    (hjoin : ∀ a b, (join a b).columns = a.columns ++ b.columns) (cs : List Condition) :
    (chain join ofNone cs).columns ⊆ cs.flatMap columns := by
  cases cs with
  | nil => exact List.nil_subset _
  | cons c cs =>
    have hfold (c : Condition) (cs : List Condition) :
        (cs.foldl join c).columns = c.columns ++ cs.flatMap columns := by
      induction cs generalizing c with
      | nil => exact (List.append_nil _).symm
      | cons d cs ih => rw [List.foldl_cons, ih, hjoin, List.append_assoc, List.flatMap_cons]
    rw [chain, hfold, List.flatMap_cons]
    exact List.Subset.refl _

theorem Block.joinsInScope_append {names : List String} {joins more : List Join} :
    JoinsInScope names (joins ++ more) ↔
      JoinsInScope names joins ∧ JoinsInScope (names ++ joins.map Join.name) more := by
  induction joins generalizing names with
  | nil => simp [JoinsInScope]
  | cons j joins ih =>
    simp [JoinsInScope, ih, and_assoc]

end Sql

/-- The names under which the tables of a relation are joined. -/
def Relation.joinedNames (r : Relation) : List String :=
  match r.link with
  | .oneToMany _ => [r.name]
  | .manyToMany _ _ _ => [r.linkAlias, r.name]

theorem Relation.name_mem_joinedNames (r : Relation) : r.name ∈ r.joinedNames := by
  rw [joinedNames]
  split <;> simp

/-- A request for products of a category that are on sale, sorted by name. -/
def Sample.collectionRequest : Parameters :=
  { Parameters.default with
    sort := some "categories.name,name:desc"
    filters := ["categories.name:eq:Tools", "tags:ne:sale"] }

namespace Plan

variable {m : Metadata} {r : Parameters} {plan : Plan}

/-! ### Columns -/

mutual

theorem columns_condition_subset (plan : Plan) (p : Predicate) :
    (plan.condition p).columns ⊆ p.fields.map plan.fieldColumn := by
  match p with
  | .equals field _ _ | .compare field _ _ | .containsText field _ => exact List.Subset.refl _
  | .anyOf field vs =>
    cases vs with
    | nil => exact List.nil_subset _
    | cons v vs => exact List.Subset.refl _
  | .all children =>
    exact List.Subset.trans (Condition.columns_chain_subset _ (fun _ _ => rfl) _)
      (columns_conditions_subset plan children)
  | .any children =>
    exact List.Subset.trans (Condition.columns_chain_subset _ (fun _ _ => rfl) _)
      (columns_conditions_subset plan children)

theorem columns_conditions_subset (plan : Plan) (ps : List Predicate) :
    (plan.conditions ps).flatMap Condition.columns ⊆
      (Predicate.fieldsOf ps).map plan.fieldColumn := by
  match ps with
  | [] => exact List.nil_subset _
  | p :: ps =>
    rw [conditions, List.flatMap_cons, Predicate.fieldsOf, List.map_append]
    exact List.append_subset.2
      ⟨List.Subset.trans (columns_condition_subset plan p) (List.subset_append_left _ _),
        List.Subset.trans (columns_conditions_subset plan ps) (List.subset_append_right _ _)⟩

end

theorem columnsOf_whereCondition_subset (plan : Plan) :
    Sql.columnsOf plan.whereCondition ⊆ plan.conditionFields.map plan.fieldColumn := by
  rw [whereCondition, conditionFields]
  cases plan.predicate with
  | none => exact List.nil_subset _
  | some p =>
    rw [Option.toList_some, List.flatMap_singleton]
    exact columns_condition_subset plan p

/-! ### Joins -/

theorem map_name_relationJoins (plan : Plan) (relation : Relation) :
    (plan.relationJoins relation).map Join.name = relation.joinedNames := by
  rw [relationJoins, Relation.joinedNames]
  cases relation.link <;> rfl

theorem names_block_idQuery (plan : Plan) :
    plan.idQuery.block.names = plan.table :: plan.joins.flatMap Relation.joinedNames := by
  have hnames : List.map Join.name ∘ plan.relationJoins = Relation.joinedNames :=
    funext plan.map_name_relationJoins
  rw [Block.names, ← hnames]
  exact congrArg _ List.map_flatMap

/-- A relation is joined to the base table, or to its link table. -/
theorem joinsInScope_relationJoins {names : List String} (h : plan.table ∈ names)
    (relation : Relation) : Block.JoinsInScope names (plan.relationJoins relation) := by
  rw [relationJoins]
  cases relation.link with
  | oneToMany foreignKey => exact ⟨h, rfl, trivial⟩
  | manyToMany joinTable joinKey inverseKey =>
    exact ⟨h, rfl, List.mem_append_right _ (List.mem_singleton_self _), rfl, trivial⟩

theorem joinsInScope_flatMap_relationJoins {names : List String} (h : plan.table ∈ names)
    (relations : List Relation) :
    Block.JoinsInScope names (relations.flatMap plan.relationJoins) := by
  induction relations generalizing names with
  | nil => trivial
  | cons relation relations ih =>
    rw [List.flatMap_cons, Block.joinsInScope_append]
    exact ⟨joinsInScope_relationJoins h relation, ih (List.mem_append_left _ h)⟩

/-! ### Blocks -/

theorem blocks_eq (plan : Plan) :
    plan.select.blocks ++ plan.count.blocks =
      if plan.isDistinct then
        [plan.select.outer, plan.idQuery.block, ⟨Sql.countedName, [], []⟩, plan.idQuery.block]
      else
        [plan.select.outer,
          ⟨plan.table, [], (Sql.columnsOf plan.whereCondition).map Column.table⟩] := by
  rw [select, count]
  cases plan.isDistinct <;> rfl

section Build

variable (h : build m r = .ok plan)
include h

theorem joins_ne_nil_iff : plan.joins ≠ [] ↔ plan.collections ≠ [] := by
  constructor
  · rintro hjoins hnone
    have hnames := map_name_joins h
    rw [hnone] at hnames
    exact hjoins (List.map_eq_nil_iff.1 hnames)
  · intro hsome hnil
    obtain ⟨name, hname⟩ := List.exists_mem_of_ne_nil _ hsome
    obtain ⟨relation, hrelation, -⟩ := exists_mem_joins h hname
    rw [hnil] at hrelation
    cases hrelation

/-- Rows must be counted once just if there are joins. -/
theorem isDistinct_iff : plan.isDistinct = true ↔ plan.joins ≠ [] := by
  rw [(joins_eq_filterMap h).2, ← map_name_joins h]
  simp

theorem table_mem_names_idQuery {column : Column}
    (hcolumn : column ∈ Sql.columnsOf plan.whereCondition) :
    column.table ∈ plan.idQuery.block.names := by
  obtain ⟨field, hfield, rfl⟩ := List.mem_map.1 (plan.columnsOf_whereCondition_subset hcolumn)
  rw [names_block_idQuery, fieldColumn, sourceAlias]
  cases hname : field.collection with
  | none => exact List.mem_cons_self
  | some name =>
    obtain ⟨relation, hrelation, rfl⟩ :=
      exists_mem_joins h (mem_collections.2 ⟨field, hfield, hname⟩)
    exact List.mem_cons_of_mem _
      (List.mem_flatMap.2 ⟨relation, hrelation, relation.name_mem_joinedNames⟩)

theorem table_eq_of_not_isDistinct (hdistinct : plan.isDistinct = false) {column : Column}
    (hcolumn : column ∈ Sql.columnsOf plan.whereCondition) : column.table = plan.table := by
  have hname := table_mem_names_idQuery h hcolumn
  rw [names_block_idQuery, joins_eq_nil_of_not_isDistinct h hdistinct] at hname
  exact List.mem_singleton.1 hname

theorem isScoped_block_idQuery : plan.idQuery.block.IsScoped where
  joins := joinsInScope_flatMap_relationJoins (List.mem_singleton_self _) plan.joins
  qualifiers := by
    refine List.forall_mem_cons.2 ⟨List.mem_cons_self, fun name hname => ?_⟩
    obtain ⟨column, hcolumn, rfl⟩ := List.mem_map.1 hname
    exact table_mem_names_idQuery h hcolumn

theorem table_of_mem_order {key : Sql.OrderKey} (hkey : key ∈ plan.order) :
    key.column.table = plan.table := by
  obtain ⟨k, hk, rfl⟩ := List.mem_map.1 hkey
  rw [fieldColumn, sourceAlias, (lists_of_mem_sort h hk).2]
  rfl

theorem qualifiers_outer_select :
    ∀ name ∈ plan.select.outer.qualifiers, name = plan.table := by
  have hrestriction : ∀ name ∈ plan.select.restriction.qualifiers, name = plan.table := by
    rw [select]
    cases hdistinct : plan.isDistinct with
    | true => exact List.forall_mem_singleton.2 rfl
    | false =>
      intro name hname
      obtain ⟨column, hcolumn, rfl⟩ := List.mem_map.1 hname
      exact table_eq_of_not_isDistinct h hdistinct hcolumn
  rw [Sql.Select.outer, List.cons_append, List.forall_mem_cons, List.forall_mem_append]
  refine ⟨rfl, hrestriction, fun name hname => ?_⟩
  obtain ⟨key, hkey, rfl⟩ := List.mem_map.1 hname
  exact table_of_mem_order h hkey

theorem isScoped_of_mem_blocks {block : Block}
    (hblock : block ∈ plan.select.blocks ++ plan.count.blocks) : block.IsScoped := by
  have houter : plan.select.outer.IsScoped :=
    ⟨trivial, fun name hname => List.mem_singleton.2 (qualifiers_outer_select h name hname)⟩
  have hid := isScoped_block_idQuery h
  rw [blocks_eq] at hblock
  cases hdistinct : plan.isDistinct with
  | true =>
    simp only [hdistinct, if_true, List.mem_cons, List.not_mem_nil, or_false] at hblock
    obtain rfl | rfl | rfl | rfl := hblock
    · exact houter
    · exact hid
    · exact ⟨trivial, nofun⟩
    · exact hid
  | false =>
    simp only [hdistinct, Bool.false_eq_true, if_false, List.mem_cons, List.not_mem_nil,
      or_false] at hblock
    obtain rfl | rfl := hblock
    · exact houter
    · refine ⟨trivial, fun name hname => ?_⟩
      obtain ⟨column, hcolumn, rfl⟩ := List.mem_map.1 hname
      exact List.mem_singleton.2 (table_eq_of_not_isDistinct h hdistinct hcolumn)

end Build

/-! ### Statements -/

/-- The statements of a plan use the names of tables where they have been introduced. -/
structure WellScoped (plan : Plan) : Prop where
  /-- Rows must be counted once just if there are joins. -/
  isDistinct : plan.isDistinct = true ↔ plan.joins ≠ []
  /-- There are joins just if the condition looks at collections. -/
  joins : plan.joins ≠ [] ↔ plan.collections ≠ []
  /-- Every block uses the names that it introduces. -/
  blocks : ∀ block ∈ plan.select.blocks ++ plan.count.blocks, block.IsScoped
  /-- The outer block of the statement for rows uses the name of the base table alone. -/
  outer : ∀ name ∈ plan.select.outer.uses, name = plan.table
  /-- No names are mentioned in the statement for rows but in its blocks. -/
  select : mentions plan.select.tokens ~ plan.select.blocks.flatMap Block.mentions
  /-- No names are mentioned in the statement for the number of rows but in its blocks. -/
  count : mentions plan.count.tokens ~ plan.count.blocks.flatMap Block.mentions

/-- **The statements of a plan are well scoped**, whatever the metadata. -/
theorem wellScoped (h : build m r = .ok plan) : plan.WellScoped where
  isDistinct := isDistinct_iff h
  joins := joins_ne_nil_iff h
  blocks _ := isScoped_of_mem_blocks h
  outer := qualifiers_outer_select h
  select := plan.select.mentions_tokens
  count := plan.count.mentions_tokens

/-- Filters on two collections, one of them behind a link table, and a sort list that names it. -/
theorem wellScoped_products :
    ∃ plan, build Sample.product Sample.collectionRequest = .ok plan ∧ plan.WellScoped := by
  have hplan : ∃ plan, build Sample.product Sample.collectionRequest = .ok plan := ⟨_, rfl⟩
  obtain ⟨plan, h⟩ := hplan
  exact ⟨plan, h, wellScoped h⟩

end Plan

end ListQuery
