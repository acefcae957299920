import ListQuery.Proofs.Plan.Contract
import ListQuery.Proofs.Sql.Tokens
import ListQuery.Sql.Rendering

/-!
# The names in the statements of a plan

If the metadata are valid, each name in a statement has characters, so that the statement can be
read.

* `Plan.isNamed_condition` : the columns of a condition are those of the fields it looks at;
* `Plan.isNamed_fieldColumn`, `Plan.isNamed_relationJoins` : fields and joins of a plan;
* `Plan.isNamed_select`, `Plan.isNamed_count` : whole statements.
-/

namespace ListQuery

namespace Sql.Condition

theorem isNamed_chain {join : Condition → Condition → Condition} (ofNone : Bool)
    (hjoin : ∀ {a b}, a.IsNamed → b.IsNamed → (join a b).IsNamed)
    {cs : List Condition} (hcs : ∀ c ∈ cs, c.IsNamed) : (chain join ofNone cs).IsNamed := by
  cases cs with
  | nil => trivial
  | cons c cs =>
    have hfold {c : Condition} {cs : List Condition} (hc : c.IsNamed)
        (hcs : ∀ c ∈ cs, c.IsNamed) : (cs.foldl join c).IsNamed := by
      induction cs generalizing c with
      | nil => exact hc
      | cons d cs ih =>
        rw [List.forall_mem_cons] at hcs
        exact ih (hjoin hc hcs.1) hcs.2
    rw [List.forall_mem_cons] at hcs
    exact hfold hcs.1 hcs.2

end Sql.Condition

open Sql (Condition)

namespace Plan

variable {plan : Plan}

/-! ### Conditions -/

mutual

theorem isNamed_condition (p : Predicate)
    (h : ∀ field ∈ p.fields, (plan.fieldColumn field).IsNamed) : (plan.condition p).IsNamed := by
  match p with
  | .equals field _ _ | .compare field _ _ | .containsText field _ | .anyOf field _ =>
    exact h field (List.mem_singleton.2 rfl)
  | .all children => exact Condition.isNamed_chain _ And.intro (isNamed_conditions children h)
  | .any children => exact Condition.isNamed_chain _ And.intro (isNamed_conditions children h)

theorem isNamed_conditions (ps : List Predicate)
    (h : ∀ field ∈ Predicate.fieldsOf ps, (plan.fieldColumn field).IsNamed) :
    ∀ c ∈ plan.conditions ps, c.IsNamed := by
  match ps with
  | [] => exact List.forall_mem_nil _
  | p :: ps =>
    rw [Predicate.fieldsOf, List.forall_mem_append] at h
    exact List.forall_mem_cons.2 ⟨isNamed_condition p h.1, isNamed_conditions ps h.2⟩

end

/-! ### Plans -/

variable {m : Metadata} {r : Parameters}

theorem table_of_build (h : build m r = .ok plan) : plan.table = m.table := by
  obtain ⟨b, -, rfl⟩ := build_eq_ok_iff.1 h
  rfl

theorem idColumn_of_build (h : build m r = .ok plan) : plan.idColumn = m.idColumn := by
  obtain ⟨b, -, rfl⟩ := build_eq_ok_iff.1 h
  rfl

variable (hvalid : m.ensureValid = .ok ()) (h : build m r = .ok plan)
include hvalid h

theorem isNamed_idColumnRef : plan.idColumnRef.IsNamed := by
  obtain ⟨htable, hid, -⟩ := Metadata.ensureValid_eq_ok_iff.1 hvalid
  rw [← table_of_build h] at htable
  rw [← idColumn_of_build h] at hid
  exact ⟨Metadata.ne_empty_of_isIdentifier htable, Metadata.ne_empty_of_isIdentifier hid⟩

theorem isNamed_fieldColumn {field : Field} (hfield : field ∈ plan.fields) :
    (plan.fieldColumn field).IsNamed := by
  obtain ⟨-, -, hcollections, hpaths, -⟩ := Metadata.ensureValid_eq_ok_iff.1 hvalid
  obtain ⟨hpath, hresolve⟩ := declares_of_mem_fields h hfield
  -- The check of the metadata resolved the path of the field to the same field.
  obtain ⟨other, hother, hcolumn⟩ := hpaths _ (Metadata.mem_declaredPaths.2 hpath)
  cases hresolve.symm.trans hother
  refine ⟨?_, Metadata.ne_empty_of_isIdentifier hcolumn⟩
  rw [fieldColumn, sourceAlias]
  cases hname : field.collection with
  | none => exact (isNamed_idColumnRef hvalid h).1
  | some name =>
    obtain ⟨relation, hrelation, rfl⟩ := Metadata.exists_relation_of_resolve hresolve hname
    exact Metadata.ne_empty_of_isIdentifier_baseColumn (hcollections relation hrelation).1

theorem isNamed_relationJoins {relation : Relation} (hrelation : relation ∈ plan.joins) :
    ∀ j ∈ plan.relationJoins relation, j.IsNamed := by
  obtain ⟨-, -, hcollections, -⟩ := Metadata.ensureValid_eq_ok_iff.1 hvalid
  have hid := isNamed_idColumnRef hvalid h
  obtain ⟨hname, hidentifiers⟩ := hcollections relation (mem_collections_of_mem_joins h hrelation)
  have hname := Metadata.ne_empty_of_isIdentifier_baseColumn hname
  have hlink : relation.linkAlias ≠ "" := by simp [Relation.linkAlias, String.append_eq_empty_iff]
  have hidentifier {name : String} (hmem : name ∈ relation.identifiers) : name ≠ "" :=
    Metadata.ne_empty_of_isIdentifier (hidentifiers name hmem)
  have htable : relation.table ≠ "" := hidentifier (by simp [Relation.identifiers])
  rw [relationJoins]
  cases hkind : relation.link with
  | oneToMany foreignKey =>
    have hforeign : foreignKey ≠ "" := hidentifier (by simp [Relation.identifiers, hkind])
    simpa using ⟨htable, hname, hid, hname, hforeign⟩
  | manyToMany joinTable joinKey inverseKey =>
    have hjoinTable : joinTable ≠ "" := hidentifier (by simp [Relation.identifiers, hkind])
    have hjoinKey : joinKey ≠ "" := hidentifier (by simp [Relation.identifiers, hkind])
    have hinverseKey : inverseKey ≠ "" := hidentifier (by simp [Relation.identifiers, hkind])
    have htarget : relation.targetKey ≠ "" := hidentifier (by simp [Relation.identifiers])
    rw [List.forall_mem_cons, List.forall_mem_singleton]
    exact ⟨⟨hjoinTable, hlink, hid, hlink, hjoinKey⟩, htable, hname, ⟨hlink, hinverseKey⟩,
      hname, htarget⟩

theorem isNamed_whereCondition : ∀ c ∈ plan.whereCondition, c.IsNamed := by
  intro c hc
  obtain ⟨p, hp, rfl⟩ := Option.map_eq_some_iff.1 hc
  refine isNamed_condition p fun field hfield => isNamed_fieldColumn hvalid h ?_
  simp [fields, hp, hfield]

theorem isNamed_idQuery : plan.idQuery.IsNamed where
  column := isNamed_idColumnRef hvalid h
  joins j hj := by
    obtain ⟨relation, hrelation, hj⟩ := List.mem_flatMap.1 hj
    exact isNamed_relationJoins hvalid h hrelation j hj
  condition := isNamed_whereCondition hvalid h

/-- **All names in the statement for rows have characters**, if the metadata are valid. -/
theorem isNamed_select : plan.select.IsNamed where
  table := (isNamed_idColumnRef hvalid h).1
  restriction := by
    rw [select]
    cases plan.isDistinct with
    | true => exact isNamed_idQuery hvalid h
    | false => exact isNamed_whereCondition hvalid h
  order := by
    intro k hk
    obtain ⟨key, hkey, rfl⟩ := List.mem_map.1 hk
    exact isNamed_fieldColumn hvalid h
      (List.mem_append_right _ (List.mem_map_of_mem hkey))

theorem isNamed_count : plan.count.IsNamed := by
  rw [count]
  cases plan.isDistinct with
  | true => exact isNamed_idQuery hvalid h
  | false => exact ⟨(isNamed_idColumnRef hvalid h).1, isNamed_whereCondition hvalid h⟩

end Plan

end ListQuery
