import ListQuery.Proofs.Metadata.Contract
import ListQuery.Proofs.Plan.Build

/-!
# Plans keep to what the entity declares

Whatever names a request uses, its plan looks at fields that the entity lists for the purpose, and
at each as its path is resolved.

* `Clause.lower_cases`, `Clause.fields_of_lower` : the predicate of a clause looks at the field that
  was resolved;
* `Plan.keepsContract` : filters, search, sort list and joins of a plan;
* `Plan.declares_of_mem_fields` : no other field has a part in a plan;
* `Plan.exists_field_of_mem_joins` : nothing is joined but for such a field.
-/

namespace ListQuery

variable {m : Metadata} {r : Parameters} {plan : Plan}

/-! ### Fields -/

namespace Predicate

theorem fieldsOf_eq_flatMap (ps : List Predicate) : fieldsOf ps = ps.flatMap fields := by
  induction ps with
  | nil => rfl
  | cons p ps ih => rw [fieldsOf, ih, List.flatMap_cons]

theorem flatMap_fields_all? (ps : List Predicate) :
    (all? ps).toList.flatMap fields = ps.flatMap fields := by
  match ps with
  | [] | [_] => rfl
  | p :: q :: ps =>
    exact (List.flatMap_singleton fields _).trans (fieldsOf_eq_flatMap (p :: q :: ps))

theorem flatMap_fields_any? (ps : List Predicate) :
    (any? ps).toList.flatMap fields = ps.flatMap fields := by
  match ps with
  | [] | [_] => rfl
  | p :: q :: ps =>
    exact (List.flatMap_singleton fields _).trans (fieldsOf_eq_flatMap (p :: q :: ps))

end Predicate

/-- The fields that have a part in a plan: those that the condition looks at, and those that the
rows are sorted by. -/
def Plan.fields (plan : Plan) : List Field :=
  plan.predicate.toList.flatMap Predicate.fields ++ plan.sort.map SortKey.field

/-! ### Filters -/

namespace Clause

variable {c : Clause} {field : Field} {p : Predicate}

theorem lower_cases (h : c.lower field = .ok p) :
    (∃ v negated, p = .equals field v negated) ∨
      (∃ comparison v, p = .compare field comparison v) ∨
      p = .containsText field c.rawValue ∨ ∃ vs, vs ≠ [] ∧ p = .anyOf field vs := by
  have hequals (negated : Bool) (h : c.lowerEquals field negated = .ok p) :
      ∃ v negated, p = .equals field v negated := by
    obtain ⟨v, -, rfl⟩ := map_eq_ok_iff.1 h
    exact ⟨v, negated, rfl⟩
  have hmatches (h : c.lowerMatches field = .ok p) : p = .containsText field c.rawValue := by
    rw [lowerMatches] at h
    split at h
    · cases h; rfl
    · cases h
  rw [lower] at h
  split at h
  case h_1 comparison _ =>
    split at h
    · obtain ⟨v, -, rfl⟩ := map_eq_ok_iff.1 h
      exact .inr (.inl ⟨comparison, v, rfl⟩)
    · cases h
  case h_2 => exact .inl (hequals false h)
  case h_3 => exact .inl (hequals true h)
  case h_4 =>
    split at h
    · exact .inl (hequals false h)
    · exact .inr (.inr (.inl (hmatches h)))
  case h_5 => exact .inr (.inr (.inl (hmatches h)))
  case h_6 =>
    split at h
    case isTrue => cases h
    case isFalse hvalues =>
      obtain ⟨vs, hvs, rfl⟩ := map_eq_ok_iff.1 h
      refine .inr (.inr (.inr ⟨vs, ?_, rfl⟩))
      rintro rfl
      rw [mapM_eq_ok_iff, List.forall₂_nil_right_iff] at hvs
      exact hvalues (by rw [hvs]; rfl)

theorem fields_of_lower (h : c.lower field = .ok p) : p.fields = [field] := by
  obtain ⟨v, negated, rfl⟩ | ⟨comparison, v, rfl⟩ | rfl | ⟨vs, -, rfl⟩ := lower_cases h <;> rfl

end Clause

namespace Metadata

/-- A filter that is added asks of one field, which the entity lists under the path that the name
in the filter stands for. -/
theorem Lowers.lists {raw : String} {p : Predicate} (h : m.Lowers raw p) :
    ∃ c field, Clause.parse raw = .ok c ∧ p.fields = [field] ∧
      field.path = m.resolveAlias c.field ∧ m.Lists m.filterFields field := by
  obtain ⟨c, hc, hmem, field, hfield, hp⟩ := h
  exact ⟨c, field, hc, Clause.fields_of_lower hp, path_of_resolve hfield,
    lists_of_resolve hmem hfield⟩

/-! ### Searches -/

theorem forall₂_resolve_iff {paths : List String} {fields : List Field} :
    List.Forall₂ (fun path field => m.resolve path = .ok field) paths fields ↔
      fields.map Field.path = paths ∧ ∀ field ∈ fields, m.resolve field.path = .ok field := by
  induction fields generalizing paths with
  | nil => simp [eq_comm]
  | cons field fields ih =>
    rw [List.forall₂_cons_right_iff, List.map_cons, List.forall_mem_cons]
    constructor
    · rintro ⟨path, rest, hfield, hrest, rfl⟩
      obtain ⟨rfl, hfields⟩ := ih.1 hrest
      have hpath := path_of_resolve hfield
      exact ⟨by rw [hpath], hpath ▸ hfield, hfields⟩
    · rintro ⟨rfl, hfield, hfields⟩
      exact ⟨field.path, _, hfield, ih.2 ⟨rfl, hfields⟩, rfl⟩

theorem rightUnique_resolve : Relator.RightUnique fun path field => m.resolve path = .ok field :=
  fun _ _ _ hfield hother => Except.ok.inj (hfield.symm.trans hother)

theorem searches_iff {search : Option String} {group : Option Predicate} :
    m.Searches search group ↔
      match search.bind Text.nonBlank? with
      | none => group = none
      | some needle => ∃ fields : List Field, fields.map Field.path = m.searchFields ∧
        (∀ field ∈ fields, m.Lists m.searchFields field) ∧
        group = Predicate.any? (fields.map (.containsText · needle)) := by
  unfold Searches
  cases search.bind Text.nonBlank? with
  | none => exact Iff.rfl
  | some needle =>
    refine exists_congr fun fields => ?_
    rw [forall₂_resolve_iff, and_assoc]
    refine and_congr_right fun hpaths => and_congr_left fun _ => ?_
    refine forall₂_congr fun field hfield => (and_iff_right ?_).symm
    exact hpaths ▸ List.mem_map_of_mem hfield

theorem Searches.lists {search : Option String} {group : Option Predicate}
    (h : m.Searches search group) {field : Field}
    (hfield : field ∈ group.toList.flatMap Predicate.fields) : m.Lists m.searchFields field := by
  rw [searches_iff] at h
  split at h
  case h_1 => rw [h] at hfield; cases hfield
  case h_2 needle _ =>
    obtain ⟨fields, -, hlists, rfl⟩ := h
    have hgroup : (fields.map (Predicate.containsText · needle)).flatMap Predicate.fields =
        fields := by
      rw [List.flatMap_map]
      exact List.flatMap_pure_eq_map id fields |>.trans (List.map_id fields)
    rw [Predicate.flatMap_fields_any?, hgroup] at hfield
    exact hlists field hfield

/-! ### Sort lists -/

theorem sortKey?_eq_some {segment : String} {k : SortKey} (h : m.sortKey? segment = some k) :
    m.Lists m.sortFields k.field ∧ k.field.collection = none ∧
      k.field.path = m.resolveAlias (SortKey.split segment).1 := by
  unfold sortKey? at h
  dsimp only at h
  split at h
  case isFalse => cases h
  case isTrue hmem =>
    rw [List.contains_iff_mem] at hmem
    split at h
    case h_2 => cases h
    case h_1 field hfield =>
      split at h
      case isFalse => cases h
      case isTrue hbase =>
        cases h
        exact ⟨lists_of_resolve hmem hfield, Option.isNone_iff_eq_none.1 hbase,
          path_of_resolve hfield⟩

end Metadata

/-- A request for products that names fields by their aliases. -/
def Sample.aliasRequest : Parameters where
  page := Parameters.defaultPage
  pageSize := Parameters.defaultPageSize
  sort := some "createdAt:asc,category:desc"
  search := some "nail"
  filters := ["category:eq:Tools", "city:like:port"]

namespace Plan

/-- A sort key is a field to sort by, of the base table. -/
theorem lists_of_mem_sort (h : build m r = .ok plan) {k : SortKey} (hk : k ∈ plan.sort) :
    m.Lists m.sortFields k.field ∧ k.field.collection = none := by
  obtain ⟨b, -, rfl⟩ := build_eq_ok_iff.1 h
  cases hsort : r.sort with
  | none => simp [hsort] at hk
  | some list =>
    simp only [hsort, Option.elim_some, Metadata.resolveSort, List.mem_filterMap] at hk
    obtain ⟨segment, -, hsegment⟩ := hk
    obtain ⟨hlists, hbase, -⟩ := Metadata.sortKey?_eq_some hsegment
    exact ⟨hlists, hbase⟩

/-! ### Whole plans -/

theorem exists_parts (h : build m r = .ok plan) :
    ∃ filters group, List.Forall₂ m.Lowers r.filters filters ∧ m.Searches r.search group ∧
      plan.predicate = Predicate.all? (filters ++ group.toList) ∧
      plan.joins = (Builder.register []
        ((filters ++ group.toList).flatMap Predicate.collections)).filterMap m.collection? := by
  obtain ⟨b, hb, rfl⟩ := build_eq_ok_iff.1 h
  obtain ⟨filters, group, hfilters, hgroup, rfl⟩ := builder_eq_ok_iff.1 hb
  exact ⟨filters, group, hfilters, hgroup, rfl, rfl⟩

/-- **A plan looks at no field but those that the entity declares.** -/
theorem declares_of_mem_fields (h : build m r = .ok plan) {field : Field}
    (hfield : field ∈ plan.fields) : m.Declares field := by
  rw [fields, List.mem_append, List.mem_map] at hfield
  obtain hfield | ⟨k, hk, rfl⟩ := hfield
  · obtain ⟨filters, group, hfilters, hgroup, hpredicate, -⟩ := exists_parts h
    rw [hpredicate, Predicate.flatMap_fields_all?, List.flatMap_append, List.mem_append] at hfield
    obtain hfield | hfield := hfield
    · obtain ⟨p, hp, hfield⟩ := List.mem_flatMap.1 hfield
      obtain ⟨raw, -, hraw⟩ := exists_of_mem_right hfilters hp
      obtain ⟨c, other, -, hfields, -, hlists⟩ := hraw.lists
      rw [hfields, List.mem_singleton] at hfield
      exact hfield ▸ hlists.mono (by simp)
    · exact (hgroup.lists hfield).mono (by simp)
  · exact (lists_of_mem_sort h hk).1.mono (by simp)

theorem collection?_of_mem_joins (h : build m r = .ok plan) {relation : Relation}
    (hrelation : relation ∈ plan.joins) : m.collection? relation.name = some relation := by
  obtain ⟨filters, group, -, -, -, hjoins⟩ := exists_parts h
  rw [hjoins, List.mem_filterMap] at hrelation
  obtain ⟨name, -, hname⟩ := hrelation
  have hrelation : relation.name = name := by simpa using List.find?_some hname
  rw [hrelation, hname]

theorem mem_collections_of_mem_joins (h : build m r = .ok plan) {relation : Relation}
    (hrelation : relation ∈ plan.joins) : relation ∈ m.collections :=
  List.mem_of_find?_eq_some (collection?_of_mem_joins h hrelation)

/-- Nothing is joined but for a field that the entity declares. -/
theorem exists_field_of_mem_joins (h : build m r = .ok plan) {relation : Relation}
    (hrelation : relation ∈ plan.joins) :
    ∃ field, m.Declares field ∧ field.collection = some relation.name := by
  obtain ⟨filters, group, -, -, hpredicate, hjoins⟩ := exists_parts h
  rw [hjoins, List.mem_filterMap] at hrelation
  obtain ⟨name, hname, hfound⟩ := hrelation
  have hrelation : relation.name = name := by simpa using List.find?_some hfound
  rw [Builder.mem_register, List.mem_flatMap] at hname
  obtain hname | ⟨p, hp, hname⟩ := hname
  · cases hname
  obtain ⟨field, hfield, hcollection⟩ := List.mem_filterMap.1 hname
  refine ⟨field, declares_of_mem_fields h ?_, hrelation ▸ hcollection⟩
  rw [fields, hpredicate, Predicate.flatMap_fields_all?]
  exact List.mem_append_left _ (List.mem_flatMap.2 ⟨p, hp, hfield⟩)

/-- A plan keeps to what the entity declares. -/
structure KeepsContract (m : Metadata) (r : Parameters) (plan : Plan) : Prop where
  /-- Each filter asks of one field to filter by, the one that its name stands for, and the search
  asks of each field that is searched, in their order. -/
  predicate : ∃ filters group, plan.predicate = Predicate.all? (filters ++ group.toList) ∧
    List.Forall₂ (fun raw p => ∃ (c : Clause) (field : Field), Clause.parse raw = .ok c ∧
      p.fields = [field] ∧ field.path = m.resolveAlias c.field ∧
      m.Lists m.filterFields field) r.filters filters ∧
    match r.search.bind Text.nonBlank? with
    | none => group = none
    | some needle => ∃ fields : List Field, fields.map Field.path = m.searchFields ∧
      (∀ field ∈ fields, m.Lists m.searchFields field) ∧
      group = Predicate.any? (fields.map (.containsText · needle))
  /-- The rows are sorted by fields to sort by, of the base table. -/
  sort : ∀ k ∈ plan.sort, m.Lists m.sortFields k.field ∧ k.field.collection = none
  /-- The collections that are joined are those of the entity. -/
  joins : ∀ relation ∈ plan.joins, relation ∈ m.collections
  /-- No other field has a part in the plan. -/
  fields : ∀ field ∈ plan.fields, m.Declares field

/-- **The plan of a request keeps to what the entity declares**, whatever names the request uses. -/
theorem keepsContract (h : build m r = .ok plan) : plan.KeepsContract m r where
  predicate := by
    obtain ⟨filters, group, hfilters, hgroup, hpredicate, -⟩ := exists_parts h
    exact ⟨filters, group, hpredicate, hfilters.imp fun _ _ => Metadata.Lowers.lists,
      Metadata.searches_iff.1 hgroup⟩
  sort k := lists_of_mem_sort h
  joins _ := mem_collections_of_mem_joins h
  fields field := declares_of_mem_fields h

/-- A search, filters and a sort list that name fields of products by their aliases, one of them a
collection. -/
theorem keepsContract_products :
    ∃ plan, build Sample.product Sample.aliasRequest = .ok plan ∧
      plan.KeepsContract Sample.product Sample.aliasRequest := by
  have hplan : ∃ plan, build Sample.product Sample.aliasRequest = .ok plan := ⟨_, rfl⟩
  obtain ⟨plan, h⟩ := hplan
  exact ⟨plan, h, keepsContract h⟩

end Plan

end ListQuery
