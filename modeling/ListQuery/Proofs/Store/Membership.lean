import ListQuery.Proofs.Filter.Clause
import ListQuery.Proofs.Store.FilterOrder

/-!
# Filters by a list

A filter by a list asks for one of some values, and each of these could be asked for by a filter of
its own.  In a collection, to ask for a text that is contained is to ask for an element that is
equal.  Such filters are compared within a request, the rest of which stays as it is.

* `Parameters.around` : a request with one filter that is looked at;
* `Metadata.lowers_oneOf_iff`, `Metadata.lowers_equals_iff` : the predicates of the filters;
* `Plan.Surrounds` : what the rest of the request asks for;
* `Plan.Surrounds.selects_iff` : what a filter adds to it;
* `Plan.unitesEquals` : a list keeps what its elements keep.
-/

namespace ListQuery

/-- The request with a filter between those in front of it and those behind it. -/
def Parameters.around (r : Parameters) (front back : List String) (raw : String) : Parameters :=
  r.withFilters (front ++ raw :: back)

/-- The filter that a field has a value. -/
def Clause.equalsFilter (name value : String) : String :=
  name ++ ":eq:" ++ value

variable {m : Metadata} {r : Parameters} {front back : List String}
  {raw name token value : String} {operation : Operation} {p : Predicate}

/-! ### Predicates of filters -/

namespace Metadata

/-- A filter may name the field so. -/
structure Filters (m : Metadata) (name : String) (field : Field) : Prop where
  /-- There is a name. -/
  name_ne : name ≠ ""
  /-- The path that it stands for is allowed in filters. -/
  allowed : m.resolveAlias name ∈ m.filterFields
  /-- The path denotes the field. -/
  resolves : m.resolve (m.resolveAlias name) = .ok field

theorem Filters.unique {field field' : Field} (h : m.Filters name field)
    (h' : m.Filters name field') : field = field' :=
  Except.ok.inj (h.resolves.symm.trans h'.resolves)

theorem lowers_iff_of_isCut (hraw : Clause.IsCut raw name token value)
    (htoken : Operation.ofToken? token = some operation) :
    m.Lowers raw p ↔ ∃ field, m.Filters (Text.trim name) field ∧
      Clause.lower ⟨Text.trim name, operation, value⟩ field = .ok p := by
  rw [Lowers, Clause.parse_of_isCut hraw, htoken, Option.elim_some]
  constructor
  · rintro ⟨c, hc, hallowed, field, hfield, hp⟩
    split at hc
    case isTrue => cases hc
    case isFalse hname =>
      cases hc
      exact ⟨field, ⟨hname, hallowed, hfield⟩, hp⟩
  · rintro ⟨field, h, hp⟩
    exact ⟨_, if_neg h.name_ne, h.allowed, field, h.resolves, hp⟩

theorem isCut_equalsFilter (hname : ':' ∉ name.toList) (value : String) :
    Clause.IsCut (Clause.equalsFilter name value) name "eq" value := by
  refine ⟨?_, hname, by decide⟩
  rw [Clause.equalsFilter, ← String.toList_inj]
  simp

theorem lowers_equals_iff (hname : ':' ∉ name.toList) :
    m.Lowers (Clause.equalsFilter name value) p ↔ ∃ field v, m.Filters (Text.trim name) field ∧
      Value.cast (Text.trim name) field.type value = .ok v ∧ p = .equals field v false := by
  have htoken : Operation.ofToken? "eq" = some .equals := by decide
  rw [lowers_iff_of_isCut (isCut_equalsFilter hname value) htoken]
  simp only [Clause.lower, Clause.lowerEquals, Clause.castValue, map_eq_ok_iff]
  constructor
  · rintro ⟨field, hfield, v, hv, rfl⟩
    exact ⟨field, v, hfield, hv, rfl⟩
  · rintro ⟨field, v, hfield, hv, rfl⟩
    exact ⟨field, hfield, v, hv, rfl⟩

theorem lowers_oneOf_iff (hraw : Clause.IsCut raw name token value)
    (htoken : Operation.ofToken? token = some .oneOf) :
    m.Lowers raw p ↔ ∃ field vs, m.Filters (Text.trim name) field ∧ Clause.pieces value ≠ [] ∧
      List.Forall₂ (fun piece v => Value.cast (Text.trim name) field.type piece = .ok v)
        (Clause.pieces value) vs ∧ p = .anyOf field vs := by
  rw [lowers_iff_of_isCut hraw htoken]
  simp only [Clause.lower, Clause.listValues, List.isEmpty_iff]
  constructor
  · rintro ⟨field, hfield, hp⟩
    split at hp
    case isTrue => cases hp
    case isFalse hne =>
      obtain ⟨vs, hvs, rfl⟩ := map_eq_ok_iff.1 hp
      exact ⟨field, vs, hfield, hne, mapM_eq_ok_iff.1 hvs, rfl⟩
  · rintro ⟨field, vs, hfield, hne, hvs, rfl⟩
    refine ⟨field, hfield, ?_⟩
    rw [if_neg hne]
    exact map_eq_ok_iff.2 ⟨vs, mapM_eq_ok_iff.2 hvs, rfl⟩

theorem exists_lowers_oneOf_iff (hraw : Clause.IsCut raw name token value)
    (htoken : Operation.ofToken? token = some .oneOf) :
    (∃ p, m.Lowers raw p) ↔ Clause.pieces value ≠ [] ∧
      ∀ piece ∈ Clause.pieces value, ∃ p, m.Lowers (Clause.equalsFilter name piece) p := by
  simp only [lowers_oneOf_iff hraw htoken, lowers_equals_iff hraw.front]
  constructor
  · rintro ⟨_, field, vs, hfield, hne, hvs, rfl⟩
    refine ⟨hne, fun piece hpiece => ?_⟩
    obtain ⟨v, hv⟩ := exists_forall₂_iff.1 ⟨vs, hvs⟩ piece hpiece
    exact ⟨_, field, v, hfield, hv, rfl⟩
  · rintro ⟨hne, hpieces⟩
    obtain ⟨first, hfirst⟩ := List.exists_mem_of_ne_nil _ hne
    obtain ⟨_, field, -, hfield, -, -⟩ := hpieces first hfirst
    -- All elements are read for the same field.
    have hcast : ∀ piece ∈ Clause.pieces value,
        ∃ v, Value.cast (Text.trim name) field.type piece = .ok v := by
      intro piece hpiece
      obtain ⟨_, field', v, hfield', hv, -⟩ := hpieces piece hpiece
      cases hfield.unique hfield'
      exact ⟨v, hv⟩
    obtain ⟨vs, hvs⟩ := exists_forall₂_iff.2 hcast
    exact ⟨_, field, vs, hfield, hne, hvs, rfl⟩

theorem rightUnique_lowers : Relator.RightUnique m.Lowers :=
  fun _ _ _ h h' => h.unique h'

/-- In a collection `contains` has the predicate of `eq`. -/
theorem lowers_contains_iff (hraw : Clause.IsCut raw name token value)
    (htoken : Operation.ofToken? token = some .contains)
    (hcollection : (m.relationFor? (m.resolveAlias (Text.trim name))).isSome = true) :
    m.Lowers raw p ↔ m.Lowers (Clause.equalsFilter name value) p := by
  have heq : Operation.ofToken? "eq" = some .equals := by decide
  rw [lowers_iff_of_isCut hraw htoken,
    lowers_iff_of_isCut (isCut_equalsFilter hraw.front value) heq]
  refine exists_congr fun field => and_congr_right fun hfield => ?_
  have hthrough : field.collection.isSome = true := by
    rw [collection_of_resolve hfield.resolves, Option.isSome_map, hcollection]
  simp only [Clause.lower, hthrough, if_true]
  rfl

end Metadata

theorem Predicate.holds_anyOf_iff {row : Json} {b : Binding} {field : Field} {vs : List Value} :
    (anyOf field vs).holds row b = true ↔ ∃ v ∈ vs, (equals field v false).holds row b = true := by
  have hequal (v : Value) : (Row.compareField? row b field v == some .eq) =
      (equals field v false).holds row b := by
    rw [holds]
    cases Row.compareField? row b field v with
    | none => rfl
    | some o => cases o <;> rfl
  rw [holds]
  simp only [List.any_eq_true, hequal]

/-! ### The rest of a request -/

/-- The collections that are joined for conditions on the named ones. -/
def Metadata.joinsFor (m : Metadata) (names : List String) : List Relation :=
  (Builder.register [] names).filterMap m.collection?

namespace Plan

/-- The filters around one that is looked at have the predicates `ps` and those that `qs` begins
with, and the search has the rest of these. -/
def Surrounds (m : Metadata) (r : Parameters) (front back : List String)
    (ps qs : List Predicate) : Prop :=
  List.Forall₂ m.Lowers front ps ∧ ∃ others group, List.Forall₂ m.Lowers back others ∧
    m.Searches r.search group ∧ qs = others ++ group.toList

variable {ps qs : List Predicate} {plan : Plan}

theorem exists_build_around_iff : (∃ plan, build m (r.around front back raw) = .ok plan) ↔
    (∃ p, m.Lowers raw p) ∧ ∃ ps qs, Surrounds m r front back ps qs := by
  rw [exists_build_iff]
  have hfilters : (r.around front back raw).filters = front ++ raw :: back := rfl
  have hsearch : (r.around front back raw).search = r.search := rfl
  rw [hfilters, hsearch, List.forall_mem_append, List.forall_mem_cons, ← exists_forall₂_iff,
    ← exists_forall₂_iff]
  constructor
  · rintro ⟨⟨⟨ps, hps⟩, hp, qs, hqs⟩, group, hgroup⟩
    exact ⟨hp, ps, _, hps, qs, group, hqs, hgroup, rfl⟩
  · rintro ⟨hp, ps, _, hps, qs, group, hqs, hgroup, rfl⟩
    exact ⟨⟨⟨ps, hps⟩, hp, qs, hqs⟩, group, hgroup⟩

namespace Surrounds

theorem predicate_and_joins (h : Surrounds m r front back ps qs)
    (hplan : build m (r.around front back raw) = .ok plan) (hp : m.Lowers raw p) :
    plan.predicate = Predicate.all? (ps ++ p :: qs) ∧
      plan.joins = m.joinsFor ((ps ++ p :: qs).flatMap Predicate.collections) := by
  obtain ⟨hps, others, group, hothers, hgroup, rfl⟩ := h
  obtain ⟨filters, group', hfilters, hgroup', hpredicate, hjoins⟩ := exists_parts hplan
  have hall : List.Forall₂ m.Lowers (front ++ raw :: back) (ps ++ p :: others) :=
    List.rel_append hps (.cons hp hothers)
  cases Metadata.rightUnique_lowers.forall₂ hfilters hall
  cases hgroup.unique hgroup'
  rw [List.append_assoc, List.cons_append] at hpredicate hjoins
  exact ⟨hpredicate, hjoins⟩

/-- **What a filter adds**: its condition must hold with some elements with which all the rest
holds.  Which collections are joined is told by the fields of the conditions. -/
theorem selects_iff (h : Surrounds m r front back ps qs)
    (hplan : build m (r.around front back raw) = .ok plan) (hp : m.Lowers raw p) (row : Json) :
    plan.selects row = true ↔
      ∃ b ∈ Row.bindings row (m.joinsFor (ps.flatMap Predicate.collections ++ p.collections ++
          qs.flatMap Predicate.collections)),
        p.holds row b = true ∧ ∀ q ∈ ps ++ qs, q.holds row b = true := by
  obtain ⟨hpredicate, hjoins⟩ := h.predicate_and_joins hplan hp
  rw [Plan.selects_iff hpredicate, hjoins, List.flatMap_append, List.flatMap_cons,
    ← List.append_assoc]
  refine exists_congr fun b => and_congr_right fun _ => ?_
  simp only [List.forall_mem_append, List.forall_mem_cons]
  exact and_left_comm

end Surrounds

/-- **The rows that a list selects** are those that one of its elements selects. -/
theorem selects_oneOf_iff (hraw : Clause.IsCut raw name token value)
    (htoken : Operation.ofToken? token = some .oneOf)
    (hplan : build m (r.around front back raw) = .ok plan) (row : Json) :
    plan.selects row = true ↔ ∃ piece ∈ Clause.pieces value, ∃ plan',
      build m (r.around front back (Clause.equalsFilter name piece)) = .ok plan' ∧
        plan'.selects row = true := by
  obtain ⟨⟨p, hp⟩, ps, qs, hrest⟩ := exists_build_around_iff.1 ⟨plan, hplan⟩
  rw [hrest.selects_iff hplan hp]
  -- The fields are the same for the list and its elements, and so are the joined collections.
  obtain ⟨field, vs, hfield, -, hvs, rfl⟩ := (Metadata.lowers_oneOf_iff hraw htoken).1 hp
  have hequals {piece : String} {v : Value}
      (hcast : Value.cast (Text.trim name) field.type piece = .ok v) :
      m.Lowers (Clause.equalsFilter name piece) (.equals field v false) :=
    (Metadata.lowers_equals_iff hraw.front).2 ⟨field, v, hfield, hcast, rfl⟩
  constructor
  · rintro ⟨b, hb, hlist, hall⟩
    obtain ⟨v, hv, hholds⟩ := Predicate.holds_anyOf_iff.1 hlist
    obtain ⟨piece, hpiece, hcast⟩ := exists_of_mem_right hvs hv
    obtain ⟨plan', hplan'⟩ := exists_build_around_iff.2 ⟨⟨_, hequals hcast⟩, ps, qs, hrest⟩
    refine ⟨piece, hpiece, plan', hplan', ?_⟩
    exact (hrest.selects_iff hplan' (hequals hcast) row).2 ⟨b, hb, hholds, hall⟩
  · rintro ⟨piece, hpiece, plan', hplan', hrow⟩
    obtain ⟨v, hv, hcast⟩ := exists_of_mem_right hvs.flip hpiece
    obtain ⟨b, hb, hholds, hall⟩ := (hrest.selects_iff hplan' (hequals hcast) row).1 hrow
    exact ⟨b, hb, Predicate.holds_anyOf_iff.2 ⟨v, hv, hholds⟩, hall⟩

theorem build_around_congr {raw' : String} (h : ∀ p, m.Lowers raw p ↔ m.Lowers raw' p) :
    build m (r.around front back raw) = .ok plan ↔
      build m (r.around front back raw') = .ok plan := by
  have hfilters (ps : List Predicate) : List.Forall₂ m.Lowers (front ++ raw :: back) ps ↔
      List.Forall₂ m.Lowers (front ++ raw' :: back) ps := by
    induction front generalizing ps with
    | nil => simp only [List.nil_append, List.forall₂_cons_left_iff, h]
    | cons other front ih => simp only [List.cons_append, List.forall₂_cons_left_iff, ih]
  simp only [build_eq_ok_iff, builder_eq_ok_iff, Parameters.around, Parameters.withFilters,
    hfilters]
  rfl

/-- How a filter by the text `value` with another operation compares, within a request, with filters
that its field has a value. -/
structure UnitesEquals (m : Metadata) (r : Parameters) (front back : List String)
    (raw name value : String) (operation : Operation) : Prop where
  /-- A list is planned if it has elements and each of them is. -/
  isPlanned : operation = .oneOf →
    ((∃ plan, build m (r.around front back raw) = .ok plan) ↔ Clause.pieces value ≠ [] ∧
      ∀ piece ∈ Clause.pieces value,
        ∃ plan, build m (r.around front back (Clause.equalsFilter name piece)) = .ok plan)
  /-- A list keeps what its elements keep. -/
  mem_kept : operation = .oneOf →
    ∀ plan, build m (r.around front back raw) = .ok plan → ∀ rows e,
      e ∈ plan.kept rows ↔ ∃ piece ∈ Clause.pieces value, ∃ plan',
        build m (r.around front back (Clause.equalsFilter name piece)) = .ok plan' ∧
          e ∈ plan'.kept rows
  /-- The answers have what is kept.  What can be sorted for a list can be for its elements. -/
  answers : operation = .oneOf →
    ∀ plan, build m (r.around front back raw) = .ok plan → ∀ rows,
      plan.AnswersKept rows ∧ ∀ piece ∈ Clause.pieces value, ∀ plan',
        build m (r.around front back (Clause.equalsFilter name piece)) = .ok plan' →
          plan'.AnswersKept rows ∧ (plan.IsSortable rows → plan'.IsSortable rows)
  /-- In a collection a text that is contained is planned as one that is equal. -/
  build_contains : operation = .contains →
    (m.relationFor? (m.resolveAlias (Text.trim name))).isSome = true →
      ∀ plan, build m (r.around front back raw) = .ok plan ↔
        build m (r.around front back (Clause.equalsFilter name value)) = .ok plan

/-- **A list keeps what its elements keep**, whatever else the request asks for, and so does a text
that is to be contained in a collection. -/
theorem unitesEquals (m : Metadata) (r : Parameters) (front back : List String)
    (hraw : Clause.IsCut raw name token value)
    (htoken : Operation.ofToken? token = some operation) :
    UnitesEquals m r front back raw name value operation := by
  constructor
  case isPlanned =>
    rintro rfl
    simp only [exists_build_around_iff, Metadata.exists_lowers_oneOf_iff hraw htoken]
    constructor
    · rintro ⟨⟨hne, hpieces⟩, hrest⟩
      exact ⟨hne, fun piece hpiece => ⟨hpieces piece hpiece, hrest⟩⟩
    · rintro ⟨hne, hpieces⟩
      obtain ⟨first, hfirst⟩ := List.exists_mem_of_ne_nil _ hne
      exact ⟨⟨hne, fun piece hpiece => (hpieces piece hpiece).1⟩, (hpieces first hfirst).2⟩
  case mem_kept =>
    rintro rfl plan hplan rows e
    simp only [Plan.mem_kept, selects_oneOf_iff hraw htoken hplan]
    constructor
    · rintro ⟨he, piece, hpiece, plan', hplan', hrow⟩
      exact ⟨piece, hpiece, plan', hplan', he, hrow⟩
    · rintro ⟨piece, hpiece, plan', hplan', he, hrow⟩
      exact ⟨he, piece, hpiece, plan', hplan', hrow⟩
  case answers =>
    rintro rfl plan hplan rows
    refine ⟨answersKept plan rows, fun piece hpiece plan' hplan' => ⟨answersKept plan' rows, ?_⟩⟩
    have hsort : plan'.sort = plan.sort := (sort_of_build hplan').trans (sort_of_build hplan).symm
    refine fun hsortable => hsortable.of_sublist hsort ?_
    refine List.monotone_filter_right _ fun e hrow => ?_
    exact (selects_oneOf_iff hraw htoken hplan e.row).2 ⟨piece, hpiece, plan', hplan', hrow⟩
  case build_contains =>
    rintro rfl hcollection plan
    exact build_around_congr fun p => Metadata.lowers_contains_iff hraw htoken hcollection

/-- Products by a list of tags, and by a tag, while the search looks at another collection. -/
theorem unitesEquals_products :
    Clause.pieces " sale,, bulk" = ["sale", "bulk"] ∧
      (∃ plan, build Sample.product
        (Sample.saleRequest.around ["category:eq:Tools"] [] "tag:IN: sale,, bulk") = .ok plan) ∧
      UnitesEquals Sample.product Sample.saleRequest ["category:eq:Tools"] []
        "tag:IN: sale,, bulk" "tag" " sale,, bulk" .oneOf ∧
      (Sample.product.relationFor? (Sample.product.resolveAlias (Text.trim "tag"))).isSome = true ∧
      UnitesEquals Sample.product Sample.saleRequest ["category:eq:Tools"] []
        "tag:contains:sale" "tag" "sale" .contains := by
  have hlist : Clause.IsCut "tag:IN: sale,, bulk" "tag" "IN" " sale,, bulk" :=
    ⟨by decide, by decide, by decide⟩
  have hcontains : Clause.IsCut "tag:contains:sale" "tag" "contains" "sale" :=
    ⟨by decide, by decide, by decide⟩
  exact ⟨by decide, ⟨_, rfl⟩, unitesEquals _ _ _ _ hlist (by decide), by decide,
    unitesEquals _ _ _ _ hcontains (by decide)⟩

end Plan

end ListQuery
