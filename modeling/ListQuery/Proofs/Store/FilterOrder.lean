import ListQuery.Proofs.Store.Choices
import ListQuery.Proofs.Store.Noninterference

/-!
# Filters in any order

Filters are joined by "and", so that it does not matter in which order they come, nor how often.
The collections are joined in another order then, and the bindings of a row come in another order
too; but some binding meets all conditions just if one did before.

* `Metadata.Lowers.unique`, `Metadata.Searches.unique` : a filter has one predicate, and a search;
* `Plan.exists_build_iff` : whether a request is planned;
* `Plan.selects_iff`, `Plan.selects_congr` : whether a row meets several conditions at once;
* `Plan.exists_parts_withFilters` : what is planned for filters in another order;
* `Plan.matchesAlike` : the same rows are found, in the same order.
-/

namespace ListQuery

variable {m : Metadata} {r : Parameters} {plan plan' : Plan} {row : Json}

/-! ### What filters and searches mean -/

namespace Metadata

theorem Lowers.unique {raw : String} {p p' : Predicate} (h : m.Lowers raw p)
    (h' : m.Lowers raw p') : p = p' := by
  obtain ⟨c, hc, -, field, hfield, hp⟩ := h
  obtain ⟨c', hc', -, field', hfield', hp'⟩ := h'
  cases hc.symm.trans hc'
  cases hfield.symm.trans hfield'
  exact Except.ok.inj (hp.symm.trans hp')

theorem Searches.unique {search : Option String} {group group' : Option Predicate}
    (h : m.Searches search group) (h' : m.Searches search group') : group = group' := by
  unfold Searches at h h'
  cases hneedle : search.bind Text.nonBlank? with
  | none =>
    rw [hneedle] at h h'
    exact h.trans h'.symm
  | some needle =>
    rw [hneedle] at h h'
    obtain ⟨fields, hfields, rfl⟩ := h
    obtain ⟨fields', hfields', rfl⟩ := h'
    rw [rightUnique_resolve.forall₂ hfields hfields']

theorem subset_of_forall₂_lowers {raws raws' : List String} {ps ps' : List Predicate}
    (hraws : raws ⊆ raws') (h : List.Forall₂ m.Lowers raws ps)
    (h' : List.Forall₂ m.Lowers raws' ps') : ps ⊆ ps' := by
  intro p hp
  obtain ⟨raw, hraw, hlowers⟩ := exists_of_mem_right h hp
  obtain ⟨p', hp', hlowers'⟩ := exists_of_mem_right h'.flip (hraws hraw)
  exact hlowers.unique hlowers' ▸ hp'

end Metadata

theorem Builder.perm_register {names names' : List String}
    (h : ∀ name, name ∈ names ↔ name ∈ names') :
    (register [] names).Perm (register [] names') := by
  have hnodup (names : List String) : (register [] names).Nodup :=
    nodup_register List.nodup_nil names
  refine (List.perm_ext_iff_of_nodup (hnodup names) (hnodup names')).2 fun name => ?_
  rw [mem_register, mem_register, h]

/-! ### Conditions -/

namespace Predicate

theorem allHold_iff {b : Binding} {ps : List Predicate} :
    allHold row b ps = true ↔ ∀ p ∈ ps, p.holds row b = true := by
  induction ps with
  | nil => simp [allHold]
  | cons p ps ih => rw [allHold, Bool.and_eq_true, ih, List.forall_mem_cons]

theorem anyHolds_iff {b : Binding} {ps : List Predicate} :
    anyHolds row b ps = true ↔ ∃ p ∈ ps, p.holds row b = true := by
  induction ps with
  | nil => simp [anyHolds]
  | cons p ps ih => rw [anyHolds, Bool.or_eq_true, ih, List.exists_mem_cons_iff]

theorem exists_any?_of_mem {p : Predicate} {ps : List Predicate} (hp : p ∈ ps) :
    ∃ q, any? ps = some q ∧
      ∀ (row : Json) (b : Binding), p.holds row b = true → q.holds row b = true := by
  rcases ps with _ | ⟨q, _ | ⟨q', ps⟩⟩
  · cases hp
  · cases List.mem_singleton.1 hp
    exact ⟨p, rfl, fun _ _ => id⟩
  · refine ⟨.any (q :: q' :: ps), rfl, fun row b hholds => ?_⟩
    rw [holds]
    exact anyHolds_iff.2 ⟨p, hp, hholds⟩

/-- A condition sees what is bound under the names of its collections, in whatever order, and no
more of a binding. -/
theorem holds_eq_of_find?_eq {b b' : Binding} {p : Predicate}
    (h : ∀ name ∈ p.collections, Ordered.find? name b = Ordered.find? name b') :
    p.holds row b = p.holds row b' := by
  refine holds_congr p fun field hfield => ?_
  rw [Row.value?, Row.value?]
  cases hname : field.collection with
  | none => rfl
  | some name =>
    exact congrArg (Option.bind · _) (h name (List.mem_filterMap.2 ⟨field, hfield, hname⟩))

end Predicate

namespace Plan

/-- A row meets several conditions at once if all hold with one binding. -/
theorem selects_iff {ps : List Predicate} (h : plan.predicate = Predicate.all? ps) :
    plan.selects row = true ↔
      ∃ b ∈ Row.bindings row plan.joins, ∀ p ∈ ps, p.holds row b = true := by
  rw [selects, h]
  rcases ps with _ | ⟨p, _ | ⟨q, ps⟩⟩
  · -- There always is a binding, if only an empty one.
    obtain ⟨t, ht⟩ := List.exists_mem_of_ne_nil _ (Tuple.joined_ne_nil row plan.joins)
    rw [Row.bindings_eq_map_binding]
    exact iff_of_true rfl ⟨t.binding, List.mem_map_of_mem ht, List.forall_mem_nil _⟩
  · simp [Predicate.all?]
  · simp only [Predicate.all?, List.any_eq_true, Predicate.holds, Predicate.allHold_iff]

/-- A row that meets some conditions meets fewer, with fewer joins and whatever their order, unless
one of these looks at a collection that is joined no more. -/
theorem selects_of_subset {ps ps' : List Predicate} (h : plan.predicate = Predicate.all? ps)
    (h' : plan'.predicate = Predicate.all? ps') (hps : ps' ⊆ ps)
    (hjoins : plan'.joins.map Relation.name ⊆ plan.joins.map Relation.name)
    (hcollections : ∀ p ∈ ps', ∀ name ∈ p.collections,
      name ∈ plan.joins.map Relation.name → name ∈ plan'.joins.map Relation.name)
    (hrow : plan.selects row = true) : plan'.selects row = true := by
  obtain ⟨b, hb, hholds⟩ := (selects_iff h).1 hrow
  obtain ⟨b', hb', hfind⟩ := Row.exists_mem_bindings_of_subset hjoins hb
  refine (selects_iff h').2 ⟨b', hb', fun p hp => ?_⟩
  have hsame : ∀ name ∈ p.collections, Ordered.find? name b' = Ordered.find? name b := by
    intro name hname
    rw [hfind]
    split
    case isTrue => rfl
    case isFalse hjoined =>
      have hmissing := mt (hcollections p hp name hname) hjoined
      exact (Row.find?_eq_none_of_mem_bindings hb hmissing).symm
  rw [Predicate.holds_eq_of_find?_eq hsame]
  exact hholds p (hps hp)

/-- **Neither the order of conditions nor that of joins matters.** -/
theorem selects_congr {ps ps' : List Predicate} (h : plan.predicate = Predicate.all? ps)
    (h' : plan'.predicate = Predicate.all? ps') (hps : ∀ p, p ∈ ps ↔ p ∈ ps')
    (hjoins : plan.joins.Perm plan'.joins) (row : Json) :
    plan.selects row = plan'.selects row := by
  have hnames (name : String) :
      name ∈ plan.joins.map Relation.name ↔ name ∈ plan'.joins.map Relation.name :=
    (hjoins.map Relation.name).mem_iff
  rw [Bool.eq_iff_iff]
  constructor
  · exact selects_of_subset h h' (fun p => (hps p).2) (fun name => (hnames name).2)
      fun _ _ name _ => (hnames name).1
  · exact selects_of_subset h' h (fun p => (hps p).1) (fun name => (hnames name).1)
      fun _ _ name _ => (hnames name).2

/-! ### Plans -/

theorem exists_build_iff : (∃ plan, build m r = .ok plan) ↔
    (∀ raw ∈ r.filters, ∃ p, m.Lowers raw p) ∧ ∃ group, m.Searches r.search group := by
  rw [← exists_forall₂_iff]
  constructor
  · rintro ⟨plan, h⟩
    obtain ⟨ps, group, hps, hgroup, -⟩ := exists_parts h
    exact ⟨⟨ps, hps⟩, group, hgroup⟩
  · rintro ⟨⟨ps, hps⟩, group, hgroup⟩
    exact ⟨_, build_eq_ok_iff.2 ⟨_, builder_eq_ok_iff.2 ⟨ps, group, hps, hgroup, rfl⟩, rfl⟩⟩

/-- Filters in another order are planned for the same conditions and joins, in another order. -/
theorem exists_parts_withFilters {filters : List String}
    (h : ∀ raw, raw ∈ filters ↔ raw ∈ r.filters) (hplan : build m r = .ok plan)
    (hplan' : build m (r.withFilters filters) = .ok plan') :
    ∃ ps ps', plan.predicate = Predicate.all? ps ∧ plan'.predicate = Predicate.all? ps' ∧
      (∀ p, p ∈ ps ↔ p ∈ ps') ∧ plan.joins.Perm plan'.joins := by
  obtain ⟨ps, group, hps, hgroup, hpredicate, hjoins⟩ := exists_parts hplan
  obtain ⟨ps', group', hps', hgroup', hpredicate', hjoins'⟩ := exists_parts hplan'
  cases hgroup.unique hgroup'
  have hmem : ∀ p, p ∈ ps ++ group.toList ↔ p ∈ ps' ++ group.toList := by
    intro p
    rw [List.mem_append, List.mem_append]
    refine or_congr_left ⟨fun hp => ?_, fun hp => ?_⟩
    · exact Metadata.subset_of_forall₂_lowers (fun raw => (h raw).2) hps hps' hp
    · exact Metadata.subset_of_forall₂_lowers (fun raw => (h raw).1) hps' hps hp
  refine ⟨_, _, hpredicate, hpredicate', hmem, ?_⟩
  rw [hjoins, hjoins']
  exact (Builder.perm_register fun name => by simp only [List.mem_flatMap, hmem]).filterMap _

/-- Two requests find the same. -/
structure MatchesAlike (m : Metadata) (r r' : Parameters) : Prop where
  /-- The one is planned just if the other is. -/
  isPlanned : (∃ plan, build m r = .ok plan) ↔ ∃ plan, build m r' = .ok plan
  /-- The same collections are joined, in some order. -/
  joins : ∀ plan plan', build m r = .ok plan → build m r' = .ok plan' →
    plan.joins.Perm plan'.joins
  /-- In every store the same rows are found, in the same order, or sorting breaks off with both. -/
  matching : ∀ plan plan', build m r = .ok plan → build m r' = .ok plan' →
    ∀ rows, plan.matching? rows = plan'.matching? rows

/-- **Neither the order of filters nor their repetition matters.** -/
theorem matchesAlike {filters : List String} (h : ∀ raw, raw ∈ filters ↔ raw ∈ r.filters) :
    MatchesAlike m r (r.withFilters filters) := by
  constructor
  case isPlanned =>
    rw [exists_build_iff, exists_build_iff]
    refine and_congr_left fun _ => forall_congr' fun raw => ?_
    exact imp_congr_left (h raw).symm
  case joins =>
    intro plan plan' hplan hplan'
    obtain ⟨ps, ps', -, -, -, hjoins⟩ := exists_parts_withFilters h hplan hplan'
    exact hjoins
  case matching =>
    intro plan plan' hplan hplan' rows
    obtain ⟨ps, ps', hps, hps', hmem, hjoins⟩ := exists_parts_withFilters h hplan hplan'
    have hsort : plan.sort = plan'.sort := (sort_of_build hplan).trans (sort_of_build hplan').symm
    rw [matching?, matching?, kept, kept, hsort]
    simp only [selects_congr hps hps' hmem hjoins]

end Plan

/-- A request for products on sale, in a category, with a word to be found in the same category. -/
def Sample.saleRequest : Parameters :=
  { Parameters.default with
    sort := some "name"
    search := some "tool"
    filters := ["category:eq:Tools", "tags:contains:sale"] }

/-- The same filters in another order, one of them twice. -/
def Sample.saleFilters : List String :=
  ["tags:contains:sale", "category:eq:Tools", "tags:contains:sale"]

/-- The collections are joined in another order, and the same products are found. -/
theorem Plan.matchesAlike_products :
    (∀ raw, raw ∈ Sample.saleFilters ↔ raw ∈ Sample.saleRequest.filters) ∧
      (build Sample.product Sample.saleRequest).toOption.map (·.joins.map Relation.name) =
        some ["categories", "tags"] ∧
      (build Sample.product (Sample.saleRequest.withFilters Sample.saleFilters)).toOption.map
        (·.joins.map Relation.name) = some ["tags", "categories"] ∧
      MatchesAlike Sample.product Sample.saleRequest
        (Sample.saleRequest.withFilters Sample.saleFilters) := by
  have hfilters (raw : String) :
      raw ∈ Sample.saleFilters ↔ raw ∈ Sample.saleRequest.filters := by
    simp only [Sample.saleFilters, Sample.saleRequest, List.mem_cons, List.not_mem_nil, or_false]
    constructor
    · rintro (rfl | rfl | rfl)
      · exact .inr rfl
      · exact .inl rfl
      · exact .inr rfl
    · rintro (rfl | rfl)
      · exact .inr (.inl rfl)
      · exact .inl rfl
  exact ⟨hfilters, by decide +kernel, by decide +kernel, matchesAlike hfilters⟩

end ListQuery
