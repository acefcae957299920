import ListQuery.Proofs.Plan.Joins
import ListQuery.Proofs.Store.FilterOrder
import Mathlib.Data.List.Sort

/-!
# Filters only narrow

A request with more filters, or with a search where it had none, keeps a part of what it kept
before.  The additions may join collections that were not joined, so that a row has more bindings;
but each of these has one of the fewer joins as a part, and what held with the one holds with the
other.

* `Parameters.adding` : a request with more filters, and with a search if it has none;
* `Plan.positions` : where the rows of an answer are stored;
* `Plan.exists_parts_adding` : what is planned for the additions;
* `Plan.narrows` : the rows kept are some of those kept without the additions.
-/

namespace ListQuery

/-- The request with `filters` behind its own, and with the search if it has none. -/
def Parameters.adding (r : Parameters) (filters : List String) (search : Option String) :
    Parameters :=
  { r with filters := r.filters ++ filters, search := r.search.or search }

namespace Plan

variable {m : Metadata} {r : Parameters} {plan plan' : Plan} {filters : List String}
  {search : Option String}

/-! ### Positions -/

/-- The positions of the rows of an answer, in the order of the store. -/
def positions (found : List Entry) : List Nat :=
  (found.map Entry.position).mergeSort

theorem positions_eq {rows : List Json} {found : List Entry}
    (h : plan.matching? rows = some found) :
    positions found = (plan.kept rows).map Entry.position := by
  have hperm : (positions found).Perm ((plan.kept rows).map Entry.position) :=
    (List.mergeSort_perm _ _).trans ((matching?_perm h).map _)
  have hsorted : (positions found).Pairwise (· ≤ ·) :=
    List.pairwise_mergeSort' _ _
  have hstored : ((Entry.ofRows rows).map Entry.position).Pairwise (· ≤ ·) := by
    rw [Entry.map_position_ofRows]
    exact List.pairwise_lt_range.imp Nat.le_of_lt
  refine hperm.eq_of_pairwise (fun i j _ _ => Nat.le_antisymm) hsorted ?_
  exact hstored.sublist (List.filter_sublist.map _)

/-! ### Conditions and joins -/

/-- The conditions and joins of a plan are among those of the plan with the additions. -/
theorem exists_parts_adding (h : build m r = .ok plan)
    (h' : build m (r.adding filters search) = .ok plan') :
    ∃ ps ps', plan.predicate = Predicate.all? ps ∧ plan'.predicate = Predicate.all? ps' ∧
      ps ⊆ ps' ∧ plan.joins ⊆ plan'.joins := by
  obtain ⟨ps, group, hps, hgroup, hpredicate, hjoins⟩ := exists_parts h
  obtain ⟨ps', group', hps', hgroup', hpredicate', hjoins'⟩ := exists_parts h'
  have hfilters : ps ⊆ ps' :=
    Metadata.subset_of_forall₂_lowers (List.subset_append_left _ _) hps hps'
  have hsearch : group.toList ⊆ group'.toList := by
    cases hterm : r.search with
    | none =>
      rw [hterm, Metadata.searches_none_iff] at hgroup
      rw [hgroup]
      exact List.nil_subset _
    | some term =>
      have hkept : (r.adding filters search).search = r.search := by
        rw [Parameters.adding, hterm, Option.some_or]
      rw [hgroup.unique (hkept ▸ hgroup')]
      exact List.Subset.refl _
  have hparts : ps ++ group.toList ⊆ ps' ++ group'.toList :=
    List.append_subset.2 ⟨List.subset_append_of_subset_left _ hfilters,
      List.subset_append_of_subset_right _ hsearch⟩
  refine ⟨_, _, hpredicate, hpredicate', hparts, ?_⟩
  rw [hjoins, hjoins']
  refine List.filterMap_subset _ fun name hname => ?_
  rw [Builder.mem_register, List.mem_flatMap] at hname ⊢
  obtain hname | ⟨p, hp, hname⟩ := hname
  · exact .inl hname
  · exact .inr ⟨p, hparts hp, hname⟩

/-- A row that is selected with the additions is selected without them. -/
theorem selects_of_selects_adding (h : build m r = .ok plan)
    (h' : build m (r.adding filters search) = .ok plan') {row : Json}
    (hrow : plan'.selects row = true) : plan.selects row = true := by
  obtain ⟨ps, ps', hps, hps', hparts, hjoins⟩ := exists_parts_adding h h'
  refine selects_of_subset hps' hps hparts (List.map_subset _ hjoins) ?_ hrow
  -- What a condition of the request looks at is joined for it.
  intro p hp name hname _
  obtain ⟨field, hfield, hcollection⟩ := List.mem_filterMap.1 hname
  refine List.mem_map.2 (exists_mem_joins h (mem_collections.2 ⟨field, ?_, hcollection⟩))
  rw [conditionFields, hps, Predicate.flatMap_fields_all?]
  exact List.mem_flatMap.2 ⟨p, hp, hfield⟩

/-! ### Answers -/

/-- What one plan keeps of some rows is a part of what the other keeps. -/
structure Narrows (plan plan' : Plan) (rows : List Json) : Prop where
  /-- The rows kept stand in the store as some of those kept by the other plan. -/
  kept : (plan'.kept rows).Sublist (plan.kept rows)
  /-- So do the rows of the answers, -/
  positions : ∀ found found', plan.matching? rows = some found →
    plan'.matching? rows = some found' → (Plan.positions found').Sublist (Plan.positions found)
  /-- which are the same rows. -/
  matching : ∀ found found', plan.matching? rows = some found →
    plan'.matching? rows = some found' → found' ⊆ found
  /-- There are no more of them. -/
  total : ∀ page page', plan.fetch? rows = some page → plan'.fetch? rows = some page' →
    page'.2 ≤ page.2
  /-- If the rows kept by the other plan can be sorted, there are both answers. -/
  isAnswered : plan.IsSortable rows → (∃ found, plan.matching? rows = some found) ∧
    ∃ found', plan'.matching? rows = some found'
  /-- Nothing that the other plan joins is left out. -/
  joins : plan.joins ⊆ plan'.joins

/-- **Filters only narrow**: with more filters, or with a search where there was none, a request
keeps some of the rows that it kept before, whatever the additions join. -/
theorem narrows (h : build m r = .ok plan)
    (h' : build m (r.adding filters search) = .ok plan') (rows : List Json) :
    plan.Narrows plan' rows := by
  have hsublist : (plan'.kept rows).Sublist (plan.kept rows) :=
    List.monotone_filter_right _ fun _ => selects_of_selects_adding h h'
  constructor
  case kept => exact hsublist
  case positions =>
    intro found found' hfound hfound'
    rw [positions_eq hfound, positions_eq hfound']
    exact hsublist.map _
  case matching =>
    intro found found' hfound hfound' e he
    rw [(matching?_perm hfound').mem_iff] at he
    rw [(matching?_perm hfound).mem_iff]
    exact hsublist.subset he
  case total =>
    intro page page' hpage hpage'
    rw [(answersKept plan rows).total page hpage, (answersKept plan' rows).total page' hpage']
    exact hsublist.length_le
  case isAnswered =>
    intro hsortable
    refine ⟨exists_matching? hsortable, exists_matching? ?_⟩
    exact hsortable.of_sublist ((sort_of_build h').trans (sort_of_build h).symm) hsublist
  case joins =>
    obtain ⟨ps, ps', -, -, -, hjoins⟩ := exists_parts_adding h h'
    exact hjoins

end Plan

namespace Sample

/-- A request for products in a category. -/
def toolsRequest : Parameters :=
  { Parameters.default with
    sort := some "name"
    filters := ["category:eq:Tools"] }

/-- The same with a tag and a word to be found. -/
def saleToolsRequest : Parameters :=
  toolsRequest.adding ["tag:eq:sale"] (some "e")

end Sample

/-- The tags are joined besides the categories, and a product without tags is no longer found. -/
theorem Plan.narrows_products :
    (build Sample.product Sample.toolsRequest).toOption.map
        (·.joins.map Relation.name) = some ["categories"] ∧
      (build Sample.product Sample.saleToolsRequest).toOption.map
        (·.joins.map Relation.name) = some ["categories", "tags"] ∧
      ∃ plan plan', build Sample.product Sample.toolsRequest = .ok plan ∧
        build Sample.product Sample.saleToolsRequest = .ok plan' ∧
        plan.IsSortable Sample.rows ∧ plan.Narrows plan' Sample.rows := by
  have hplan : ∃ plan, build Sample.product Sample.toolsRequest = .ok plan := ⟨_, rfl⟩
  have hplan' : ∃ plan', build Sample.product Sample.saleToolsRequest = .ok plan' := ⟨_, rfl⟩
  obtain ⟨plan, h⟩ := hplan
  obtain ⟨plan', h'⟩ := hplan'
  exact ⟨by decide +kernel, by decide +kernel, plan, plan', h, h',
    isSortable_of_length_le (by decide), narrows h h' Sample.rows⟩

end ListQuery
