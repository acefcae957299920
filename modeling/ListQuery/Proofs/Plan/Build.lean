import ListQuery.Plan
import ListQuery.Sample
import Mathlib.Data.List.Forall2
import Mathlib.Data.List.Nodup

/-!
# How a plan comes about

A request is planned in steps, one for each of its filters and one for its search.

* `Builder.addRaw_eq_ok_iff`, `Builder.addSearch_eq_ok_iff` : all that a step can do;
* `Plan.builder_eq_ok_iff` : all that the steps of a request add up to;
* `Plan.nodup_names_joins` : a plan joins no collection twice;
* `Plan.build_atPage`, `Plan.build_eq_map_unsorted` : neither paging nor the sort list has a part in
  the rest of a plan.
-/

namespace ListQuery

variable {ε α β : Type}

theorem bind_eq_ok_iff {x : Except ε α} {f : α → Except ε β} {b : β} :
    x >>= f = .ok b ↔ ∃ a, x = .ok a ∧ f a = .ok b := by
  cases x with
  | error e => simp [bind, Except.bind]
  | ok a => simp [bind, Except.bind]

theorem map_eq_ok_iff {x : Except ε α} {f : α → β} {b : β} :
    x.map f = .ok b ↔ ∃ a, x = .ok a ∧ f a = b := by
  cases x with
  | error e => simp [Except.map]
  | ok a => simp [Except.map]

theorem map_eq_error_iff {x : Except ε α} {f : α → β} {e : ε} :
    x.map f = .error e ↔ x = .error e := by
  cases x <;> simp [Except.map]

theorem mapM_eq_ok_iff {f : α → Except ε β} {items : List α} {results : List β} :
    items.mapM f = .ok results ↔ List.Forall₂ (fun a b => f a = .ok b) items results := by
  induction items generalizing results with
  | nil =>
    rw [List.mapM_nil, List.forall₂_nil_left_iff]
    exact ⟨fun h => by cases h; rfl, fun h => by rw [h]; rfl⟩
  | cons a items ih =>
    rw [List.mapM_cons, bind_eq_ok_iff, List.forall₂_cons_left_iff]
    refine exists_congr fun b => ?_
    rw [bind_eq_ok_iff]
    constructor
    · rintro ⟨hb, rest, hrest, h⟩
      cases h
      exact ⟨rest, hb, ih.1 hrest, rfl⟩
    · rintro ⟨rest, hb, hrest, rfl⟩
      exact ⟨hb, rest, ih.2 hrest, rfl⟩

theorem Value.cast_eq_ok_iff {name raw : String} {type : FieldType} {v : Value} :
    cast name type raw = .ok v ↔ read type raw = .ok v := by
  rw [cast]
  cases read type raw <;> simp [Except.mapError]

theorem exists_of_mem_right {γ : Type} {R : α → γ → Prop} {as : List α} {cs : List γ}
    (h : List.Forall₂ R as cs) {c : γ} (hc : c ∈ cs) : ∃ a ∈ as, R a c := by
  induction h with
  | nil => cases hc
  | @cons a d as cs hr _ ih =>
    rcases List.mem_cons.1 hc with rfl | hc
    · exact ⟨a, List.mem_cons_self, hr⟩
    · obtain ⟨b, hb, hr⟩ := ih hc
      exact ⟨b, List.mem_cons_of_mem _ hb, hr⟩

theorem exists_forall₂_iff {γ : Type} {R : α → γ → Prop} {as : List α} :
    (∃ cs, List.Forall₂ R as cs) ↔ ∀ a ∈ as, ∃ c, R a c := by
  constructor
  · rintro ⟨cs, h⟩ a ha
    obtain ⟨c, -, hc⟩ := exists_of_mem_right h.flip ha
    exact ⟨c, hc⟩
  · intro h
    induction as with
    | nil => exact ⟨[], .nil⟩
    | cons a as ih =>
      rw [List.forall_mem_cons] at h
      obtain ⟨c, hc⟩ := h.1
      obtain ⟨cs, hcs⟩ := ih h.2
      exact ⟨c :: cs, .cons hc hcs⟩

/-! ### Steps -/

namespace Builder

variable {m : Metadata} {b b' : Builder}

theorem addFilter_eq_ok_iff {c : Clause} :
    addFilter m b c = .ok b' ↔ m.resolveAlias c.field ∈ m.filterFields ∧
      ∃ field p, m.resolve (m.resolveAlias c.field) = .ok field ∧ c.lower field = .ok p ∧
        b' = { b with filters := b.filters ++ [p], joins := register b.joins p.collections } := by
  simp only [addFilter]
  split
  case isTrue hmem =>
    rw [List.contains_iff_mem] at hmem
    simp only [hmem, true_and]
    constructor
    · intro h
      obtain ⟨field, hfield, h⟩ := bind_eq_ok_iff.1 h
      obtain ⟨p, hp, h⟩ := bind_eq_ok_iff.1 h
      cases h
      exact ⟨field, p, hfield, hp, rfl⟩
    · rintro ⟨field, p, hfield, hp, rfl⟩
      exact bind_eq_ok_iff.2 ⟨field, hfield, bind_eq_ok_iff.2 ⟨p, hp, rfl⟩⟩
  case isFalse hmem =>
    rw [List.contains_iff_mem] at hmem
    simp only [hmem, false_and, iff_false]
    intro h
    cases h

theorem addRaw_eq_ok_iff {raw : String} :
    addRaw m b raw = .ok b' ↔ ∃ c, Clause.parse raw = .ok c ∧
      m.resolveAlias c.field ∈ m.filterFields ∧
      ∃ field p, m.resolve (m.resolveAlias c.field) = .ok field ∧ c.lower field = .ok p ∧
        b' = { b with filters := b.filters ++ [p], joins := register b.joins p.collections } := by
  simp only [addRaw, bind_eq_ok_iff, addFilter_eq_ok_iff]

theorem register_append (joins names more : List String) :
    register joins (names ++ more) = register (register joins names) more :=
  List.foldl_append

theorem mem_register {name : String} {joins names : List String} :
    name ∈ register joins names ↔ name ∈ joins ∨ name ∈ names := by
  rw [register]
  induction names generalizing joins with
  | nil => simp
  | cons other names ih =>
    rw [List.foldl_cons, ih, List.mem_cons]
    split
    case isTrue hmem =>
      rw [List.contains_iff_mem] at hmem
      constructor
      · rintro (h | h)
        · exact .inl h
        · exact .inr (.inr h)
      · rintro (h | rfl | h)
        · exact .inl h
        · exact .inl hmem
        · exact .inr h
    case isFalse => rw [List.mem_append, List.mem_singleton, or_assoc]

theorem nodup_register {joins : List String} (h : joins.Nodup) (names : List String) :
    (register joins names).Nodup := by
  rw [register]
  induction names generalizing joins with
  | nil => exact h
  | cons name names ih =>
    rw [List.foldl_cons]
    split
    case isTrue => exact ih h
    case isFalse hnew =>
      rw [List.contains_iff_mem] at hnew
      exact ih (List.concat_eq_append ▸ h.concat hnew)

end Builder

/-! ### Whole requests -/

namespace Metadata

variable (m : Metadata)

/-- A raw filter is allowed, and its predicate is `p`. -/
def Lowers (raw : String) (p : Predicate) : Prop :=
  ∃ c, Clause.parse raw = .ok c ∧ m.resolveAlias c.field ∈ m.filterFields ∧
    ∃ field, m.resolve (m.resolveAlias c.field) = .ok field ∧ c.lower field = .ok p

/-- What a search adds: nothing, or one of the conditions that a field that is searched contains the
text. -/
@[irreducible] def Searches (search : Option String) (group : Option Predicate) : Prop :=
  match search.bind Text.nonBlank? with
  | none => group = none
  | some needle => ∃ fields,
    List.Forall₂ (fun path field => m.resolve path = .ok field) m.searchFields fields ∧
      group = Predicate.any? (fields.map (.containsText · needle))

theorem searches_none_iff {m : Metadata} {group : Option Predicate} :
    m.Searches none group ↔ group = none := by
  unfold Searches
  exact Iff.rfl

end Metadata

namespace Builder

variable {m : Metadata} {b b' : Builder}

theorem foldlM_addRaw_eq_ok_iff {raws : List String} :
    raws.foldlM (addRaw m) b = .ok b' ↔ ∃ ps, List.Forall₂ m.Lowers raws ps ∧
      b' = { b with filters := b.filters ++ ps,
                    joins := register b.joins (ps.flatMap Predicate.collections) } := by
  induction raws generalizing b with
  | nil =>
    constructor
    · intro h
      cases h
      exact ⟨[], .nil, by simp [register]⟩
    · rintro ⟨ps, hps, rfl⟩
      cases hps
      simp only [List.append_nil, List.flatMap_nil, register, List.foldl_nil]
      rfl
  | cons raw raws ih =>
    rw [List.foldlM_cons, bind_eq_ok_iff]
    constructor
    · rintro ⟨mid, hmid, h⟩
      obtain ⟨c, hc, hmem, field, p, hfield, hp, rfl⟩ := addRaw_eq_ok_iff.1 hmid
      obtain ⟨ps, hps, rfl⟩ := ih.1 h
      exact ⟨p :: ps, .cons ⟨c, hc, hmem, field, hfield, hp⟩ hps, by simp [register_append]⟩
    · rintro ⟨_, hall, rfl⟩
      obtain ⟨p, ps, ⟨c, hc, hmem, field, hfield, hp⟩, hps, rfl⟩ := List.forall₂_cons_left_iff.1 hall
      exact ⟨_, addRaw_eq_ok_iff.2 ⟨c, hc, hmem, field, p, hfield, hp, rfl⟩,
        ih.2 ⟨ps, hps, by simp [register_append]⟩⟩

theorem searchMatches_eq_ok_iff {needle : String} {ps : List Predicate} :
    searchMatches m needle = .ok ps ↔ ∃ fields,
      List.Forall₂ (fun path field => m.resolve path = .ok field) m.searchFields fields ∧
        ps = fields.map (.containsText · needle) := by
  simp only [searchMatches, mapM_eq_ok_iff, map_eq_ok_iff]
  induction m.searchFields generalizing ps with
  | nil => simp
  | cons path paths ih =>
    simp only [List.forall₂_cons_left_iff, ih]
    constructor
    · rintro ⟨_, _, ⟨field, hfield, rfl⟩, ⟨fields, hfields, rfl⟩, rfl⟩
      exact ⟨_, ⟨field, fields, hfield, hfields, rfl⟩, rfl⟩
    · rintro ⟨_, ⟨field, fields, hfield, hfields, rfl⟩, rfl⟩
      exact ⟨_, _, ⟨field, hfield, rfl⟩, ⟨fields, hfields, rfl⟩, rfl⟩

/-- A search changes nothing, or puts its predicate in place of the earlier one. -/
theorem addSearch_eq_ok_iff {term : String} :
    addSearch m b term = .ok b' ↔ ∃ group, m.Searches (some term) group ∧
      b' = { b with search := group.or b.search,
                    joins := register b.joins (group.toList.flatMap Predicate.collections) } := by
  cases hneedle : Text.nonBlank? term with
  | none =>
    simp only [addSearch, hneedle, Metadata.Searches, Option.bind_some, exists_eq_left]
    exact ⟨fun h => by cases h; rfl, fun h => by rw [h]; rfl⟩
  | some needle =>
    simp only [addSearch, hneedle, Metadata.Searches, Option.bind_some, bind_eq_ok_iff,
      searchMatches_eq_ok_iff]
    constructor
    · rintro ⟨_, ⟨fields, hfields, rfl⟩, h⟩
      refine ⟨_, ⟨fields, hfields, rfl⟩, ?_⟩
      cases hany : Predicate.any? (fields.map (.containsText · needle)) with
      | none => rw [hany] at h; cases h; rfl
      | some p => rw [hany] at h; cases h; simp
    · rintro ⟨_, ⟨fields, hfields, rfl⟩, rfl⟩
      refine ⟨_, ⟨fields, hfields, rfl⟩, ?_⟩
      cases Predicate.any? (fields.map (.containsText · needle)) with
      | none => rfl
      | some p => simp; rfl

end Builder

namespace Plan

variable {m : Metadata} {r : Parameters}

/-- **What a request adds**: the predicates of its filters in order, that of its search, and the
collections of these in the order of their first use. -/
theorem builder_eq_ok_iff {b : Builder} :
    builder m r = .ok b ↔ ∃ ps group, List.Forall₂ m.Lowers r.filters ps ∧
      m.Searches r.search group ∧ b = {
        filters := ps
        search := group
        joins := Builder.register [] ((ps ++ group.toList).flatMap Predicate.collections) } := by
  rw [builder, bind_eq_ok_iff]
  cases hterm : r.search with
  | none =>
    simp only [Builder.foldlM_addRaw_eq_ok_iff, Metadata.searches_none_iff]
    constructor
    · rintro ⟨_, ⟨ps, hps, rfl⟩, h⟩
      cases h
      exact ⟨ps, none, hps, rfl, by simp⟩
    · rintro ⟨ps, _, hps, rfl, rfl⟩
      refine ⟨_, ⟨ps, hps, rfl⟩, ?_⟩
      rw [Option.toList_none, List.append_nil]
      rfl
  | some term =>
    simp only [Builder.foldlM_addRaw_eq_ok_iff, Builder.addSearch_eq_ok_iff]
    constructor
    · rintro ⟨_, ⟨ps, hps, rfl⟩, group, hgroup, rfl⟩
      refine ⟨ps, group, hps, hgroup, ?_⟩
      rw [List.flatMap_append, Builder.register_append, Option.or_none]
      rfl
    · rintro ⟨ps, group, hps, hgroup, rfl⟩
      refine ⟨_, ⟨ps, hps, rfl⟩, group, hgroup, ?_⟩
      rw [List.flatMap_append, Builder.register_append, Option.or_none]
      rfl

theorem nodup_joins_builder {b : Builder} (h : builder m r = .ok b) : b.joins.Nodup := by
  obtain ⟨ps, group, -, -, rfl⟩ := builder_eq_ok_iff.1 h
  exact Builder.nodup_register List.nodup_nil _

theorem build_eq_ok_iff {plan : Plan} :
    build m r = .ok plan ↔ ∃ b, builder m r = .ok b ∧ plan = {
      entity := m.entity
      table := m.table
      idColumn := m.idColumn
      joins := b.joins.filterMap m.collection?
      predicate := b.predicate?
      sort := r.sort.elim [] m.resolveSort
      isDistinct := b.isDistinct
      page := r.page
      pageSize := r.pageSize
      offset := r.offset
      limit := r.pageSize } := by
  rw [build, bind_eq_ok_iff]
  refine exists_congr fun b => and_congr_right fun _ => ⟨fun h => ?_, fun h => ?_⟩
  · cases h; rfl
  · rw [h]; rfl

theorem map_name_filterMap_collection? (names : List String) :
    (names.filterMap m.collection?).map Relation.name =
      names.filter fun name => (m.collection? name).isSome := by
  induction names with
  | nil => rfl
  | cons name names ih =>
    cases hname : m.collection? name with
    | none => simp [hname, ih]
    | some relation =>
      have : relation.name = name := by
        simpa using List.find?_some hname
      simp [hname, ih, this]

theorem sort_of_build {plan : Plan} (h : build m r = .ok plan) :
    plan.sort = r.sort.elim [] m.resolveSort := by
  obtain ⟨b, -, rfl⟩ := build_eq_ok_iff.1 h
  rfl

/-- **A plan joins no collection twice.** -/
theorem nodup_names_joins {plan : Plan} (h : build m r = .ok plan) :
    (plan.joins.map Relation.name).Nodup := by
  obtain ⟨b, hb, rfl⟩ := build_eq_ok_iff.1 h
  rw [map_name_filterMap_collection?]
  exact (nodup_joins_builder hb).filter _

theorem joins_eq_nil_of_not_isDistinct {plan : Plan} (h : build m r = .ok plan)
    (hd : plan.isDistinct = false) : plan.joins = [] := by
  obtain ⟨b, hb, rfl⟩ := build_eq_ok_iff.1 h
  have : b.joins = [] := by simpa [Builder.isDistinct] using hd
  simp [this]

end Plan

/-! ### Other pages -/

/-- The same request for another page. -/
def Parameters.atPage (r : Parameters) (page pageSize : Nat) : Parameters :=
  { r with page := page, pageSize := pageSize }

/-- The same plan for another page. -/
def Plan.atPage (plan : Plan) (page pageSize : Nat) : Plan :=
  { plan with page := page, pageSize := pageSize, offset := (page - 1) * pageSize,
              limit := pageSize }

/-- Paging has no part in the rest of a plan. -/
theorem Plan.build_atPage (m : Metadata) (r : Parameters) (page pageSize : Nat) :
    build m (r.atPage page pageSize) = (build m r).map (·.atPage page pageSize) := by
  have hbuilder : builder m (r.atPage page pageSize) = builder m r := rfl
  rw [build, build, hbuilder]
  cases builder m r <;> rfl

theorem Plan.build_atPage_eq_ok {m : Metadata} {r : Parameters} {plan : Plan}
    (h : build m r = .ok plan) (page pageSize : Nat) :
    build m (r.atPage page pageSize) = .ok (plan.atPage page pageSize) := by
  rw [build_atPage, h]
  rfl

/-! ### Other sort lists -/

/-- The same request without a sort list. -/
def Parameters.unsorted (r : Parameters) : Parameters :=
  { r with sort := none }

/-- The plan with other sort keys. -/
def Plan.sortedBy (plan : Plan) (keys : List SortKey) : Plan :=
  { plan with sort := keys }

/-- The sort list of a request has no part in the rest of its plan. -/
theorem Plan.build_eq_map_unsorted (m : Metadata) (r : Parameters) :
    build m r = (build m r.unsorted).map (·.sortedBy (r.sort.elim [] m.resolveSort)) := by
  have hbuilder : builder m r.unsorted = builder m r := rfl
  rw [build, build, hbuilder]
  cases builder m r <;> rfl

/-! ### A plain request -/

namespace Sample

/-- The plan of a request for invoices that asks for nothing in particular. -/
def invoicePlan : Plan where
  entity := invoice.entity
  table := invoice.table
  idColumn := invoice.idColumn
  joins := []
  predicate := none
  sort := []
  isDistinct := false
  page := Parameters.defaultPage
  pageSize := Parameters.defaultPageSize
  offset := 0
  limit := Parameters.defaultPageSize

theorem build_invoice : Plan.build invoice Parameters.default = .ok invoicePlan :=
  rfl

end Sample

end ListQuery
