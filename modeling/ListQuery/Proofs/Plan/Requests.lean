import ListQuery.Proofs.Filter.Clause
import ListQuery.Proofs.Plan.Contract
import ListQuery.Proofs.Plan.Failure

/-!
# What requests can ask for

* `Value.exists_read` : every type has a value, unless it is an enumeration without names;
* `Metadata.Asked` : a path that a search looks at, or that a filter can name;
* `Metadata.exists_build_of_asked`, `Plan.asked_of_mem_fields` : some request asks for any such
  paths at once, and none for others;
* `Plan.build_filter_eq_ok_iff` : the plan of a request with a filter alone.
-/

namespace ListQuery

theorem Value.exists_read {type : FieldType} (h : type ≠ .enumeration []) :
    ∃ raw v, Value.read type raw = .ok v := by
  cases type with
  | text => exact ⟨"", _, rfl⟩
  | boolean => exact ⟨"true", .boolean true, by decide⟩
  | integer => exact ⟨"0", .integer 0, by decide⟩
  | numeric => exact ⟨"0", _, rfl⟩
  | uuid => exact ⟨"00000000-0000-0000-0000-000000000000", _, rfl⟩
  | timestamp => exact ⟨"1970-01-01T00:00:00Z", _, rfl⟩
  | enumeration names =>
    cases names with
    | nil => exact absurd rfl h
    | cons name names => exact ⟨name, .enumeration name, by simp [Value.read]⟩

namespace Metadata

variable {m : Metadata} {path : String}

/-- Valid metadata give no path an enumeration without names as its type. -/
theorem fieldType_ne_empty (h : m.ensureValid = .ok ()) (path : String) :
    m.fieldType path ≠ .enumeration [] := by
  obtain ⟨-, -, -, -, hfields⟩ := ensureValid_eq_ok_iff.1 h
  rw [fieldType, Ordered.find?]
  cases hlookup : m.fields.lookup path with
  | none =>
    intro htext
    cases htext
  | some d =>
    obtain ⟨front, back, hentries, -⟩ := List.lookup_eq_some_iff.1 hlookup
    exact hfields (path, d) (by simp [hentries])

/-- A path that a search looks at, or that a filter can name. -/
def Asked (m : Metadata) (path : String) : Prop :=
  path ∈ m.searchFields ∨
    path ∈ m.filterFields ∧ ∃ raw c, Clause.parse raw = .ok c ∧ m.resolveAlias c.field = path

theorem type_of_resolve {field : Field} (h : m.resolve path = .ok field) :
    field.type = m.fieldType path := by
  rw [resolve] at h
  split at h
  · cases h; rfl
  · cases h

theorem exists_lowers (h : m.ensureValid = .ok ()) {raw : String} {c : Clause}
    (hc : Clause.parse raw = .ok c) (hmem : m.resolveAlias c.field ∈ m.filterFields) :
    ∃ raw p, m.Lowers raw p ∧ m.resolveAlias c.field ∈ p.fields.map Field.path := by
  obtain ⟨front, token, -, hfront, -, hname, hne, -⟩ := Clause.parse_eq_ok_iff.1 hc
  obtain ⟨value, v, hv⟩ := Value.exists_read (m.fieldType_ne_empty h (m.resolveAlias c.field))
  obtain ⟨field, hfield⟩ := m.exists_resolve h (m.resolveAlias c.field) (by simp [hmem])
  -- The same name, asked to be equal to some value of its type.
  have htoken : Operation.ofToken? "eq" = some .equals := by decide
  have hparse : Clause.parse (front ++ ":" ++ "eq" ++ ":" ++ value) =
      .ok ⟨c.field, .equals, value⟩ :=
    Clause.parse_eq_ok_iff.2 ⟨front, "eq", rfl, hfront, by decide, hname, hne, htoken⟩
  have hcast : Clause.castValue ⟨c.field, .equals, value⟩ field = .ok v := by
    rw [Clause.castValue, Value.cast_eq_ok_iff, type_of_resolve hfield, hv]
  have hlower : Clause.lower ⟨c.field, .equals, value⟩ field = .ok (.equals field v false) :=
    map_eq_ok_iff.2 ⟨v, hcast, rfl⟩
  refine ⟨_, _, ⟨_, hparse, hmem, field, hfield, hlower⟩, ?_⟩
  simp [Predicate.fields, path_of_resolve hfield]

theorem exists_forall₂_lowers (h : m.ensureValid = .ok ()) {paths : List String}
    (hpaths : ∀ path ∈ paths, m.Asked path) :
    ∃ raws ps, List.Forall₂ m.Lowers raws ps ∧ ∀ path ∈ paths,
      path ∈ m.searchFields ∨ path ∈ (ps.flatMap Predicate.fields).map Field.path := by
  induction paths with
  | nil => exact ⟨[], [], .nil, nofun⟩
  | cons path paths ih =>
    rw [List.forall_mem_cons] at hpaths
    obtain ⟨raws, ps, hlowers, hcovered⟩ := ih hpaths.2
    obtain hsearch | ⟨hmem, raw, c, hc, rfl⟩ := hpaths.1
    · exact ⟨raws, ps, hlowers, List.forall_mem_cons.2 ⟨.inl hsearch, hcovered⟩⟩
    · obtain ⟨raw', p, hp, hpath⟩ := m.exists_lowers h hc hmem
      refine ⟨raw' :: raws, p :: ps, .cons hp hlowers, List.forall_mem_cons.2 ⟨?_, ?_⟩⟩
      · exact .inr (by simp [hpath])
      · refine fun other hother => (hcovered other hother).imp_right fun hmem => ?_
        rw [List.flatMap_cons, List.map_append]
        exact List.mem_append_right _ hmem

theorem exists_searches (h : m.ensureValid = .ok ()) :
    ∃ group, m.Searches (some "x") group ∧
      (group.toList.flatMap Predicate.fields).map Field.path = m.searchFields := by
  obtain ⟨fields, hfields⟩ : ∃ fields,
      List.Forall₂ (fun path field => m.resolve path = .ok field) m.searchFields fields :=
    exists_forall₂_iff.2 fun path hpath => m.exists_resolve h path (by simp [hpath])
  have hneedle : Text.nonBlank? "x" = some "x" := by decide
  refine ⟨Predicate.any? (fields.map (.containsText · "x")), ?_, ?_⟩
  · unfold Searches
    rw [Option.bind_some, hneedle]
    exact ⟨fields, hfields, rfl⟩
  · rw [Predicate.flatMap_fields_any?, ← (forall₂_resolve_iff.1 hfields).1, List.flatMap_map]
    exact congrArg (List.map Field.path) (List.flatMap_singleton' fields)

/-- **Some request asks for any paths that can be asked for**, all of them at once. -/
theorem exists_build_of_asked (h : m.ensureValid = .ok ()) {paths : List String}
    (hpaths : ∀ path ∈ paths, m.Asked path) :
    ∃ r plan, Plan.build m r = .ok plan ∧
      paths ⊆ (plan.predicate.toList.flatMap Predicate.fields).map Field.path := by
  obtain ⟨raws, ps, hlowers, hcovered⟩ := m.exists_forall₂_lowers h hpaths
  obtain ⟨group, hgroup, hsearched⟩ := m.exists_searches h
  let r : Parameters := { Parameters.default with search := some "x", filters := raws }
  refine ⟨r, _, Plan.build_eq_ok_iff.2 ⟨_, Plan.builder_eq_ok_iff.2
    ⟨ps, group, hlowers, hgroup, rfl⟩, rfl⟩, fun path hpath => ?_⟩
  rw [Builder.predicate?, Predicate.flatMap_fields_all?, List.flatMap_append, List.map_append,
    List.mem_append, hsearched]
  exact (hcovered path hpath).symm

end Metadata

/-- **A request asks for nothing else.** -/
theorem Plan.asked_of_mem_fields {m : Metadata} {r : Parameters} {plan : Plan}
    (h : build m r = .ok plan) {field : Field}
    (hfield : field ∈ plan.predicate.toList.flatMap Predicate.fields) : m.Asked field.path := by
  obtain ⟨filters, group, hfilters, hgroup, hpredicate, -⟩ := exists_parts h
  rw [hpredicate, Predicate.flatMap_fields_all?, List.flatMap_append, List.mem_append] at hfield
  obtain hfield | hfield := hfield
  · obtain ⟨p, hp, hfield⟩ := List.mem_flatMap.1 hfield
    obtain ⟨raw, -, hraw⟩ := exists_of_mem_right hfilters hp
    obtain ⟨c, other, hc, hfields, hpath, hlists⟩ := hraw.lists
    rw [hfields, List.mem_singleton] at hfield
    cases hfield
    exact .inr ⟨hlists.1, raw, c, hc, hpath.symm⟩
  · exact .inl (hgroup.lists hfield).1

/-! ### A single filter -/

namespace Plan

/-- The plan for the rows that meet a condition. -/
def ofFilter (m : Metadata) (p : Predicate) : Plan where
  entity := m.entity
  table := m.table
  idColumn := m.idColumn
  joins := (Builder.register [] p.collections).filterMap m.collection?
  predicate := some p
  sort := []
  isDistinct := !(Builder.register [] p.collections).isEmpty
  page := Parameters.defaultPage
  pageSize := Parameters.defaultPageSize
  offset := 0
  limit := Parameters.defaultPageSize

theorem build_filter_eq_ok_iff {m : Metadata} {raw : String} {plan : Plan} :
    build m (Parameters.default.withFilters [raw]) = .ok plan ↔
      ∃ p, m.Lowers raw p ∧ plan = ofFilter m p := by
  constructor
  · intro h
    obtain ⟨b, hb, rfl⟩ := build_eq_ok_iff.1 h
    obtain ⟨ps, group, hps, hgroup, rfl⟩ := builder_eq_ok_iff.1 hb
    obtain ⟨p, rest, hp, hrest, rfl⟩ := List.forall₂_cons_left_iff.1 hps
    cases hrest
    cases Metadata.searches_none_iff.1 hgroup
    refine ⟨p, hp, ?_⟩
    rw [Option.toList_none, List.append_nil, List.flatMap_singleton]
    rfl
  · rintro ⟨p, hp, rfl⟩
    have hsearch : m.Searches (Parameters.default.withFilters [raw]).search none :=
      Metadata.searches_none_iff.2 rfl
    refine build_eq_ok_iff.2 ⟨_, builder_eq_ok_iff.2 ⟨_, _, .cons hp .nil, hsearch, rfl⟩, ?_⟩
    rw [Option.toList_none, List.append_nil, List.flatMap_singleton]
    rfl

end Plan

end ListQuery
