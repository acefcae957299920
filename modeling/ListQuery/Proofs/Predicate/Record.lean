import ListQuery.Proofs.Predicate.Edit
import Mathlib.Data.List.Induction

/-!
# What some calls on a builder come to

What a call adds does not depend on the builder that it is added to.  So all that some calls come to
is told by what those of them add that succeed: filters pile up, a search replaces the one before,
and joins stay.

* `Predicate.IsProper` : a condition without groups of fewer than two and without empty lists;
* `Builder.Call.run_eq` : what a call adds, to any builder;
* `Builder.after_eq` : what some calls add up to;
* `Builder.mem_joins_after` : what is joined is what the condition looks at, even if a search was
  replaced;
* `Builder.keepsRecord_after` : what a builder is, whatever calls it has had;
* `Plan.eq_after_of_builder` : what a plan is made of is what the calls for its request come to.
-/

namespace ListQuery

variable {m : Metadata}

theorem ok_bind {ε α β : Type} (a : α) (f : α → Except ε β) : Except.ok a >>= f = f a :=
  rfl

/-! ### Proper conditions -/

namespace Predicate

mutual

/-- A condition is proper if its groups have at least two members and its lists at least one value,
at every depth. -/
def IsProper : Predicate → Prop
  | equals _ _ _ => True
  | compare _ _ _ => True
  | containsText _ _ => True
  | anyOf _ values => values ≠ []
  | all children => 2 ≤ children.length ∧ AreProper children
  | any children => 2 ≤ children.length ∧ AreProper children

/-- All of the conditions are proper. -/
def AreProper : List Predicate → Prop
  | [] => True
  | p :: ps => p.IsProper ∧ AreProper ps

end

theorem areProper_iff {ps : List Predicate} : AreProper ps ↔ ∀ p ∈ ps, p.IsProper := by
  induction ps with
  | nil => simp [AreProper]
  | cons p ps ih => rw [AreProper, ih, List.forall_mem_cons]

theorem isProper_of_all? {ps : List Predicate} {p : Predicate} (h : ∀ q ∈ ps, q.IsProper)
    (hp : all? ps = some p) : p.IsProper := by
  match ps with
  | [] => cases hp
  | [q] => cases hp; exact h _ (List.mem_singleton_self _)
  | q :: q' :: ps =>
    cases hp
    exact ⟨by simp, areProper_iff.2 h⟩

theorem isProper_of_any? {ps : List Predicate} {p : Predicate} (h : ∀ q ∈ ps, q.IsProper)
    (hp : any? ps = some p) : p.IsProper := by
  match ps with
  | [] => cases hp
  | [q] => cases hp; exact h _ (List.mem_singleton_self _)
  | q :: q' :: ps =>
    cases hp
    exact ⟨by simp, areProper_iff.2 h⟩

end Predicate

theorem Clause.isProper_of_lower {c : Clause} {field : Field} {p : Predicate}
    (h : c.lower field = .ok p) : p.IsProper := by
  obtain ⟨v, negated, rfl⟩ | ⟨comparison, v, rfl⟩ | rfl | ⟨vs, hvs, rfl⟩ := lower_cases h
  · trivial
  · trivial
  · trivial
  · exact hvs

/-! ### What calls add -/

namespace Metadata

/-- The predicate of a clause on an entity. -/
def lower (m : Metadata) (c : Clause) : Except QueryError Predicate := do
  let path := m.resolveAlias c.field
  if m.filterFields.contains path then
    let field ← m.resolve path
    c.lower field
  else throw (.disallowedField c.field)

/-- The predicate of a search in an entity, if there is something to look for and a field to look
in. -/
def searchGroup (m : Metadata) (term : String) : Except QueryError (Option Predicate) :=
  match Text.nonBlank? term with
  | none => .ok none
  | some needle => (Builder.searchMatches m needle).map Predicate.any?

theorem isProper_of_lower {c : Clause} {p : Predicate} (h : m.lower c = .ok p) : p.IsProper := by
  rw [lower] at h
  split at h
  case isTrue =>
    obtain ⟨field, -, hp⟩ := bind_eq_ok_iff.1 h
    exact Clause.isProper_of_lower hp
  case isFalse => cases h

theorem searchGroup_eq_ok_iff {term : String} {p : Predicate} :
    m.searchGroup term = .ok (some p) ↔ ∃ needle fields, Text.nonBlank? term = some needle ∧
      List.Forall₂ (fun path field => m.resolve path = .ok field) m.searchFields fields ∧
      Predicate.any? (fields.map (.containsText · needle)) = some p := by
  rw [searchGroup]
  cases Text.nonBlank? term with
  | none => simp
  | some needle =>
    dsimp only
    rw [map_eq_ok_iff]
    simp only [Builder.searchMatches_eq_ok_iff]
    constructor
    · rintro ⟨_, ⟨fields, hfields, rfl⟩, hany⟩
      exact ⟨needle, fields, rfl, hfields, hany⟩
    · rintro ⟨_, fields, ⟨⟩, hfields, hany⟩
      exact ⟨_, ⟨fields, hfields, rfl⟩, hany⟩

theorem isProper_of_searchGroup {term : String} {p : Predicate}
    (h : m.searchGroup term = .ok (some p)) : p.IsProper := by
  obtain ⟨needle, fields, -, -, hany⟩ := searchGroup_eq_ok_iff.1 h
  refine Predicate.isProper_of_any? (fun q hq => ?_) hany
  obtain ⟨field, -, rfl⟩ := List.mem_map.1 hq
  trivial

theorem forall₂_resolve_of_searchGroup {term : String} {p : Predicate}
    (h : m.searchGroup term = .ok (some p)) :
    List.Forall₂ (fun path field => m.resolve path = .ok field) m.searchFields p.fields := by
  obtain ⟨needle, fields, -, hfields, hany⟩ := searchGroup_eq_ok_iff.1 h
  have hgroup := Predicate.flatMap_fields_any? (fields.map (Predicate.containsText · needle))
  rw [hany, Option.toList_some, List.flatMap_singleton, List.flatMap_map] at hgroup
  rw [hgroup.trans (List.flatMap_singleton' fields)]
  exact hfields

end Metadata

namespace Builder

/-- What a call adds to a builder. -/
structure Addition where
  /-- The predicate of a filter. -/
  filter : Option Predicate := none
  /-- The predicate of a search, in place of that of an earlier one. -/
  search : Option Predicate := none

/-- The collections that an addition looks at, repetitions included. -/
def Addition.collections (a : Addition) : List String :=
  (a.filter.toList ++ a.search.toList).flatMap Predicate.collections

/-- The builder with an addition. -/
def add (b : Builder) (a : Addition) : Builder where
  filters := b.filters ++ a.filter.toList
  search := a.search.or b.search
  joins := register b.joins a.collections

variable {b : Builder}

theorem add_empty (b : Builder) : b.add {} = b := by
  simp [add, Addition.collections, register]

theorem add_filter (b : Builder) (p : Predicate) : b.add { filter := some p } =
    { b with filters := b.filters ++ [p], joins := register b.joins p.collections } := by
  simp [add, Addition.collections]

theorem add_search (b : Builder) (p : Predicate) : b.add { search := some p } =
    { b with search := some p, joins := register b.joins p.collections } := by
  simp [add, Addition.collections]

theorem addFilter_eq_map (m : Metadata) (b : Builder) (c : Clause) :
    addFilter m b c = (m.lower c).map fun p => b.add { filter := some p } := by
  simp only [addFilter, Metadata.lower, add_filter]
  split
  case isFalse => rfl
  case isTrue =>
    cases m.resolve (m.resolveAlias c.field) with
    | error e => rfl
    | ok field =>
      rw [ok_bind, ok_bind]
      cases c.lower field <;> rfl

theorem addSearch_eq_map (m : Metadata) (b : Builder) (term : String) :
    addSearch m b term = (m.searchGroup term).map fun group => b.add { search := group } := by
  rw [addSearch, Metadata.searchGroup]
  cases Text.nonBlank? term with
  | none =>
    dsimp only
    rw [Except.map, add_empty]
  | some needle =>
    dsimp only
    cases searchMatches m needle with
    | error e => rfl
    | ok ps =>
      rw [ok_bind, Except.map, Except.map]
      cases Predicate.any? ps with
      | none => rw [add_empty]; rfl
      | some group => rw [add_search]; rfl

namespace Call

/-- What a call adds, to whatever builder, if it succeeds. -/
def addition (m : Metadata) : Call → Except QueryError Addition
  | filterRaw raw => do
    let c ← Clause.parse raw
    let p ← m.lower c
    return { filter := some p }
  | filter c => do
    let p ← m.lower c
    return { filter := some p }
  | search term => do
    let group ← m.searchGroup term
    return { search := group }

theorem step_eq_map (m : Metadata) (b : Builder) (call : Call) :
    call.step m b = (call.addition m).map b.add := by
  cases call with
  | filterRaw raw =>
    rw [step, addition, addRaw]
    cases Clause.parse raw with
    | error e => rfl
    | ok c =>
      rw [ok_bind, ok_bind, addFilter_eq_map]
      cases m.lower c <;> rfl
  | filter c =>
    rw [step, addition, addFilter_eq_map]
    cases m.lower c <;> rfl
  | search term =>
    rw [step, addition, addSearch_eq_map]
    cases m.searchGroup term <;> rfl

/-- **What a call adds does not depend on the builder**, and a call that fails adds nothing. -/
theorem run_eq (m : Metadata) (b : Builder) (call : Call) :
    call.run m b =
      match call.addition m with
      | .ok a => (.ok (), b.add a)
      | .error e => (.error e, b) := by
  rw [run_eq_settle, step_eq_map]
  cases call.addition m <;> rfl

end Call

/-! ### Whole runs -/

/-- All that some additions, one after the other, make of an empty builder. -/
def total (as : List Addition) : Builder where
  filters := as.filterMap Addition.filter
  search := (as.filterMap Addition.search).getLast?
  joins := register [] (as.flatMap Addition.collections)

theorem total_concat (as : List Addition) (a : Addition) :
    total (as ++ [a]) = (total as).add a := by
  have hsearch : ((as ++ [a]).filterMap Addition.search).getLast? =
      a.search.or (as.filterMap Addition.search).getLast? := by
    cases h : a.search <;> simp [h]
  have hfilters : (as ++ [a]).filterMap Addition.filter =
      as.filterMap Addition.filter ++ a.filter.toList := by
    cases h : a.filter <;> simp [h]
  rw [total, hsearch, hfilters, List.flatMap_append, register_append, List.flatMap_singleton]
  rfl

/-- What those of the calls that succeed add, in their order. -/
def additions (m : Metadata) (calls : List Call) : List Addition :=
  calls.filterMap fun call => (call.addition m).toOption

theorem after_concat (m : Metadata) (calls : List Call) (call : Call) :
    after m (calls ++ [call]) = (call.run m (after m calls)).2 := by
  rw [after, List.foldl_append]
  rfl

theorem addition_cases {calls : List Call} {a : Addition} (h : a ∈ additions m calls) :
    (∃ c p, m.lower c = .ok p ∧ a = { filter := some p }) ∨
      ∃ term group, m.searchGroup term = .ok group ∧ a = { search := group } := by
  obtain ⟨call, -, hcall⟩ := List.mem_filterMap.1 h
  have hcall : call.addition m = .ok a := by
    cases hx : call.addition m with
    | error e => rw [hx] at hcall; cases hcall
    | ok a' => rw [hx] at hcall; cases hcall; rfl
  cases call with
  | filterRaw raw =>
    obtain ⟨c, -, hlower⟩ := bind_eq_ok_iff.1 hcall
    obtain ⟨p, hp, h⟩ := bind_eq_ok_iff.1 hlower
    cases h
    exact .inl ⟨c, p, hp, rfl⟩
  | filter c =>
    obtain ⟨p, hp, h⟩ := bind_eq_ok_iff.1 hcall
    cases h
    exact .inl ⟨c, p, hp, rfl⟩
  | search term =>
    obtain ⟨group, hgroup, h⟩ := bind_eq_ok_iff.1 hcall
    cases h
    exact .inr ⟨term, group, hgroup, rfl⟩

/-- **What some calls add up to**: a call that fails has no part in it. -/
theorem after_eq (m : Metadata) (calls : List Call) :
    after m calls = total (additions m calls) := by
  -- The last call has no part in what was added before it: its addition goes to the end.
  induction calls using List.reverseRecOn with
  | nil => rfl
  | append_singleton calls call ih =>
    rw [after_concat, Call.run_eq, additions, List.filterMap_append, ih]
    cases h : call.addition m with
    | error e => simp [additions, h, Except.toOption]
    | ok a => simp [additions, h, Except.toOption, total_concat]

/-! ### Joins -/

/-- Joins are listed in the order of their first use. -/
theorem register_nil_eq_eraseDups (names : List String) : register [] names = names.eraseDups := by
  induction names using List.reverseRecOn with
  | nil => rfl
  | append_singleton names name ih =>
    rw [register_append, ih, List.eraseDups_append]
    by_cases h : name ∈ names
    · simp [register, List.removeAll, h]
    · simp [register, List.removeAll, h, List.eraseDups_cons]

theorem searchGroup_of_mem_additions {calls : List Call} {a : Addition} {p : Predicate}
    (ha : a ∈ additions m calls) (hp : a.search = some p) :
    ∃ term, m.searchGroup term = .ok (some p) := by
  obtain ⟨c, q, -, rfl⟩ | ⟨term, group, hgroup, rfl⟩ := addition_cases ha
  · cases hp
  · exact ⟨term, hp ▸ hgroup⟩

/-- **All searches look at the same collections.** -/
theorem collections_eq_of_mem_searches {calls : List Call} {p q : Predicate}
    (hp : p ∈ (additions m calls).filterMap Addition.search)
    (hq : q ∈ (additions m calls).filterMap Addition.search) : p.collections = q.collections := by
  have hfields {p : Predicate} (hp : p ∈ (additions m calls).filterMap Addition.search) :
      List.Forall₂ (fun path field => m.resolve path = .ok field) m.searchFields p.fields := by
    obtain ⟨a, ha, hsearch⟩ := List.mem_filterMap.1 hp
    obtain ⟨term, hterm⟩ := searchGroup_of_mem_additions ha hsearch
    exact Metadata.forall₂_resolve_of_searchGroup hterm
  rw [Predicate.collections, Predicate.collections,
    Metadata.rightUnique_resolve.forall₂ (hfields hp) (hfields hq)]

theorem mem_flatMap_collections {as : List Addition} {name : String} :
    name ∈ as.flatMap Addition.collections ↔
      name ∈ (as.filterMap Addition.filter).flatMap Predicate.collections ∨
        name ∈ (as.filterMap Addition.search).flatMap Predicate.collections := by
  simp only [Addition.collections, List.flatMap_append, List.mem_flatMap, List.mem_append,
    List.mem_filterMap, Option.mem_toList]
  constructor
  · rintro ⟨a, ha, ⟨p, hp, hname⟩ | ⟨p, hp, hname⟩⟩
    · exact .inl ⟨p, ⟨a, ha, hp⟩, hname⟩
    · exact .inr ⟨p, ⟨a, ha, hp⟩, hname⟩
  · rintro (⟨p, ⟨a, ha, hp⟩, hname⟩ | ⟨p, ⟨a, ha, hp⟩, hname⟩)
    · exact ⟨a, ha, .inl ⟨p, hp, hname⟩⟩
    · exact ⟨a, ha, .inr ⟨p, hp, hname⟩⟩

/-- Where all predicates look at the same collections, the last looks at as much as all. -/
theorem mem_flatMap_getLast? {ps : List Predicate} {name : String}
    (h : ∀ p ∈ ps, ∀ q ∈ ps, p.collections = q.collections) :
    name ∈ ps.getLast?.toList.flatMap Predicate.collections ↔
      name ∈ ps.flatMap Predicate.collections := by
  cases hlast : ps.getLast? with
  | none => rw [List.getLast?_eq_none_iff.1 hlast, Option.toList_none]
  | some last =>
    have hmem := List.mem_of_getLast? hlast
    rw [Option.toList_some, List.flatMap_singleton, List.mem_flatMap]
    constructor
    · exact fun hname => ⟨last, hmem, hname⟩
    · rintro ⟨p, hp, hname⟩
      exact h p hp last hmem ▸ hname

/-- **What is joined is what the condition looks at**, even if the search that it was joined for was
replaced. -/
theorem mem_joins_after {calls : List Call} {name : String} :
    name ∈ (after m calls).joins ↔
      name ∈ (after m calls).predicate?.toList.flatMap Predicate.collections := by
  -- Searches that were replaced had the same collections joined as the last.
  have hsame : ∀ p ∈ (additions m calls).filterMap Addition.search,
      ∀ q ∈ (additions m calls).filterMap Addition.search, p.collections = q.collections :=
    fun p hp q hq => collections_eq_of_mem_searches hp hq
  rw [after_eq, predicate?, Predicate.flatMap_collections, Predicate.flatMap_fields_all?,
    ← Predicate.flatMap_collections, total, List.flatMap_append, List.mem_append, mem_register,
    mem_flatMap_collections, mem_flatMap_getLast? hsame]
  simp only [List.not_mem_nil, false_or]

/-! ### Values and groups -/

theorem isProper_of_mem_filters {calls : List Call} {p : Predicate}
    (hp : p ∈ (additions m calls).filterMap Addition.filter) : p.IsProper := by
  obtain ⟨a, ha, hfilter⟩ := List.mem_filterMap.1 hp
  obtain ⟨c, q, hq, rfl⟩ | ⟨term, group, -, rfl⟩ := addition_cases ha
  · cases hfilter
    exact Metadata.isProper_of_lower hq
  · cases hfilter

theorem isProper_of_mem_searches {calls : List Call} {p : Predicate}
    (hp : p ∈ (additions m calls).filterMap Addition.search) : p.IsProper := by
  obtain ⟨a, ha, hsearch⟩ := List.mem_filterMap.1 hp
  obtain ⟨term, hterm⟩ := searchGroup_of_mem_additions ha hsearch
  exact Metadata.isProper_of_searchGroup hterm

/-- **The condition of a builder is proper**, whatever calls it has had. -/
theorem isProper_after {calls : List Call} {p : Predicate}
    (hp : (after m calls).predicate? = some p) : p.IsProper := by
  rw [after_eq] at hp
  refine Predicate.isProper_of_all? (fun q hq => ?_) hp
  obtain hq | hq := List.mem_append.1 hq
  · exact isProper_of_mem_filters hq
  · exact isProper_of_mem_searches (List.mem_of_getLast? (Option.mem_toList.1 hq))

/-! ### What a builder is -/

/-- A builder that has had some calls keeps the record of those that succeeded. -/
structure KeepsRecord (m : Metadata) (calls : List Call) (b : Builder) : Prop where
  /-- A further call comes to what it would come to on any builder. -/
  outcome : ∀ call : Call, (call.run m b).1 = (call.addition m).map fun _ => ()
  /-- If it fails, the filters, the search and the joins stay as they are. -/
  unchanged : ∀ (call : Call) (e : QueryError),
    (call.run m b).1 = .error e → (call.run m b).2 = b
  /-- The condition asks for all filters that were added, in their order, and then for the last
  search that was added. -/
  predicate : b.predicate? = Predicate.all? ((additions m calls).filterMap Addition.filter ++
    ((additions m calls).filterMap Addition.search).getLast?.toList)
  /-- No collection is joined twice. -/
  nodup : b.joins.Nodup
  /-- The collections are joined in the order of their first use. -/
  joins : b.joins = ((additions m calls).flatMap Addition.collections).eraseDups
  /-- Those that the condition looks at are joined, and no others. -/
  mem_joins : ∀ name, name ∈ b.joins ↔
    name ∈ b.predicate?.toList.flatMap Predicate.collections
  /-- Groups have at least two members, and lists at least one value. -/
  isProper : ∀ p, b.predicate? = some p → p.IsProper

/-- **A builder keeps the record of its calls**, in whatever order they come and whether they
succeed or fail. -/
theorem keepsRecord_after (m : Metadata) (calls : List Call) :
    (after m calls).KeepsRecord m calls where
  outcome call := by
    rw [Call.run_eq]
    cases call.addition m <;> rfl
  unchanged call e h := by
    rw [Call.run_eq] at h ⊢
    cases hcall : call.addition m with
    | error e => rfl
    | ok a => rw [hcall] at h; cases h
  predicate := by
    rw [after_eq]
    rfl
  nodup := by
    rw [after_eq]
    exact nodup_register List.nodup_nil _
  joins := by
    rw [after_eq]
    exact register_nil_eq_eraseDups _
  mem_joins _ := mem_joins_after
  isProper _ := isProper_after

end Builder

namespace Plan

variable {r : Parameters}

/-- The calls for a request: its filters in their order, then its search. -/
def calls (r : Parameters) : List Builder.Call :=
  r.filters.map .filterRaw ++ r.search.toList.map .search

theorem builder_eq_foldlM (m : Metadata) (r : Parameters) :
    builder m r = (calls r).foldlM (Builder.Call.step m) {} := by
  rw [builder, calls, List.foldlM_append, List.foldlM_map]
  cases r.search with
  | none => rfl
  | some term =>
    simp only [Option.toList_some, List.map_cons, List.map_nil, List.foldlM_cons, List.foldlM_nil,
      bind_pure]
    rfl

/-- **A plan is made of what the calls for its request come to**, none of which fails. -/
theorem eq_after_of_builder {b : Builder} (h : builder m r = .ok b) :
    b = Builder.after m (calls r) := by
  have hfold (calls : List Builder.Call) (b₀ : Builder)
      (h : calls.foldlM (Builder.Call.step m) b₀ = .ok b) :
      b = calls.foldl (fun b call => (call.run m b).2) b₀ := by
    induction calls generalizing b₀ with
    | nil => cases h; rfl
    | cons call calls ih =>
      rw [List.foldlM_cons, bind_eq_ok_iff] at h
      obtain ⟨b₁, hstep, hrest⟩ := h
      rw [List.foldl_cons, Builder.Call.run_eq_settle, hstep]
      exact ih b₁ hrest
  exact hfold _ _ (builder_eq_foldlM m r ▸ h)

end Plan

end ListQuery
