import ListQuery.Proofs.Plan.Typing
import ListQuery.Proofs.Store.Integers
import ListQuery.Proofs.Store.Membership
import ListQuery.Proofs.Store.Ranges
import ListQuery.Proofs.Time.Timestamp

/-!
# Filters compare instants

A filter on a field of timestamps compares instants, whatever the offsets with which they are
written.  Timestamps, of the request or of a row, can be written in another way, and nothing changes
as long as the instants stay.

* `Instant.Before`, `Row.compareTo?_timestamp` : the order of instants, by which stored timestamps
  are compared;
* `Timestamp.Respells` : two texts give one instant;
* `Metadata.FilterRespells`, `Metadata.lowers_iff_of_filterRespells` : filters with other texts for
  their instants ask the same;
* `Metadata.RowRespells`, `Plan.selects_eq_of_rowRespells` : rows with other texts for their
  instants are selected alike;
* `Plan.comparesInstants` : all of this.
-/

namespace ListQuery

/-! ### The order of instants -/

namespace Instant

/-- One instant is before another: its second is, or the second is the same, and the nanoseconds
beyond it are fewer. -/
def Before (a b : Instant) : Prop :=
  a.second < b.second ∨ a.second = b.second ∧ a.nanosecond < b.nanosecond

theorem compare_eq_lt_iff {a b : Instant} : a.compare b = .lt ↔ a.Before b := by
  rw [compare, Ordering.then_eq_lt, compare_lt_iff_lt, compare_eq_iff_eq, compare_lt_iff_lt, Before]

theorem compare_eq_eq_iff {a b : Instant} : a.compare b = .eq ↔ a = b := by
  obtain ⟨second, nanosecond⟩ := a
  obtain ⟨second', nanosecond'⟩ := b
  rw [compare, Ordering.then_eq_eq, compare_eq_iff_eq, compare_eq_iff_eq, Instant.mk.injEq]

theorem compare_eq_gt_iff {a b : Instant} : a.compare b = .gt ↔ b.Before a := by
  rw [compare, Ordering.then_eq_gt, compare_gt_iff_gt, compare_eq_iff_eq, compare_gt_iff_gt, Before,
    eq_comm]

end Instant

/-! ### Texts of instants -/

/-- Both texts are timestamps, and they give the same instant. -/
def Timestamp.Respells (s s' : String) : Prop :=
  ∃ ts ts' : Timestamp, ts.Spells s.toList ∧ ts'.Spells s'.toList ∧ ts.instant = ts'.instant

theorem Timestamp.Respells.symm {s s' : String} (h : Respells s s') : Respells s' s := by
  obtain ⟨ts, ts', hs, hs', hinstant⟩ := h
  exact ⟨ts', ts, hs', hs, hinstant.symm⟩

theorem Timestamp.respells_iff {s s' : String} :
    Respells s s' ↔ ∃ t, Instant.read? s = some t ∧ Instant.read? s' = some t := by
  simp only [Instant.read?_eq_some_iff]
  constructor
  · rintro ⟨ts, ts', hs, hs', hinstant⟩
    exact ⟨ts.instant, ⟨ts, hs, rfl⟩, ts', hs', hinstant.symm⟩
  · rintro ⟨_, ⟨ts, hs, rfl⟩, ts', hs', hinstant⟩
    exact ⟨ts, ts', hs, hs', hinstant.symm⟩

theorem Value.read_timestamp_eq_ok_iff {raw : String} {x : Value} :
    read .timestamp raw = .ok x ↔
      ∃ ts : Timestamp, ts.Spells raw.toList ∧ x = .timestamp ts.instant := by
  rw [read, elim_eq_ok_iff]
  simp only [Instant.read?_eq_some_iff]
  constructor
  · rintro ⟨_, ⟨ts, hs, rfl⟩, h⟩
    cases h
    exact ⟨ts, hs, rfl⟩
  · rintro ⟨ts, hs, rfl⟩
    exact ⟨_, ⟨ts, hs, rfl⟩, rfl⟩

theorem Value.exists_read_of_respells {raw raw' : String} (h : Timestamp.Respells raw raw') :
    ∃ v, read .timestamp raw = .ok v ∧ read .timestamp raw' = .ok v := by
  obtain ⟨ts, ts', hs, hs', hinstant⟩ := h
  exact ⟨_, read_timestamp_eq_ok_iff.2 ⟨ts, hs, rfl⟩,
    read_timestamp_eq_ok_iff.2 ⟨ts', hs', congrArg _ hinstant⟩⟩

namespace Row

/-- **A stored timestamp is compared as the instant that it gives.** -/
theorem compareTo?_timestamp {s : String} {ts : Timestamp} (hs : ts.Spells s.toList) (t : Instant) :
    compareTo? (.string s) (.timestamp t) = some (ts.instant.compare t) := by
  have hread : Instant.read? s = some ts.instant := Instant.read?_eq_some_iff.2 ⟨ts, hs, rfl⟩
  rw [compareTo?, hread, Option.map_some]

theorem compareTo?_timestamp_eq_none {v : Json} {t : Instant}
    (h : ¬∃ (s : String) (ts : Timestamp), v = .string s ∧ ts.Spells s.toList) :
    compareTo? v (.timestamp t) = none := by
  cases v with
  | string s =>
    rw [compareTo?, Option.map_eq_none_iff, Option.eq_none_iff_forall_ne_some]
    intro u hu
    obtain ⟨ts, hs, -⟩ := Instant.read?_eq_some_iff.1 hu
    exact h ⟨s, ts, rfl, hs⟩
  | _ => rfl

end Row

/-! ### Filters with other texts for their instants -/

theorem mapM_eq_of_forall₂ {ε α β : Type} {f : α → Except ε β} {items items' : List α}
    (h : List.Forall₂ (fun a a' => f a = f a') items items') : items.mapM f = items'.mapM f := by
  induction h with
  | nil => rfl
  | cons ha _ ih => rw [List.mapM_cons, List.mapM_cons, ha, ih]

namespace Clause

variable {field : Field} {name value value' : String} {operation : Operation} {p : Predicate}

/-- **A clause on a field of timestamps asks for instants**, however they are written. -/
theorem lower_of_respells (htype : field.type = .timestamp)
    (hvalues : List.Forall₂ Timestamp.Respells (rawValues ⟨name, operation, value⟩)
      (rawValues ⟨name, operation, value'⟩))
    (h : lower ⟨name, operation, value⟩ field = .ok p) :
    lower ⟨name, operation, value'⟩ field = .ok p := by
  have hcast {raw raw' : String} (hraw : Timestamp.Respells raw raw') :
      Value.cast name field.type raw = Value.cast name field.type raw' := by
    obtain ⟨v, hv, hv'⟩ := Value.exists_read_of_respells hraw
    rw [htype, Value.cast_eq_ok_iff.2 hv, Value.cast_eq_ok_iff.2 hv']
  -- A single value, unless the operation takes a list.
  have hone (hlist : operation.takesList = false) :
      castValue ⟨name, operation, value⟩ field = castValue ⟨name, operation, value'⟩ field := by
    rw [rawValues, rawValues, hlist, if_neg Bool.false_ne_true,
      if_neg Bool.false_ne_true] at hvalues
    exact hcast (List.forall₂_cons.1 hvalues).1
  have hequals (negated : Bool) (hlist : operation.takesList = false) :
      lowerEquals ⟨name, operation, value⟩ field negated =
        lowerEquals ⟨name, operation, value'⟩ field negated := by
    rw [lowerEquals, lowerEquals, hone hlist]
  -- No part of a text is looked for in an instant.
  have hmatches : lowerMatches ⟨name, operation, value⟩ field ≠ .ok p := by
    intro hp
    rw [lowerMatches, htype, if_neg (by decide)] at hp
    cases hp
  cases operation with
  | compare comparison =>
    simp only [lower, hone rfl] at h ⊢
    exact h
  | equals => exact (hequals false rfl).symm.trans h
  | notEquals => exact (hequals true rfl).symm.trans h
  | contains =>
    simp only [lower] at h ⊢
    split at h
    case isTrue hcollection =>
      rw [if_pos hcollection, ← hequals false rfl, h]
    case isFalse => exact absurd h hmatches
  | like => exact absurd h hmatches
  | oneOf =>
    have hlist : List.Forall₂ Timestamp.Respells (listValues ⟨name, .oneOf, value⟩)
      (listValues ⟨name, .oneOf, value'⟩) := hvalues
    have hempty : (listValues ⟨name, .oneOf, value'⟩).isEmpty =
        (listValues ⟨name, .oneOf, value⟩).isEmpty := by
      rw [Bool.eq_iff_iff, List.isEmpty_iff_length_eq_zero, List.isEmpty_iff_length_eq_zero,
        hlist.length_eq]
    simp only [lower] at h ⊢
    rw [hempty, ← mapM_eq_of_forall₂ (hlist.imp fun _ _ => hcast)]
    split at h
    case isTrue => cases h
    case isFalse hne => rwa [if_neg hne]

end Clause

namespace Metadata

variable {m : Metadata} {raw raw' : String} {p : Predicate}

/-- A filter is left as it is, or it asks a field of timestamps for the same instants with other
texts for them. -/
inductive FilterRespells (m : Metadata) : String → String → Prop
  | same (raw : String) : FilterRespells m raw raw
  | times {raw raw' name token value value' : String} {operation : Operation} {field : Field}
      (hraw : Clause.IsCut raw name token value) (hraw' : Clause.IsCut raw' name token value')
      (htoken : Operation.ofToken? token = some operation)
      (hfield : m.Filters (Text.trim name) field) (htype : field.type = .timestamp)
      (hvalues : List.Forall₂ Timestamp.Respells
        (Clause.rawValues ⟨Text.trim name, operation, value⟩)
        (Clause.rawValues ⟨Text.trim name, operation, value'⟩)) : FilterRespells m raw raw'

theorem FilterRespells.symm (h : m.FilterRespells raw raw') : m.FilterRespells raw' raw := by
  cases h with
  | same => exact .same _
  | times hraw hraw' htoken hfield htype hvalues =>
    exact .times hraw' hraw htoken hfield htype
      (hvalues.flip.imp fun _ _ => Timestamp.Respells.symm)

theorem Lowers.of_filterRespells (h : m.Lowers raw p) (hraw : m.FilterRespells raw raw') :
    m.Lowers raw' p := by
  cases hraw with
  | same => exact h
  | times hraw hraw' htoken hfield htype hvalues =>
    rw [lowers_iff_of_isCut hraw htoken] at h
    obtain ⟨field', hfield', hp⟩ := h
    cases hfield.unique hfield'
    exact (lowers_iff_of_isCut hraw' htoken).2
      ⟨_, hfield, Clause.lower_of_respells htype hvalues hp⟩

/-- **Filters with other texts for their instants ask the same.** -/
theorem lowers_iff_of_filterRespells (h : m.FilterRespells raw raw') (p : Predicate) :
    m.Lowers raw p ↔ m.Lowers raw' p :=
  ⟨fun hp => hp.of_filterRespells h, fun hp => hp.of_filterRespells h.symm⟩

end Metadata

theorem Plan.build_iff_of_filterRespells {m : Metadata} {r : Parameters} {filters : List String}
    (h : List.Forall₂ m.FilterRespells r.filters filters) (plan : Plan) :
    build m r = .ok plan ↔ build m (r.withFilters filters) = .ok plan := by
  have hfilters (ps : List Predicate) :
      List.Forall₂ m.Lowers r.filters ps ↔ List.Forall₂ m.Lowers filters ps := by
    generalize r.filters = raws at h
    induction h generalizing ps with
    | nil => rfl
    | cons hraw _ ih =>
      simp only [List.forall₂_cons_left_iff, ih, Metadata.lowers_iff_of_filterRespells hraw]
  simp only [build_eq_ok_iff, builder_eq_ok_iff, Parameters.withFilters, hfilters]
  rfl

/-! ### Rows with other texts for their instants -/

/-- A value of the field is left as it is; or the field is one of timestamps whose texts are not
searched, and the value gives the same instant with another text. -/
def Field.SameValue (searched : List String) (field : Field) (v v' : Option Json) : Prop :=
  v = v' ∨ field.type = .timestamp ∧ field.path ∉ searched ∧
    ∃ s s', v = some (.string s) ∧ v' = some (.string s') ∧ Timestamp.Respells s s'

theorem Field.SameValue.symm {searched : List String} {field : Field} {v v' : Option Json}
    (h : field.SameValue searched v v') : field.SameValue searched v' v := by
  obtain rfl | ⟨htype, hpath, s, s', hs, hs', hrespells⟩ := h
  · exact .inl rfl
  · exact .inr ⟨htype, hpath, s', s, hs', hs, hrespells.symm⟩

/-- Two rows have the same values in all fields that the entity declares, with other texts for
instants, those in fields whose texts are searched excepted.  The elements of collections are
compared one by one. -/
structure Metadata.RowRespells (m : Metadata) (searched : List String) (row row' : Json) :
    Prop where
  /-- The fields of the base table have the same values. -/
  base (field : Field) : m.Declares field → field.collection = none →
    field.SameValue searched (Row.base? row field) (Row.base? row' field)
  /-- So have those of the elements. -/
  elements : ∀ r ∈ m.collections, List.Forall₂ (fun e e' => ∀ field : Field, m.Declares field →
    field.collection = some r.name →
      field.SameValue searched (Row.element? e field) (Row.element? e' field))
    (Row.elements row r.name) (Row.elements row' r.name)

namespace Metadata.RowRespells

variable {m : Metadata} {searched : List String} {row row' : Json}

theorem symm (h : m.RowRespells searched row row') : m.RowRespells searched row' row where
  base field hfield hbase := (h.base field hfield hbase).symm
  elements r hr := (h.elements r hr).flip.imp fun _ _ he field hfield hname =>
    (he field hfield hname).symm

/-- What one row can be joined with under a name has a counterpart in the other. -/
theorem exists_partner (h : m.RowRespells searched row row') {r : Relation} (hr : r ∈ m.collections)
    {e : Option Json} (he : e ∈ Tuple.partners row r.name) :
    ∃ e' ∈ Tuple.partners row' r.name, ∀ field : Field, m.Declares field →
      field.collection = some r.name → field.SameValue searched (e.bind (Row.element? · field))
        (e'.bind (Row.element? · field)) := by
  have helements := h.elements r hr
  rw [Tuple.partners] at he
  cases hitems : Row.elements row r.name with
  | nil =>
    rw [hitems, List.forall₂_nil_left_iff] at helements
    rw [hitems, List.mem_singleton] at he
    subst he
    refine ⟨none, ?_, fun _ _ _ => .inl rfl⟩
    rw [Tuple.partners, helements]
    exact List.mem_singleton.2 rfl
  | cons item items =>
    rw [hitems] at he
    obtain ⟨e, he, rfl⟩ := List.mem_map.1 he
    have hmem : e ∈ Row.elements row r.name := by rwa [hitems]
    obtain ⟨e', he', hsame⟩ := exists_of_mem_right helements.flip hmem
    exact ⟨some e', Tuple.some_mem_partners_iff.2 he', hsame⟩

/-- **A choice of elements for one row has a counterpart for the other**, with the same values. -/
theorem exists_binding (h : m.RowRespells searched row row') {joins : List Relation}
    (hjoins : ∀ r ∈ joins, r ∈ m.collections) {b : Binding} (hb : b ∈ Row.bindings row joins) :
    ∃ b' ∈ Row.bindings row' joins, ∀ field, m.Declares field →
      field.SameValue searched (Row.value? row b field) (Row.value? row' b' field) := by
  have hchoice := Row.isChoice_iff.2 ⟨b, hb, fun _ => rfl⟩
  have hcounterpart (name : String) : ∃ e' : Option Json,
      (if name ∈ joins.map Relation.name then e' ∈ Tuple.partners row' name else e' = none) ∧
        ∀ field : Field, m.Declares field → field.collection = some name →
          field.SameValue searched ((Ordered.find? name b).bind (Row.element? · field))
            (e'.bind (Row.element? · field)) := by
    have hname := hchoice name
    by_cases hmem : name ∈ joins.map Relation.name
    · rw [if_pos hmem] at hname
      obtain ⟨r, hr, rfl⟩ := List.mem_map.1 hmem
      obtain ⟨e', he', hsame⟩ := h.exists_partner (hjoins r hr) hname
      exact ⟨e', by rwa [if_pos hmem], hsame⟩
    · rw [if_neg hmem] at hname
      exact ⟨none, by rw [if_neg hmem], fun _ _ _ => .inl (congrArg (Option.bind · _) hname)⟩
  choose choice' hchoice' hsame using hcounterpart
  obtain ⟨b', hb', hfind⟩ := Row.isChoice_iff.1 (show Row.IsChoice row' _ choice' from hchoice')
  refine ⟨b', hb', fun field hfield => ?_⟩
  cases hcollection : field.collection with
  | none =>
    rw [Row.value?, Row.value?, hcollection]
    exact h.base field hfield hcollection
  | some name =>
    rw [Row.value?, Row.value?, hcollection]
    dsimp only
    rw [hfind]
    exact hsame name field hfield hcollection

end Metadata.RowRespells

/-- A value of the type of the field does not tell texts of an instant apart. -/
theorem Row.compareField?_eq_of_sameValue {searched : List String} {row row' : Json}
    {b b' : Binding} {field : Field} {v : Value} (hv : v.HasType field.type)
    (h : field.SameValue searched (value? row b field) (value? row' b' field)) :
    compareField? row b field v = compareField? row' b' field v := by
  rw [compareField?, compareField?]
  obtain heq | ⟨htype, -, s, s', hs, hs', hrespells⟩ := h
  · rw [heq]
  · rw [htype] at hv
    obtain ⟨t, hread, hread'⟩ := Timestamp.respells_iff.1 hrespells
    cases hv
    rw [hs, hs', Option.bind_some, Option.bind_some, compareTo?, compareTo?, hread, hread']

/-- **A condition of a filter does not tell texts of an instant apart.** -/
theorem Predicate.holds_eq_of_sameValue {searched : List String} {row row' : Json} {b b' : Binding}
    {p : Predicate} (hp : p.WellTyped (· = .text))
    (h : ∀ field ∈ p.fields,
      field.SameValue searched (Row.value? row b field) (Row.value? row' b' field)) :
    p.holds row b = p.holds row' b' := by
  have hfields {ps : List Predicate} {p : Predicate} (hp : p ∈ ps) {field : Field}
      (hfield : field ∈ p.fields) : field ∈ fieldsOf ps := by
    rw [fieldsOf_eq_flatMap]
    exact List.mem_flatMap.2 ⟨p, hp, hfield⟩
  induction hp with
  | equals hv | compare _ hv =>
    rw [holds, holds, Row.compareField?_eq_of_sameValue hv (h _ (List.mem_singleton.2 rfl))]
  | containsText htext =>
    obtain heq | ⟨htype, -⟩ := h _ (List.mem_singleton.2 rfl)
    · rw [holds, holds, heq]
    · cases htext.symm.trans htype
  | @anyOf field vs hvs =>
    have hcompare : ∀ v ∈ vs, Row.compareField? row b field v = Row.compareField? row' b' field v :=
      fun v hv => Row.compareField?_eq_of_sameValue (hvs v hv) (h _ (List.mem_singleton.2 rfl))
    rw [holds, holds, Bool.eq_iff_iff]
    simp only [List.any_eq_true]
    exact exists_congr fun v => and_congr_right fun hv => by rw [hcompare v hv]
  | all _ ih =>
    rw [holds, holds, Bool.eq_iff_iff, allHold_iff, allHold_iff]
    exact forall₂_congr fun p hp => by rw [ih p hp fun field hfield => h field (hfields hp hfield)]
  | any _ ih =>
    rw [holds, holds, Bool.eq_iff_iff, anyHolds_iff, anyHolds_iff]
    exact exists_congr fun p => and_congr_right fun hp => by
      rw [ih p hp fun field hfield => h field (hfields hp hfield)]

namespace Sample

/-- The metadata of products for those who may see no more than when they were entered. -/
def times : Metadata :=
  { product with
    searchFields := []
    filterFields := ["created_at"]
    sortFields := []
    collections := [] }

/-- The row of a product that was entered then. -/
def entered (timestamp : String) : Json :=
  .object [("created_at", .string timestamp)]

end Sample

namespace Plan

variable {m : Metadata} {r : Parameters} {plan : Plan} {row row' : Json}

/-- The paths whose texts a request searches. -/
def searchedPaths (m : Metadata) (r : Parameters) : List String :=
  (r.search.bind Text.nonBlank?).elim [] fun _ => m.searchFields

theorem selects_of_rowRespells (h : build m r = .ok plan)
    (hrow : m.RowRespells (searchedPaths m r) row row') (hselects : plan.selects row = true) :
    plan.selects row' = true := by
  obtain ⟨filters, group, hfilters, hgroup, hpredicate, -⟩ := exists_parts h
  obtain ⟨b, hb, hholds⟩ := (selects_iff hpredicate).1 hselects
  obtain ⟨b', hb', hsame⟩ := hrow.exists_binding (fun _ => mem_collections_of_mem_joins h) hb
  refine (selects_iff hpredicate).2 ⟨b', hb', fun p hp => ?_⟩
  rw [← hholds p hp]
  obtain hp | hp := List.mem_append.1 hp
  · -- What a filter asks of instants does not depend on their texts.
    obtain ⟨raw, -, hraw⟩ := exists_of_mem_right hfilters hp
    obtain ⟨c, field, -, hfields, -, hlists⟩ := hraw.lists
    obtain ⟨_, -, -, _, -, hlower⟩ := hraw
    have hvalue : ∀ field ∈ p.fields, field.SameValue (searchedPaths m r)
        (Row.value? row b field) (Row.value? row' b' field) := by
      rw [hfields, List.forall_mem_singleton]
      exact hsame field (hlists.mono (by simp))
    exact (Predicate.holds_eq_of_sameValue (Clause.wellTyped_of_lower hlower) hvalue).symm
  · -- The search asks for texts, and those that it sees are the same.
    refine (Predicate.holds_congr p fun field hfield => ?_).symm
    have hlists := hgroup.lists (List.mem_flatMap.2 ⟨p, hp, hfield⟩)
    obtain heq | ⟨-, hpath, -⟩ := hsame field (hlists.mono (by simp))
    · exact heq
    · rw [Metadata.searches_iff] at hgroup
      rw [searchedPaths] at hpath
      split at hgroup
      case h_1 =>
        rw [hgroup] at hp
        cases hp
      case h_2 needle hneedle =>
        rw [hneedle] at hpath
        exact absurd hlists.1 hpath

/-- **Rows with other texts for their instants are selected alike.** -/
theorem selects_eq_of_rowRespells (h : build m r = .ok plan)
    (hrow : m.RowRespells (searchedPaths m r) row row') : plan.selects row = plan.selects row' := by
  rw [Bool.eq_iff_iff]
  exact ⟨selects_of_rowRespells h hrow, selects_of_rowRespells h hrow.symm⟩

/-- Filters on fields of timestamps compare instants. -/
structure ComparesInstants (m : Metadata) : Prop where
  /-- The seconds of an instant are told by a count of days, one by one from 1970-01-01. -/
  days : CivilDate.IsDayCount CivilDate.toDay
  /-- A filter takes the timestamps, each as its instant, and no other text. -/
  reads (raw : String) (x : Value) : Value.read .timestamp raw = .ok x ↔
    ∃ ts : Timestamp, ts.Spells raw.toList ∧ x = .timestamp ts.instant
  /-- A stored timestamp stands to an instant as its own instant does. -/
  compares {s : String} {ts : Timestamp} (hs : ts.Spells s.toList) (t : Instant) :
    ∃ o, Row.compareTo? (.string s) (.timestamp t) = some o ∧
      (o = .lt ↔ ts.instant.Before t) ∧ (o = .eq ↔ ts.instant = t) ∧
        (o = .gt ↔ t.Before ts.instant)
  /-- No other value stands to an instant in any way. -/
  incomparable {v : Json} (h : ¬∃ (s : String) (ts : Timestamp), v = .string s ∧ ts.Spells s.toList)
    (t : Instant) : Row.compareTo? v (.timestamp t) = none
  /-- Two texts of an instant give one value. -/
  values {raw raw' : String} (h : Timestamp.Respells raw raw') (name : String) :
    ∃ x, Value.cast name .timestamp raw = .ok x ∧ Value.cast name .timestamp raw' = .ok x
  /-- With other texts for the instants of its filters, a request has the same plan. -/
  filters {r : Parameters} {raws : List String} (h : List.Forall₂ m.FilterRespells r.filters raws)
    (plan : Plan) : build m r = .ok plan ↔ build m (r.withFilters raws) = .ok plan
  /-- With other texts for its instants, a row is selected or not as before. -/
  rows {r : Parameters} {plan : Plan} (h : build m r = .ok plan) {row row' : Json}
    (hrow : m.RowRespells (searchedPaths m r) row row') : plan.selects row = plan.selects row'

/-- **Filters on fields of timestamps compare instants**, whatever the offsets with which these are
written. -/
theorem comparesInstants (m : Metadata) : ComparesInstants m where
  days := CivilDate.isDayCount_toDay
  reads _ _ := Value.read_timestamp_eq_ok_iff
  compares hs t := ⟨_, Row.compareTo?_timestamp hs t, Instant.compare_eq_lt_iff,
    Instant.compare_eq_eq_iff, Instant.compare_eq_gt_iff⟩
  incomparable h _ := Row.compareTo?_timestamp_eq_none h
  values h _ := by
    obtain ⟨x, hx, hx'⟩ := Value.exists_read_of_respells h
    exact ⟨x, Value.cast_eq_ok_iff.2 hx, Value.cast_eq_ok_iff.2 hx'⟩
  filters := build_iff_of_filterRespells
  rows h _ _ hrow := selects_eq_of_rowRespells h hrow

/-- Around the end of a leap day: half past ten in the evening in London is half past midnight of
the next day, and of the next month, two hours to the east. -/
theorem comparesInstants_times :
    ∃ plan, build Sample.times
        (Parameters.default.withFilters ["created_at:gte:2024-03-01T00:30:00+02:00"]) = .ok plan ∧
      build Sample.times
        (Parameters.default.withFilters ["created_at:gte:2024-02-29T22:30:00Z"]) = .ok plan ∧
      plan.selects (Sample.entered "2024-02-29T22:30:00z") =
        plan.selects (Sample.entered "2024-03-01 01:30:00.000+03:00") := by
  have htimes := comparesInstants Sample.times
  have hplan : ∃ plan, build Sample.times
      (Parameters.default.withFilters ["created_at:gte:2024-03-01T00:30:00+02:00"]) = .ok plan :=
    ⟨_, rfl⟩
  obtain ⟨plan, h⟩ := hplan
  have hcut : Clause.IsCut "created_at:gte:2024-03-01T00:30:00+02:00" "created_at" "gte"
      "2024-03-01T00:30:00+02:00" := ⟨by decide, by decide, by decide⟩
  have hcut' : Clause.IsCut "created_at:gte:2024-02-29T22:30:00Z" "created_at" "gte"
      "2024-02-29T22:30:00Z" := ⟨by decide, by decide, by decide⟩
  have htoken : Operation.ofToken? "gte" = some (.compare .greaterOrEqual) := by decide
  have hfield : Sample.times.Filters (Text.trim "created_at") Sample.createdAt :=
    ⟨by decide, by decide, rfl⟩
  have hvalue : Timestamp.Respells "2024-03-01T00:30:00+02:00" "2024-02-29T22:30:00Z" :=
    Timestamp.respells_iff.2 ⟨⟨1709245800, 0⟩, by decide, by decide⟩
  have hstored : Timestamp.Respells "2024-02-29T22:30:00z" "2024-03-01 01:30:00.000+03:00" :=
    Timestamp.respells_iff.2 ⟨⟨1709245800, 0⟩, by decide, by decide⟩
  have hfilter : Sample.times.FilterRespells "created_at:gte:2024-03-01T00:30:00+02:00"
      "created_at:gte:2024-02-29T22:30:00Z" :=
    .times hcut hcut' htoken hfield rfl (.cons hvalue .nil)
  have hrow : Sample.times.RowRespells [] (Sample.entered "2024-02-29T22:30:00z")
      (Sample.entered "2024-03-01 01:30:00.000+03:00") := by
    refine ⟨fun field hdeclared _ => ?_, nofun⟩
    obtain ⟨hpath, hresolve⟩ := hdeclared
    have hpath : field.path = "created_at" := List.mem_singleton.1 hpath
    rw [hpath] at hresolve
    cases hfield.resolves.symm.trans hresolve
    exact .inr ⟨rfl, List.not_mem_nil, _, _, rfl, rfl, hstored⟩
  have hsame (raws raws' : List String) : (Parameters.default.withFilters raws).withFilters raws' =
    Parameters.default.withFilters raws' := rfl
  have hplan := (htimes.filters (.cons hfilter .nil) plan).1 h
  rw [hsame] at hplan
  exact ⟨plan, h, hplan, htimes.rows h hrow⟩

end Plan

end ListQuery
