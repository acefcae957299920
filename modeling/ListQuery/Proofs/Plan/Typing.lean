import ListQuery.Proofs.Engine.Failure
import ListQuery.Proofs.Plan.Requests

/-!
# Plans are well typed

What a plan asks of a field is something that the type of the field allows, so that no store can
meet a comparison without a meaning.

* `Value.HasType` : the values of a type, and `Value.hasType_of_read` : texts are read as these;
* `Predicate.WellTyped` : conditions whose parts go with the types of their fields;
* `Clause.wellTyped_of_lower` : so does the condition of a clause, whatever the operation;
* `Plan.WellTyped`, `Plan.wellTyped_of_build` : so does all that a plan asks;
* `Engine.asksWellTyped` : and so all that a store is asked.
-/

namespace ListQuery

/-! ### Values -/

theorem elim_eq_ok_iff {ε α β : Type} {x : Option α} {e : ε} {f : α → Except ε β} {b : β} :
    x.elim (.error e) f = .ok b ↔ ∃ a, x = some a ∧ f a = .ok b := by
  cases x <;> simp

namespace Value

/-- The values that belong to a type.  Binary fractions are finite. -/
inductive HasType : FieldType → Value → Prop
  | text (s : String) : HasType .text (.text s)
  | boolean (b : Bool) : HasType .boolean (.boolean b)
  | integer {i : Int} (hleast : Integer.min64 ≤ i) (hgreatest : i ≤ Integer.max64) :
      HasType .integer (.integer i)
  | numeric (x : Binary64) : HasType .numeric (.numeric x)
  | uuid (u : Uuid) : HasType .uuid (.uuid u)
  | timestamp (t : Instant) : HasType .timestamp (.timestamp t)
  | enumeration {names : List String} {name : String} (hname : name ∈ names) :
      HasType (.enumeration names) (.enumeration name)

variable {type : FieldType} {raw : String} {v : Value}

/-- **A text is read as a value of the type** that was asked for. -/
theorem hasType_of_read (h : read type raw = .ok v) : v.HasType type := by
  cases type with
  | text =>
    cases h
    exact .text raw
  | boolean =>
    obtain ⟨b, -, h⟩ := elim_eq_ok_iff.1 h
    cases h
    exact .boolean b
  | integer =>
    obtain ⟨i, hi, h⟩ := elim_eq_ok_iff.1 h
    cases h
    obtain ⟨-, hrange⟩ := Option.filter_eq_some_iff.1 hi
    rw [Bool.and_eq_true, decide_eq_true_eq, decide_eq_true_eq] at hrange
    exact .integer hrange.1 hrange.2
  | numeric =>
    obtain ⟨x, -, h⟩ := elim_eq_ok_iff.1 h
    cases h
    exact .numeric x
  | uuid =>
    obtain ⟨u, -, h⟩ := elim_eq_ok_iff.1 h
    cases h
    exact .uuid u
  | timestamp =>
    obtain ⟨t, -, h⟩ := elim_eq_ok_iff.1 h
    cases h
    exact .timestamp t
  | enumeration names =>
    rw [read] at h
    split at h
    case isTrue hname =>
      cases h
      exact .enumeration (List.contains_iff_mem.1 hname)
    case isFalse => cases h

end Value

/-! ### Conditions -/

namespace Predicate

/-- What a condition asks of a field goes with the type of the field: the values belong to it, an
order is asked for where there is one, and a part of a text where the type is one of those to be
searched. -/
inductive WellTyped (searched : FieldType → Prop) : Predicate → Prop
  | equals {field : Field} {v : Value} {negated : Bool} (hvalue : v.HasType field.type) :
      WellTyped searched (.equals field v negated)
  | compare {field : Field} {comparison : Comparison} {v : Value}
      (htype : field.type = .integer ∨ field.type = .numeric ∨ field.type = .timestamp)
      (hvalue : v.HasType field.type) : WellTyped searched (.compare field comparison v)
  | containsText {field : Field} {needle : String} (htype : searched field.type) :
      WellTyped searched (.containsText field needle)
  | anyOf {field : Field} {vs : List Value} (hvalues : ∀ v ∈ vs, v.HasType field.type) :
      WellTyped searched (.anyOf field vs)
  | all {ps : List Predicate} (h : ∀ p ∈ ps, WellTyped searched p) : WellTyped searched (.all ps)
  | any {ps : List Predicate} (h : ∀ p ∈ ps, WellTyped searched p) : WellTyped searched (.any ps)

variable {searched searched' : FieldType → Prop}

theorem WellTyped.mono {p : Predicate} (h : p.WellTyped searched)
    (hsub : ∀ type, searched type → searched' type) : p.WellTyped searched' := by
  induction h with
  | equals hvalue => exact .equals hvalue
  | compare htype hvalue => exact .compare htype hvalue
  | containsText htype => exact .containsText (hsub _ htype)
  | anyOf hvalues => exact .anyOf hvalues
  | all _ ih => exact .all ih
  | any _ ih => exact .any ih

theorem wellTyped_of_mem_all? {ps : List Predicate} (h : ∀ p ∈ ps, p.WellTyped searched)
    {q : Predicate} (hq : q ∈ all? ps) : q.WellTyped searched := by
  match ps with
  | [] => cases hq
  | [p] => cases hq; exact h _ List.mem_cons_self
  | p :: p' :: ps => cases hq; exact .all h

theorem wellTyped_of_mem_any? {ps : List Predicate} (h : ∀ p ∈ ps, p.WellTyped searched)
    {q : Predicate} (hq : q ∈ any? ps) : q.WellTyped searched := by
  match ps with
  | [] => cases hq
  | [p] => cases hq; exact h _ List.mem_cons_self
  | p :: p' :: ps => cases hq; exact .any h

end Predicate

theorem FieldType.isOrderable_iff {type : FieldType} :
    type.isOrderable = true ↔ type = .integer ∨ type = .numeric ∨ type = .timestamp := by
  cases type <;> simp [isOrderable]

/-- **A clause asks nothing that the type of its field does not allow**, and looks for a part of a
text in texts only. -/
theorem Clause.wellTyped_of_lower {c : Clause} {field : Field} {p : Predicate}
    (h : c.lower field = .ok p) : p.WellTyped (· = .text) := by
  have hequals (negated : Bool) (h : c.lowerEquals field negated = .ok p) :
      p.WellTyped (· = .text) := by
    obtain ⟨v, hv, rfl⟩ := map_eq_ok_iff.1 h
    exact .equals (Value.hasType_of_read (Value.cast_eq_ok_iff.1 hv))
  have hmatches (h : c.lowerMatches field = .ok p) : p.WellTyped (· = .text) := by
    rw [lowerMatches] at h
    split at h
    case isTrue htext =>
      cases h
      exact .containsText htext
    case isFalse => cases h
  unfold lower at h
  cases hoperation : c.operation with
  | compare comparison =>
    rw [hoperation] at h
    dsimp only at h
    split at h
    case isTrue horder =>
      obtain ⟨v, hv, rfl⟩ := map_eq_ok_iff.1 h
      exact .compare (FieldType.isOrderable_iff.1 horder)
        (Value.hasType_of_read (Value.cast_eq_ok_iff.1 hv))
    case isFalse => cases h
  | equals =>
    rw [hoperation] at h
    exact hequals false h
  | notEquals =>
    rw [hoperation] at h
    exact hequals true h
  | contains =>
    rw [hoperation] at h
    dsimp only at h
    -- In a collection the elements are compared, and their type need not be a text.
    split at h
    case isTrue => exact hequals false h
    case isFalse => exact hmatches h
  | like =>
    rw [hoperation] at h
    exact hmatches h
  | oneOf =>
    rw [hoperation] at h
    dsimp only at h
    split at h
    case isTrue => cases h
    case isFalse =>
      obtain ⟨vs, hvs, rfl⟩ := map_eq_ok_iff.1 h
      refine .anyOf fun v hv => ?_
      obtain ⟨raw, -, hraw⟩ := exists_of_mem_right (mapM_eq_ok_iff.1 hvs) hv
      exact Value.hasType_of_read (Value.cast_eq_ok_iff.1 hraw)

/-! ### Plans -/

/-- A request for products by some of their states, a tag, a number, a time and a part of the name,
with a search. -/
def Sample.mixedRequest : Parameters :=
  { Parameters.default with
    search := some "nail"
    filters := ["status:in:DRAFT,ACTIVE", "tag:contains:sale", "quantity:ne:-3",
      "createdAt:lt:2024-03-01T10:00:00+02:00", "name:like:a"] }

namespace Plan

variable {m : Metadata} {r : Parameters} {plan : Plan}

/-- What a plan asks of fields goes with their types, which are those that the entity declares. -/
structure WellTyped (m : Metadata) (r : Parameters) (plan : Plan) : Prop where
  /-- The condition is made of those of the filters and that of the search.  A filter asks of the
  path that its name stands for, and looks for a part of a text in texts only; a search looks for
  one in each of its fields. -/
  parts : ∃ (filters : List Predicate) (group : Option Predicate),
    plan.predicate = Predicate.all? (filters ++ group.toList) ∧
    List.Forall₂ (fun raw p => p.WellTyped (· = .text) ∧ ∃ c, Clause.parse raw = .ok c ∧
      p.fields.map Field.path = [m.resolveAlias c.field]) r.filters filters ∧
    ∀ p ∈ group, ∃ (needle : String) (fields : List Field),
      p ∈ Predicate.any? (fields.map (.containsText · needle)) ∧
        fields.map Field.path = m.searchFields
  /-- So the whole condition goes with the types of its fields. -/
  condition : ∀ p ∈ plan.predicate, p.WellTyped fun _ => True
  /-- The type of each field is the one that the entity declares for its path, or text. -/
  types : ∀ field ∈ plan.fields, field.type = m.fieldType field.path

/-- **What a plan asks of fields goes with their types.** -/
theorem wellTyped_of_build (h : build m r = .ok plan) : plan.WellTyped m r := by
  obtain ⟨filters, group, hfilters, hgroup, hpredicate, -⟩ := exists_parts h
  have hlowered : List.Forall₂ (fun raw p => p.WellTyped (· = .text) ∧
      ∃ c, Clause.parse raw = .ok c ∧ p.fields.map Field.path = [m.resolveAlias c.field])
      r.filters filters := by
    refine hfilters.imp fun raw p hraw => ?_
    obtain ⟨c, hc, -, field, hfield, hp⟩ := hraw
    refine ⟨Clause.wellTyped_of_lower hp, c, hc, ?_⟩
    rw [Clause.fields_of_lower hp, List.map_singleton, Metadata.path_of_resolve hfield]
  have hsearched : ∀ p ∈ group, ∃ (needle : String) (fields : List Field),
      p ∈ Predicate.any? (fields.map (.containsText · needle)) ∧
        fields.map Field.path = m.searchFields := by
    rintro p rfl
    rw [Metadata.searches_iff] at hgroup
    split at hgroup
    case h_1 => cases hgroup
    case h_2 needle _ =>
      obtain ⟨fields, hpaths, -, hp⟩ := hgroup
      exact ⟨needle, fields, hp.symm, hpaths⟩
  refine ⟨⟨filters, group, hpredicate, hlowered, hsearched⟩, fun p hp => ?_, fun field hfield => ?_⟩
  · rw [hpredicate] at hp
    refine Predicate.wellTyped_of_mem_all? (fun q hq => ?_) hp
    obtain hq | hq := List.mem_append.1 hq
    · obtain ⟨raw, -, hraw, -⟩ := exists_of_mem_right hlowered hq
      exact hraw.mono fun _ _ => trivial
    · obtain ⟨needle, fields, hany, -⟩ := hsearched q (Option.mem_toList.1 hq)
      refine Predicate.wellTyped_of_mem_any? (fun leaf hleaf => ?_) hany
      obtain ⟨field, -, rfl⟩ := List.mem_map.1 hleaf
      exact .containsText trivial
  · exact Metadata.type_of_resolve (declares_of_mem_fields h hfield).2

end Plan

/-! ### Stores -/

namespace Engine

/-- **A store is asked nothing that the types of the fields do not allow**: a request that is
planned is planned so, and nothing else is put to a store. -/
theorem asksWellTyped {m : Metadata} {r : Parameters} {plan : Plan}
    (h : Plan.build m r = .ok plan) :
    plan.WellTyped m r ∧ ∀ {σ α : Type} (fetch : Store σ α) (s : σ),
      ∀ asked ∈ (observe fetch m r s).2, asked.WellTyped m r := by
  refine ⟨Plan.wellTyped_of_build h, fun fetch s asked hasked => ?_⟩
  obtain ⟨-, e, hobserve⟩ | ⟨-, e, -, -, hobserve⟩ | ⟨-, plan', hplan, hobserve⟩ := ways fetch m r s
  · rw [hobserve] at hasked
    cases hasked
  · rw [hobserve] at hasked
    cases hasked
  · rw [hobserve, List.mem_singleton] at hasked
    exact hasked ▸ Plan.wellTyped_of_build hplan

/-- Products by operations of all kinds on fields of all kinds. -/
theorem asksWellTyped_products :
    ∃ plan, Plan.build Sample.product Sample.mixedRequest = .ok plan ∧
      plan.WellTyped Sample.product Sample.mixedRequest := by
  have hplan : ∃ plan, Plan.build Sample.product Sample.mixedRequest = .ok plan := ⟨_, rfl⟩
  obtain ⟨plan, h⟩ := hplan
  exact ⟨plan, h, (asksWellTyped h).1⟩

end Engine

end ListQuery
