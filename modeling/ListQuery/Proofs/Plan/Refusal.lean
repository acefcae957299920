import ListQuery.Proofs.Filter.Clause
import ListQuery.Proofs.Predicate.Record

/-!
# Why a request is not planned

A request is refused by the first of its filters that is refused alone, with the error of that one,
and only if there is none by its search.

* `FirstFails` : how a computation fails that goes through a list and stops at the first failure;
* `Clause.lower_eq_error_iff` : the clauses without a predicate on a field;
* `Metadata.Refuses` : the error of a filter, by cause, a cause counting only if none of those above
  it applies;
* `Plan.build_refuses_iff` : the error of a request.
-/

namespace ListQuery

/-! ### The first failure -/

section FirstFails

variable {ε α β γ : Type}

/-- Some item fails with the error `e`, and all in front of it succeed. -/
def FirstFails (f : α → Except ε β) (items : List α) (e : ε) : Prop :=
  ∃ front a back, items = front ++ a :: back ∧ (∀ b ∈ front, ∃ c, f b = .ok c) ∧ f a = .error e

variable {f : α → Except ε β} {e : ε}

theorem exists_eq_ok_iff {x : Except ε α} : (∃ a, x = .ok a) ↔ ∀ e, x ≠ .error e := by
  cases x <;> simp

theorem bind_eq_error_iff {x : Except ε α} :
    x >>= f = .error e ↔ x = .error e ∨ ∃ a, x = .ok a ∧ f a = .error e := by
  cases x <;> simp [bind, Except.bind]

theorem firstFails_nil : ¬FirstFails f [] e := by
  rintro ⟨front, a, back, hitems, -⟩
  simp at hitems

theorem firstFails_cons {a : α} {items : List α} :
    FirstFails f (a :: items) e ↔
      f a = .error e ∨ (∃ b, f a = .ok b) ∧ FirstFails f items e := by
  constructor
  · rintro ⟨front, a', back, hitems, hfront, ha'⟩
    cases front with
    | nil =>
      cases hitems
      exact .inl ha'
    | cons b front =>
      cases hitems
      rw [List.forall_mem_cons] at hfront
      exact .inr ⟨hfront.1, front, a', back, rfl, hfront.2, ha'⟩
  · rintro (ha | ⟨ha, front, a', back, rfl, hfront, ha'⟩)
    · exact ⟨[], a, items, rfl, by simp, ha⟩
    · exact ⟨a :: front, a', back, rfl, List.forall_mem_cons.2 ⟨ha, hfront⟩, ha'⟩

theorem firstFails_singleton {a : α} : FirstFails f [a] e ↔ f a = .error e := by
  simp [firstFails_cons, firstFails_nil]

theorem firstFails_congr {g : α → Except ε γ} (h : ∀ a e, f a = .error e ↔ g a = .error e)
    {items : List α} : FirstFails f items e ↔ FirstFails g items e := by
  simp only [FirstFails, exists_eq_ok_iff, ne_eq, h]

theorem forall_not_firstFails_iff {items : List α} :
    (∀ e, ¬FirstFails f items e) ↔ ∀ a ∈ items, ∃ b, f a = .ok b := by
  induction items with
  | nil => simp [firstFails_nil]
  | cons a items ih =>
    rw [List.forall_mem_cons, ← ih]
    cases ha : f a <;> simp [firstFails_cons, ha]

theorem mapM_eq_error_iff {items : List α} : items.mapM f = .error e ↔ FirstFails f items e := by
  induction items with
  | nil => exact iff_of_false nofun firstFails_nil
  | cons a items ih =>
    rw [List.mapM_cons, bind_eq_error_iff, firstFails_cons]
    simp only [bind_eq_error_iff, ih, pure, Except.pure, reduceCtorEq, and_false, exists_false,
      or_false, ← exists_and_right]

/-- A fold whose steps fail whatever has been gathered fails as its items do. -/
theorem foldlM_eq_error_iff {step : γ → α → Except ε γ}
    (hstep : ∀ c a e, step c a = .error e ↔ f a = .error e) {items : List α} {c : γ} :
    items.foldlM step c = .error e ↔ FirstFails f items e := by
  induction items generalizing c with
  | nil => exact iff_of_false nofun firstFails_nil
  | cons a items ih =>
    have hok : (∃ b, f a = .ok b) ↔ ∃ c', step c a = .ok c' := by
      simp only [exists_eq_ok_iff, ne_eq, hstep]
    rw [List.foldlM_cons, bind_eq_error_iff, hstep, firstFails_cons, hok]
    simp only [ih, exists_and_right]

end FirstFails

/-! ### Clauses without a predicate -/

/-- The operation goes with the field: comparisons by order ask for a type with an order, and the
search for a part of a text asks for a text. -/
def Operation.Suits (operation : Operation) (field : Field) : Prop :=
  match operation with
  | .compare _ => field.type.isOrderable = true
  | .like => field.type = .text
  | .contains => field.collection.isSome = true ∨ field.type = .text
  | .equals | .notEquals | .oneOf => True

namespace Clause

variable {c : Clause} {field : Field} {e : QueryError}

/-- The text `raw` of a clause is no value of the type of the field, `fault` being the reason.  Of a
list the first such element counts, and without an element the list itself. -/
inductive Misreads (c : Clause) (field : Field) : String → ValueFault → Prop
  | value {fault : ValueFault} (hoperation : c.operation ≠ .oneOf)
      (h : Value.read field.type c.rawValue = .error fault) : Misreads c field c.rawValue fault
  | emptyList (hoperation : c.operation = .oneOf) (h : c.listValues = []) :
      Misreads c field c.rawValue .emptyList
  | element {raw : String} {fault : ValueFault} {front back : List String}
      (hoperation : c.operation = .oneOf) (hlist : c.listValues = front ++ raw :: back)
      (hfront : ∀ other ∈ front, ∃ v, Value.read field.type other = .ok v)
      (h : Value.read field.type raw = .error fault) : Misreads c field raw fault

theorem cast_eq_error_iff {name raw : String} {type : FieldType} :
    Value.cast name type raw = .error e ↔
      ∃ fault, Value.read type raw = .error fault ∧ e = .invalidValue name raw fault := by
  rw [Value.cast]
  cases Value.read type raw with
  | error fault => simp [Except.mapError, eq_comm]
  | ok v => simp [Except.mapError]

theorem exists_cast_iff {name raw : String} {type : FieldType} :
    (∃ v, Value.cast name type raw = .ok v) ↔ ∃ v, Value.read type raw = .ok v := by
  simp only [Value.cast_eq_ok_iff]

theorem exists_misreads_iff (h : c.operation ≠ .oneOf) :
    (∃ raw fault, c.Misreads field raw fault ∧ e = .invalidValue c.field raw fault) ↔
      c.castValue field = .error e := by
  rw [castValue, cast_eq_error_iff]
  constructor
  · rintro ⟨raw, fault, hraw, rfl⟩
    cases hraw with
    | value _ hread => exact ⟨fault, hread, rfl⟩
    | emptyList hoperation _ => exact absurd hoperation h
    | element hoperation _ _ _ => exact absurd hoperation h
  · rintro ⟨fault, hread, rfl⟩
    exact ⟨_, fault, .value h hread, rfl⟩

theorem exists_misreads_list_iff (h : c.operation = .oneOf) :
    (∃ raw fault, c.Misreads field raw fault ∧ e = .invalidValue c.field raw fault) ↔
      c.listValues = [] ∧ e = .invalidValue c.field c.rawValue .emptyList ∨
        FirstFails (Value.cast c.field field.type) c.listValues e := by
  constructor
  · rintro ⟨raw, fault, hraw, rfl⟩
    cases hraw with
    | value hoperation _ => exact absurd h hoperation
    | emptyList _ hlist => exact .inl ⟨hlist, rfl⟩
    | @element _ _ front back _ hlist hfront hread =>
      exact .inr ⟨front, raw, back, hlist, fun other h => exists_cast_iff.2 (hfront other h),
        cast_eq_error_iff.2 ⟨fault, hread, rfl⟩⟩
  · rintro (⟨hlist, rfl⟩ | ⟨front, raw, back, hlist, hfront, hcast⟩)
    · exact ⟨_, _, .emptyList h hlist, rfl⟩
    · obtain ⟨fault, hread, rfl⟩ := cast_eq_error_iff.1 hcast
      have hread' : ∀ other ∈ front, ∃ v, Value.read field.type other = .ok v :=
        fun other h => exists_cast_iff.1 (hfront other h)
      exact ⟨raw, fault, .element h hlist hread' hread, rfl⟩

theorem lowerMatches_eq_error_iff :
    c.lowerMatches field = .error e ↔ field.type ≠ .text ∧ e = c.unsupported field := by
  rw [lowerMatches]
  split
  case isTrue h => simp [h]
  case isFalse h => simp [h, eq_comm]

theorem castValue_ne_error (h : field.type = .text) : c.castValue field ≠ .error e := by
  intro herror
  rw [castValue, h] at herror
  cases herror

/-- A clause has no predicate on a field that its operation does not go with, and none if its value
cannot be read. -/
theorem lower_eq_error_iff : c.lower field = .error e ↔
    ¬c.operation.Suits field ∧ e = c.unsupported field ∨
      c.operation.Suits field ∧ ∃ raw fault, c.Misreads field raw fault ∧
        e = .invalidValue c.field raw fault := by
  -- Only a list is read element by element.
  by_cases hlist : c.operation = .oneOf
  · rw [exists_misreads_list_iff hlist, lower, hlist]
    dsimp only
    rw [Operation.Suits]
    split
    case isTrue h =>
      rw [List.isEmpty_iff] at h
      simp [h, firstFails_nil, eq_comm]
    case isFalse h =>
      rw [List.isEmpty_iff] at h
      simp [h, map_eq_error_iff, mapM_eq_error_iff]
  · rw [exists_misreads_iff hlist, lower]
    cases hoperation : c.operation with
    | compare comparison =>
      dsimp only [Operation.Suits]
      split
      case isTrue h => simp [h, map_eq_error_iff]
      case isFalse h => simp [h, eq_comm]
    | equals => simp [Operation.Suits, lowerEquals, map_eq_error_iff]
    | notEquals => simp [Operation.Suits, lowerEquals, map_eq_error_iff]
    | like =>
      dsimp only [Operation.Suits]
      rw [lowerMatches_eq_error_iff]
      by_cases h : field.type = .text
      · simp [h, castValue_ne_error]
      · simp [h]
    | contains =>
      dsimp only [Operation.Suits]
      split
      case isTrue h => simp [h, lowerEquals, map_eq_error_iff]
      case isFalse h =>
        rw [lowerMatches_eq_error_iff]
        by_cases htext : field.type = .text
        · simp [h, htext, castValue_ne_error]
        · simp [h, htext]
    | oneOf => exact absurd hoperation hlist

end Clause

/-! ### Filters -/

namespace Metadata

variable {m : Metadata} {raw : String} {e : QueryError}

/-- The predicate of a raw filter. -/
def lowerRaw (m : Metadata) (raw : String) : Except QueryError Predicate := do
  m.lower (← Clause.parse raw)

/-- The error of a raw filter.  The causes are in the order in which they count: each asks that none
of those above it applies. -/
inductive Refuses (m : Metadata) (raw : String) : QueryError → Prop
  /-- The filter is no clause. -/
  | malformed {fault : ClauseFault} (h : Clause.IsMalformed raw fault) :
      Refuses m raw (.malformedFilter raw fault)
  /-- The path that the clause names is not allowed in filters. -/
  | disallowed {c : Clause} (hclause : Clause.parse raw = .ok c)
      (h : m.resolveAlias c.field ∉ m.filterFields) : Refuses m raw (.disallowedField c.field)
  /-- The path has no column. -/
  | unresolved {c : Clause} {fault : PathFault} (hclause : Clause.parse raw = .ok c)
      (hallowed : m.resolveAlias c.field ∈ m.filterFields)
      (h : m.column (m.resolveAlias c.field) = .error fault) :
      Refuses m raw (.invalidMetadata m.entity (.path fault))
  /-- The operation does not go with the type of the field. -/
  | unsupported {c : Clause} {field : Field} (hclause : Clause.parse raw = .ok c)
      (hallowed : m.resolveAlias c.field ∈ m.filterFields)
      (hfield : m.resolve (m.resolveAlias c.field) = .ok field)
      (h : ¬c.operation.Suits field) :
      Refuses m raw (.unsupportedOperation c.field c.operation field.type)
  /-- A text is no value of the type of the field. -/
  | invalidValue {c : Clause} {field : Field} {value : String} {fault : ValueFault}
      (hclause : Clause.parse raw = .ok c) (hallowed : m.resolveAlias c.field ∈ m.filterFields)
      (hfield : m.resolve (m.resolveAlias c.field) = .ok field)
      (hsuits : c.operation.Suits field) (h : c.Misreads field value fault) :
      Refuses m raw (.invalidValue c.field value fault)

theorem resolve_eq_error_iff {path : String} : m.resolve path = .error e ↔
    ∃ fault, m.column path = .error fault ∧ e = .invalidMetadata m.entity (.path fault) := by
  rw [resolve]
  cases m.column path with
  | ok target => simp
  | error fault => simp [eq_comm]

theorem lower_eq_error_iff {c : Clause} : m.lower c = .error e ↔
    m.resolveAlias c.field ∉ m.filterFields ∧ e = .disallowedField c.field ∨
      m.resolveAlias c.field ∈ m.filterFields ∧
        (m.resolve (m.resolveAlias c.field) = .error e ∨
          ∃ field, m.resolve (m.resolveAlias c.field) = .ok field ∧ c.lower field = .error e) := by
  simp only [lower, List.contains_iff_mem]
  split
  case isTrue h => simp [h, bind_eq_error_iff]
  case isFalse h => simp [h, throw, throwThe, MonadExceptOf.throw, eq_comm]

/-- **What a filter is refused for**, and with which error. -/
theorem lowerRaw_eq_error_iff : m.lowerRaw raw = .error e ↔ m.Refuses raw e := by
  rw [lowerRaw, bind_eq_error_iff, Clause.parse_eq_error_iff]
  constructor
  · rintro (⟨fault, hfault, rfl⟩ | ⟨c, hclause, h⟩)
    · exact .malformed hfault
    obtain ⟨hnot, rfl⟩ | ⟨hallowed, hpath | ⟨field, hfield, hlower⟩⟩ := lower_eq_error_iff.1 h
    · exact .disallowed hclause hnot
    · obtain ⟨fault, hcolumn, rfl⟩ := resolve_eq_error_iff.1 hpath
      exact .unresolved hclause hallowed hcolumn
    · obtain ⟨hnot, rfl⟩ | ⟨hsuits, value, fault, hvalue, rfl⟩ := Clause.lower_eq_error_iff.1 hlower
      · exact .unsupported hclause hallowed hfield hnot
      · exact .invalidValue hclause hallowed hfield hsuits hvalue
  · intro h
    cases h with
    | malformed h => exact .inl ⟨_, h, rfl⟩
    | disallowed hclause h =>
      exact .inr ⟨_, hclause, lower_eq_error_iff.2 (.inl ⟨h, rfl⟩)⟩
    | unresolved hclause hallowed h =>
      have hresolve := resolve_eq_error_iff.2 ⟨_, h, rfl⟩
      exact .inr ⟨_, hclause, lower_eq_error_iff.2 (.inr ⟨hallowed, .inl hresolve⟩)⟩
    | unsupported hclause hallowed hfield h =>
      have hlower := Clause.lower_eq_error_iff.2 (.inl ⟨h, rfl⟩)
      exact .inr ⟨_, hclause, lower_eq_error_iff.2 (.inr ⟨hallowed, .inr ⟨_, hfield, hlower⟩⟩)⟩
    | invalidValue hclause hallowed hfield hsuits h =>
      have hlower := Clause.lower_eq_error_iff.2 (.inr ⟨hsuits, _, _, h, rfl⟩)
      exact .inr ⟨_, hclause, lower_eq_error_iff.2 (.inr ⟨hallowed, .inr ⟨_, hfield, hlower⟩⟩)⟩

/-- A search is refused for the first field it looks at that has no column. -/
theorem searchGroup_eq_error_iff {term : String} :
    m.searchGroup term = .error e ↔
      Text.trim term ≠ "" ∧ FirstFails m.resolve m.searchFields e := by
  rw [searchGroup, Text.nonBlank?]
  by_cases h : Text.trim term = ""
  · simp [h]
  · simp only [String.isEmpty_iff, h, if_false, not_false_eq_true, ne_eq, true_and]
    rw [map_eq_error_iff, Builder.searchMatches, mapM_eq_error_iff]
    exact firstFails_congr fun path e => map_eq_error_iff

end Metadata

/-! ### Requests -/

namespace Plan

variable {m : Metadata} {r : Parameters} {raw : String} {e : QueryError}

theorem build_eq_error_iff : build m r = .error e ↔ builder m r = .error e := by
  rw [build]
  cases builder m r <;> simp [bind, Except.bind, pure, Except.pure]

theorem addRaw_eq_error_iff (b : Builder) (raw : String) (e : QueryError) :
    Builder.addRaw m b raw = .error e ↔ m.lowerRaw raw = .error e := by
  simp only [Builder.addRaw, Metadata.lowerRaw, bind_eq_error_iff, Builder.addFilter_eq_map,
    map_eq_error_iff]

theorem foldlM_addRaw_eq_error_iff {raws : List String} {b : Builder} :
    raws.foldlM (Builder.addRaw m) b = .error e ↔ FirstFails m.lowerRaw raws e :=
  foldlM_eq_error_iff addRaw_eq_error_iff

theorem exists_foldlM_addRaw_iff {raws : List String} {b : Builder} :
    (∃ b', raws.foldlM (Builder.addRaw m) b = .ok b') ↔
      ∀ raw ∈ raws, ∃ p, m.lowerRaw raw = .ok p := by
  rw [exists_eq_ok_iff, ← forall_not_firstFails_iff]
  exact forall_congr' fun e => not_congr foldlM_addRaw_eq_error_iff

theorem builder_eq_error_iff : builder m r = .error e ↔
    FirstFails m.lowerRaw r.filters e ∨
      (∀ raw ∈ r.filters, ∃ p, m.lowerRaw raw = .ok p) ∧
        ∃ term, r.search = some term ∧ m.searchGroup term = .error e := by
  rw [builder, bind_eq_error_iff, foldlM_addRaw_eq_error_iff,
    ← exists_foldlM_addRaw_iff, ← exists_and_right]
  refine or_congr_right (exists_congr fun b => and_congr_right fun _ => ?_)
  cases r.search with
  | none => simp [pure, Except.pure]
  | some term => simp [Builder.addSearch_eq_map, map_eq_error_iff]

/-- The plan of a request with one filter alone. -/
def ofRaw (m : Metadata) (raw : String) : Except QueryError Plan :=
  build m (Parameters.default.withFilters [raw])

theorem ofRaw_eq_error_iff (raw : String) (e : QueryError) :
    ofRaw m raw = .error e ↔ m.lowerRaw raw = .error e := by
  rw [ofRaw, build_eq_error_iff, builder_eq_error_iff]
  simp [Parameters.default, Parameters.withFilters, firstFails_singleton]

/-- **A request is refused filter by filter**: with the error of the first filter that is refused
alone, or, if there is none, with that of the first field without a column that its search looks at.
The error of a filter is told by `Metadata.Refuses`. -/
theorem build_refuses_iff (m : Metadata) :
    (∀ r e, build m r = .error e ↔
      FirstFails (ofRaw m) r.filters e ∨
        (∀ raw ∈ r.filters, ∃ plan, ofRaw m raw = .ok plan) ∧
          (∃ term, r.search = some term ∧ Text.trim term ≠ "") ∧
            FirstFails m.resolve m.searchFields e) ∧
    ∀ raw e, ofRaw m raw = .error e ↔ m.Refuses raw e := by
  refine ⟨fun r e => ?_,
    fun raw e => (ofRaw_eq_error_iff raw e).trans Metadata.lowerRaw_eq_error_iff⟩
  have hok (raw : String) : (∃ plan, ofRaw m raw = .ok plan) ↔ ∃ p, m.lowerRaw raw = .ok p := by
    simp only [exists_eq_ok_iff, ne_eq, ofRaw_eq_error_iff]
  rw [build_eq_error_iff, builder_eq_error_iff, firstFails_congr ofRaw_eq_error_iff]
  simp only [hok, Metadata.searchGroup_eq_error_iff, ← and_assoc, exists_and_right]

end Plan

end ListQuery
