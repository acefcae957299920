import ListQuery.Proofs.Plan.Typing
import ListQuery.Proofs.Store.Integers
import ListQuery.Proofs.Store.Membership
import ListQuery.Proofs.Store.Ranges
import ListQuery.Proofs.Time.Timestamp

/-!
# How comparisons divide rows

A field of the base table whose values have an order is compared with a text.  The value of a row is
below the text, equal to it or above it, and just one of these, unless it cannot be compared at all;
then no comparison keeps the row, not even the one that asks for another value.

* `Row.Comparable` : the values that can be compared, and `Row.exists_compareTo?_iff` : they are;
* `Operation.IsWording` : names for the operations;
* `Metadata.keeps_comparison_iff` : the rows that a comparison keeps;
* `Metadata.partitionsRows` : comparisons divide the rows.
-/

namespace ListQuery

/-! ### Values that can be compared -/

namespace Row

/-- A stored value has the shape that the values of a type are compared with: a number, or the text
of a timestamp. -/
inductive Comparable : FieldType → Json → Prop
  | integer (n : Number) : Comparable .integer (.number n)
  | numeric (n : Number) : Comparable .numeric (.number n)
  | timestamp {s : String} {ts : Timestamp} (hs : ts.Spells s.toList) :
      Comparable .timestamp (.string s)

/-- **Values of the shape of an ordered type can be compared** with values of the type, all of
them, and no others can. -/
theorem exists_compareTo?_iff {type : FieldType} {x : Value} {v : Json}
    (htype : type.isOrderable = true) (hx : x.HasType type) :
    (∃ o, compareTo? v x = some o) ↔ Comparable type v := by
  cases hx with
  | text | boolean | uuid | enumeration => cases htype
  | integer =>
    constructor
    · rintro ⟨o, ho⟩
      cases v with
      | number n => exact .integer n
      | _ => cases ho
    · rintro ⟨n⟩
      exact ⟨_, rfl⟩
  | numeric x =>
    constructor
    · rintro ⟨o, ho⟩
      cases v with
      | number n => exact .numeric n
      | _ => cases ho
    · rintro (_ | n)
      exact ⟨_, rfl⟩
  | timestamp t =>
    constructor
    · rintro ⟨o, ho⟩
      cases v with
      | string s =>
        obtain ⟨u, hu, -⟩ := Option.map_eq_some_iff.1 ho
        obtain ⟨ts, hs, -⟩ := Instant.read?_eq_some_iff.1 hu
        exact .timestamp hs
      | _ => cases ho
    · rintro (_ | _ | @⟨s, ts, hs⟩)
      have hread : Instant.read? s = some ts.instant := Instant.read?_eq_some_iff.2 ⟨ts, hs, rfl⟩
      exact ⟨_, congrArg (Option.map _) hread⟩

end Row

/-! ### Operations -/

namespace Operation

/-- A token for each operation. -/
def IsWording (token : Operation → String) : Prop :=
  ∀ o, ':' ∉ (token o).toList ∧ ofToken? (token o) = some o

/-- The six operations that compare with a single value. -/
def comparisons : List Operation :=
  [equals, notEquals, compare .lessThan, compare .lessOrEqual, compare .greaterThan,
    compare .greaterOrEqual]

/-- How the comparisons divide what they keep, of which some is `comparable`. -/
structure Divides (keeps : Operation → Prop) (comparable : Prop) : Prop where
  /-- Nothing is kept of what is not comparable. -/
  nothing : ¬ comparable → ∀ o ∈ comparisons, ¬ keeps o
  /-- What is comparable is kept as less, as equal or as greater, and in one way only. -/
  one : comparable → ∃! o, o ∈ [compare .lessThan, equals, compare .greaterThan] ∧ keeps o
  /-- Less or equal is one of the two. -/
  lessOrEqual : keeps (compare .lessOrEqual) ↔ keeps (compare .lessThan) ∨ keeps equals
  /-- Greater or equal is one of the two. -/
  greaterOrEqual : keeps (compare .greaterOrEqual) ↔ keeps (compare .greaterThan) ∨ keeps equals
  /-- Not equal is less or greater. -/
  notEquals : keeps notEquals ↔ keeps (compare .lessThan) ∨ keeps (compare .greaterThan)

theorem divides_of_accepts {keeps : Operation → Prop} {order : Option Ordering}
    (h : ∀ o ∈ comparisons, keeps o ↔ order.any o.accepts = true) :
    Divides keeps (∃ o, order = some o) := by
  simp only [comparisons, List.forall_mem_cons] at h
  obtain ⟨hequals, hnotEquals, hless, hlessOrEqual, hgreater, hgreaterOrEqual, -⟩ := h
  cases order with
  | none =>
    constructor <;>
      simp [comparisons, hequals, hnotEquals, hless, hlessOrEqual, hgreater, hgreaterOrEqual]
  | some order =>
    cases order <;> constructor <;>
      simp [hequals, hnotEquals, hless, hlessOrEqual, hgreater, hgreaterOrEqual, accepts,
        Comparison.accepts, ExistsUnique]

end Operation

/-! ### Rows -/

namespace Metadata

variable {m : Metadata} {name raw : String} {field : Field} {x : Value} {o : Operation}
  {token : Operation → String}

theorem pieces_eq_singleton (hne : raw ≠ "") (hcomma : ',' ∉ raw.toList)
    (htrim : Text.trim raw = raw) : Clause.pieces raw = [raw] :=
  Clause.IsElement.pieces_eq ⟨hne, Text.trim_eq_self_iff.1 htrim, hcomma⟩

/-- **The rows that a comparison keeps** are those whose value stands in an order to the one of the
filter that the operation accepts. -/
theorem keeps_comparison_iff (hname : ':' ∉ name.toList) (hfield : m.Filters (Text.trim name) field)
    (hbase : field.collection = none) (htype : field.type.isOrderable = true)
    (hx : Value.read field.type raw = .ok x) (htoken : Operation.IsWording token)
    (ho : o ∈ Operation.comparisons ∨ o = .oneOf ∧ Clause.pieces raw = [raw]) :
    ∃ plan, Plan.build m (Parameters.default.withFilters
        [name ++ ":" ++ token o ++ ":" ++ raw]) = .ok plan ∧ ∀ row, plan.selects row =
          ((Row.base? row field).bind (Row.compareTo? · x)).any o.accepts := by
  have hcut : Clause.IsCut (name ++ ":" ++ token o ++ ":" ++ raw) name (token o) raw :=
    ⟨rfl, hname, (htoken o).1⟩
  have hkind : o ≠ .like ∧ o ≠ .contains ∧
      List.Forall₂ (fun piece x => Value.read field.type piece = .ok x)
        (Clause.rawValues ⟨Text.trim name, o, raw⟩) [x] := by
    have hvalues : List.Forall₂ (fun piece x => Value.read field.type piece = .ok x) [raw] [x] :=
      .cons hx .nil
    obtain ho | ⟨rfl, hpieces⟩ := ho
    · simp only [Operation.comparisons, List.mem_cons, List.not_mem_nil, or_false] at ho
      obtain rfl | rfl | rfl | rfl | rfl | rfl := ho <;> exact ⟨nofun, nofun, hvalues⟩
    · have hlist : Clause.rawValues ⟨Text.trim name, .oneOf, raw⟩ = Clause.pieces raw := rfl
      rw [hlist, hpieces]
      exact ⟨nofun, nofun, hvalues⟩
  obtain ⟨hlike, hcontains, hvalues⟩ := hkind
  obtain ⟨p, hp, hholds⟩ := Clause.exists_lower hlike hcontains (fun _ => htype)
    (List.cons_ne_nil x []) hvalues
  have hlowers := (lowers_iff_of_isCut hcut (htoken o).2).2 ⟨field, hfield, hp⟩
  refine ⟨_, Plan.build_filter_eq_ok_iff.2 ⟨p, hlowers, rfl⟩, fun row => ?_⟩
  rw [Plan.selects_ofFilter (Clause.fields_of_lower hp) hbase, hholds, List.any_cons, List.any_nil,
    Bool.or_false, Row.compareField?, Row.value?, hbase]

/-- How the comparisons of a field with the text `raw` divide the rows, if the operations are named
by `token`. -/
structure PartitionsRows (m : Metadata) (name : String) (token : Operation → String) (raw : String)
    (field : Field) : Prop where
  /-- All comparisons are planned. -/
  isPlanned : ∀ o ∈ Operation.comparisons, ∃ plan, Plan.build m
    (Parameters.default.withFilters [name ++ ":" ++ token o ++ ":" ++ raw]) = .ok plan
  /-- A row is kept by none of them, its value being missing or not comparable; or it is kept in one
  of three ways, and the others put these together. -/
  divides (row : Json) :
    Operation.Divides (fun o => m.Keeps (name ++ ":" ++ token o ++ ":" ++ raw) row)
      (∃ v ∈ Row.base? row field, Row.Comparable field.type v)
  /-- A list of one element keeps what is equal to it. -/
  oneOf : ',' ∉ raw.toList → Text.trim raw = raw → ∀ row : Json,
    m.Keeps (name ++ ":" ++ token .oneOf ++ ":" ++ raw) row ↔
      m.Keeps (name ++ ":" ++ token .equals ++ ":" ++ raw) row

/-- **Comparisons divide the rows.** -/
theorem partitionsRows (hname : ':' ∉ name.toList) (hfield : m.Filters (Text.trim name) field)
    (hbase : field.collection = none) (htype : field.type.isOrderable = true)
    (hx : Value.read field.type raw = .ok x) (htoken : Operation.IsWording token) :
    m.PartitionsRows name token raw field := by
  have hkeeps {o : Operation}
      (ho : o ∈ Operation.comparisons ∨ o = .oneOf ∧ Clause.pieces raw = [raw]) (row : Json) :
      m.Keeps (name ++ ":" ++ token o ++ ":" ++ raw) row ↔
        ((Row.base? row field).bind (Row.compareTo? · x)).any o.accepts = true := by
    obtain ⟨plan, hplan, hselects⟩ :=
      keeps_comparison_iff hname hfield hbase htype hx htoken ho
    rw [Keeps, hplan, ← hselects]
    simp
  constructor
  case isPlanned =>
    intro o ho
    obtain ⟨plan, hplan, -⟩ := keeps_comparison_iff hname hfield hbase htype hx htoken (.inl ho)
    exact ⟨plan, hplan⟩
  case divides =>
    intro row
    have hcomparable : (∃ v ∈ Row.base? row field, Row.Comparable field.type v) ↔
        ∃ o, (Row.base? row field).bind (Row.compareTo? · x) = some o := by
      simp only [← Row.exists_compareTo?_iff htype (Value.hasType_of_read hx),
        Option.bind_eq_some_iff, Option.mem_def]
      constructor
      · rintro ⟨v, hv, o, ho⟩
        exact ⟨o, v, hv, ho⟩
      · rintro ⟨o, v, hv, ho⟩
        exact ⟨v, hv, o, ho⟩
    rw [hcomparable]
    exact Operation.divides_of_accepts fun o ho => hkeeps (.inl ho) row
  case oneOf =>
    intro hcomma htrim row
    have hne : raw ≠ "" := by
      rintro rfl
      cases htype' : field.type with
      | integer | numeric | timestamp => rw [htype'] at hx; cases hx
      | _ => rw [htype'] at htype; cases htype
    rw [hkeeps (.inr ⟨rfl, pieces_eq_singleton hne hcomma htrim⟩),
      hkeeps (.inl (by simp [Operation.comparisons]))]
    rfl

/-- Products before, at and after an instant. -/
theorem partitionsRows_products :
    ':' ∉ "createdAt".toList ∧ Sample.product.Filters (Text.trim "createdAt") Sample.createdAt ∧
      Sample.product.PartitionsRows "createdAt" (fun o => o.tokens.headD "")
        "2024-03-01T10:00:00+02:00" Sample.createdAt := by
  have hfield : Sample.product.Filters (Text.trim "createdAt") Sample.createdAt :=
    ⟨by decide, by decide, rfl⟩
  have hwording : Operation.IsWording fun o => o.tokens.headD "" := by
    intro o
    cases o with
    | compare c => cases c <;> decide
    | _ => decide
  exact ⟨by decide, hfield, partitionsRows (by decide) hfield rfl rfl rfl hwording⟩

end Metadata

end ListQuery
