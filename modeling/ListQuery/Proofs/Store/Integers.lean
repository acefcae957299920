import ListQuery.Proofs.Number.Integer
import ListQuery.Proofs.Number.Value
import ListQuery.Proofs.Store.AnswerOrder

/-!
# Filters on fields of integers

A filter on such a field compares stored numbers with integers of 64 bits.  Stored integers of 64
bits are compared exactly, other numbers with the binary fraction next to the integer.

* `Comparison.Relates`, `Operation.Relates` : what filters ask of two numbers;
* `Clause.exists_lower` : what holds of rows by a clause that compares, whatever the type;
* `Clause.AsksIntegers`, `Clause.exists_lower_integer` : the clauses that ask it of integers;
* `Row.compareInteger_eq_or` : the comparison is never reversed, it only makes equal what is not;
* `Row.integers_tfae` : it is exact for the integers that are binary fractions;
* `Row.not_exact_quantities` : two integers that are taken for equal.
-/

namespace ListQuery

/-! ### Relations of numbers -/

/-- Two numbers stand to each other as a comparison asks. -/
def Comparison.Relates (x y : ℚ) : Comparison → Prop
  | greaterThan => y < x
  | greaterOrEqual => y ≤ x
  | lessThan => x < y
  | lessOrEqual => x ≤ y

theorem Comparison.accepts_compare_iff (c : Comparison) (x y : ℚ) :
    c.accepts (compare x y) = true ↔ c.Relates x y := by
  cases c with
  | greaterThan => simp [accepts, Relates, compare_gt_iff_gt]
  | greaterOrEqual => simp [accepts, Relates, compare_lt_iff_lt]
  | lessThan => simp [accepts, Relates, compare_lt_iff_lt]
  | lessOrEqual => simp [accepts, Relates, compare_gt_iff_gt]

namespace Operation

/-- The orders of a stored value to one of a filter that an operation accepts.  Parts of texts are
not found by order. -/
def accepts : Operation → Ordering → Bool
  | equals, o => o == .eq
  | oneOf, o => o == .eq
  | notEquals, o => o != .eq
  | compare c, o => c.accepts o
  | _, _ => false

/-- Two numbers stand to each other as an operation asks. -/
def Relates (x y : ℚ) : Operation → Prop
  | equals => x = y
  | oneOf => x = y
  | notEquals => x ≠ y
  | compare c => c.Relates x y
  | _ => False

theorem accepts_compare_iff (o : Operation) (x y : ℚ) :
    o.accepts (Ord.compare x y) = true ↔ o.Relates x y := by
  cases o with
  | compare c => exact c.accepts_compare_iff x y
  | _ => simp [accepts, Relates]

end Operation

/-! ### Clauses -/

theorem Value.read_integer_toString {i : Int} (hleast : Integer.min64 ≤ i)
    (hgreatest : i ≤ Integer.max64) : Value.read .integer (toString i) = .ok (.integer i) := by
  rw [Value.read, Integer.read?_toString_of_le hleast hgreatest]
  rfl

namespace Clause

/-- The texts that the values of a clause are read from. -/
def rawValues (c : Clause) : List String :=
  if c.operation.takesList then c.listValues else [c.rawValue]

/-- **A clause that compares is about the orders that the operation accepts.** -/
theorem exists_lower {c : Clause} {field : Field} {xs : List Value} (hlike : c.operation ≠ .like)
    (hcontains : c.operation ≠ .contains)
    (horder : c.operation.isOrdering = true → field.type.isOrderable = true) (hne : xs ≠ [])
    (hvalues : List.Forall₂ (fun raw x => Value.read field.type raw = .ok x) c.rawValues xs) :
    ∃ p, c.lower field = .ok p ∧ ∀ row binding, p.holds row binding = xs.any fun x =>
      (Row.compareField? row binding field x).any c.operation.accepts := by
  have hcast {raw : String} {x : Value} (hread : Value.read field.type raw = .ok x) :
      Value.cast c.field field.type raw = .ok x :=
    Value.cast_eq_ok_iff.2 hread
  -- Of a single value, and of a list of values.
  have hone (hlist : c.operation.takesList = false) : ∃ x, xs = [x] ∧
      c.castValue field = .ok x := by
    rw [rawValues, hlist, if_neg Bool.false_ne_true] at hvalues
    obtain ⟨x, rest, hx, hrest, rfl⟩ := List.forall₂_cons_left_iff.1 hvalues
    cases hrest
    exact ⟨x, rfl, hcast hx⟩
  have hall (hlist : c.operation.takesList = true) : c.listValues ≠ [] ∧
      c.listValues.mapM (Value.cast c.field field.type) = .ok xs := by
    rw [rawValues, if_pos hlist] at hvalues
    refine ⟨fun hnil => ?_, mapM_eq_ok_iff.2 (hvalues.imp fun _ _ => hcast)⟩
    rw [hnil] at hvalues
    cases hvalues
    exact hne rfl
  -- A single value is asked for by an order that the operation accepts.
  have hany {accepts : Ordering → Bool} (x : Value) (row : Json) (binding : Binding)
      (h : ∀ o, accepts o = c.operation.accepts o) :
      (Row.compareField? row binding field x).any accepts = [x].any fun x =>
        (Row.compareField? row binding field x).any c.operation.accepts := by
    rw [List.any_cons, List.any_nil, Bool.or_false, funext h]
  unfold lower
  cases hoperation : c.operation with
  | like => exact absurd hoperation hlike
  | contains => exact absurd hoperation hcontains
  | equals | notEquals =>
    obtain ⟨x, rfl, hx⟩ := hone (by rw [hoperation]; rfl)
    refine ⟨_, map_eq_ok_iff.2 ⟨_, hx, rfl⟩, fun row binding => ?_⟩
    rw [Predicate.holds, ← hoperation]
    exact hany x row binding fun o => by rw [hoperation]; cases o <;> rfl
  | compare comparison =>
    obtain ⟨x, rfl, hx⟩ := hone (by rw [hoperation]; rfl)
    have horderable : field.type.isOrderable = true := horder (by rw [hoperation]; rfl)
    refine ⟨_, (if_pos horderable).trans (map_eq_ok_iff.2 ⟨_, hx, rfl⟩), fun row binding => ?_⟩
    rw [Predicate.holds, ← hoperation]
    exact hany x row binding fun o => by rw [hoperation]; rfl
  | oneOf =>
    obtain ⟨hlist, hxs⟩ := hall (by rw [hoperation]; rfl)
    have hnonempty : ¬ c.listValues.isEmpty = true := fun h => hlist (List.isEmpty_iff.1 h)
    refine ⟨_, (if_neg hnonempty).trans (map_eq_ok_iff.2 ⟨_, hxs, rfl⟩), fun row binding => ?_⟩
    rw [Predicate.holds]
    refine congrArg xs.any (funext fun x => ?_)
    cases Row.compareField? row binding field x with
    | none => rfl
    | some o => cases o <;> rfl

/-- The clause asks how numbers stand to the integers `is`. -/
structure AsksIntegers (c : Clause) (is : List Int) : Prop where
  /-- It does not ask for a part of a text. -/
  ne_like : c.operation ≠ .like
  /-- It does not ask for an element of a collection. -/
  ne_contains : c.operation ≠ .contains
  /-- There are values. -/
  ne_nil : is ≠ []
  /-- They are the integers. -/
  values : List.Forall₂ (fun raw i => Value.read .integer raw = .ok (.integer i)) c.rawValues is

variable {c : Clause} {field : Field} {is : List Int}

/-- **A clause on a field of integers** is about the orders that the operation accepts. -/
theorem exists_lower_integer (h : c.AsksIntegers is) (htype : field.type = .integer) :
    ∃ p, c.lower field = .ok p ∧ ∀ row binding, p.holds row binding = is.any fun i =>
      (Row.compareField? row binding field (.integer i)).any c.operation.accepts := by
  have hvalues : List.Forall₂ (fun raw x => Value.read field.type raw = .ok x) c.rawValues
      (is.map .integer) := by
    rw [htype, List.forall₂_map_right_iff]
    exact h.values
  obtain ⟨p, hp, hholds⟩ := exists_lower h.ne_like h.ne_contains
    (fun _ => by rw [htype]; rfl) (by simpa using h.ne_nil) hvalues
  refine ⟨p, hp, fun row binding => ?_⟩
  rw [hholds, List.any_map]
  rfl

theorem asksIntegers_equals {i : Int} (hleast : Integer.min64 ≤ i) (hgreatest : i ≤ Integer.max64) :
    AsksIntegers ⟨"", .equals, toString i⟩ [i] :=
  ⟨nofun, nofun, List.cons_ne_nil _ _, .cons (Value.read_integer_toString hleast hgreatest) .nil⟩

/-- On any field of integers, the clause keeps the rows in which a number stands to one of the
integers as the operation asks. -/
def Decides (c : Clause) (is : List Int) : Prop :=
  ∀ field : Field, field.type = .integer → ∃ p, c.lower field = .ok p ∧ ∀ row binding,
    (∀ n, Row.value? row binding field = some (.number n) → n.IsStored) →
      (p.holds row binding = true ↔ ∃ n, Row.value? row binding field = some (.number n) ∧
        ∃ i ∈ is, c.operation.Relates n.value i)

end Clause

/-! ### Comparisons -/

namespace Row

open Binary64 (IsRepresentable one unitsOfInt roundUnits)

/-- **The comparison with an integer is never reversed**; it can only make equal what is not. -/
theorem compareInteger_eq_or (n : Number) (i : Int) :
    compareInteger n i = .eq ∨ compareInteger n i = compare n.value (i : ℚ) := by
  have hvalue : compare n.value (i : ℚ) = compare n.exactUnits (i * one) :=
    Number.compare_value n (.integer i)
  rw [compareInteger, hvalue]
  cases hn : n.toInteger? with
  | some j =>
    -- Both are whole numbers of ones.
    refine .inr ?_
    have hmono : StrictMono fun k : Int => k * one := fun _ _ h =>
      Int.mul_lt_mul_of_pos_right h (Int.natCast_pos.2 (Binary64.twoPow_pos _))
    have hcompare := hmono.cmp_map_eq j i
    rw [cmp_eq_compare, cmp_eq_compare] at hcompare
    rw [eq_integer_of_toInteger? hn, Number.exactUnits]
    exact hcompare.symm
  | none =>
    rw [Number.units_eq, Binary64.unitsOfInt_eq]
    exact Binary64.compare_roundUnits _ _

theorem max64_lt_of_toInteger? {j : Int} (hstored : (Number.integer j).IsStored)
    (h : (Number.integer j).toInteger? = none) : Integer.max64 < j := by
  rw [Number.toInteger?] at h
  split at h
  case isTrue => cases h
  case isFalse hrange =>
    rw [Bool.and_eq_true, decide_eq_true_eq, decide_eq_true_eq, not_and] at hrange
    exact not_le.1 (hrange hstored.1)

theorem value_eq_of_compareInteger {n : Number} {i : Int} (hi : IsRepresentable i)
    (hgreatest : i ≤ Integer.max64) (hn : n.IsStored) (h : compareInteger n i = .eq) :
    n.value = i := by
  rw [compareInteger, Binary64.unitsOfInt_of_isRepresentable hi] at h
  cases hinteger : n.toInteger? with
  | some j =>
    rw [hinteger] at h
    rw [eq_integer_of_toInteger? hinteger, Number.value, compare_eq_iff_eq.1 h]
  | none =>
    rw [hinteger, compare_eq_iff_eq] at h
    cases n with
    | real x => exact Binary64.value_eq_iff.2 h
    | integer j =>
      -- The next power of two is between them, and is a binary fraction as well.
      have hnext : IsRepresentable (Integer.max64 + 1) :=
        Binary64.isRepresentable_of_natAbs_eq (k := 1) (e := 63) (by decide) (by decide) (by decide)
      have hlt := max64_lt_of_toInteger? hn hinteger
      have hle := Binary64.unitsOfInt_mono (Int.add_one_le_of_lt hlt)
      rw [Binary64.unitsOfInt_of_isRepresentable hnext, ← Number.units, h] at hle
      have hnext := Int.le_of_mul_le_mul_right hle (Int.natCast_pos.2 (Binary64.twoPow_pos _))
      omega

theorem compareInteger_eq_compare {n : Number} {i : Int} (hi : IsRepresentable i)
    (hgreatest : i ≤ Integer.max64) (hn : n.IsStored) :
    compareInteger n i = compare n.value (i : ℚ) := by
  obtain heq | heq := compareInteger_eq_or n i
  · rw [heq, compare_eq_iff_eq.2 (value_eq_of_compareInteger hi hgreatest hn heq)]
  · exact heq

/-! ### Clauses that decide -/

variable {c : Clause} {is : List Int}

/-- Clauses decide what they ask if comparisons with their integers are exact. -/
theorem decides_of_compareInteger (h : c.AsksIntegers is)
    (hexact : ∀ i ∈ is, ∀ n : Number, n.IsStored → compareInteger n i = compare n.value (i : ℚ)) :
    c.Decides is := by
  intro field htype
  obtain ⟨p, hp, hholds⟩ := Clause.exists_lower_integer h htype
  refine ⟨p, hp, fun row binding hstored => ?_⟩
  rw [hholds, List.any_eq_true]
  constructor
  · rintro ⟨i, hi, hany⟩
    rw [Option.any_eq_true, compareField?] at hany
    obtain ⟨o, ho, haccepts⟩ := hany
    obtain ⟨v, hv, hcompare⟩ := Option.bind_eq_some_iff.1 ho
    cases v with
    | number n =>
      cases hcompare
      rw [hexact i hi n (hstored n hv), Operation.accepts_compare_iff] at haccepts
      exact ⟨n, hv, i, hi, haccepts⟩
    | _ => cases hcompare
  · rintro ⟨n, hn, i, hi, hrelates⟩
    refine ⟨i, hi, ?_⟩
    rw [compareField?, hn, Option.bind_some, compareTo?, Option.any_some,
      hexact i hi n (hstored n hn), Operation.accepts_compare_iff]
    exact hrelates

/-- If the clause that asks for an integer decides, the integer is a binary fraction: the one next
to it is taken for it. -/
theorem isRepresentable_of_decides {i : Int} (hleast : Integer.min64 ≤ i)
    (hgreatest : i ≤ Integer.max64) (h : Clause.Decides ⟨"", .equals, toString i⟩ [i]) :
    IsRepresentable i := by
  have hasks := Clause.asksIntegers_equals hleast hgreatest
  let field : Field := ⟨"", none, "", .integer⟩
  have htype : field.type = .integer := rfl
  obtain ⟨p, hp, hdecides⟩ := h field htype
  obtain ⟨p', hp', hholds⟩ := Clause.exists_lower_integer hasks htype
  cases hp.symm.trans hp'
  have hsmall : i.natAbs < Binary64.twoPow 1023 := by
    have hrange : i.natAbs < Binary64.twoPow 64 := by
      have hpow : Binary64.twoPow 64 = 18446744073709551616 := rfl
      rw [Integer.min64] at hleast
      rw [Integer.max64] at hgreatest
      omega
    exact Nat.lt_trans hrange (Binary64.twoPow_lt_twoPow (by decide))
  obtain ⟨x, hx⟩ := Binary64.exists_units_eq hsmall
  -- A row with the number next to the integer is kept.
  have hvalue : value? (single field (.number (.real x))) [] field = some (.number (.real x)) :=
    base?_single field rfl
  have hkept : p.holds (single field (.number (.real x))) [] = true := by
    have heq : compareInteger (.real x) i = .eq := compare_eq_iff_eq.2 hx
    rw [hholds, List.any_cons, compareField?, hvalue, Option.bind_some, compareTo?, heq]
    rfl
  have hstored : ∀ n, value? (single field (.number (.real x))) [] field = some (.number n) →
      n.IsStored := by
    intro n hn
    cases hvalue.symm.trans hn
    trivial
  obtain ⟨n, hn, j, hj, hrelates⟩ := (hdecides _ _ hstored).1 hkept
  cases hvalue.symm.trans hn
  cases List.mem_singleton.1 hj
  exact ⟨x, hrelates⟩

/-- **Filters on integers are exact for the integers that are binary fractions**, and for no others.
For integers of 64 bits the following say the same: they are binary fractions; every stored number
stands to them as the comparison says; clauses that ask for some of them keep the rows in which a
number stands to one of these as the operation asks.  Whatever the integer, a comparison that is not
exact finds it equal to another number. -/
theorem integers_tfae (hrange : ∀ i ∈ is, Integer.min64 ≤ i ∧ i ≤ Integer.max64) :
    (∀ n i, compareInteger n i = .eq ∨ compareInteger n i = compare n.value (i : ℚ)) ∧
      [∀ i ∈ is, IsRepresentable i,
        ∀ i ∈ is, ∀ n : Number, n.IsStored →
          compareTo? (.number n) (.integer i) = some (compare n.value (i : ℚ)),
        ∀ (c : Clause) (asked : List Int), c.AsksIntegers asked → asked ⊆ is →
          c.Decides asked].TFAE := by
  refine ⟨compareInteger_eq_or, ?_⟩
  tfae_have 1 → 2 := by
    intro h i hi n hn
    rw [compareTo?, compareInteger_eq_compare (h i hi) (hrange i hi).2 hn]
  tfae_have 2 → 3 := by
    intro h c asked hasks hsub
    exact decides_of_compareInteger hasks fun i hi n hn => Option.some.inj (h i (hsub hi) n hn)
  tfae_have 3 → 1 := by
    intro h i hi
    obtain ⟨hleast, hgreatest⟩ := hrange i hi
    refine isRepresentable_of_decides hleast hgreatest
      (h _ _ (Clause.asksIntegers_equals hleast hgreatest) fun j hj => ?_)
    exact List.mem_singleton.1 hj ▸ hi
  tfae_finish

/-- The least integer of 64 bits and one beyond the integers of 53 bits, in a list. -/
theorem integers_tfae_powers :
    (∀ i ∈ [-9223372036854775808, 9007199254740992], Integer.min64 ≤ i ∧ i ≤ Integer.max64) ∧
      Clause.Decides ⟨"quantity", .oneOf, "-9223372036854775808, 9007199254740992"⟩
        [-9223372036854775808, 9007199254740992] := by
  have hrange : ∀ i ∈ [-9223372036854775808, 9007199254740992],
      Integer.min64 ≤ i ∧ i ≤ Integer.max64 := by decide
  have hpowers : ∀ i ∈ [-9223372036854775808, 9007199254740992], IsRepresentable i :=
    List.forall_mem_cons.2 ⟨Binary64.isRepresentable_of_natAbs_eq (k := 1) (e := 63) rfl (by decide)
      (by decide), List.forall_mem_singleton.2 <|
        Binary64.isRepresentable_of_natAbs_eq (k := 1) (e := 53) rfl (by decide) (by decide)⟩
  have hasks : Clause.AsksIntegers ⟨"quantity", .oneOf, "-9223372036854775808, 9007199254740992"⟩
      [-9223372036854775808, 9007199254740992] :=
    ⟨nofun, nofun, List.cons_ne_nil _ _, .cons (by decide) (.cons (by decide) .nil)⟩
  have hclauses : (∀ i ∈ [-9223372036854775808, 9007199254740992], IsRepresentable i) ↔
      ∀ (c : Clause) (asked : List Int), c.AsksIntegers asked →
        asked ⊆ [-9223372036854775808, 9007199254740992] → c.Decides asked :=
    (integers_tfae hrange).2.out 0 2
  exact ⟨hrange, hclauses.1 hpowers _ _ hasks (List.Subset.refl _)⟩

/-- **Two integers that are taken for equal**: the greatest one of 64 bits with a sign, and the next
one, which a row may have. -/
theorem not_exact_quantities :
    (¬ ∀ n i, n.IsStored → Integer.min64 ≤ i → i ≤ Integer.max64 →
        compareTo? (.number n) (.integer i) = some (compare n.value (i : ℚ))) ∧
      ∃ plan, Plan.build Sample.product
          (Parameters.default.withFilters ["quantity:eq:9223372036854775807"]) = .ok plan ∧
        plan.selects (.object [("quantity", .number (.integer 9223372036854775808))]) = true := by
  have hequal : compareTo? (.number (.integer 9223372036854775808))
      (.integer 9223372036854775807) = some .eq := by decide +kernel
  refine ⟨fun hexact => ?_, _, rfl, by decide +kernel⟩
  have heq := hexact (.integer 9223372036854775808) 9223372036854775807 (by decide) (by decide)
    (by decide)
  rw [hequal, Option.some.injEq, eq_comm, compare_eq_iff_eq, Number.value, Int.cast_inj] at heq
  exact absurd heq (by decide)

end Row

end ListQuery
