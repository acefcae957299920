import ListQuery.Json.Basic
import ListQuery.Proofs.Number.Rounding
import Mathlib.Algebra.Order.Field.Basic
import Mathlib.Data.Rat.Cast.Order

/-!
# Numbers as mathematics has them

The numbers of JSON texts are integers and binary fractions, and each stands for a rational number.

* `Number.value` : that number;
* `Number.IsStored` : the numbers that JSON texts have;
* `Number.compare_value` : their order is that of whole numbers of units;
* `Binary64.IsRepresentable` : an integer that is a binary fraction;
* `Binary64.compare_roundUnits` : rounding reverses no comparison.
-/

namespace ListQuery

namespace Binary64

/-- The number that a binary fraction stands for. -/
def value (x : Binary64) : ℚ :=
  (x.units : ℚ) / one

/-- An integer is a binary fraction of the format. -/
def IsRepresentable (i : Int) : Prop :=
  ∃ x : Binary64, x.value = i

/-- **Rounding reverses no comparison**; it can only make equal what is not. -/
theorem compare_roundUnits (u v : Int) :
    compare (roundUnits u) (roundUnits v) = .eq ∨
      compare (roundUnits u) (roundUnits v) = compare u v := by
  rcases lt_trichotomy u v with h | rfl | h
  · rw [compare_lt_iff_lt.2 h, compare_lt_iff_lt, compare_eq_iff_eq]
    exact (roundUnits_mono h.le).eq_or_lt
  · exact .inl (compare_eq_iff_eq.2 rfl)
  · rw [compare_gt_iff_gt.2 h, compare_gt_iff_gt, compare_eq_iff_eq]
    exact (roundUnits_mono h.le).eq_or_lt.imp_left Eq.symm

theorem one_pos : (0 : ℚ) < one :=
  Nat.cast_pos.2 (twoPow_pos _)

theorem div_one_lt_div_one {u v : Int} (h : u < v) : (u : ℚ) / one < (v : ℚ) / one :=
  div_lt_div_of_pos_right (Int.cast_lt.2 h) one_pos

theorem value_eq_iff {x : Binary64} {i : Int} : x.value = i ↔ x.units = i * one := by
  have hvalue : (i : ℚ) = ((i * one : Int) : ℚ) / one := by
    rw [Int.cast_mul, Int.cast_natCast, mul_div_cancel_right₀ _ one_pos.ne']
  rw [value, hvalue, div_left_inj' one_pos.ne', Int.cast_inj]

theorem unitsOfInt_of_isRepresentable {i : Int} (h : IsRepresentable i) :
    unitsOfInt i = i * one := by
  obtain ⟨x, hx⟩ := h
  rw [unitsOfInt_eq, ← value_eq_iff.1 hx, roundUnits_units]

theorem twoPow_lt_twoPow {k n : Nat} (h : k < n) : twoPow k < twoPow n :=
  Nat.pow_lt_pow_right Nat.one_lt_two h

theorem log2_lt_of_lt_twoPow {n k : Nat} (hne : n ≠ 0) (h : n < twoPow k) : n.log2 < k :=
  (Nat.log2_lt hne).2 h

theorem mul_one_lt_twoPow {n k : Nat} (h : n < twoPow k) : n * one < twoPow (k + unitExponent) := by
  rw [twoPow_add]
  exact Nat.mul_lt_mul_of_pos_right h (twoPow_pos _)

theorem exists_units_eq {i : Int} (h : i.natAbs < twoPow 1023) :
    ∃ x : Binary64, x.units = unitsOfInt i := by
  have hlimit : roundMagnitude (i.natAbs * one) 1 < limit := by
    have hnext : 1023 < 1024 := by decide
    obtain hzero | hne := Nat.eq_zero_or_pos (i.natAbs * one)
    · rw [hzero]
      exact limit_pos
    · have hlog : (i.natAbs * one).log2 < 1023 + unitExponent :=
        log2_lt_of_lt_twoPow (Nat.ne_of_gt hne) (mul_one_lt_twoPow h)
      calc roundMagnitude (i.natAbs * one) 1
        _ ≤ twoPow ((i.natAbs * one).log2 + 1) := roundMagnitude_le _
        _ ≤ twoPow (1023 + unitExponent) := twoPow_le_twoPow hlog
        _ < limit := twoPow_lt_twoPow (Nat.add_lt_add_right hnext unitExponent)
  refine ⟨⟨decide (i < 0), _, spacing_dvd_roundMagnitude (i.natAbs * one) 1, hlimit⟩, ?_⟩
  simp [units, unitsOfInt]

/-- **An integer of 53 binary digits is a binary fraction**, with zeros behind the digits too. -/
theorem isRepresentable_of_natAbs_eq {i : Int} {k e : Nat} (h : i.natAbs = k * twoPow e)
    (hk : k ≤ twoPow 53) (he : 53 + e < 1024) : IsRepresentable i := by
  have hrange : i.natAbs < twoPow 1024 := by
    rw [h]
    calc k * twoPow e
      _ ≤ twoPow 53 * twoPow e := Nat.mul_le_mul_right _ hk
      _ = twoPow (53 + e) := (twoPow_add ..).symm
      _ < twoPow 1024 := twoPow_lt_twoPow he
  have hgrid : spacing (i.natAbs * one) ∣ i.natAbs * one := by
    rw [h, Nat.mul_assoc, one, ← twoPow_add]
    exact spacing_dvd_of_le hk
  refine ⟨⟨decide (i < 0), i.natAbs * one, hgrid, mul_one_lt_twoPow hrange⟩, value_eq_iff.2 ?_⟩
  rw [units, Int.natCast_mul]
  obtain hneg | hpos := lt_or_ge i 0
  · rw [if_pos (decide_eq_true hneg), Int.ofNat_natAbs_of_nonpos hneg.le, Int.neg_mul, Int.neg_neg]
  · rw [if_neg (by simpa using hpos), Int.natAbs_of_nonneg hpos]

end Binary64

namespace Number

open Binary64 (one unitsOfInt roundUnits)

/-- The number that a number of a JSON text stands for. -/
def value : Number → ℚ
  | integer i => i
  | real x => x.value

/-- A number as a JSON text has it: its integers have 64 bits, with a sign or without one. -/
def IsStored : Number → Prop
  | integer i => Integer.min64 ≤ i ∧ i ≤ maxUnsigned64
  | real _ => True

instance (n : Number) : Decidable n.IsStored :=
  match n with
  | integer i => inferInstanceAs (Decidable (Integer.min64 ≤ i ∧ i ≤ maxUnsigned64))
  | real _ => inferInstanceAs (Decidable True)

/-- The number of units in the value of a number. -/
def exactUnits : Number → Int
  | integer i => i * one
  | real x => x.units

theorem units_eq (n : Number) : n.units = roundUnits n.exactUnits := by
  cases n with
  | integer i => exact Binary64.unitsOfInt_eq i
  | real x => exact (Binary64.roundUnits_units x).symm

theorem value_eq (n : Number) : n.value = (n.exactUnits : ℚ) / one := by
  cases n with
  | integer i =>
    rw [value, exactUnits, Int.cast_mul, Int.cast_natCast,
      mul_div_cancel_right₀ _ Binary64.one_pos.ne']
  | real x => rfl

/-- The order of numbers is that of their units. -/
theorem compare_value (m n : Number) :
    compare m.value n.value = compare m.exactUnits n.exactUnits := by
  have hmono : StrictMono fun u : Int => (u : ℚ) / one := fun _ _ => Binary64.div_one_lt_div_one
  rw [value_eq, value_eq, ← cmp_eq_compare, ← cmp_eq_compare]
  exact hmono.cmp_map_eq _ _

end Number

end ListQuery
