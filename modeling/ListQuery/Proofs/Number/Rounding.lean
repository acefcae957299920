import ListQuery.Number.Binary64
import Mathlib.Tactic.SplitIfs

/-!
# Rounding keeps the order of integers

A number is rounded to a neighbour in its own binade or to the first number of the next one, so that
a greater integer never has a lesser binary fraction.

* `Binary64.roundHalfEven_mono` : rounding to a multiple of one spacing;
* `Binary64.roundMagnitude_le`, `Binary64.le_roundMagnitude` : the binade of a rounded magnitude;
* `Binary64.roundMagnitude_of_dvd`, `Binary64.roundUnits_units` : numbers of the format stay as they
  are;
* `Binary64.unitsOfInt_mono` : integers and their nearest binary fractions.
-/

namespace ListQuery

namespace Binary64

/-! ### One spacing -/

theorem le_roundHalfEven (num den : Nat) : num / den ≤ roundHalfEven num den := by
  simp only [roundHalfEven]
  split
  · exact Nat.le_refl _
  · split
    · exact Nat.le_succ _
    · exact Nat.le_add_right _ _

theorem roundHalfEven_mono {num num' : Nat} (h : num ≤ num') (den : Nat) :
    roundHalfEven num den ≤ roundHalfEven num' den := by
  obtain hlt | heq := Nat.lt_or_eq_of_le (Nat.div_le_div_right (c := den) h)
  · exact Nat.le_trans (roundHalfEven_le num den)
      (Nat.le_trans hlt (le_roundHalfEven num' den))
  · have hrest : num % den ≤ num' % den := by
      have hnum := Nat.div_add_mod num den
      have hnum' := Nat.div_add_mod num' den
      rw [← heq] at hnum'
      omega
    simp only [roundHalfEven, ← heq]
    generalize num / den = q, num % den = r, num' % den = r' at hrest
    split_ifs <;> omega

/-! ### Binades -/

theorem twoPow_add (k n : Nat) : twoPow (k + n) = twoPow k * twoPow n :=
  Nat.pow_add 2 k n

theorem twoPow_le_twoPow {k n : Nat} (h : k ≤ n) : twoPow k ≤ twoPow n :=
  Nat.pow_le_pow_right Nat.two_pos h

theorem twoPow_log2_le {num : Nat} (h : num ≠ 0) : twoPow num.log2 ≤ num :=
  Nat.log2_self_le h

theorem lt_twoPow_log2 (num : Nat) : num < twoPow (num.log2 + 1) :=
  Nat.lt_log2_self

theorem roundMagnitude_one (num : Nat) :
    roundMagnitude num 1 = roundHalfEven num (spacing num) * spacing num := by
  simp [roundMagnitude]

theorem roundMagnitude_le (num : Nat) : roundMagnitude num 1 ≤ twoPow (num.log2 + 1) := by
  rw [roundMagnitude_one]
  obtain hlow | hhigh := Nat.lt_or_ge num.log2 52
  · -- Integers of less than 53 digits are numbers of the format.
    have hspacing : spacing num = 1 := by
      rw [spacing, Nat.sub_eq_zero_of_le (Nat.le_of_lt hlow)]
      rfl
    have hself : roundHalfEven num 1 = num := by simp [roundHalfEven, Nat.mod_one]
    rw [hspacing, hself, Nat.mul_one]
    exact Nat.le_of_lt (lt_twoPow_log2 num)
  · have hround := roundHalfEven_spacing_le num 1
    rw [Nat.div_one, Nat.one_mul] at hround
    have hdigits : num.log2 + 1 = 53 + (num.log2 - 52) := by omega
    rw [hdigits, twoPow_add]
    exact Nat.mul_le_mul_right _ hround

theorem le_roundMagnitude {num : Nat} (h : num ≠ 0) : twoPow num.log2 ≤ roundMagnitude num 1 := by
  have hdigits : twoPow num.log2 = twoPow (num.log2 - (num.log2 - 52)) * spacing num := by
    rw [spacing, ← twoPow_add, Nat.sub_add_cancel (Nat.sub_le ..)]
  have hquotient : twoPow (num.log2 - (num.log2 - 52)) ≤ num / spacing num := by
    have hpos : 0 < spacing num := twoPow_pos _
    rw [Nat.le_div_iff_mul_le hpos, ← hdigits]
    exact twoPow_log2_le h
  rw [roundMagnitude_one, hdigits]
  exact Nat.mul_le_mul_right _ (Nat.le_trans hquotient (le_roundHalfEven _ _))

/-- **A greater magnitude is not rounded to a lesser one.** -/
theorem roundMagnitude_mono {num num' : Nat} (h : num ≤ num') :
    roundMagnitude num 1 ≤ roundMagnitude num' 1 := by
  obtain rfl | hpos := Nat.eq_zero_or_pos num
  · have hzero : roundMagnitude 0 1 = 0 := by decide
    rw [hzero]
    exact Nat.zero_le _
  have hne' : num' ≠ 0 := by omega
  have hlog : num.log2 ≤ num'.log2 :=
    (Nat.le_log2 hne').2 (Nat.le_trans (twoPow_log2_le (Nat.ne_of_gt hpos)) h)
  obtain hlt | heq := Nat.lt_or_eq_of_le hlog
  · calc roundMagnitude num 1
      _ ≤ twoPow (num.log2 + 1) := roundMagnitude_le num
      _ ≤ twoPow num'.log2 := twoPow_le_twoPow hlt
      _ ≤ roundMagnitude num' 1 := le_roundMagnitude hne'
  · rw [roundMagnitude_one, roundMagnitude_one, spacing, spacing, heq]
    exact Nat.mul_le_mul_right _ (roundHalfEven_mono h _)

/-- **A magnitude of the format is rounded to itself.** -/
theorem roundMagnitude_of_dvd {num : Nat} (h : spacing num ∣ num) : roundMagnitude num 1 = num := by
  have hpos : 0 < spacing num := twoPow_pos _
  have hround : roundHalfEven num (spacing num) = num / spacing num := by
    simp [roundHalfEven, Nat.mod_eq_zero_of_dvd h, hpos]
  rw [roundMagnitude_one, hround, Nat.div_mul_cancel h]

/-! ### Signs -/

/-- A signed number of units, rounded to the format. -/
def roundUnits (u : Int) : Int :=
  if u < 0 then -(roundMagnitude u.natAbs 1 : Int) else roundMagnitude u.natAbs 1

theorem roundUnits_mono {u v : Int} (h : u ≤ v) : roundUnits u ≤ roundUnits v := by
  simp only [roundUnits]
  split <;> split
  case isTrue.isTrue =>
    have hle : v.natAbs ≤ u.natAbs := by omega
    have hround := roundMagnitude_mono hle
    omega
  case isTrue.isFalse => omega
  case isFalse.isTrue => omega
  case isFalse.isFalse =>
    have hle : u.natAbs ≤ v.natAbs := by omega
    have hround := roundMagnitude_mono hle
    omega

/-- A number of the format is rounded to itself. -/
theorem roundUnits_units (x : Binary64) : roundUnits x.units = x.units := by
  have hround := roundMagnitude_of_dvd x.onGrid
  unfold units
  split
  case isTrue hnegative =>
    rw [roundUnits, Int.natAbs_neg, Int.natAbs_natCast, hround]
    split <;> omega
  case isFalse =>
    rw [roundUnits, Int.natAbs_natCast, hround]
    split <;> omega

theorem unitsOfInt_eq (i : Int) : unitsOfInt i = roundUnits (i * one) := by
  have hpos : 0 < (one : Int) := Int.natCast_pos.2 (twoPow_pos _)
  have hsign : i * one < 0 ↔ i < 0 := by
    refine ⟨fun h => ?_, fun h => Int.mul_neg_of_neg_of_pos h hpos⟩
    exact Int.not_le.1 fun hi => Int.not_le.2 h (Int.mul_nonneg hi (Int.le_of_lt hpos))
  simp only [unitsOfInt, roundUnits, Int.natAbs_mul, Int.natAbs_natCast, hsign]

theorem unitsOfInt_mono {i j : Int} (h : i ≤ j) : unitsOfInt i ≤ unitsOfInt j := by
  rw [unitsOfInt_eq, unitsOfInt_eq]
  exact roundUnits_mono (Int.mul_le_mul_of_nonneg_right h (Int.natCast_nonneg one))

end Binary64

end ListQuery
