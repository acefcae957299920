/-!
# Finite binary floating-point numbers of 64 bits

A finite number of the format is a whole number of units of `2 ^ -1074`, with a sign of its own so
that there are two zeros.  Comparison is comparison of integers.

* `Binary64` : the numbers.
* `Binary64.roundMagnitude` : a positive fraction rounded to the format, a tie going to the even
  neighbour.
* `Binary64.ofDecimal?` : the number nearest to a decimal fraction, unless it is out of range.
-/

namespace ListQuery

namespace Binary64

/-- The unit is `2 ^ -unitExponent`. -/
def unitExponent : Nat := 1074

/-- The `n`th power of two. -/
def twoPow (n : Nat) : Nat := Nat.pow 2 n

theorem twoPow_pos (n : Nat) : 0 < twoPow n :=
  Nat.two_pow_pos n

/-- The number of units in one. -/
def one : Nat := twoPow unitExponent

/-- The least power of two beyond the finite numbers, in units. -/
def limit : Nat := twoPow (1024 + unitExponent)

/-- The distance of neighbouring numbers about the magnitude `m`: numbers have 53 binary digits,
and no digit below the unit. -/
def spacing (m : Nat) : Nat := twoPow (m.log2 - 52)

/-- The quotient `num / den` rounded to a whole number, a half going to the even neighbour. -/
def roundHalfEven (num den : Nat) : Nat :=
  let q := num / den
  let r := num % den
  if 2 * r < den then q else if den < 2 * r then q + 1 else q + q % 2

/-- The quotient `num / den`, counted in units, rounded to the magnitude of a number. -/
def roundMagnitude (num den : Nat) : Nat :=
  let s := spacing (num / den)
  roundHalfEven num (den * s) * s

end Binary64

/-- A finite number of the format. -/
structure Binary64 where
  /-- The sign, which zero has too. -/
  negative : Bool
  /-- The absolute value, in units of `2 ^ -1074`. -/
  magnitude : Nat
  /-- At most 53 binary digits are in use. -/
  onGrid : Binary64.spacing magnitude ∣ magnitude
  /-- The number is in range. -/
  finite : magnitude < Binary64.limit
deriving DecidableEq, Repr

namespace Binary64

/-- The signed value in units; both zeros give `0`. -/
def units (x : Binary64) : Int :=
  if x.negative then -(x.magnitude : Int) else x.magnitude

/-! ### Rounding stays in the format -/

theorem roundHalfEven_le (num den : Nat) : roundHalfEven num den ≤ num / den + 1 := by
  simp only [roundHalfEven]
  split
  · omega
  · split <;> omega

theorem roundHalfEven_spacing_le (num den : Nat) :
    roundHalfEven num (den * spacing (num / den)) ≤ twoPow 53 := by
  refine Nat.le_trans (roundHalfEven_le ..) ?_
  rw [← Nat.div_div_eq_div_mul]
  simp only [twoPow, Nat.pow_eq]
  generalize num / den = q
  have hlt : q < 2 ^ (q.log2 + 1) := by
    by_cases hq : q = 0
    · subst hq; decide
    · exact (Nat.log2_lt hq).1 (Nat.lt_succ_self _)
  have : q / spacing q < 2 ^ 53 := by
    rw [spacing, twoPow, Nat.pow_eq, Nat.div_lt_iff_lt_mul (Nat.two_pow_pos _), ← Nat.pow_add]
    exact Nat.lt_of_lt_of_le hlt (Nat.pow_le_pow_right (by decide) (by omega))
  omega

theorem spacing_dvd_of_le {k e : Nat} (h : k ≤ twoPow 53) :
    spacing (k * twoPow e) ∣ k * twoPow e := by
  simp only [spacing, twoPow, Nat.pow_eq] at h ⊢
  have hp : 0 < 2 ^ e := Nat.two_pow_pos e
  by_cases h0 : k = 0
  · subst h0; simp
  · have hne : k * 2 ^ e ≠ 0 := Nat.mul_ne_zero h0 (by omega)
    by_cases hk : k = 2 ^ 53
    · subst hk
      rw [← Nat.pow_add, Nat.log2_two_pow]
      exact Nat.pow_dvd_pow 2 (by omega)
    · have hlog : (k * 2 ^ e).log2 < 53 + e := by
        rw [Nat.log2_lt hne, Nat.pow_add]
        exact (Nat.mul_lt_mul_right hp).2 (by omega)
      exact Nat.dvd_trans (Nat.pow_dvd_pow 2 (by omega)) (Nat.dvd_mul_left _ _)

theorem spacing_dvd_roundMagnitude (num den : Nat) :
    spacing (roundMagnitude num den) ∣ roundMagnitude num den :=
  spacing_dvd_of_le (roundHalfEven_spacing_le num den)

/-! ### Numbers from fractions -/

/-- The number nearest to `num / den`, with the given sign; `none` if it is out of range. -/
def ofRatio? (negative : Bool) (num den : Nat) : Option Binary64 :=
  let m := roundMagnitude (num * one) den
  if h : m < limit then some ⟨negative, m, spacing_dvd_roundMagnitude .., h⟩ else none

theorem limit_pos : 0 < limit :=
  twoPow_pos _

/-- The zero of the given sign. -/
def zero (negative : Bool) : Binary64 :=
  ⟨negative, 0, by simp, limit_pos⟩

/-- The number nearest to `coefficient * 10 ^ exponent`, with the given sign.  A first digit beyond
the four hundredth place on either side settles the matter: the fraction is out of range, or it is
nearest to zero. -/
def ofDecimal? (negative : Bool) (coefficient : Nat) (exponent : Int) : Option Binary64 :=
  let place := exponent + (Nat.toDigits 10 coefficient).length
  if coefficient = 0 ∨ place < -400 then some (zero negative)
  else if 400 < place then none
  else if 0 ≤ exponent then ofRatio? negative (coefficient * Nat.pow 10 exponent.toNat) 1
  else ofRatio? negative coefficient (Nat.pow 10 (-exponent).toNat)

/-- The value in units of the number nearest to the integer `i`. -/
def unitsOfInt (i : Int) : Int :=
  let m := roundMagnitude (i.natAbs * one) 1
  if i < 0 then -(m : Int) else m

end Binary64

end ListQuery
