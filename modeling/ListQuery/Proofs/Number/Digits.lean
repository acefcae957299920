import ListQuery.Proofs.Number.Integer

/-!
# Decimal digits

* `Digits.value_append`, `Digits.value_zeros`, `Digits.value_lt` : the number that digits denote;
* `Digits.Spells` : a number in a fixed number of digits.
-/

namespace ListQuery

namespace Digits

theorem value_append (cs ds : List Char) :
    value (cs ++ ds) = value cs * Nat.pow 10 ds.length + value ds := by
  simp only [value, valueFrom_eq, Nat.pow_eq]
  rw [Nat.ofDigitChars_append, Nat.ofDigitChars_eq_ofDigitChars_zero, Nat.mul_comm]

theorem value_zeros (n : Nat) : value (List.replicate n '0') = 0 := by
  rw [value, valueFrom_eq, Nat.ofDigitChars_replicate_zero, Nat.mul_zero]

theorem value_singleton_lt {c : Char} (h : c.isDigit = true) : value [c] < 10 := by
  have hdigit : c.toNat ≤ 57 := (Char.isDigit_iff_toNat.1 h).2
  have hvalue : value [c] = c.toNat - '0'.toNat := by
    rw [value, valueFrom_cons [] (Nat.zero_add _).symm]
    rfl
  have hzero : '0'.toNat = 48 := rfl
  omega

theorem value_lt {cs : List Char} (h : ∀ c ∈ cs, c.isDigit = true) :
    value cs < Nat.pow 10 cs.length := by
  induction cs with
  | nil => decide
  | cons c cs ih =>
    rw [List.forall_mem_cons] at h
    have hfirst := value_singleton_lt h.1
    have hrest := ih h.2
    have hsplit := value_append [c] cs
    rw [List.singleton_append] at hsplit
    simp only [Nat.pow_eq] at hrest hsplit ⊢
    calc value (c :: cs)
      _ = value [c] * 10 ^ cs.length + value cs := hsplit
      _ < value [c] * 10 ^ cs.length + 10 ^ cs.length := Nat.add_lt_add_left hrest _
      _ = (value [c] + 1) * 10 ^ cs.length := (Nat.succ_mul ..).symm
      _ ≤ 10 * 10 ^ cs.length := Nat.mul_le_mul_right _ hfirst
      _ = 10 ^ (c :: cs).length := (Nat.pow_succ' ..).symm

/-- `cs` are `width` digits that denote `n`. -/
structure Spells (width n : Nat) (cs : List Char) : Prop where
  /-- There are as many. -/
  length : cs.length = width
  /-- They are digits. -/
  isDigit : ∀ c ∈ cs, c.isDigit = true
  /-- They denote the number. -/
  value : Digits.value cs = n

end Digits

end ListQuery
