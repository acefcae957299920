import ListQuery.Number.Integer
import ListQuery.Proofs.Text.Blank

/-!
# Numbers read back from their digits

* `Digits.value_toDigits` : the digits of a number denote it;
* `Integer.read?_toString_of_le`, `Integer.read?_toString` : a number that fits 64 bits is read back
  from its text.
-/

namespace ListQuery

namespace Digits

/-- One digit more.  The next number has a name, as unfolding goes astray in the arithmetic. -/
theorem valueFrom_cons {n next : Nat} {c : Char} (cs : List Char)
    (h : next = 10 * n + (c.toNat - '0'.toNat)) : valueFrom n (c :: cs) = valueFrom next cs := by
  rw [Nat.mul_comm] at h
  subst h
  rfl

theorem valueFrom_eq (n : Nat) (cs : List Char) : valueFrom n cs = Nat.ofDigitChars 10 cs n := by
  induction cs generalizing n with
  | nil => rw [Nat.ofDigitChars_nil]; rfl
  | cons c cs ih =>
    obtain ⟨next, hnext⟩ : ∃ next, next = 10 * n + (c.toNat - '0'.toNat) := ⟨_, rfl⟩
    rw [valueFrom_cons cs hnext, ih, Nat.ofDigitChars_cons, hnext]

theorem value_toDigits (n : Nat) : value (Nat.toDigits 10 n) = n := by
  rw [value, valueFrom_eq, Nat.ofDigitChars_ten_toDigits]

theorem isDigit_toDigits {n : Nat} {c : Char} (h : c ∈ Nat.toDigits 10 n) : c.isDigit = true :=
  Nat.isDigit_of_mem_toDigits (by decide) (by decide) h

theorem valid_toDigits (n : Nat) : valid (Nat.toDigits 10 n) = true := by
  rw [valid, Bool.and_eq_true, Bool.not_eq_true', List.isEmpty_eq_false_iff, List.all_eq_true]
  exact ⟨Nat.toDigits_ne_nil, fun _ => isDigit_toDigits⟩

theorem isBlank_of_isDigit {c : Char} (h : c.isDigit = true) : Text.isBlank c = false := by
  rw [Char.isDigit, Bool.and_eq_true, decide_eq_true_eq, decide_eq_true_eq] at h
  have hleast : 48 ≤ c.toNat := h.1
  have hgreatest : c.toNat ≤ 57 := h.2
  generalize hn : c.toNat = n at hleast hgreatest
  simp only [Text.isBlank, hn, Bool.or_eq_false_iff, Bool.and_eq_false_iff, decide_eq_false_iff_not,
    beq_eq_false_iff_ne]
  omega

end Digits

namespace Integer

theorem splitSign_of_isDigit {cs : List Char} (h : ∀ c ∈ cs, c.isDigit = true) :
    splitSign cs = (false, cs) := by
  unfold splitSign
  split
  case h_1 => exact absurd (h '-' List.mem_cons_self) (by decide)
  case h_2 => exact absurd (h '+' List.mem_cons_self) (by decide)
  case h_3 => rfl

theorem value?_toDigits (n : Nat) : value? (Nat.toDigits 10 n) = some (n : Int) := by
  rw [value?, splitSign_of_isDigit fun _ => Digits.isDigit_toDigits]
  simp [Digits.valid_toDigits, Digits.value_toDigits]

theorem value?_minus_toDigits (n : Nat) :
    value? ('-' :: Nat.toDigits 10 n) = some (-(n : Int)) := by
  simp [value?, splitSign, Digits.valid_toDigits, Digits.value_toDigits]

theorem value?_toString (i : Int) : value? (toString i).toList = some i := by
  cases i with
  | ofNat n =>
    have hchars : (toString (Int.ofNat n)).toList = Nat.toDigits 10 n := Nat.toList_repr
    rw [hchars, value?_toDigits]
    rfl
  | negSucc n =>
    have hchars : (toString (Int.negSucc n)).toList = '-' :: Nat.toDigits 10 (n + 1) := by
      have htext : toString (Int.negSucc n) = "-" ++ Nat.repr (n + 1) := rfl
      rw [htext, String.toList_append, Nat.toList_repr]
      rfl
    rw [hchars, value?_minus_toDigits]
    rfl

/-- **An integer that fits 64 bits is read back from its text.** -/
theorem read?_toString_of_le {i : Int} (hleast : min64 ≤ i) (hgreatest : i ≤ max64) :
    read? (toString i).toList = some i := by
  rw [read?, value?_toString]
  simp [hleast, hgreatest]

/-- **A number that fits 64 bits is read back from its text**, in which there is nothing to trim. -/
theorem read?_toString {n : Nat} (h : (n : Int) ≤ max64) :
    read? (Text.trimChars (toString n).toList) = some (n : Int) := by
  have hchars : (toString n).toList = Nat.toDigits 10 n := by
    rw [Nat.toString_eq_repr, Nat.toList_repr]
  have htrimmed : Text.trimChars (Nat.toDigits 10 n) = Nat.toDigits 10 n := by
    refine Text.trimChars_eq_self_iff.2 (Text.isTrimmed_of_forall fun c hc => ?_)
    exact Digits.isBlank_of_isDigit (Digits.isDigit_toDigits hc)
  have hleast : min64 ≤ (n : Int) := by
    rw [min64]
    omega
  rw [hchars, htrimmed, read?, value?_toDigits]
  simp [hleast, h]

end Integer

end ListQuery
