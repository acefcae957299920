import ListQuery.Number.Decimal
import ListQuery.Proofs.Number.Digits
import ListQuery.Proofs.Number.Rounding

/-!
# Numbers read back from their decimals

* `Decimal.exists_read?_write` : the text of a decimal without an exponent is read as one of the
  same value;
* `Binary64.toBinary64?_exact`, `Binary64.toBinary64?_shortest` : the decimals of a binary fraction
  are those of no other;
* `Binary64.read?_write` : a binary fraction is read back from its text.
-/

namespace ListQuery

/-! ### Digits -/

namespace Digits

theorem length_toDigits_le_iff {n l : Nat} (h : n ≠ 0) :
    (Nat.toDigits 10 n).length ≤ l ↔ n < Nat.pow 10 l := by
  cases l with
  | zero =>
    have hpos : 0 < (Nat.toDigits 10 n).length := Nat.length_toDigits_pos
    simp only [Nat.pow_eq, Nat.pow_zero]
    omega
  | succ l => exact Nat.length_toDigits_le_iff (by decide) (Nat.succ_pos l)

theorem length_toDigits_mul_pow {n : Nat} (h : n ≠ 0) (k : Nat) :
    (Nat.toDigits 10 (n * Nat.pow 10 k)).length = (Nat.toDigits 10 n).length + k := by
  have hten : 0 < Nat.pow 10 k := Nat.pow_pos (by decide)
  have hiff (l : Nat) : (Nat.toDigits 10 (n * Nat.pow 10 k)).length ≤ l ↔
      (Nat.toDigits 10 n).length + k ≤ l := by
    rw [length_toDigits_le_iff (Nat.mul_ne_zero h (Nat.pos_iff_ne_zero.1 hten))]
    obtain hlt | hle := Nat.lt_or_ge l k
    · have hpow : Nat.pow 10 l ≤ Nat.pow 10 k :=
        Nat.pow_le_pow_right (by decide) (Nat.le_of_lt hlt)
      have hscaled : Nat.pow 10 k ≤ n * Nat.pow 10 k :=
        Nat.le_mul_of_pos_left _ (Nat.pos_of_ne_zero h)
      omega
    · obtain ⟨l, rfl⟩ := Nat.exists_eq_add_of_le' hle
      rw [Nat.add_le_add_iff_right, length_toDigits_le_iff h]
      simp only [Nat.pow_eq, Nat.pow_add]
      exact Nat.mul_lt_mul_right hten
  exact Nat.le_antisymm ((hiff _).2 (Nat.le_refl _)) ((hiff _).1 (Nat.le_refl _))

end Digits

namespace Decimal

/-! ### Texts -/

/-- The sign of a number in front of its digits. -/
def sign (negative : Bool) : List Char :=
  if negative then ['-'] else []

theorem splitSign_append (negative : Bool) {c : Char} (cs : List Char) (hc : c.isDigit = true) :
    Integer.splitSign (sign negative ++ c :: cs) = (negative, c :: cs) := by
  cases negative with
  | true => rfl
  | false =>
    rw [sign, if_neg Bool.false_ne_true, List.nil_append]
    unfold Integer.splitSign
    split
    case h_1 heq =>
      cases heq
      exact absurd hc (by decide)
    case h_2 heq =>
      cases heq
      exact absurd hc (by decide)
    case h_3 => rfl

variable {ds fs : List Char}

theorem takeWhile_isDigit_append {rest : List Char} (hds : ∀ c ∈ ds, c.isDigit = true)
    (hrest : rest = [] ∨ ∃ cs, rest = '.' :: cs) :
    (ds ++ rest).takeWhile Char.isDigit = ds ∧ (ds ++ rest).dropWhile Char.isDigit = rest := by
  rw [List.takeWhile_append_of_pos hds, List.dropWhile_append_of_pos hds]
  obtain rfl | ⟨cs, rfl⟩ := hrest
  · simp
  · have hpoint : Char.isDigit '.' = false := by decide
    simp [hpoint]

theorem read?_whole (negative : Bool) (hne : ds ≠ []) (hds : ∀ c ∈ ds, c.isDigit = true) :
    read? (sign negative ++ ds) = some ⟨negative, Digits.value ds, 0⟩ := by
  obtain ⟨c, cs, rfl⟩ := List.exists_cons_of_ne_nil hne
  obtain ⟨htake, hdrop⟩ := takeWhile_isDigit_append hds (.inl rfl)
  rw [List.append_nil] at htake hdrop
  simp only [read?, splitSign_append negative cs (hds c List.mem_cons_self), htake, hdrop]
  simp [splitFraction, readExponent?]

theorem read?_fraction (negative : Bool) (hne : ds ≠ []) (hds : ∀ c ∈ ds, c.isDigit = true)
    (hfs : ∀ c ∈ fs, c.isDigit = true) : read? (sign negative ++ ds ++ '.' :: fs) =
      some ⟨negative, Digits.value (ds ++ fs), -(fs.length : Int)⟩ := by
  obtain ⟨c, cs, rfl⟩ := List.exists_cons_of_ne_nil hne
  obtain ⟨htake, hdrop⟩ := takeWhile_isDigit_append hds (.inr ⟨fs, rfl⟩)
  obtain ⟨htake', hdrop'⟩ := takeWhile_isDigit_append hfs (.inl rfl)
  rw [List.append_nil] at htake' hdrop'
  have hsplit := splitSign_append negative (cs ++ '.' :: fs) (hds c List.mem_cons_self)
  rw [← List.cons_append, ← List.append_assoc] at hsplit
  simp only [read?, hsplit, htake, hdrop, splitFraction, htake', hdrop']
  simp [readExponent?]

/-! ### Decimals -/

theorem ofDecimal?_mul_pow (negative : Bool) (c k : Nat) :
    Binary64.ofDecimal? negative (c * Nat.pow 10 k) 0 = Binary64.ofDecimal? negative c k := by
  by_cases hc : c = 0
  · subst hc
    simp [Binary64.ofDecimal?]
  · have hne : c * Nat.pow 10 k ≠ 0 :=
      Nat.mul_ne_zero hc (Nat.ne_of_gt (Nat.pow_pos (by decide)))
    have hplace : (0 : Int) + ((Nat.toDigits 10 (c * Nat.pow 10 k)).length : Nat) =
        (k : Int) + (Nat.toDigits 10 c).length := by
      rw [Digits.length_toDigits_mul_pow hc]
      push_cast
      omega
    have hone : Nat.pow 10 (0 : Int).toNat = 1 := rfl
    simp only [Binary64.ofDecimal?, hplace, hne, hc, hone, Int.toNat_natCast, Nat.mul_one]
    simp

theorem forall_zeros {n : Nat} : ∀ c ∈ zeros n, c.isDigit = true := by
  intro c hc
  rw [List.eq_of_mem_replicate hc]
  decide

theorem value_zeros_append (n : Nat) (ds : List Char) :
    Digits.value (zeros n ++ ds) = Digits.value ds := by
  rw [Digits.value_append, zeros, Digits.value_zeros, Nat.zero_mul, Nat.zero_add]

/-- Digits with a point are read with the power of ten that the point gives them; zeros in the place
of a power of ten are read as digits. -/
theorem read?_placePoint (negative : Bool) (hne : ds ≠ []) (hds : ∀ c ∈ ds, c.isDigit = true)
    (e : Int) : read? (sign negative ++ placePoint false ds (e + ds.length)) =
      some (if e < 0 then ⟨negative, Digits.value ds, e⟩
        else ⟨negative, Digits.value ds * Nat.pow 10 e.toNat, 0⟩) := by
  have hlength := List.length_pos_iff.2 hne
  rw [placePoint]
  split
  case isTrue hpoint =>
    -- All digits stand behind the point, with zeros between.
    have hfs : ∀ c ∈ zeros (-(e + ds.length)).toNat ++ ds, c.isDigit = true :=
      List.forall_mem_append.2 ⟨forall_zeros, hds⟩
    have hzeros : ['0'] ++ (zeros (-(e + ds.length)).toNat ++ ds) =
        zeros ((-(e + ds.length)).toNat + 1) ++ ds := rfl
    have hread := read?_fraction negative (List.cons_ne_nil '0' []) (by simp) hfs
    rw [hzeros, value_zeros_append] at hread
    have hexponent : -((zeros (-(e + ds.length)).toNat ++ ds).length : Int) = e := by
      rw [List.length_append, zeros, List.length_replicate]
      omega
    rw [hexponent] at hread
    rw [if_pos (by omega), ← hread]
    simp
  case isFalse hpoint =>
    split
    case isTrue hinside =>
      -- The point stands between the digits.
      have hfront : ds.take (e + ds.length).toNat ≠ [] := by
        rw [← List.length_pos_iff, List.length_take]
        omega
      have hfs : ∀ c ∈ ds.drop (e + ds.length).toNat, c.isDigit = true :=
        fun c hc => hds c (List.mem_of_mem_drop hc)
      have hread := read?_fraction negative hfront (fun c hc => hds c (List.mem_of_mem_take hc)) hfs
      have hexponent : -((ds.drop (e + ds.length).toNat).length : Int) = e := by
        rw [List.length_drop]
        omega
      rw [List.take_append_drop, hexponent] at hread
      rw [if_pos (by omega), ← hread, List.append_assoc]
    case isFalse hinside =>
      -- The number is whole, and zeros stand for the power of ten.
      have hpower : e + ds.length - ds.length = e := by omega
      have hread := read?_whole negative (List.append_ne_nil_of_left_ne_nil hne (zeros e.toNat))
        (List.forall_mem_append.2 ⟨hds, forall_zeros⟩)
      rw [Digits.value_append, zeros, Digits.value_zeros, List.length_replicate,
        Nat.add_zero] at hread
      rw [if_neg Bool.false_ne_true, if_neg (by omega), hpower, ← hread]
      simp [zeros]

/-- **The text of a decimal without an exponent is read as one of the same value.** -/
theorem exists_read?_write {style : Style} (hstyle : style.positional = none)
    (hwhole : style.marksWhole = false) (d : Decimal) :
    ∃ d', read? (d.write style).toList = some d' ∧ d'.toBinary64? = d.toBinary64? := by
  have hsign : (if d.negative then ['-'] else []) = sign d.negative := rfl
  simp only [write, hstyle, hwhole, hsign]
  split
  case isTrue hzero =>
    -- The power of ten of zero is lost, and does not matter.
    refine ⟨⟨d.negative, 0, 0⟩, ?_, ?_⟩
    · rw [String.toList_ofList]
      exact read?_whole d.negative (List.cons_ne_nil _ _) (by simp)
    · simp [toBinary64?, Binary64.ofDecimal?, hzero]
  case isFalse =>
    have hne : Nat.toDigits 10 d.coefficient ≠ [] := Nat.toDigits_ne_nil
    have hread := read?_placePoint d.negative hne (fun _ => Digits.isDigit_toDigits) d.exponent
    rw [Digits.value_toDigits] at hread
    refine ⟨_, by simpa using hread, ?_⟩
    split
    case isTrue => rfl
    case isFalse hwhole =>
      have hpower : d.exponent = d.exponent.toNat := by omega
      rw [toBinary64?, toBinary64?, hpower]
      exact ofDecimal?_mul_pow d.negative d.coefficient _

end Decimal

namespace Binary64

/-! ### Binary fractions -/

theorem roundMagnitude_mul {n den : Nat} (h : spacing n ∣ n) (hden : 0 < den) :
    roundMagnitude (n * den) den = n := by
  have hspacing : 0 < spacing n := twoPow_pos _
  obtain ⟨k, hk⟩ := h
  have hround : roundHalfEven (n * den) (den * spacing n) = k := by
    have hmul : n * den = den * spacing n * k := by
      conv_lhs => rw [hk]
      rw [Nat.mul_comm, Nat.mul_assoc]
    have hpos : 0 < den * spacing n := Nat.mul_pos hden hspacing
    simp [roundHalfEven, hmul, hpos]
  rw [roundMagnitude, Nat.mul_div_cancel _ hden, hround, Nat.mul_comm]
  exact hk.symm

/-- The exact decimal of a binary fraction, but for zero, has neither few digits nor very many: the
first one is within four hundred places of the point. -/
theorem length_toDigits_exact {x : Binary64} (h : x.magnitude ≠ 0) :
    673 < (Nat.toDigits 10 (x.magnitude * Nat.pow 5 unitExponent)).length ∧
      (Nat.toDigits 10 (x.magnitude * Nat.pow 5 unitExponent)).length ≤ 1474 := by
  have hleast : Nat.pow 10 673 ≤ Nat.pow 5 unitExponent := by decide +kernel
  have hgreatest : limit * Nat.pow 5 unitExponent ≤ Nat.pow 10 1474 := by decide +kernel
  -- The powers have names, as unfolding goes astray in the arithmetic.
  generalize Nat.pow 5 unitExponent = five at hleast hgreatest ⊢
  generalize 673 = low at hleast ⊢
  generalize 1474 = high at hgreatest ⊢
  have hpos : 0 < five := Nat.lt_of_lt_of_le (Nat.pow_pos (by decide)) hleast
  have hne : x.magnitude * five ≠ 0 := Nat.mul_ne_zero h (Nat.ne_of_gt hpos)
  constructor
  · rw [← Nat.not_le, Digits.length_toDigits_le_iff hne, Nat.not_lt]
    exact Nat.le_trans hleast (Nat.le_mul_of_pos_left _ (Nat.pos_of_ne_zero h))
  · rw [Digits.length_toDigits_le_iff hne]
    exact Nat.lt_of_lt_of_le (Nat.mul_lt_mul_of_pos_right x.finite hpos) hgreatest

/-- **The exact decimal of a binary fraction is read as it.** -/
theorem toBinary64?_exact {x : Binary64} (h : x.magnitude ≠ 0) :
    x.exact.toBinary64? = some x := by
  obtain ⟨hshort, hlong⟩ := length_toDigits_exact h
  have hunits : Nat.pow 5 unitExponent * one = Nat.pow 10 unitExponent := by
    simp only [one, twoPow, Nat.pow_eq, ← Nat.mul_pow]
  have hfives (n : Nat) : 0 < Nat.pow 5 n := Nat.pow_pos (by decide)
  have hpos := hfives unitExponent
  have hunit : (unitExponent : Int) = 1074 := rfl
  rw [Decimal.toBinary64?, exact, ofDecimal?]
  generalize Nat.pow 5 unitExponent = five at *
  generalize hten : Nat.pow 10 unitExponent = ten at *
  have hne : x.magnitude * five ≠ 0 := Nat.mul_ne_zero h (Nat.ne_of_gt hpos)
  -- In units the power of ten is gone.
  have hround : roundMagnitude (x.magnitude * five * one) ten = x.magnitude := by
    rw [Nat.mul_assoc, hunits]
    exact roundMagnitude_mul x.onGrid (hunits ▸ Nat.mul_pos hpos (twoPow_pos _))
  dsimp only
  rw [if_neg (by omega), if_neg (by omega), if_neg (by omega), Int.neg_neg,
    Int.toNat_natCast, hten, ofRatio?]
  simp only [hround, x.finite, dite_true]

theorem test_of_first (test : Decimal → Bool) {a b c d : Decimal}
    (h : (if test a then some a else if test b then some b else if test c then some c else none) =
      some d) : test d = true := by
  split at h
  case isTrue ha =>
    cases h
    exact ha
  case isFalse =>
    split at h
    case isTrue hb =>
      cases h
      exact hb
    case isFalse =>
      split at h
      case isTrue hc =>
        cases h
        exact hc
      case isFalse => cases h

theorem toBinary64?_of_roundTo? {tie : Decimal.Tie} {x : Binary64} {n : Nat} {d : Decimal}
    (h : roundTo? tie x n = some d) : d.toBinary64? = some x := by
  unfold roundTo? at h
  exact beq_iff_eq.1 (test_of_first (fun d => d.toBinary64? == some x) h)

/-- **The shortest decimal of a binary fraction is read as it.** -/
theorem toBinary64?_shortest (tie : Decimal.Tie) (x : Binary64) :
    (x.shortest tie).toBinary64? = some x := by
  rw [shortest]
  split
  case isTrue hzero =>
    obtain ⟨negative, magnitude, onGrid, finite⟩ := x
    subst hzero
    rfl
  case isFalse hne =>
    cases hfind : (List.range' 1 17).findSome? (roundTo? tie x) with
    | none => exact toBinary64?_exact hne
    | some d =>
      obtain ⟨n, -, hd⟩ := List.exists_of_findSome?_eq_some hfind
      exact toBinary64?_of_roundTo? hd

/-- **A binary fraction is read back from its text**, if that has no exponent. -/
theorem read?_write {style : Decimal.Style} (hstyle : style.positional = none)
    (hwhole : style.marksWhole = false) (x : Binary64) :
    (Decimal.read? (x.write style).toList).bind Decimal.toBinary64? = some x := by
  obtain ⟨d, hread, hd⟩ := Decimal.exists_read?_write hstyle hwhole (x.shortest style.tie)
  rw [write, hread, Option.bind_some, hd, toBinary64?_shortest]

end Binary64

end ListQuery
