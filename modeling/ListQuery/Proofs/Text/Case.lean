import ListQuery.Text.Case
import Mathlib.Data.List.Infix

/-!
# Parts of texts in lower case

The lower-case form of a part of a text need not be a part of the lower-case form of the text: a
capital sigma has one of two forms, and which one may depend on characters that the part does not
have.  It is so for no other character.

* `Text.lowerBetween` : the lower-case form of a part, given what stands on both sides of it;
* `Text.isSettled` : every capital sigma of the text has its form by the text alone;
* `Text.count_lowerBetween_lt` : a form that other neighbours give to one sigma more is found more
  often;
* `Text.isSettled_iff` : in lower case, the text is a part of every text that it was a part of, just
  if it is settled.
-/

namespace ListQuery

namespace Text

variable {before after cs cs' : List Char} {c : Char}

/-! ### Neighbours -/

theorem startsCased_append (cs cs' : List Char) :
    startsCased (cs ++ cs') =
      if cs.all isCaseIgnorable then startsCased cs' else startsCased cs := by
  induction cs with
  | nil => rfl
  | cons c cs ih =>
    cases hc : isCaseIgnorable c with
    | true => simpa [startsCased, hc] using ih
    | false => simp [startsCased, hc]

theorem startsCased_of_all (h : cs.all isCaseIgnorable = true) : startsCased cs = false := by
  have happend := startsCased_append cs []
  rwa [List.append_nil, if_pos h] at happend

theorem startsCased_append_of_not_all (h : cs.all isCaseIgnorable = false) (cs' : List Char) :
    startsCased (cs ++ cs') = startsCased cs := by
  rw [startsCased_append, h]
  rfl

theorem startsCased_append_of_startsCased (h : startsCased cs = true) (cs' : List Char) :
    startsCased (cs ++ cs') = true := by
  cases hall : cs.all isCaseIgnorable with
  | true => cases h.symm.trans (startsCased_of_all hall)
  | false => rw [startsCased_append_of_not_all hall, h]

theorem startsCased_of_append (h : startsCased (cs ++ cs') = false) : startsCased cs = false :=
  Bool.eq_false_iff.2 fun hcs =>
    Bool.false_ne_true (h.symm.trans (startsCased_append_of_startsCased hcs cs'))

theorem lowerSigma_eq_final_iff : lowerSigma before after = 'ς' ↔
    startsCased before = true ∧ startsCased after = false := by
  rw [lowerSigma]
  cases startsCased before <;> cases startsCased after <;> decide

theorem lowerSigma_eq_medial_iff : lowerSigma before after = 'σ' ↔
    startsCased before = false ∨ startsCased after = true := by
  rw [lowerSigma]
  cases startsCased before <;> cases startsCased after <;> decide

/-! ### Parts -/

/-- The lower-case form of a text that stands between `before` (nearest character first) and
`after`. -/
def lowerBetween (before after : List Char) : List Char → List Char
  | [] => []
  | c :: cs =>
    (if c = capitalSigma then [lowerSigma before (cs ++ after)] else lowerChar c) ++
      lowerBetween (c :: before) after cs

theorem lowerAfter_eq_lowerBetween (before cs : List Char) :
    lowerAfter before cs = lowerBetween before [] cs := by
  induction cs generalizing before with
  | nil => rfl
  | cons c cs ih => rw [lowerAfter, lowerBetween, ih, List.append_nil]

theorem lowerBetween_append (before after cs cs' : List Char) :
    lowerBetween before after (cs ++ cs') =
      lowerBetween before (cs' ++ after) cs ++ lowerBetween (cs.reverse ++ before) after cs' := by
  induction cs generalizing before with
  | nil => rfl
  | cons c cs ih =>
    rw [List.cons_append, lowerBetween, lowerBetween, ih, List.reverse_cons, List.append_assoc,
      List.append_assoc, List.append_assoc]
    rfl

theorem lowerChars_append (cs cs' : List Char) :
    lowerChars (cs ++ cs') = lowerBetween [] cs' cs ++ lowerBetween cs.reverse [] cs' := by
  rw [lowerChars, lowerAfter_eq_lowerBetween, lowerBetween_append, List.append_nil, List.append_nil]

/-! ### Settled texts -/

/-- A capital sigma between two texts has its form whatever stands around these.  It does not end a
word if a cased character comes next behind it, or one in front of it that is neither cased nor
case-ignorable; and characters on both sides that are not case-ignorable decide by themselves. -/
def settlesSigma (before after : List Char) : Bool :=
  startsCased after ||
    !before.all isCaseIgnorable && (!startsCased before || !after.all isCaseIgnorable)

/-- Every capital sigma of a text that follows `before` (nearest character first) is settled. -/
def settledAfter (before : List Char) : List Char → Bool
  | [] => true
  | c :: cs => (c != capitalSigma || settlesSigma before cs) && settledAfter (c :: before) cs

/-- **Every capital sigma of the text has its form by the text alone.** -/
def isSettled (cs : List Char) : Bool :=
  settledAfter [] cs

theorem lowerSigma_append_of_settlesSigma (h : settlesSigma before after = true)
    (further beyond : List Char) :
    lowerSigma (before ++ further) (after ++ beyond) = lowerSigma before after := by
  simp only [settlesSigma, Bool.or_eq_true, Bool.and_eq_true, Bool.not_eq_true'] at h
  rw [lowerSigma, lowerSigma]
  obtain hafter | ⟨hbefore, hother | hafter⟩ := h
  · rw [startsCased_append_of_startsCased hafter, hafter, Bool.not_true, Bool.and_false,
      Bool.and_false]
  · rw [startsCased_append_of_not_all hbefore, hother]
    rfl
  · rw [startsCased_append_of_not_all hbefore, startsCased_append_of_not_all hafter]

theorem lowerBetween_of_settledAfter (h : settledAfter before cs = true)
    (further beyond : List Char) :
    lowerBetween (before ++ further) beyond cs = lowerAfter before cs := by
  induction cs generalizing before with
  | nil => rfl
  | cons c cs ih =>
    rw [settledAfter, Bool.and_eq_true, Bool.or_eq_true, bne_iff_ne] at h
    obtain ⟨hsigma, hcs⟩ := h
    have hc : (if c = capitalSigma then [lowerSigma (before ++ further) (cs ++ beyond)]
        else lowerChar c) = if c = capitalSigma then [lowerSigma before cs] else lowerChar c := by
      split
      case isTrue hc =>
        rw [lowerSigma_append_of_settlesSigma (hsigma.resolve_left fun hne => hne hc)]
      case isFalse => rfl
    rw [lowerBetween, hc, ← List.cons_append, ih hcs, lowerAfter]

/-- In lower case, a settled text is a part of every text that it was a part of. -/
theorem infix_lowerChars_of_isSettled (hsettled : isSettled cs = true) (h : cs <:+: cs') :
    lowerChars cs <:+: lowerChars cs' := by
  obtain ⟨front, back, rfl⟩ := h
  have hcs : lowerBetween (front.reverse ++ []) back cs = lowerChars cs := by
    rw [List.append_nil]
    exact lowerBetween_of_settledAfter hsettled front.reverse back
  rw [lowerChars_append, lowerBetween_append, hcs]
  exact List.infix_append _ _ _

theorem exists_sigma_of_not_settledAfter (h : settledAfter before cs = false) :
    ∃ front back, cs = front ++ capitalSigma :: back ∧
      settlesSigma (front.reverse ++ before) back = false := by
  induction cs generalizing before with
  | nil => cases h
  | cons c cs ih =>
    rw [settledAfter, Bool.and_eq_false_iff, Bool.or_eq_false_iff, bne_eq_false_iff_eq] at h
    obtain ⟨rfl, hsigma⟩ | hcs := h
    · exact ⟨[], cs, rfl, hsigma⟩
    · obtain ⟨front, back, rfl, hsigma⟩ := ih hcs
      refine ⟨c :: front, back, rfl, ?_⟩
      rwa [List.reverse_cons, List.append_assoc]

/-! ### Other neighbours -/

section Neighbours

variable {x x' y y' : List Char} {d : Char}
  (hform : ∀ before after, lowerSigma (before ++ x) (after ++ y) = d →
    lowerSigma (before ++ x') (after ++ y') = d)
include hform

/-- Neighbours that give no sigma the form less give it as often at least. -/
theorem count_lowerBetween_le (before after cs : List Char) :
    (lowerBetween (before ++ x) (after ++ y) cs).count d ≤
      (lowerBetween (before ++ x') (after ++ y') cs).count d := by
  induction cs generalizing before with
  | nil => exact Nat.le_refl _
  | cons c cs ih =>
    rw [lowerBetween, lowerBetween, List.count_append, List.count_append]
    refine Nat.add_le_add ?_ (ih (c :: before))
    split
    case isTrue =>
      have hsigma := hform before (cs ++ after)
      rw [List.append_assoc, List.append_assoc] at hsigma
      rw [List.count_singleton, List.count_singleton]
      split
      case isTrue hd => rw [if_pos (beq_iff_eq.2 (hsigma (beq_iff_eq.1 hd)))]
      case isFalse => exact Nat.zero_le _
    case isFalse => exact Nat.le_refl _

theorem count_lowerBetween_lt {front back : List Char}
    (hold : lowerSigma (front.reverse ++ x) (back ++ y) ≠ d)
    (hnew : lowerSigma (front.reverse ++ x') (back ++ y') = d) :
    (lowerBetween x y (front ++ capitalSigma :: back)).count d <
      (lowerBetween x' y' (front ++ capitalSigma :: back)).count d := by
  have hfront := count_lowerBetween_le hform [] (capitalSigma :: back) front
  have hback := count_lowerBetween_le hform (capitalSigma :: front.reverse) [] back
  rw [List.nil_append, List.nil_append] at hfront hback
  have hcount (x y : List Char) : (lowerBetween x y (front ++ capitalSigma :: back)).count d =
      (lowerBetween x (capitalSigma :: back ++ y) front).count d +
        (if lowerSigma (front.reverse ++ x) (back ++ y) = d then 1 else 0) +
        (lowerBetween (capitalSigma :: front.reverse ++ x) y back).count d := by
    rw [lowerBetween_append, lowerBetween, if_pos rfl, List.count_append, List.count_append,
      List.count_singleton, Nat.add_assoc]
    simp
  rw [hcount, hcount, if_neg hold, if_pos hnew]
  omega

end Neighbours

theorem not_infix_of_count_lt {d : Char} (h : cs'.count d < cs.count d) : ¬ cs <:+: cs' :=
  fun hpart => Nat.not_le.2 h (hpart.sublist.count_le d)

theorem startsCased_letter : startsCased ['a'] = true := by
  decide +kernel

/-- A letter behind the text takes the form at the end of a word from its last sigma. -/
theorem not_infix_lowerChars_append {front back : List Char}
    (hcs : cs = front ++ capitalSigma :: back) (hfront : startsCased front.reverse = true)
    (hback : back.all isCaseIgnorable = true) : ¬ lowerChars cs <:+: lowerChars (cs ++ ['a']) := by
  refine not_infix_of_count_lt (d := 'ς') ?_
  have hlt : (lowerBetween [] ['a'] cs).count 'ς' < (lowerBetween [] [] cs).count 'ς' := by
    rw [hcs]
    refine count_lowerBetween_lt (fun before after => ?_) ?_ ?_
    · rw [lowerSigma_eq_final_iff, lowerSigma_eq_final_iff, List.append_nil after]
      exact And.imp_right startsCased_of_append
    · rw [Ne, lowerSigma_eq_final_iff, startsCased_append back, if_pos hback]
      exact fun hfinal => Bool.false_ne_true (hfinal.2.symm.trans startsCased_letter)
    · rw [lowerSigma_eq_final_iff, List.append_nil, List.append_nil]
      exact ⟨hfront, startsCased_of_all hback⟩
  have hletter : (lowerBetween cs.reverse [] ['a']).count 'ς' = 0 := rfl
  rw [lowerChars_append, List.count_append, hletter, Nat.add_zero, lowerChars,
    lowerAfter_eq_lowerBetween]
  exact hlt

/-- A letter in front of the text makes its first sigma one at the end of a word. -/
theorem not_infix_lowerChars_cons {front back : List Char}
    (hcs : cs = front ++ capitalSigma :: back) (hfront : front.all isCaseIgnorable = true)
    (hback : startsCased back = false) : ¬ lowerChars cs <:+: lowerChars ('a' :: cs) := by
  refine not_infix_of_count_lt (d := 'σ') ?_
  rw [← List.all_reverse] at hfront
  have hlt : (lowerBetween ['a'] [] cs).count 'σ' < (lowerBetween [] [] cs).count 'σ' := by
    rw [hcs]
    refine count_lowerBetween_lt (fun before after => ?_) ?_ ?_
    · rw [lowerSigma_eq_medial_iff, lowerSigma_eq_medial_iff, List.append_nil before]
      exact Or.imp_left startsCased_of_append
    · rw [Ne, lowerSigma_eq_medial_iff, startsCased_append front.reverse, if_pos hfront,
        List.append_nil, hback, startsCased_letter]
      exact not_or_intro Bool.false_ne_true.symm Bool.false_ne_true
    · rw [lowerSigma_eq_medial_iff, List.append_nil]
      exact .inl (startsCased_of_all hfront)
  have hletter : (lowerBetween [] cs ['a']).count 'σ' = 0 := rfl
  have hcons : lowerChars ('a' :: cs) = lowerBetween [] cs ['a'] ++ lowerBetween ['a'] [] cs :=
    lowerChars_append ['a'] cs
  rw [hcons, List.count_append, hletter, Nat.zero_add, lowerChars, lowerAfter_eq_lowerBetween]
  exact hlt

/-- A text that is not settled is a part of some text of which it is none in lower case. -/
theorem exists_infix_of_not_isSettled (h : isSettled cs = false) :
    ∃ cs', cs <:+: cs' ∧ ¬ lowerChars cs <:+: lowerChars cs' := by
  obtain ⟨front, back, hcs, hsigma⟩ := exists_sigma_of_not_settledAfter h
  simp only [settlesSigma, List.append_nil, Bool.or_eq_false_iff, Bool.and_eq_false_iff,
    Bool.not_eq_false', List.all_reverse] at hsigma
  obtain ⟨hback, hfront | ⟨hfront, hall⟩⟩ := hsigma
  · exact ⟨'a' :: cs, (List.suffix_cons 'a' cs).isInfix, not_infix_lowerChars_cons hcs hfront hback⟩
  · exact ⟨cs ++ ['a'], (List.prefix_append cs ['a']).isInfix,
      not_infix_lowerChars_append hcs hfront hall⟩

/-- **In lower case, a text is a part of every text that it was a part of**, just if each capital
sigma has its form by the text alone. -/
theorem isSettled_iff :
    isSettled cs = true ↔ ∀ cs', cs <:+: cs' → lowerChars cs <:+: lowerChars cs' := by
  constructor
  · exact fun h _ => infix_lowerChars_of_isSettled h
  · intro h
    cases hsettled : isSettled cs with
    | true => rfl
    | false =>
      obtain ⟨cs', hpart, hlower⟩ := exists_infix_of_not_isSettled hsettled
      exact absurd (h cs' hpart) hlower

-- A sigma between letters has one form in all words, one behind letters has not.
example : isSettled "ΑΣΑ".toList = true ∧ isSettled "ΑΣ".toList = false := by
  decide +kernel

end Text

end ListQuery
