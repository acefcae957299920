import ListQuery.Text.Blank
import Mathlib.Data.List.Basic
import Mathlib.Data.List.TakeWhile

/-!
# Texts without blanks at their ends

* `Text.IsTrimmed` : neither the first nor the last character is a blank;
* `Text.isTrimmed_trimChars`, `Text.trimChars_eq_self_iff` : such texts are what trimming gives, and
  what it leaves as they are;
* `Text.trimChars_blank_append`, `Text.trimChars_append_blank`, `Text.exists_eq_append_trimChars` :
  trimming takes away blanks, and does so however many there are;
* `Text.nonBlank?_eq_some_iff` : what is left of a text that is not blank.
-/

namespace ListQuery

namespace Text

variable {cs : List Char} {s t : String}

/-- Neither the first nor the last character is a blank. -/
def IsTrimmed (cs : List Char) : Prop :=
  ∀ c, cs.head? = some c ∨ cs.getLast? = some c → isBlank c = false

theorem isTrimmed_of_forall (h : ∀ c ∈ cs, isBlank c = false) : IsTrimmed cs := by
  rintro c (hc | hc)
  · exact h c (List.mem_of_mem_head? hc)
  · exact h c (List.mem_of_mem_getLast? hc)

theorem isBlank_of_head?_trimStart {c : Char} (h : (trimStart cs).head? = some c) :
    isBlank c = false := by
  have hhead := List.head?_dropWhile_not isBlank cs
  rw [← trimStart, h] at hhead
  exact hhead

theorem trimStart_eq_self (h : ∀ c, cs.head? = some c → isBlank c = false) :
    trimStart cs = cs := by
  cases cs with
  | nil => rfl
  | cons c cs => exact List.dropWhile_cons_of_neg (by simp [h c rfl])

/-- **Trimming leaves no blanks at the ends.** -/
theorem isTrimmed_trimChars (cs : List Char) : IsTrimmed (trimChars cs) := by
  rintro c (hc | hc)
  · -- What is left has the first character that was there before its end was cut.
    have hfront : trimChars cs <+: trimStart cs := by
      rw [trimChars, trimEnd, ← List.reverse_suffix, List.reverse_reverse]
      exact List.dropWhile_suffix isBlank
    obtain ⟨rest, hrest⟩ := hfront
    have hhead : (trimStart cs).head? = some c := by
      rw [← hrest, List.head?_append, hc, Option.some_or]
    exact isBlank_of_head?_trimStart hhead
  · rw [trimChars, trimEnd, List.getLast?_reverse] at hc
    exact isBlank_of_head?_trimStart hc

/-- **What has no blanks at its ends is left as it is**, and nothing else. -/
theorem trimChars_eq_self_iff : trimChars cs = cs ↔ IsTrimmed cs := by
  constructor
  · intro h
    exact h ▸ isTrimmed_trimChars cs
  · intro h
    have hend : trimStart cs.reverse = cs.reverse := by
      refine trimStart_eq_self fun c hc => h c (.inr ?_)
      rwa [List.head?_reverse] at hc
    rw [trimChars, trimStart_eq_self fun c hc => h c (.inl hc), trimEnd, hend, List.reverse_reverse]

theorem trim_eq_self_iff : trim s = s ↔ IsTrimmed s.toList := by
  rw [← trimChars_eq_self_iff, ← toList_trim, String.toList_inj]

theorem isTrimmed_trim (s : String) : IsTrimmed (trim s).toList := by
  rw [toList_trim]
  exact isTrimmed_trimChars s.toList

/-! ### Blanks that are taken away -/

/-- There are only blanks. -/
def AllBlank (cs : List Char) : Prop :=
  ∀ c ∈ cs, isBlank c = true

theorem AllBlank.reverse (h : AllBlank cs) : AllBlank cs.reverse :=
  fun c hc => h c (List.mem_reverse.1 hc)

theorem trimChars_blank_append {front : List Char} (h : AllBlank front) (cs : List Char) :
    trimChars (front ++ cs) = trimChars cs := by
  rw [trimChars, trimStart, List.dropWhile_append_of_pos h]
  rfl

theorem trimEnd_append_blank {back : List Char} (h : AllBlank back) (cs : List Char) :
    trimEnd (cs ++ back) = trimEnd cs := by
  rw [trimEnd, List.reverse_append, trimStart, List.dropWhile_append_of_pos h.reverse]
  rfl

theorem trimChars_append_blank {back : List Char} (h : AllBlank back) (cs : List Char) :
    trimChars (cs ++ back) = trimChars cs := by
  rw [trimChars, trimChars, trimStart, List.dropWhile_append, ← trimStart]
  split
  case isTrue hblank =>
    rw [List.dropWhile_eq_nil_iff.2 h, List.isEmpty_iff.1 hblank]
  case isFalse => exact trimEnd_append_blank h _

theorem exists_eq_append_trimChars (cs : List Char) :
    ∃ front back, AllBlank front ∧ AllBlank back ∧ cs = front ++ trimChars cs ++ back := by
  have hend : trimChars cs ++ ((trimStart cs).reverse.takeWhile isBlank).reverse =
      trimStart cs := by
    rw [trimChars, trimEnd, ← List.reverse_append, List.reverse_eq_iff]
    exact List.takeWhile_append_dropWhile
  refine ⟨cs.takeWhile isBlank, ((trimStart cs).reverse.takeWhile isBlank).reverse,
    fun c => List.mem_takeWhile_imp,
    fun c hc => List.mem_takeWhile_imp (List.mem_reverse.1 hc), ?_⟩
  rw [List.append_assoc, hend]
  exact List.takeWhile_append_dropWhile.symm

theorem mem_of_mem_trim {c : Char} (h : c ∈ (trim s).toList) : c ∈ s.toList := by
  obtain ⟨front, back, -, -, hs⟩ := exists_eq_append_trimChars s.toList
  rw [hs, ← toList_trim]
  exact List.mem_append_left _ (List.mem_append_right _ h)

/-! ### What is left -/

theorem nonBlank?_congr (h : trim s = trim t) : nonBlank? s = nonBlank? t := by
  rw [nonBlank?, nonBlank?, h]

theorem nonBlank?_eq_some_iff : nonBlank? s = some t ↔ trim s = t ∧ t ≠ "" := by
  rw [nonBlank?]
  split
  case isTrue h =>
    rw [String.isEmpty_iff] at h
    simp [h, eq_comm]
  case isFalse h =>
    rw [String.isEmpty_iff] at h
    rw [Option.some.injEq]
    exact ⟨fun hst => ⟨hst, hst ▸ h⟩, And.left⟩

end Text

end ListQuery
