import ListQuery.Filter.Clause
import ListQuery.Proofs.Text.Blank
import ListQuery.Proofs.Text.Split

/-!
# Lists with commas

A list is read as its non-blank parts, without the blanks around them.  That a comma cuts, whatever
stands before and behind it, and that blanks at the ends of a list do not count, is all there is to
know of it.

* `Clause.pieces_append` : a comma cuts;
* `Clause.pieces_pad`, `Clause.pieces_trim` : blanks at the ends do not count;
* `Clause.IsElement` : the texts that can be elements;
* `Clause.pieces_joinWith_eq_self_iff` : elements with commas between them are read back.
-/

namespace ListQuery

namespace Clause

variable {s t : String} {ss : List String}

/-! ### Cutting -/

/-- **A comma cuts a list.** -/
theorem pieces_append (s t : String) : pieces (s ++ "," ++ t) = pieces s ++ pieces t := by
  have hsplit : Text.splitOn ',' (s ++ "," ++ t) = Text.splitOn ',' s ++ Text.splitOn ',' t :=
    Text.splitOn_append ',' s t
  rw [pieces, hsplit, List.map_append, List.filter_append]
  rfl

theorem pieces_of_not_mem (h : ',' ∉ s.toList) : pieces s = (Text.nonBlank? s).toList := by
  rw [pieces, Text.splitOn_of_not_mem h, List.map_singleton, Text.nonBlank?]
  cases hempty : (Text.trim s).isEmpty <;> simp [hempty]

theorem pieces_joinWith (ss : List String) :
    pieces (Text.joinWith "," ss) = ss.flatMap pieces := by
  induction ss with
  | nil => rfl
  | cons s ss ih =>
    cases ss with
    | nil => rw [Text.joinWith, List.flatMap_singleton]
    | cons t ss =>
      rw [Text.joinWith_cons_cons, pieces_append, ih]
      rfl

/-! ### Blanks at the ends -/

theorem pieces_pad_of_not_mem {front back : String} (hfront : Text.AllBlank front.toList)
    (hback : Text.AllBlank back.toList) (h : ',' ∉ s.toList) :
    pieces (front ++ s ++ back) = pieces s := by
  have hblank {t : String} (ht : Text.AllBlank t.toList) : ',' ∉ t.toList := fun hc =>
    Bool.false_ne_true (ht ',' hc)
  have htrim : Text.trim (front ++ s ++ back) = Text.trim s := by
    rw [← String.toList_inj, Text.toList_trim, Text.toList_trim, String.toList_append,
      String.toList_append, Text.trimChars_append_blank hback, Text.trimChars_blank_append hfront]
  have hpadded : ',' ∉ (front ++ s ++ back).toList := by
    simp only [String.toList_append, List.mem_append, not_or]
    exact ⟨⟨hblank hfront, h⟩, hblank hback⟩
  rw [pieces_of_not_mem hpadded, pieces_of_not_mem h, Text.nonBlank?_congr htrim]

/-- **Blanks at the ends of a list do not count.** -/
theorem pieces_pad {front back : String} (hfront : Text.AllBlank front.toList)
    (hback : Text.AllBlank back.toList) (s : String) :
    pieces (front ++ s ++ back) = pieces s := by
  obtain ⟨parts, -, rfl, hparts⟩ : ∃ parts, Text.IsJoined ',' s parts :=
    ⟨_, Text.isJoined_iff.2 rfl⟩
  induction parts generalizing front with
  | nil => exact pieces_pad_of_not_mem hfront hback (by simp [Text.joinWith])
  | cons part parts ih =>
    rw [List.forall_mem_cons] at hparts
    cases parts with
    | nil => exact pieces_pad_of_not_mem hfront hback hparts.1
    | cons other parts =>
      -- The blanks in front go to the first part, and those behind to the rest.
      have hcut : front ++ Text.joinWith (String.singleton ',') (part :: other :: parts) ++ back =
          (front ++ part ++ "") ++ "," ++
            ("" ++ Text.joinWith (String.singleton ',') (other :: parts) ++ back) := by
        rw [Text.joinWith_cons_cons, String.append_empty, String.empty_append]
        simp only [String.append_assoc]
        rfl
      have hnone : Text.AllBlank "".toList := List.forall_mem_nil _
      rw [hcut, pieces_append, pieces_pad_of_not_mem hfront hnone hparts.1, ih hnone hparts.2,
        ← pieces_append]
      rfl

theorem pieces_trim (s : String) : pieces (Text.trim s) = pieces s := by
  obtain ⟨front, back, hfront, hback, hs⟩ := Text.exists_eq_append_trimChars s.toList
  have htext : s = String.ofList front ++ Text.trim s ++ String.ofList back := by
    rw [← String.toList_inj, hs]
    simp
  have hpad : pieces (String.ofList front ++ Text.trim s ++ String.ofList back) =
      pieces (Text.trim s) :=
    pieces_pad (by rwa [String.toList_ofList]) (by rwa [String.toList_ofList]) _
  rw [← hpad, ← htext]

/-! ### Elements -/

/-- A text that can be an element of a list. -/
structure IsElement (s : String) : Prop where
  /-- There is a text. -/
  ne_empty : s ≠ ""
  /-- It has no blanks at its ends. -/
  trimmed : Text.IsTrimmed s.toList
  /-- It has no comma. -/
  comma : ',' ∉ s.toList

theorem isElement_of_mem_pieces (h : t ∈ pieces s) : IsElement t := by
  rw [pieces, List.mem_filter, List.mem_map] at h
  obtain ⟨⟨part, hpart, rfl⟩, hne⟩ := h
  have hcomma := (Text.isJoined_iff.2 (rfl : Text.splitOn ',' s = _)).parts part hpart
  refine ⟨?_, Text.isTrimmed_trim part, fun hmem => hcomma (Text.mem_of_mem_trim hmem)⟩
  simpa using hne

theorem IsElement.pieces_eq (h : IsElement s) : pieces s = [s] := by
  have htrim : Text.trim s = s := Text.trim_eq_self_iff.2 h.trimmed
  rw [pieces_of_not_mem h.comma, Text.nonBlank?_eq_some_iff.2 ⟨htrim, h.ne_empty⟩,
    Option.toList_some]

/-- **Elements with commas between them are read back**, and nothing else. -/
theorem pieces_joinWith_eq_self_iff :
    pieces (Text.joinWith "," ss) = ss ↔ ∀ s ∈ ss, IsElement s := by
  constructor
  · intro h s hs
    exact isElement_of_mem_pieces (h ▸ hs)
  · intro h
    have heach : ∀ s ∈ ss, pieces s = [s] := fun s hs => (h s hs).pieces_eq
    rw [pieces_joinWith, List.flatMap_congr heach]
    exact List.flatMap_singleton' ss

end Clause

end ListQuery
