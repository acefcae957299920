import ListQuery.Text.Split
import Mathlib.Data.List.Basic

/-!
# Parts with separators between them

* `Text.splitOn_append` : what a separator joins is cut there again;
* `Text.IsJoined` : a text written with separators between parts that have none;
* `Text.isJoined_iff` : the parts are those that the text is cut into.
-/

namespace ListQuery

namespace Text

variable {sep : Char} {cs : List Char} {s : String}

/-! ### Cutting -/

theorem cut?_eq_none_iff : cut? sep cs = none ↔ sep ∉ cs := by
  induction cs with
  | nil => simp [cut?]
  | cons c cs ih =>
    rw [cut?]
    split
    case isTrue h => simp [h]
    case isFalse h => simp [ih, Ne.symm h]

theorem splitOn_of_not_mem (h : sep ∉ s.toList) : splitOn sep s = [s] := by
  rw [splitOn, List.splitOn_eq_singleton h, List.map_singleton, String.ofList_toList]

/-- **A separator cuts**, whatever stands before and behind it. -/
theorem splitOn_append (sep : Char) (s t : String) :
    splitOn sep (s ++ String.singleton sep ++ t) = splitOn sep s ++ splitOn sep t := by
  have hchars : (s ++ String.singleton sep ++ t).toList = s.toList ++ sep :: t.toList := by simp
  rw [splitOn, hchars, List.splitOn_append_cons_self, List.map_append]
  rfl

theorem not_mem_of_mem_splitOn {piece : List Char} (h : piece ∈ cs.splitOn sep) : sep ∉ piece := by
  induction cs generalizing piece with
  | nil =>
    rw [List.splitOn_nil, List.mem_singleton] at h
    exact h ▸ List.not_mem_nil
  | cons c cs ih =>
    rw [List.splitOn_cons_eq_if_modifyHead] at h
    split at h
    case isTrue =>
      obtain rfl | h := List.mem_cons.1 h
      · exact List.not_mem_nil
      · exact ih h
    case isFalse hc =>
      -- The character is put in front of the first piece.
      obtain ⟨first, rest, hfirst⟩ := List.exists_cons_of_ne_nil (List.splitOn_ne_nil sep cs)
      rw [hfirst, List.modifyHead_cons] at h
      obtain rfl | h := List.mem_cons.1 h
      · rw [List.mem_cons, not_or]
        exact ⟨fun heq => hc (beq_iff_eq.2 heq.symm), ih (hfirst ▸ List.mem_cons_self)⟩
      · exact ih (hfirst ▸ List.mem_cons_of_mem first h)

/-! ### Joining -/

theorem joinWith_cons_cons (sep s t : String) (ss : List String) :
    joinWith sep (s :: t :: ss) = s ++ sep ++ joinWith sep (t :: ss) :=
  rfl

theorem toList_joinWith (sep : Char) (parts : List String) :
    (joinWith (String.singleton sep) parts).toList =
      [sep].intercalate (parts.map String.toList) := by
  induction parts with
  | nil => rfl
  | cons part parts ih =>
    cases parts with
    | nil => simp [joinWith]
    | cons other parts =>
      rw [joinWith_cons_cons, String.toList_append, String.toList_append, ih, List.map_cons,
        List.map_cons, List.map_cons, List.intercalate_cons_cons]
      simp

/-- The text is written with separators between the parts, which have none. -/
structure IsJoined (sep : Char) (s : String) (parts : List String) : Prop where
  /-- There is a part, if only an empty one. -/
  ne_nil : parts ≠ []
  /-- The parts stand in their order. -/
  text : s = joinWith (String.singleton sep) parts
  /-- There are no separators but those between the parts. -/
  parts : ∀ part ∈ parts, sep ∉ part.toList

/-- **A text has its parts in just one way**, as it is cut. -/
theorem isJoined_iff {parts : List String} : IsJoined sep s parts ↔ parts = splitOn sep s := by
  constructor
  · rintro ⟨hne, rfl, hparts⟩
    have hlists : ∀ l ∈ parts.map String.toList, sep ∉ l := by simpa using hparts
    rw [splitOn, toList_joinWith, List.splitOn_intercalate sep hlists (by simpa using hne),
      List.map_map]
    simp
  · rintro rfl
    refine ⟨by simp [splitOn, List.splitOn_ne_nil], ?_, fun part hpart => ?_⟩
    · rw [← String.toList_inj, toList_joinWith, splitOn, List.map_map]
      simp [Function.comp_def, List.intercalate_splitOn]
    · obtain ⟨piece, hpiece, rfl⟩ := List.mem_map.1 hpart
      rw [String.toList_ofList]
      exact not_mem_of_mem_splitOn hpiece

end Text

end ListQuery
