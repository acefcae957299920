import ListQuery.Ordered
import Mathlib.Data.List.Sort
import Mathlib.Data.String.Basic

/-!
# Sets of names, and looking up what was put into a map

* `Ordered.mem_ofList` : a set has the names of the list that it is made from, and no others.
* `Ordered.find?_put` : putting a value under a name changes what stands under that name, and
  nothing else.
* `Ordered.eq_of_find?` : maps with the same values under all names are the same.
-/

namespace ListQuery

namespace Ordered

variable {α : Type}

theorem mem_insertBy_id {name other : String} {names : List String} :
    name ∈ insertBy id other names ↔ name = other ∨ name ∈ names := by
  refine ⟨mem_insertBy, ?_⟩
  rintro (rfl | h)
  · exact mem_insertBy_self id name names
  induction names with
  | nil => cases h
  | cons first rest ih =>
    rw [insertBy]
    split
    case isTrue => exact List.mem_cons_of_mem _ h
    case isFalse =>
      split
      case isTrue heq =>
        -- The name that is replaced is the one that comes in.
        rw [show other = first from heq]
        exact h
      case isFalse =>
        rcases List.mem_cons.1 h with rfl | h
        · exact List.mem_cons_self
        · exact List.mem_cons_of_mem _ (ih h)

/-- **A set has the names of the list that it is made from.** -/
theorem mem_ofList {name : String} {names : List String} : name ∈ ofList names ↔ name ∈ names := by
  have hall (known : List String) :
      name ∈ insertAllBy id known names ↔ name ∈ known ∨ name ∈ names := by
    rw [insertAllBy]
    induction names generalizing known with
    | nil => simp
    | cons first rest ih =>
      rw [List.foldl_cons, ih, mem_insertBy_id, List.mem_cons, or_assoc, or_left_comm]
  rw [ofList, ofListBy, hall]
  simp

theorem find?_cons (name : String) (entry : String × α) (entries : List (String × α)) :
    find? name (entry :: entries) =
      if name = entry.1 then some entry.2 else find? name entries := by
  obtain ⟨key, value⟩ := entry
  rw [find?, List.lookup_cons]
  by_cases h : name = key
  · simp [h]
  · rw [beq_eq_false_iff_ne.2 h, if_neg h, find?]

/-- **A map with a value under a name has that value there, and all else as before.**  The order of
the entries does not matter. -/
theorem find?_put (name other : String) (value : α) (entries : List (String × α)) :
    find? other (put name value entries) =
      if other = name then some value else find? other entries := by
  unfold put
  induction entries with
  | nil => rw [insertBy, find?_cons]
  | cons entry entries ih =>
    rw [insertBy]
    split
    case isTrue => rw [find?_cons]
    case isFalse =>
      split
      case isTrue heq =>
        simp only [find?_cons]
        by_cases h : other = name
        · simp [h]
        · simp [h, show other ≠ entry.1 from heq ▸ h]
      case isFalse hne =>
        rw [find?_cons, ih, find?_cons]
        by_cases h : other = name
        · simp [h, show name ≠ entry.1 from hne]
        · simp [h]

/-! ### Maps as lists -/

/-- The names of the entries ascend. -/
def IsAscending (entries : List (String × α)) : Prop :=
  entries.Pairwise fun a b => a.1 < b.1

theorem isAscending_put {entries : List (String × α)} (h : IsAscending entries) (name : String)
    (value : α) : IsAscending (put name value entries) := by
  unfold put IsAscending at *
  induction entries with
  | nil => exact List.pairwise_singleton _ _
  | cons entry entries ih =>
    obtain ⟨hentry, hrest⟩ := List.pairwise_cons.1 h
    rw [insertBy]
    split
    case isTrue hlt =>
      refine List.pairwise_cons.2 ⟨fun other hother => ?_, h⟩
      rcases List.mem_cons.1 hother with rfl | hother
      · exact hlt
      · exact lt_trans hlt (hentry other hother)
    case isFalse hnlt =>
      split
      case isTrue heq =>
        exact List.pairwise_cons.2 ⟨fun other hother => heq ▸ hentry other hother, hrest⟩
      case isFalse hne =>
        refine List.pairwise_cons.2 ⟨fun other hother => ?_, ih hrest⟩
        rcases mem_insertBy hother with rfl | hother
        · exact lt_of_le_of_ne (not_lt.1 hnlt) (Ne.symm hne)
        · exact hentry other hother

theorem mem_iff_find?_eq_some {entries : List (String × α)} (h : IsAscending entries)
    {name : String} {value : α} :
    (name, value) ∈ entries ↔ find? name entries = some value := by
  induction entries with
  | nil => exact iff_of_false List.not_mem_nil nofun
  | cons entry entries ih =>
    obtain ⟨hentry, hrest⟩ := List.pairwise_cons.1 h
    rw [find?_cons, List.mem_cons, ih hrest]
    by_cases heq : name = entry.1
    · -- What comes behind the entry has another name.
      have hnone : find? name entries ≠ some value := by
        intro hfind
        have hlt := hentry _ ((ih hrest).2 hfind)
        rw [heq] at hlt
        exact lt_irrefl _ hlt
      rw [if_pos heq, or_iff_left hnone, Prod.ext_iff, Option.some_inj]
      exact ⟨fun hsame => hsame.2.symm, fun hvalue => ⟨heq, hvalue.symm⟩⟩
    · rw [if_neg heq, or_iff_right]
      rintro rfl
      exact heq rfl

/-- **Maps with the same values under all names are the same.** -/
theorem eq_of_find? {entries entries' : List (String × α)} (h : IsAscending entries)
    (h' : IsAscending entries') (hfind : ∀ name, find? name entries = find? name entries') :
    entries = entries' := by
  have : Std.Antisymm fun a b : String × α => a.1 < b.1 :=
    ⟨fun a b hab hba => absurd hba (lt_asymm hab)⟩
  have : Std.Irrefl fun a b : String × α => a.1 < b.1 := ⟨fun a => lt_irrefl a.1⟩
  refine List.Pairwise.eq_of_mem_iff h h' fun entry => ?_
  rw [mem_iff_find?_eq_some h, mem_iff_find?_eq_some h', hfind]

end Ordered

end ListQuery
