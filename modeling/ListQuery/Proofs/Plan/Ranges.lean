import ListQuery.Proofs.Filter.Pieces
import ListQuery.Proofs.Plan.Requests

/-!
# Fields that clients can sort by and ask ranges of

* `Metadata.IsRangeName` : a name under which clients can do so;
* `Metadata.IsRangeName.lowers_iff` : what a filter with the name asks for;
* `Metadata.IsRangeName.resolveSort_eq` : what a sort list with the name asks for.
-/

namespace ListQuery

namespace Metadata

/-- A name under which clients can sort by a field of the base table and ask ranges of it. -/
structure IsRangeName (m : Metadata) (name : String) (field : Field) : Prop where
  /-- The name has no blanks at its ends. -/
  trimmed : Text.trim name = name
  /-- The name has characters. -/
  ne_empty : name ≠ ""
  /-- It has no colon, which would end it in a filter. -/
  colon : ':' ∉ name.toList
  /-- It has no comma, which would end it in a sort list. -/
  comma : ',' ∉ name.toList
  /-- It stands for the path of the field. -/
  resolve : m.resolve (m.resolveAlias name) = .ok field
  /-- The field is one of the base table. -/
  collection : field.collection = none
  /-- Its values are compared by order. -/
  isOrderable : field.type.isOrderable = true
  /-- Filters may name it. -/
  filter : m.resolveAlias name ∈ m.filterFields
  /-- Rows may be sorted by it. -/
  sort : m.resolveAlias name ∈ m.sortFields

namespace IsRangeName

variable {m : Metadata} {name : String} {field : Field} (h : m.IsRangeName name field)
include h

/-! ### Filters -/

theorem parse_eq_ok {token raw : String} {comparison : Comparison} (htoken : ':' ∉ token.toList)
    (hcomparison : Operation.ofToken? token = some (.compare comparison)) :
    Clause.parse (name ++ ":" ++ token ++ ":" ++ raw) = .ok ⟨name, .compare comparison, raw⟩ :=
  Clause.parse_eq_ok_iff.2
    ⟨name, token, rfl, h.colon, htoken, h.trimmed, h.ne_empty, hcomparison⟩

/-- **A filter with the name compares the field** with the value that the text denotes in its
type. -/
theorem lowers_iff {token raw : String} {comparison : Comparison} (htoken : ':' ∉ token.toList)
    (hcomparison : Operation.ofToken? token = some (.compare comparison)) {p : Predicate} :
    m.Lowers (name ++ ":" ++ token ++ ":" ++ raw) p ↔
      ∃ v, Value.read field.type raw = .ok v ∧ p = .compare field comparison v := by
  have hparse : Clause.parse (name ++ ":" ++ token ++ ":" ++ raw) =
      .ok ⟨name, .compare comparison, raw⟩ :=
    h.parse_eq_ok htoken hcomparison
  have hlower : Clause.lower ⟨name, .compare comparison, raw⟩ field =
      (Value.cast name field.type raw).map fun v => .compare field comparison v := by
    simp only [Clause.lower, h.isOrderable, if_true, Clause.castValue]
  constructor
  · rintro ⟨c, hc, -, found, hfound, hp⟩
    cases hparse.symm.trans hc
    cases h.resolve.symm.trans hfound
    rw [hlower, map_eq_ok_iff] at hp
    obtain ⟨v, hv, rfl⟩ := hp
    exact ⟨v, Value.cast_eq_ok_iff.1 hv, rfl⟩
  · rintro ⟨v, hv, rfl⟩
    refine ⟨_, hparse, h.filter, field, h.resolve, ?_⟩
    rw [hlower, Value.cast_eq_ok_iff.2 hv]
    rfl

/-! ### Sort lists -/

theorem exists_toList_eq_cons : ∃ c cs, name.toList = c :: cs ∧ Text.isBlank c = false := by
  cases hname : name.toList with
  | nil => exact absurd (String.toList_eq_nil_iff.1 hname) h.ne_empty
  | cons c cs =>
    have htrimmed := Text.trim_eq_self_iff.1 h.trimmed
    exact ⟨c, cs, rfl, htrimmed c (.inl (by rw [hname, List.head?_cons]))⟩

variable {word : String} {front : List Char} {last : Char} (hword : word.toList = front ++ [last])
  (hlast : Text.isBlank last = false) (hcomma : ',' ∉ word.toList)
include hword hlast hcomma

theorem pieces_eq : Clause.pieces (name ++ ":" ++ word) = [name ++ ":" ++ word] := by
  obtain ⟨c, cs, hname, hc⟩ := h.exists_toList_eq_cons
  have hchars : (name ++ ":" ++ word).toList = c :: (cs ++ ':' :: front) ++ [last] := by
    simp [hname, hword]
  refine Clause.IsElement.pieces_eq ⟨?_, ?_, ?_⟩
  · rw [Ne, ← String.toList_eq_nil_iff, hchars]
    exact List.cons_ne_nil c _
  · rw [hchars]
    rintro d (hd | hd)
    · cases hd
      exact hc
    · rw [List.getLast?_concat] at hd
      cases hd
      exact hlast
  · simp only [String.toList_append, List.mem_append, not_or]
    exact ⟨⟨h.comma, by decide⟩, hcomma⟩

/-- **A sort list with the name sorts by the field.** -/
theorem resolveSort_eq :
    m.resolveSort (name ++ ":" ++ word) = [⟨field, Direction.ofToken word⟩] := by
  have hsplit : SortKey.split (name ++ ":" ++ word) = (name, Direction.ofToken word) := by
    have hchars : (name ++ ":" ++ word).toList = name.toList ++ ':' :: word.toList := by simp
    simp only [SortKey.split, Text.cut?_eq_some_iff.2 ⟨hchars, h.colon⟩, String.ofList_toList,
      h.trimmed]
  have hkey : m.sortKey? (name ++ ":" ++ word) = some ⟨field, Direction.ofToken word⟩ := by
    unfold sortKey?
    dsimp only
    rw [hsplit, if_pos (List.contains_iff_mem.2 h.sort), h.resolve]
    simp [h.collection]
  rw [resolveSort, h.pieces_eq hword hlast hcomma, List.filterMap_cons_some hkey,
    List.filterMap_nil]

omit hword hlast hcomma

theorem resolveSort_asc : m.resolveSort (name ++ ":asc") = [⟨field, .ascending⟩] := by
  have hword : "asc".toList = ['a', 's'] ++ ['c'] := rfl
  have hdirection : Direction.ofToken "asc" = .ascending := by decide
  have hsort := h.resolveSort_eq hword (by decide) (by decide)
  rwa [hdirection, String.append_assoc] at hsort

theorem resolveSort_desc : m.resolveSort (name ++ ":desc") = [⟨field, .descending⟩] := by
  have hword : "desc".toList = ['d', 'e', 's'] ++ ['c'] := rfl
  have hdirection : Direction.ofToken "desc" = .descending := by decide
  have hsort := h.resolveSort_eq hword (by decide) (by decide)
  rwa [hdirection, String.append_assoc] at hsort

end IsRangeName

end Metadata

end ListQuery
