import ListQuery.Filter.Clause
import ListQuery.Proofs.Text.Split

/-!
# The texts of filters

* `Clause.parse_eq_ok_iff` : the texts that a clause is read from;
* `Clause.parse_of_isCut` : what is read from a text that is cut at two colons;
* `Clause.parse_eq_error_iff` : the texts that no clause is read from, and what is wrong with each.
-/

namespace ListQuery

namespace Clause

/-- The text is cut at its first two colons. -/
structure IsCut (raw front token value : String) : Prop where
  /-- The parts, with the two colons between them. -/
  text : raw = front ++ ":" ++ token ++ ":" ++ value
  /-- The first part ends at the first colon. -/
  front : ':' ∉ front.toList
  /-- The second part ends at the next one. -/
  token : ':' ∉ token.toList

theorem parse_of_count_lt {raw : String} (h : raw.toList.count ':' < 2) :
    parse raw = .error (.malformedFilter raw .missingPart) := by
  unfold parse
  dsimp only
  cases hfront : Text.cut? ':' raw.toList with
  | none => rfl
  | some parts =>
    obtain ⟨hraw, -⟩ := Text.cut?_eq_some_iff.1 hfront
    have hrest : ':' ∉ parts.2 := by
      rw [hraw, List.count_append, List.count_cons_self] at h
      rw [← List.count_eq_zero]
      omega
    dsimp only
    rw [Text.cut?_eq_none_iff.2 hrest]

theorem parse_of_isCut {raw front token value : String} (h : IsCut raw front token value) :
    parse raw =
      if Text.trim front = "" then .error (.malformedFilter raw .emptyField)
      else (Operation.ofToken? token).elim
        (.error (.malformedFilter raw (.unknownOperation (Text.trim token))))
        fun operation => .ok ⟨Text.trim front, operation, value⟩ := by
  have hraw : raw.toList = front.toList ++ ':' :: (token.toList ++ ':' :: value.toList) := by
    rw [h.text]
    simp
  unfold parse
  dsimp only
  rw [Text.cut?_eq_some_iff.2 ⟨hraw, h.front⟩]
  dsimp only
  rw [Text.cut?_eq_some_iff.2 ⟨rfl, h.token⟩]
  simp only [String.ofList_toList, String.isEmpty_iff]
  cases Operation.ofToken? token <;> rfl

theorem count_lt_or_isCut (raw : String) :
    raw.toList.count ':' < 2 ∨ ∃ front token value, IsCut raw front token value := by
  cases hfront : Text.cut? ':' raw.toList with
  | none =>
    left
    rw [List.count_eq_zero.2 (Text.cut?_eq_none_iff.1 hfront)]
    decide
  | some parts =>
    obtain ⟨hraw, hfront⟩ := Text.cut?_eq_some_iff.1 hfront
    cases htoken : Text.cut? ':' parts.2 with
    | none =>
      left
      rw [hraw, List.count_append, List.count_cons_self, List.count_eq_zero.2 hfront,
        List.count_eq_zero.2 (Text.cut?_eq_none_iff.1 htoken)]
      decide
    | some tail =>
      obtain ⟨hrest, htoken⟩ := Text.cut?_eq_some_iff.1 htoken
      right
      refine ⟨.ofList parts.1, .ofList tail.1, .ofList tail.2, ?_, by simpa, by simpa⟩
      rw [← String.toList_inj, hraw, hrest]
      simp

/-- **A clause is read from three parts with colons between them**, of which the first two have
none: the name of a field, a token of the operation, and the value as it is. -/
theorem parse_eq_ok_iff {raw : String} {c : Clause} :
    parse raw = .ok c ↔ ∃ front token, raw = front ++ ":" ++ token ++ ":" ++ c.rawValue ∧
      ':' ∉ front.toList ∧ ':' ∉ token.toList ∧ Text.trim front = c.field ∧ c.field ≠ "" ∧
        Operation.ofToken? token = some c.operation := by
  constructor
  · intro h
    obtain hcount | ⟨front, token, value, hraw⟩ := count_lt_or_isCut raw
    · rw [parse_of_count_lt hcount] at h
      cases h
    · rw [parse_of_isCut hraw] at h
      split at h
      case isTrue => cases h
      case isFalse hfield =>
        cases htoken : Operation.ofToken? token with
        | none =>
          rw [htoken] at h
          cases h
        | some operation =>
          rw [htoken] at h
          cases h
          exact ⟨front, token, hraw.text, hraw.front, hraw.token, rfl, hfield, htoken⟩
  · rintro ⟨front, token, hraw, hfront, htoken, hfield, hne, hoperation⟩
    rw [parse_of_isCut ⟨hraw, hfront, htoken⟩, hfield, if_neg hne, hoperation, Option.elim_some]

/-- What is wrong with a text that no clause is read from. -/
inductive IsMalformed (raw : String) : ClauseFault → Prop
  | missingPart (h : raw.toList.count ':' < 2) : IsMalformed raw .missingPart
  | emptyField {front token value : String} (hraw : IsCut raw front token value)
      (h : Text.trim front = "") : IsMalformed raw .emptyField
  | unknownOperation {front token value : String} (hraw : IsCut raw front token value)
      (hfield : Text.trim front ≠ "") (h : Operation.ofToken? token = none) :
      IsMalformed raw (.unknownOperation (Text.trim token))

theorem parse_eq_error_iff {raw : String} {e : QueryError} :
    parse raw = .error e ↔ ∃ fault, IsMalformed raw fault ∧ e = .malformedFilter raw fault := by
  constructor
  · intro h
    obtain hcount | ⟨front, token, value, hraw⟩ := count_lt_or_isCut raw
    · rw [parse_of_count_lt hcount] at h
      cases h
      exact ⟨_, .missingPart hcount, rfl⟩
    · rw [parse_of_isCut hraw] at h
      split at h
      case isTrue hfield =>
        cases h
        exact ⟨_, .emptyField hraw hfield, rfl⟩
      case isFalse hfield =>
        cases htoken : Operation.ofToken? token with
        | none =>
          rw [htoken] at h
          cases h
          exact ⟨_, .unknownOperation hraw hfield htoken, rfl⟩
        | some operation =>
          rw [htoken] at h
          cases h
  · rintro ⟨fault, h, rfl⟩
    cases h with
    | missingPart h => exact parse_of_count_lt h
    | emptyField hraw h => rw [parse_of_isCut hraw, if_pos h]
    | unknownOperation hraw hfield h => rw [parse_of_isCut hraw, if_neg hfield, h, Option.elim_none]

end Clause

end ListQuery
