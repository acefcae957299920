/-!
# Cutting texts at a separator

* `Text.splitOn` : the pieces of a text between the occurrences of a separator.
* `Text.cut?` : the parts before and after the first occurrence.
* `Text.joinWith` : pieces written with a separator between them.
* `Text.occursIn` : whether one text is a contiguous part of another.
-/

namespace ListQuery

namespace Text

/-- The pieces of `s` between the occurrences of `sep`; a text without `sep` is one piece. -/
def splitOn (sep : Char) (s : String) : List String :=
  (s.toList.splitOn sep).map String.ofList

/-- The parts of `cs` before and after the first `sep`, if there is one. -/
def cut? (sep : Char) : List Char → Option (List Char × List Char)
  | [] => none
  | c :: cs =>
    if c = sep then some ([], cs)
    else (cut? sep cs).map fun p => (c :: p.1, p.2)

/-- The pieces one after the other, with `sep` between them. -/
def joinWith (sep : String) : List String → String
  | [] => ""
  | [s] => s
  | s :: rest => s ++ sep ++ joinWith sep rest

/-- `needle` is a contiguous part of the text. -/
def occursIn (needle : List Char) : List Char → Bool
  | [] => needle.isEmpty
  | c :: cs => needle.isPrefixOf (c :: cs) || occursIn needle cs

/-- What is left of `cs` behind `front`, if `cs` starts with it. -/
def dropFront? : (front cs : List Char) → Option (List Char)
  | [], cs => some cs
  | _ :: _, [] => none
  | a :: front, c :: cs => if a = c then dropFront? front cs else none

/-- Every `old` in `cs` replaced by `new`. -/
def replaceChar (old : Char) (new : List Char) (cs : List Char) : List Char :=
  cs.flatMap fun c => if c = old then new else [c]

theorem cut?_eq_some_iff {sep : Char} {cs a b : List Char} :
    cut? sep cs = some (a, b) ↔ cs = a ++ sep :: b ∧ sep ∉ a := by
  induction cs generalizing a with
  | nil => simp [cut?]
  | cons c cs ih =>
    by_cases h : c = sep
    · subst h
      simp only [cut?, if_true, Option.some.injEq, Prod.mk.injEq]
      constructor
      · rintro ⟨rfl, rfl⟩; simp
      · rintro ⟨he, hn⟩
        cases a with
        | nil => simpa using he
        | cons x a => simp at he hn; exact absurd he.1 hn.1
    · simp only [cut?, h, if_false, Option.map_eq_some_iff, Prod.exists, Prod.mk.injEq]
      constructor
      · rintro ⟨a', b', hc, rfl, rfl⟩
        obtain ⟨rfl, hn⟩ := ih.1 hc
        simp [hn, Ne.symm h]
      · rintro ⟨he, hn⟩
        cases a with
        | nil => simp at he; exact absurd he.1 h
        | cons x a =>
          simp at he hn
          exact ⟨a, b, ih.2 ⟨he.2, hn.2⟩, by simp [he.1], rfl⟩

theorem occursIn_iff {needle hay : List Char} : occursIn needle hay = true ↔ needle <:+: hay := by
  induction hay with
  | nil => simp [occursIn, List.isEmpty_iff]
  | cons c cs ih => simp [occursIn, ih, List.infix_cons_iff]

theorem dropFront?_eq_some_iff {front cs rest : List Char} :
    dropFront? front cs = some rest ↔ cs = front ++ rest := by
  induction front generalizing cs with
  | nil => simp [dropFront?]
  | cons a front ih =>
    cases cs with
    | nil => simp [dropFront?]
    | cons c cs =>
      by_cases h : a = c
      · simp [dropFront?, h, ih]
      · simp [dropFront?, h, Ne.symm h]

end Text

end ListQuery
