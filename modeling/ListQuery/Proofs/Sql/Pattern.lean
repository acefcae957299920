import ListQuery.Proofs.Sql.Truth
import ListQuery.Sample
import ListQuery.Sql.Rendering
import ListQuery.Store.Row

/-!
# Patterns for parts of texts

A text that is searched for comes to stand in a pattern, where its characters must stand for
themselves whatever they mean there.

* `Sql.Matches` : the texts that a pattern stands for;
* `Sql.likes_iff_matches` : the test for a pattern tries all ways to match it;
* `Sql.escapePattern_eq_replaceChar` : characters may be escaped one after the other, the one that
  escapes first;
* `Sql.matches_containsText` : the pattern of a text stands for the texts that contain it.
-/

namespace ListQuery

namespace Sql

/-! ### Matching -/

/-- The texts that a pattern stands for: `%` stands for any text, `_` for any one character, and a
character behind a backslash for itself. -/
inductive Matches : List Char → List Char → Prop where
  | nil : Matches [] []
  | anyText {pattern rest : List Char} (front : List Char) :
    Matches pattern rest → Matches ('%' :: pattern) (front ++ rest)
  | anyChar {pattern rest : List Char} (c : Char) :
    Matches pattern rest → Matches ('_' :: pattern) (c :: rest)
  | escaped {pattern rest : List Char} (c : Char) :
    Matches pattern rest → Matches ('\\' :: c :: pattern) (c :: rest)
  | plain {pattern rest : List Char} {c : Char} : c ≠ '\\' → c ≠ '%' → c ≠ '_' →
    Matches pattern rest → Matches (c :: pattern) (c :: rest)

section Likes

variable {pattern text : List Char} {c : Char}

theorem likes_nil : likes [] text = true ↔ text = [] := by
  simp [likes, readPattern, PatternItem.fit]

theorem likes_anyText :
    likes ('%' :: pattern) text = true ↔ ∃ rest, rest <:+ text ∧ likes pattern rest = true := by
  have hread : readPattern ('%' :: pattern) = (readPattern pattern).map (.anyText :: ·) := rfl
  simp only [likes, hread, Option.any_map]
  cases readPattern pattern with
  | none => simp
  | some items => exact fit_anyText

theorem likes_anyChar :
    likes ('_' :: pattern) text = true ↔
      ∃ d rest, text = d :: rest ∧ likes pattern rest = true := by
  have hread : readPattern ('_' :: pattern) = (readPattern pattern).map (.anyChar :: ·) := rfl
  simp only [likes, hread, Option.any_map]
  cases readPattern pattern <;> cases text <;> simp [PatternItem.fit]

/-- A pattern that starts with a character that stands for itself, be it escaped or not. -/
theorem likes_of_readPattern {front : List Char}
    (h : readPattern (front ++ pattern) = (readPattern pattern).map (.char c :: ·)) :
    likes (front ++ pattern) text = true ↔
      ∃ rest, text = c :: rest ∧ likes pattern rest = true := by
  simp only [likes, h, Option.any_map]
  cases readPattern pattern <;> cases text <;> simp [PatternItem.fit, eq_comm (a := c)]

theorem likes_escaped :
    likes ('\\' :: c :: pattern) text = true ↔
      ∃ rest, text = c :: rest ∧ likes pattern rest = true := by
  have hread : readPattern (['\\', c] ++ pattern) = (readPattern pattern).map (.char c :: ·) := rfl
  exact likes_of_readPattern hread

theorem likes_plain (hslash : c ≠ '\\') (hpercent : c ≠ '%') (hline : c ≠ '_') :
    likes (c :: pattern) text = true ↔ ∃ rest, text = c :: rest ∧ likes pattern rest = true := by
  have hescape : escapePatternChar c = [c] := by simp [escapePatternChar, hslash, hpercent, hline]
  have hread := readPattern_escapePatternChar c pattern
  rw [hescape] at hread
  exact likes_of_readPattern hread

/-- **The test for a pattern tries all ways to match it.** -/
theorem likes_iff_matches : likes pattern text = true ↔ Matches pattern text := by
  constructor
  · intro h
    -- The cases are those in which a pattern is read.
    induction pattern using readPattern.induct generalizing text with
    | case1 => exact likes_nil.1 h ▸ .nil
    | case2 => cases h
    | case3 c pattern ih =>
      obtain ⟨rest, rfl, hrest⟩ := likes_escaped.1 h
      exact .escaped c (ih hrest)
    | case4 pattern ih =>
      obtain ⟨rest, ⟨front, rfl⟩, hrest⟩ := likes_anyText.1 h
      exact .anyText front (ih hrest)
    | case5 pattern ih =>
      obtain ⟨d, rest, rfl, hrest⟩ := likes_anyChar.1 h
      exact .anyChar d (ih hrest)
    | case6 c pattern hend hslash hpercent hline ih =>
      have hescape : c ≠ '\\' := by
        rintro rfl
        cases pattern with
        | nil => exact hend rfl rfl
        | cons d pattern => exact hslash d pattern rfl rfl
      obtain ⟨rest, rfl, hrest⟩ := (likes_plain hescape hpercent hline).1 h
      exact .plain hescape hpercent hline (ih hrest)
  · intro h
    induction h with
    | nil => rfl
    | anyText front _ ih => exact likes_anyText.2 ⟨_, List.suffix_append .., ih⟩
    | anyChar d _ ih => exact likes_anyChar.2 ⟨d, _, rfl, ih⟩
    | escaped d _ ih => exact likes_escaped.2 ⟨_, rfl, ih⟩
    | plain hslash hpercent hline _ ih =>
      exact (likes_plain hslash hpercent hline).2 ⟨_, rfl, ih⟩

end Likes

/-! ### Escaping -/

/-- **Characters may be escaped one after the other**, the one that escapes first: the others would
have their escapes escaped. -/
theorem escapePattern_eq_replaceChar (cs : List Char) :
    escapePattern cs = Text.replaceChar '_' ['\\', '_']
      (Text.replaceChar '%' ['\\', '%'] (Text.replaceChar '\\' ['\\', '\\'] cs)) := by
  simp only [Text.replaceChar, List.flatMap_assoc, escapePattern]
  refine List.flatMap_congr fun c _ => ?_
  by_cases hslash : c = '\\'
  · rw [hslash]; rfl
  by_cases hpercent : c = '%'
  · rw [hpercent]; rfl
  by_cases hline : c = '_'
  · rw [hline]; rfl
  simp [escapePatternChar, hslash, hpercent, hline]

theorem escapePattern_injective : Function.Injective escapePattern := by
  intro needle needle' h
  have hread (cs : List Char) : readPattern (escapePattern cs) = some (cs.map .char) := by
    have hcs := readPattern_escapePattern cs []
    rwa [List.append_nil, readPattern, Option.map_some, List.append_nil] at hcs
  have hmap := (hread needle).symm.trans (h ▸ hread needle')
  exact List.map_injective_iff.2 (fun _ _ hc => PatternItem.char.inj hc) (Option.some.inj hmap)

/-! ### Searches -/

/-- A server has the text of a stored value in lower case. -/
def Reading.HasLowerText {V : Type} (R : Reading V) (v : V) (stored : Json) : Prop :=
  ∃ s, Row.textOf? stored = some s ∧ R.lowerText v = Text.lowerChars s.toList

theorem truth_containsText {V : Type} {R : Reading V} {value : Column → Option V} {plan : Plan}
    {field : Field} {v : V} {stored : Json} (hv : value (plan.fieldColumn field) = some v)
    (htext : R.HasLowerText v stored) (needle : String) :
    (plan.condition (.containsText field needle)).truth R value =
      .ofBool (Row.containsText stored needle) := by
  obtain ⟨s, hs, hlower⟩ := htext
  rw [Plan.condition, Condition.truth, hv, Option.elim_some, likes_containsPattern, hlower,
    Row.containsText, hs, Option.any_some]

/-- **The pattern of a text stands for the texts that contain it**, and for no others.  It is read
to its end, different texts have different patterns, and a server that tests the text of a stored
value in lower case finds what the store in memory finds. -/
theorem matches_containsText :
    (∀ needle text, Matches ('%' :: escapePattern needle ++ ['%']) text ↔ needle <:+: text) ∧
      (∀ needle, readPattern ('%' :: escapePattern needle ++ ['%']) =
        some (.anyText :: (needle.map .char ++ [.anyText]))) ∧
      Function.Injective escapePattern ∧
      ∀ {V : Type} (R : Reading V) (value : Column → Option V) (plan : Plan) (field : Field)
        (v : V) (stored : Json), value (plan.fieldColumn field) = some v →
          R.HasLowerText v stored → ∀ needle,
            (plan.condition (.containsText field needle)).truth R value =
              .ofBool (Row.containsText stored needle) :=
  ⟨fun _ _ => likes_iff_matches.symm.trans likes_substring, readPattern_substring,
    escapePattern_injective, fun _ _ _ _ _ _ => truth_containsText⟩

/-- A server of which all columns are texts. -/
def textReading : Reading String where
  compare _ _ := none
  lowerText s := Text.lowerChars s.toList

/-- A text of characters that mean something in patterns, found in a name. -/
theorem matches_containsText_discount :
    ∃ plan, Plan.build Sample.product
        (Parameters.default.withFilters ["name:like:50%_\\O"]) = .ok plan ∧
      plan.whereCondition.map (Condition.truth textReading fun _ => some "Now 50%_\\off") =
        some .yes := by
  have htext : textReading.HasLowerText "Now 50%_\\off" (.string "Now 50%_\\off") := ⟨_, rfl, rfl⟩
  have hfound : Row.containsText (.string "Now 50%_\\off") "50%_\\O" = true := by decide +kernel
  refine ⟨_, rfl, congrArg some ?_⟩
  refine (matches_containsText.2.2.2 textReading _ _ _ _ _ rfl htext "50%_\\O").trans ?_
  rw [hfound]
  rfl

end Sql

end ListQuery
