import ListQuery.Proofs.Filter.Clause
import ListQuery.Proofs.Filter.Pieces

/-!
# The grammar of filters

A filter is a field, an operation and a value with colons between them.  The first two have no
colon, so that there is just one way to take a text for a filter, and the value is what is left.

* `Clause.IsCut.unique` : the first two colons are in one place;
* `Clause.Spells` : a text has the parts of a clause;
* `Clause.write`, `Clause.parse_write_iff` : a clause as a text, and the clauses that are read back
  from it;
* `Clause.ListsParts` : the raw value as a list;
* `Clause.parse_grammar` : the texts that a clause is read from.
-/

namespace ListQuery

theorem Operation.ofToken?_name (o : Operation) : ofToken? o.name = some o := by
  rcases o with - | - | (- | - | - | -) | - | - | - <;> decide

theorem Operation.colon_not_mem_name (o : Operation) : ':' ∉ o.name.toList := by
  rcases o with - | - | (- | - | - | -) | - | - | - <;> decide

namespace Clause

variable {raw front token value front' token' value' : String} {c c' : Clause}

/-! ### Cutting -/

/-- **A text is cut at its first two colons in just one way.** -/
theorem IsCut.unique (h : IsCut raw front token value) (h' : IsCut raw front' token' value') :
    front = front' ∧ token = token' ∧ value = value' := by
  have hcut {front token value : String} (h : IsCut raw front token value) :
      Text.cut? ':' raw.toList =
        some (front.toList, token.toList ++ ':' :: value.toList) := by
    refine Text.cut?_eq_some_iff.2 ⟨?_, h.front⟩
    rw [h.text]
    simp
  have htail {front token value : String} (h : IsCut raw front token value) :
      Text.cut? ':' (token.toList ++ ':' :: value.toList) = some (token.toList, value.toList) :=
    Text.cut?_eq_some_iff.2 ⟨rfl, h.token⟩
  have hfront := Option.some.inj ((hcut h).symm.trans (hcut h'))
  rw [Prod.mk.injEq] at hfront
  have hrest := htail h
  rw [hfront.2, htail h', Option.some.injEq, Prod.mk.injEq] at hrest
  exact ⟨String.toList_inj.1 hfront.1, String.toList_inj.1 hrest.1.symm,
    String.toList_inj.1 hrest.2.symm⟩

/-- The text has the parts of a clause: the name of the field, which may stand between blanks, a
token of the operation, and the value as it is. -/
structure Spells (raw front token : String) (c : Clause) : Prop where
  /-- The parts stand between the first two colons. -/
  cut : IsCut raw front token c.rawValue
  /-- Blanks around the name do not count. -/
  field : Text.trim front = c.field
  /-- There is a name. -/
  field_ne : c.field ≠ ""
  /-- The token names the operation. -/
  operation : Operation.ofToken? token = some c.operation

theorem parse_eq_ok_iff_spells : parse raw = .ok c ↔ ∃ front token, Spells raw front token c := by
  rw [parse_eq_ok_iff]
  refine exists_congr fun front => exists_congr fun token => ⟨?_, fun h => ?_⟩
  · rintro ⟨htext, hfront, htoken, hfield, hne, hoperation⟩
    exact ⟨⟨htext, hfront, htoken⟩, hfield, hne, hoperation⟩
  · exact ⟨h.cut.text, h.cut.front, h.cut.token, h.field, h.field_ne, h.operation⟩

/-! ### Writing -/

/-- A clause as a text, with the name of its operation. -/
def write (c : Clause) : String :=
  c.field ++ ":" ++ c.operation.name ++ ":" ++ c.rawValue

/-- The field of the clause is a name that can stand in a filter. -/
structure IsWritable (c : Clause) : Prop where
  /-- There is a name. -/
  field_ne : c.field ≠ ""
  /-- It has no blanks at its ends. -/
  trimmed : Text.IsTrimmed c.field.toList
  /-- It has no colon. -/
  colon : ':' ∉ c.field.toList

theorem Spells.isWritable (h : Spells raw front token c) : c.IsWritable where
  field_ne := h.field_ne
  trimmed := h.field ▸ Text.isTrimmed_trim front
  colon hmem := h.cut.front (Text.mem_of_mem_trim (h.field ▸ hmem))

theorem IsWritable.spells_write (h : c.IsWritable) : Spells c.write c.field c.operation.name c where
  cut := ⟨rfl, h.colon, c.operation.colon_not_mem_name⟩
  field := Text.trim_eq_self_iff.2 h.trimmed
  field_ne := h.field_ne
  operation := c.operation.ofToken?_name

/-- **A clause is read back from its text just if its field can be written.** -/
theorem parse_write_iff : parse c.write = .ok c ↔ c.IsWritable := by
  rw [parse_eq_ok_iff_spells]
  constructor
  · rintro ⟨front, token, h⟩
    exact h.isWritable
  · intro h
    exact ⟨_, _, h.spells_write⟩

/-! ### Lists -/

/-- The raw value is read as a list of parts. -/
structure ListsParts (c : Clause) : Prop where
  /-- There are such parts, and no others. -/
  unique : ∃! parts, Text.IsJoined ',' c.rawValue parts
  /-- The elements are the parts in their order, trimmed, without those that are blank. -/
  elements : ∀ parts, Text.IsJoined ',' c.rawValue parts →
    c.listValues = (parts.map Text.trim).filter (· ≠ "")
  /-- Written with commas between them, the elements are read back. -/
  rejoined : ∀ c' : Clause, c'.rawValue = Text.joinWith "," c.listValues →
    c'.listValues = c.listValues

theorem listsParts (c : Clause) : c.ListsParts where
  unique := ⟨_, Text.isJoined_iff.2 rfl, fun _ h => Text.isJoined_iff.1 h⟩
  elements parts h := by
    rw [Text.isJoined_iff.1 h, listValues, pieces]
    refine List.filter_congr fun s _ => ?_
    rw [Bool.eq_iff_iff]
    simp
  rejoined c' h := by
    rw [listValues, h]
    exact pieces_joinWith_eq_self_iff.2 fun s => isElement_of_mem_pieces

/-! ### Filters -/

/-- **A clause is read from the texts that spell it**, which have its parts in just one way; it is
read back from its own text if its field can stand there; and its value is read as a list of the
parts between the commas. -/
theorem parse_grammar :
    (∀ raw c, parse raw = .ok c ↔ ∃ front token, Spells raw front token c) ∧
      (∀ raw front token value front' token' value', IsCut raw front token value →
        IsCut raw front' token' value' → front = front' ∧ token = token' ∧ value = value') ∧
      (∀ c, parse (write c) = .ok c ↔ c.IsWritable) ∧ ∀ c : Clause, c.ListsParts :=
  ⟨fun _ _ => parse_eq_ok_iff_spells, fun _ _ _ _ _ _ _ => IsCut.unique,
    fun _ => parse_write_iff, listsParts⟩

/-- The value of a filter for products keeps its colons, commas and blanks. -/
theorem parse_grammar_createdAt :
    Spells " createdAt : In :2024-03-01T10:00:00Z , ,:" " createdAt " " In "
        ⟨"createdAt", .oneOf, "2024-03-01T10:00:00Z , ,:"⟩ ∧
      parse " createdAt : In :2024-03-01T10:00:00Z , ,:" =
        .ok ⟨"createdAt", .oneOf, "2024-03-01T10:00:00Z , ,:"⟩ ∧
      parse "createdAt:IN:2024-03-01T10:00:00Z , ,:" =
        .ok ⟨"createdAt", .oneOf, "2024-03-01T10:00:00Z , ,:"⟩ ∧
      listValues ⟨"createdAt", .oneOf, "2024-03-01T10:00:00Z , ,:"⟩ =
        ["2024-03-01T10:00:00Z", ":"] := by
  have hspells : Spells " createdAt : In :2024-03-01T10:00:00Z , ,:" " createdAt " " In "
      ⟨"createdAt", .oneOf, "2024-03-01T10:00:00Z , ,:"⟩ :=
    ⟨⟨by decide, by decide, by decide⟩, by decide, by decide, by decide⟩
  obtain ⟨hparse, -, hwrite, hlists⟩ := parse_grammar
  have hparts : Text.IsJoined ',' "2024-03-01T10:00:00Z , ,:" ["2024-03-01T10:00:00Z ", " ", ":"] :=
    ⟨by decide, by decide, by decide⟩
  refine ⟨hspells, (hparse _ _).2 ⟨_, _, hspells⟩, (hwrite _).2 hspells.isWritable, ?_⟩
  rw [(hlists _).elements _ hparts]
  decide

end Clause

end ListQuery
