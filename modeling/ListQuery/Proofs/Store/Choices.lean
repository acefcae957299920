import ListQuery.Proofs.Store.Tuple

/-!
# Which elements a row can be joined with

The bindings of a row are made collection by collection, in the order of the joins.  What they bind
does not tell that order: under each name an element of that collection, if there is one, and all
combinations of these.

* `Row.IsChoice` : what can be bound, name by name;
* `Row.isChoice_iff` : this is what the bindings of the row bind;
* `Row.exists_mem_bindings_of_mem_elements` : so each element is bound by some binding;
* `Row.exists_mem_bindings_of_subset` : nor does the order of the joins matter, and each binding has
  one for fewer joins as a part.
-/

namespace ListQuery

namespace Row

variable {row : Json} {names : List String} {joins : List Relation}
  {choice : String → Option Json}

/-- A choice for a row binds, under each of the names, an element of the collection, or nothing if
it has none; and nothing else. -/
def IsChoice (row : Json) (names : List String) (choice : String → Option Json) : Prop :=
  ∀ name, if name ∈ names then choice name ∈ Tuple.partners row name else choice name = none

/-- Nothing is bound under the name of a collection without elements. -/
theorem isChoice_concat_of_elements_eq_nil {name : String} (h : elements row name = []) :
    IsChoice row (names ++ [name]) choice ↔ IsChoice row names choice := by
  have hpartners : Tuple.partners row name = [none] := by rw [Tuple.partners, h]
  refine forall_congr' fun other => ?_
  by_cases hother : other = name
  · subst hother
    simp [hpartners]
  · simp [hother]

/-- Otherwise one of its elements is, whatever may have been bound there. -/
theorem isChoice_concat_of_elements_ne_nil {name : String} (h : elements row name ≠ []) :
    IsChoice row (names ++ [name]) choice ↔ ∃ before, IsChoice row names before ∧
      ∃ e ∈ elements row name,
        ∀ other, choice other = if other = name then some e else before other := by
  have hpartners : Tuple.partners row name = (elements row name).map some := by
    rw [Tuple.partners]
    split
    · contradiction
    · rfl
  constructor
  · intro hchoice
    have hname := hchoice name
    rw [if_pos (by simp), hpartners, List.mem_map] at hname
    obtain ⟨e, he, hbound⟩ := hname
    -- Before, nothing was bound but under the other names.
    refine ⟨fun other => if other ∈ names then choice other else none, fun other => ?_, e, he,
      fun other => ?_⟩
    · have hother := hchoice other
      by_cases hmem : other ∈ names
      · simpa [hmem] using hother
      · simp [hmem]
    · have hother := hchoice other
      by_cases heq : other = name
      · rw [if_pos heq, heq, hbound]
      · by_cases hmem : other ∈ names
        · simp [heq, hmem]
        · simpa [heq, hmem] using hother
  · rintro ⟨before, hbefore, e, he, hchoice⟩ other
    have hother := hbefore other
    by_cases heq : other = name
    · subst heq
      simp [hchoice, hpartners, he]
    · simpa [hchoice, heq] using hother

theorem bindings_concat (row : Json) (joins : List Relation) (r : Relation) :
    bindings row (joins ++ [r]) = choose r.name (elements row r.name) (bindings row joins) := by
  rw [bindings, List.foldl_append]
  rfl

/-- **What bindings of a row bind is told name by name.** -/
theorem isChoice_iff : IsChoice row (joins.map Relation.name) choice ↔
    ∃ b ∈ bindings row joins, ∀ name, Ordered.find? name b = choice name := by
  induction joins using List.reverseRecOn generalizing choice with
  | nil =>
    have hempty : bindings row [] = [[]] := rfl
    have hnone (name : String) : Ordered.find? name ([] : Binding) = none := rfl
    simp [IsChoice, hempty, hnone, eq_comm]
  | append_singleton joins r ih =>
    rw [List.map_append, List.map_singleton, bindings_concat, choose]
    cases hitems : elements row r.name with
    | nil =>
      rw [isChoice_concat_of_elements_eq_nil hitems, ih]
      rfl
    | cons item items =>
      have hne : elements row r.name ≠ [] := hitems ▸ List.cons_ne_nil item items
      rw [isChoice_concat_of_elements_ne_nil hne, List.isEmpty_cons, if_neg Bool.false_ne_true,
        ← hitems]
      simp only [List.mem_flatMap, List.mem_map]
      constructor
      · rintro ⟨before, hbefore, e, he, hchoice⟩
        obtain ⟨b, hb, hfind⟩ := ih.1 hbefore
        exact ⟨_, ⟨b, hb, e, he, rfl⟩, fun name => by rw [Ordered.find?_put, hfind, hchoice]⟩
      · rintro ⟨_, ⟨b, hb, e, he, rfl⟩, hfind⟩
        refine ⟨_, ih.2 ⟨b, hb, fun _ => rfl⟩, e, he, fun other => ?_⟩
        rw [← hfind, Ordered.find?_put]

/-- **Any element of a joined collection is bound by some binding**, whatever the other collections
have. -/
theorem exists_mem_bindings_of_mem_elements {name : String}
    (hname : name ∈ joins.map Relation.name) {e : Json} (he : e ∈ elements row name) :
    ∃ b ∈ bindings row joins, Ordered.find? name b = some e := by
  choose partner hpartner using fun other =>
    List.exists_mem_of_ne_nil _ (Tuple.partners_ne_nil row other)
  have hchoice : IsChoice row (joins.map Relation.name) fun other =>
      if other = name then some e
      else if other ∈ joins.map Relation.name then partner other else none := by
    intro other
    dsimp only
    by_cases heq : other = name
    · rw [if_pos (heq ▸ hname), if_pos heq, heq]
      exact Tuple.some_mem_partners_iff.2 he
    · rw [if_neg heq]
      split
      case isTrue => exact hpartner other
      case isFalse => rfl
  obtain ⟨b, hb, hfind⟩ := isChoice_iff.1 hchoice
  exact ⟨b, hb, (hfind name).trans (if_pos rfl)⟩

/-- What a choice binds under some of the names is a choice for these. -/
theorem IsChoice.restrict {names' : List String} (h : IsChoice row names' choice)
    (hsub : names ⊆ names') :
    IsChoice row names fun name => if name ∈ names then choice name else none := by
  intro name
  have hname := h name
  by_cases hmem : name ∈ names
  · simpa [hmem, hsub hmem] using hname
  · simp [hmem]

/-- **Each binding has a binding for fewer joins as a part**, in which nothing is bound under the
names of the others. -/
theorem exists_mem_bindings_of_subset {joins' : List Relation}
    (h : joins.map Relation.name ⊆ joins'.map Relation.name) {b' : Binding}
    (hb' : b' ∈ bindings row joins') :
    ∃ b ∈ bindings row joins, ∀ name, Ordered.find? name b =
      if name ∈ joins.map Relation.name then Ordered.find? name b' else none :=
  isChoice_iff.1 ((isChoice_iff.2 ⟨b', hb', fun _ => rfl⟩).restrict h)

theorem find?_eq_none_of_mem_bindings {b : Binding} (hb : b ∈ bindings row joins) {name : String}
    (hname : name ∉ joins.map Relation.name) : Ordered.find? name b = none := by
  have hchoice := isChoice_iff.2 ⟨b, hb, fun _ => rfl⟩ name
  rwa [if_neg hname] at hchoice

end Row

end ListQuery
