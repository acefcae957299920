import ListQuery.Proofs.Plan.Requests
import ListQuery.Proofs.Sql.Injection
import ListQuery.Proofs.Store.AnswerOrder
import ListQuery.Proofs.Store.FilterOrder
import ListQuery.Proofs.Text.Case
import Mathlib.Tactic.TFAE

/-!
# Texts that are contained literally

A text that stands in a value as it is should be found there whatever the case.  Value and text are
turned into lower case apart from each other, though, and a capital sigma may come out of it in one
form at the end of the text and in another within the value.

* `Metadata.AsksForText` : a request with nothing but a text to be found in a field;
* `Row.HasText` : the text stands in the field as it is;
* `Metadata.AsksForText.exists_plan` : a request for a text is planned, and keeps a row if the text
  is found there;
* `Row.containsText_tfae` : the texts that are found wherever they stand.
-/

namespace ListQuery

variable {m : Metadata} {field : Field} {needle : String} {r : Parameters}

/-! ### Requests for a text -/

/-- A request for a text in a field, with no other condition, be it by a filter or by a search. -/
inductive Metadata.AsksForText (m : Metadata) (field : Field) (needle : String) (r : Parameters) :
    Prop where
  /-- By `like`, or by `contains` if the field is one of the base table. -/
  | filter {raw : String} {c : Clause} (hfilters : r.filters = [raw])
      (hsearch : r.search.bind Text.nonBlank? = none) (hclause : Clause.parse raw = .ok c)
      (hallowed : m.resolveAlias c.field ∈ m.filterFields)
      (hfield : m.resolve (m.resolveAlias c.field) = .ok field) (htype : field.type = .text)
      (hoperation : c.operation = .like ∨ c.operation = .contains ∧ field.collection = none)
      (hneedle : c.rawValue = needle)
  /-- By a search over fields that there are, this one among them. -/
  | search {path : String} (hfilters : r.filters = [])
      (hsearch : r.search.bind Text.nonBlank? = some needle) (hpath : path ∈ m.searchFields)
      (hfield : m.resolve path = .ok field)
      (hresolves : ∀ path ∈ m.searchFields, ∃ field, m.resolve path = .ok field)

/-- The text stands in the field of the row as it is, or in that of an element of a collection. -/
def Row.HasText (row : Json) (joins : List Relation) (field : Field) (needle : String) : Prop :=
  ∃ b ∈ Row.bindings row joins, ∃ stored s, Row.value? row b field = some stored ∧
    Row.textOf? stored = some s ∧ needle.toList <:+: s.toList

/-- Both operations for a part of a text look for it in the text of the field. -/
theorem Clause.lower_eq_containsText {c : Clause} (htype : field.type = .text)
    (hoperation : c.operation = .like ∨ c.operation = .contains ∧ field.collection = none) :
    c.lower field = .ok (.containsText field c.rawValue) := by
  have hmatches : c.lowerMatches field = .ok (.containsText field c.rawValue) := if_pos htype
  obtain hlike | ⟨hcontains, hcollection⟩ := hoperation
  · rw [lower, hlike, hmatches]
  · rw [lower, hcontains, hcollection, ← hmatches]
    rfl

namespace Metadata

theorem exists_searches_of_mem {search : Option String} {path : String}
    (hsearch : search.bind Text.nonBlank? = some needle) (hpath : path ∈ m.searchFields)
    (hfield : m.resolve path = .ok field)
    (hresolves : ∀ path ∈ m.searchFields, ∃ field, m.resolve path = .ok field) :
    ∃ p, m.Searches search (some p) ∧ ∀ row b,
      (Predicate.containsText field needle).holds row b = true → p.holds row b = true := by
  obtain ⟨fields, hfields⟩ := exists_forall₂_iff.2 hresolves
  obtain ⟨field', hmem, hfield'⟩ := exists_of_mem_right hfields.flip hpath
  cases hfield.symm.trans hfield'
  have hcondition : Predicate.containsText field needle ∈ fields.map (.containsText · needle) :=
    List.mem_map_of_mem hmem
  obtain ⟨p, hp, hholds⟩ := Predicate.exists_any?_of_mem hcondition
  refine ⟨p, ?_, hholds⟩
  unfold Searches
  rw [hsearch]
  exact ⟨fields, hfields, hp.symm⟩

/-- **A request for a text is planned**, and keeps a row if the text is found in the field, with one
of the elements of collections. -/
theorem AsksForText.exists_plan (h : m.AsksForText field needle r) :
    ∃ plan, Plan.build m r = .ok plan ∧ ∀ row, ∀ b ∈ Row.bindings row plan.joins,
      (Predicate.containsText field needle).holds row b = true → plan.selects row = true := by
  obtain ⟨p, ps, group, hps, hgroup, hsingle, hholds⟩ : ∃ p ps group,
      List.Forall₂ m.Lowers r.filters ps ∧ m.Searches r.search group ∧ ps ++ group.toList = [p] ∧
        ∀ row b, (Predicate.containsText field needle).holds row b = true →
          p.holds row b = true := by
    cases h with
    | @filter raw c hfilters hsearch hclause hallowed hfield htype hoperation hneedle =>
      subst hneedle
      have hlowers : m.Lowers raw (.containsText field c.rawValue) :=
        ⟨c, hclause, hallowed, field, hfield, Clause.lower_eq_containsText htype hoperation⟩
      refine ⟨.containsText field c.rawValue, [.containsText field c.rawValue], none, ?_, ?_, rfl,
        fun _ _ => id⟩
      · rw [hfilters]
        exact .cons hlowers .nil
      · unfold Searches
        rw [hsearch]
    | search hfilters hsearch hpath hfield hresolves =>
      obtain ⟨p, hp, hholds⟩ := exists_searches_of_mem hsearch hpath hfield hresolves
      refine ⟨p, [], some p, ?_, hp, rfl, hholds⟩
      rw [hfilters]
      exact .nil
  have hbuilder := Plan.builder_eq_ok_iff.2 ⟨ps, group, hps, hgroup, rfl⟩
  have hplan := Plan.build_eq_ok_iff.2 ⟨_, hbuilder, rfl⟩
  refine ⟨_, hplan, fun row b hb hcontains => ?_⟩
  refine (Plan.selects_iff (congrArg Predicate.all? hsingle)).2 ⟨b, hb, ?_⟩
  exact List.forall_mem_singleton.2 (hholds row b hcontains)

end Metadata

/-! ### Texts that are found -/

namespace Sample

theorem parse_like (needle : String) :
    Clause.parse (nameFilter "like" needle) = .ok ⟨"name", .like, needle⟩ :=
  parse_nameFilter (by decide) (by decide) needle

theorem name_mem_filterFields : product.resolveAlias "name" ∈ product.filterFields := by
  decide

theorem resolve_name : product.resolve (product.resolveAlias "name") = .ok nameField := by
  decide

theorem asksForText_name (needle : String) :
    product.AsksForText nameField needle
      (Parameters.default.withFilters [nameFilter "like" needle]) :=
  .filter rfl rfl (parse_like needle) name_mem_filterFields resolve_name rfl (.inl rfl) rfl

theorem build_like (needle : String) :
    Plan.build product (Parameters.default.withFilters [nameFilter "like" needle]) =
      .ok (Plan.ofFilter product (.containsText nameField needle)) := by
  have hlowers : product.Lowers (nameFilter "like" needle) (.containsText nameField needle) :=
    ⟨_, parse_like needle, name_mem_filterFields, nameField, resolve_name, rfl⟩
  exact Plan.build_filter_eq_ok_iff.2 ⟨_, hlowers, rfl⟩

theorem value?_name (s : String) :
    Row.value? (Row.single nameField (.string s)) [] nameField = some (.string s) :=
  Row.base?_single nameField rfl

theorem selects_like (needle s : String) :
    (Plan.ofFilter product (.containsText nameField needle)).selects
      (Row.single nameField (.string s)) = Row.containsText (.string s) needle := by
  have hbindings : Row.bindings (Row.single nameField (.string s))
      (Plan.ofFilter product (.containsText nameField needle)).joins = [[]] := rfl
  rw [Plan.selects, hbindings]
  simp [Plan.ofFilter, Predicate.holds, value?_name]

end Sample

namespace Row

/-- A text is found in a stored value if it is a part of the text of the value, both in lower case. -/
theorem containsText_iff {stored : Json} {s : String} (h : textOf? stored = some s) :
    containsText stored needle = true ↔
      Text.lowerChars needle.toList <:+: Text.lowerChars s.toList := by
  rw [containsText, h, Option.any_some, Text.occursIn_iff]

/-- **The texts that are found wherever they stand as they are.**  For every text the following say
the same: each capital sigma in it has its form by the text alone; it is found in every stored value
whose text it stands in; every request for it in a field keeps the rows in which it stands in the
field, by a filter and by a search alike. -/
theorem containsText_tfae (needle : String) :
    [Text.isSettled needle.toList = true,
      ∀ stored s, textOf? stored = some s → needle.toList <:+: s.toList →
        containsText stored needle = true,
      ∀ m field r, Metadata.AsksForText m field needle r → ∃ plan, Plan.build m r = .ok plan ∧
        ∀ row, HasText row plan.joins field needle → plan.selects row = true].TFAE := by
  tfae_have 1 → 2 := by
    intro hsettled stored s hs hpart
    exact (containsText_iff hs).2 (Text.infix_lowerChars_of_isSettled hsettled hpart)
  tfae_have 2 → 3 := by
    intro hfound m field r hasks
    obtain ⟨plan, hplan, hselects⟩ := hasks.exists_plan
    refine ⟨plan, hplan, fun row => ?_⟩
    rintro ⟨b, hb, stored, s, hvalue, hs, hpart⟩
    refine hselects row b hb ?_
    rw [Predicate.holds, hvalue, Option.any_some]
    exact hfound stored s hs hpart
  tfae_have 3 → 1 := by
    intro hkept
    obtain ⟨plan, hplan, hselects⟩ := hkept _ _ _ (Sample.asksForText_name needle)
    cases (Sample.build_like needle).symm.trans hplan
    refine Text.isSettled_iff.2 fun cs hpart => ?_
    -- A product whose name is any text that the given one is a part of.
    have hpart' : needle.toList <:+: (String.ofList cs).toList := by rwa [String.toList_ofList]
    have hrow := hselects (single Sample.nameField (.string (.ofList cs)))
      ⟨[], List.mem_cons_self, _, _, Sample.value?_name _, rfl, hpart'⟩
    rw [Sample.selects_like, containsText_iff rfl, String.toList_ofList] at hrow
    exact hrow
  tfae_finish

/-- **A text that is not found where it stands**: its sigma ends a word, and in the value it does
not. -/
theorem not_containsText_sigma :
    (¬ ∀ s needle : String, needle.toList <:+: s.toList →
        containsText (.string s) needle = true) ∧
      ∃ plan, Plan.build Sample.product
          (Parameters.default.withFilters ["name:like:ΑΣ"]) = .ok plan ∧
        plan.selects (.object [("name", .string "ΑΣΑ")]) = false := by
  have hlost : containsText (.string "ΑΣΑ") "ΑΣ" = false := by decide +kernel
  refine ⟨fun hfound => ?_, _, Sample.build_like "ΑΣ", ?_⟩
  · have hpart : "ΑΣ".toList <:+: "ΑΣΑ".toList := ⟨[], ['Α'], by decide⟩
    exact Bool.false_ne_true (hlost.symm.trans (hfound _ _ hpart))
  · exact (Sample.selects_like "ΑΣ" "ΑΣΑ").trans hlost

end Row

end ListQuery
