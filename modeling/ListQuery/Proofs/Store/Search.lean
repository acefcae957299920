import ListQuery.Proofs.Plan.Joins
import ListQuery.Proofs.Store.FilterOrder
import ListQuery.Proofs.Text.Blank

/-!
# Searches

A search looks at several fields, and the collections that these go through are all joined at once.
A row is found if one of the fields has the text: what a collection has, or that it has nothing,
does not keep a row from being found by another field.

* `Row.valuesOf` : the values of a field, one or one for each element;
* `Row.exists_value?_iff` : these are the values that the field has with some choice of elements;
* `Metadata.Finds` : one of the fields that are searched has the text;
* `Plan.search_finds` : a search keeps the rows in which it does.
-/

namespace ListQuery

/-! ### Values of a field -/

namespace Row

/-- The values of a field that are not null: that of the row, or those of the elements of its
collection. -/
def valuesOf (row : Json) (field : Field) : List Json :=
  match field.collection with
  | none => (base? row field).toList
  | some name => (elements row name).filterMap (element? · field)

/-- There always is a binding, if only an empty one. -/
theorem exists_mem_bindings (row : Json) (joins : List Relation) : ∃ b, b ∈ bindings row joins := by
  obtain ⟨t, ht⟩ := List.exists_mem_of_ne_nil _ (Tuple.joined_ne_nil row joins)
  rw [bindings_eq_map_binding]
  exact ⟨t.binding, List.mem_map_of_mem ht⟩

theorem mem_elements_of_mem_bindings {row : Json} {joins : List Relation} {b : Binding}
    {name : String} {e : Json} (hb : b ∈ bindings row joins) (he : Ordered.find? name b = some e) :
    e ∈ elements row name := by
  have hchoice := isChoice_iff.2 ⟨b, hb, fun _ => rfl⟩ name
  split at hchoice
  case isTrue =>
    rw [he] at hchoice
    exact Tuple.some_mem_partners_iff.1 hchoice
  case isFalse =>
    rw [he] at hchoice
    cases hchoice

/-- **The values that a field has with some choice of elements are its values**, however many other
collections are joined, and whether or not these have elements. -/
theorem exists_value?_iff {row : Json} {joins : List Relation} {field : Field} {v : Json}
    (h : ∀ name, field.collection = some name → name ∈ joins.map Relation.name) :
    (∃ b ∈ bindings row joins, value? row b field = some v) ↔ v ∈ valuesOf row field := by
  simp only [value?, valuesOf]
  cases hname : field.collection with
  | none =>
    obtain ⟨b, hb⟩ := exists_mem_bindings row joins
    simp only [Option.mem_toList]
    exact ⟨fun ⟨_, _, hv⟩ => hv, fun hv => ⟨b, hb, hv⟩⟩
  | some name =>
    simp only [Option.bind_eq_some_iff, List.mem_filterMap]
    constructor
    · rintro ⟨b, hb, e, he, hv⟩
      exact ⟨e, mem_elements_of_mem_bindings hb he, hv⟩
    · rintro ⟨e, he, hv⟩
      obtain ⟨b, hb, hfind⟩ := exists_mem_bindings_of_mem_elements (h name hname) he
      exact ⟨b, hb, e, hfind, hv⟩

end Row

/-! ### What is found -/

/-- One of the fields that are searched has a value whose text contains the given one, both in lower
case. -/
def Metadata.Finds (m : Metadata) (needle : String) (row : Json) : Prop :=
  ∃ path ∈ m.searchFields, ∃ field, m.resolve path = .ok field ∧
    ∃ stored ∈ Row.valuesOf row field, ∃ s, Row.textOf? stored = some s ∧
      Text.lowerChars needle.toList <:+: Text.lowerChars s.toList

namespace Predicate

theorem holds_containsText_iff {row : Json} {b : Binding} {field : Field} {needle : String} :
    (containsText field needle).holds row b = true ↔
      ∃ stored, Row.value? row b field = some stored ∧ ∃ s, Row.textOf? stored = some s ∧
        Text.lowerChars needle.toList <:+: Text.lowerChars s.toList := by
  simp only [holds, Row.containsText, Option.any_eq_true, Text.occursIn_iff]

theorem forall_mem_any?_iff {row : Json} {b : Binding} {ps : List Predicate} :
    (∀ p ∈ (any? ps).toList, p.holds row b = true) ↔ ps = [] ∨ ∃ p ∈ ps, p.holds row b = true := by
  rcases ps with _ | ⟨p, _ | ⟨q, ps⟩⟩
  · simp [any?]
  · simp [any?]
  · simp only [any?, Option.toList_some, List.forall_mem_singleton, holds, anyHolds_iff,
      reduceCtorEq, false_or]

end Predicate

/-- A text is found in a row if the condition that a field has it holds with some choice of
elements, the collections of the fields being joined. -/
theorem Metadata.finds_iff {m : Metadata} {needle : String} {row : Json} {fields : List Field}
    {joins : List Relation}
    (hfields : List.Forall₂ (fun path field => m.resolve path = .ok field) m.searchFields fields)
    (hjoined : ∀ field ∈ fields, ∀ name, field.collection = some name →
      name ∈ joins.map Relation.name) :
    m.Finds needle row ↔ ∃ field ∈ fields, ∃ b ∈ Row.bindings row joins,
      (Predicate.containsText field needle).holds row b = true := by
  have hholds : ∀ field ∈ fields, (∃ b ∈ Row.bindings row joins,
      (Predicate.containsText field needle).holds row b = true) ↔
        ∃ stored ∈ Row.valuesOf row field, ∃ s, Row.textOf? stored = some s ∧
          Text.lowerChars needle.toList <:+: Text.lowerChars s.toList := by
    intro field hfield
    simp only [Predicate.holds_containsText_iff, ← Row.exists_value?_iff (hjoined field hfield)]
    constructor
    · rintro ⟨b, hb, stored, hvalue, htext⟩
      exact ⟨stored, ⟨b, hb, hvalue⟩, htext⟩
    · rintro ⟨stored, ⟨b, hb, hvalue⟩, htext⟩
      exact ⟨b, hb, stored, hvalue, htext⟩
  constructor
  · rintro ⟨path, hpath, field, hfield, hfound⟩
    obtain ⟨field', hmem, hfield'⟩ := exists_of_mem_right hfields.flip hpath
    cases hfield.symm.trans hfield'
    exact ⟨field, hmem, (hholds field hmem).2 hfound⟩
  · rintro ⟨field, hmem, hfound⟩
    obtain ⟨path, hpath, hfield⟩ := exists_of_mem_right hfields hmem
    exact ⟨path, hpath, field, hfield, (hholds field hmem).1 hfound⟩

namespace Plan

variable {m : Metadata} {r : Parameters} {term : String}

theorem exists_build_search
    (hresolves : ∀ path ∈ m.searchFields, ∃ field, m.resolve path = .ok field)
    (hfilters : r.filters = []) (hsearch : r.search = some term) (hterm : Text.trim term ≠ "") :
    ∃ plan fields, build m r = .ok plan ∧
      List.Forall₂ (fun path field => m.resolve path = .ok field) m.searchFields fields ∧
      plan.predicate = Predicate.all?
        (Predicate.any? (fields.map (.containsText · (Text.trim term)))).toList := by
  obtain ⟨fields, hfields⟩ := exists_forall₂_iff.2 hresolves
  have hneedle : r.search.bind Text.nonBlank? = some (Text.trim term) := by
    rw [hsearch, Option.bind_some]
    exact Text.nonBlank?_eq_some_iff.2 ⟨rfl, hterm⟩
  have hgroup : m.Searches r.search
      (Predicate.any? (fields.map (.containsText · (Text.trim term)))) := by
    unfold Metadata.Searches
    rw [hneedle]
    exact ⟨fields, hfields, rfl⟩
  obtain ⟨plan, hplan⟩ := exists_build_iff.2 ⟨by simp [hfilters], _, hgroup⟩
  obtain ⟨ps, group, hps, hgroup', hpredicate, -⟩ := exists_parts hplan
  rw [hfilters, List.forall₂_nil_left_iff] at hps
  rw [hps, List.nil_append, hgroup'.unique hgroup] at hpredicate
  exact ⟨plan, fields, hplan, hfields, hpredicate⟩

/-- **A search keeps the rows in which one of its fields has the text**, and all rows if there is no
field to search. -/
theorem search_finds
    (hresolves : ∀ path ∈ m.searchFields, ∃ field, m.resolve path = .ok field)
    (hfilters : r.filters = []) (hsearch : r.search = some term) (hterm : Text.trim term ≠ "") :
    ∃ plan, build m r = .ok plan ∧ ∀ rows, plan.AnswersKept rows ∧ ∀ e, e ∈ plan.kept rows ↔
      e ∈ Entry.ofRows rows ∧ (m.searchFields = [] ∨ m.Finds (Text.trim term) e.row) := by
  obtain ⟨plan, fields, hplan, hfields, hpredicate⟩ :=
    exists_build_search hresolves hfilters hsearch hterm
  have hlooked : plan.conditionFields = fields := by
    rw [conditionFields, hpredicate, Predicate.flatMap_fields_all?, Predicate.flatMap_fields_any?,
      List.flatMap_map]
    exact List.flatMap_singleton' fields
  have hjoined : ∀ field ∈ fields, ∀ name, field.collection = some name →
      name ∈ plan.joins.map Relation.name := by
    intro field hfield name hname
    exact List.mem_map.2
      (exists_mem_joins hplan (mem_collections.2 ⟨field, hlooked ▸ hfield, hname⟩))
  have hempty : fields = [] ↔ m.searchFields = [] := by
    rw [← List.length_eq_zero_iff, ← hfields.length_eq, List.length_eq_zero_iff]
  refine ⟨plan, hplan, fun rows => ⟨answersKept plan rows, fun e => ?_⟩⟩
  rw [mem_kept, selects_iff hpredicate, Metadata.finds_iff hfields hjoined]
  simp only [Predicate.forall_mem_any?_iff, List.map_eq_nil_iff, hempty, List.mem_map,
    exists_exists_and_eq_and]
  refine and_congr_right fun _ => ?_
  constructor
  · rintro ⟨b, hb, hnone | ⟨field, hfield, hholds⟩⟩
    · exact .inl hnone
    · exact .inr ⟨field, hfield, b, hb, hholds⟩
  · rintro (hnone | ⟨field, hfield, b, hb, hholds⟩)
    · -- Any elements will do where nothing is asked of them.
      obtain ⟨b, hb⟩ := Row.exists_mem_bindings e.row plan.joins
      exact ⟨b, hb, .inl hnone⟩
    · exact ⟨b, hb, .inr ⟨field, hfield, hholds⟩⟩

/-- Products with a word in their name, their description or the name of a category. -/
theorem search_finds_products :
    (∀ path ∈ Sample.product.searchFields, ∃ field, Sample.product.resolve path = .ok field) ∧
      Text.trim " Steel " ≠ "" ∧
      ∃ plan, build Sample.product { Parameters.default with search := some " Steel " } = .ok plan ∧
        ∀ rows, plan.AnswersKept rows ∧ ∀ e, e ∈ plan.kept rows ↔ e ∈ Entry.ofRows rows ∧
          (Sample.product.searchFields = [] ∨
            Sample.product.Finds (Text.trim " Steel ") e.row) := by
  have hvalid : Sample.product.ensureValid = .ok () := rfl
  have hresolves : ∀ path ∈ Sample.product.searchFields,
      ∃ field, Sample.product.resolve path = .ok field :=
    fun path hpath => Metadata.exists_resolve hvalid path (by simp [hpath])
  have hterm : Text.trim " Steel " ≠ "" := by decide
  exact ⟨hresolves, hterm, search_finds hresolves rfl rfl hterm⟩

/-- **Where there is no field to search, a search does not count**: every row is kept. -/
theorem not_search_finds_invoices :
    ¬ ∀ (m : Metadata) (r : Parameters) (term : String),
      (∀ path ∈ m.searchFields, ∃ field, m.resolve path = .ok field) → r.filters = [] →
        r.search = some term → Text.trim term ≠ "" →
          ∃ plan, build m r = .ok plan ∧ ∀ rows e, e ∈ plan.kept rows ↔
            e ∈ Entry.ofRows rows ∧ m.Finds (Text.trim term) e.row := by
  intro h
  have hnone : Sample.invoice.searchFields = [] := rfl
  obtain ⟨plan, hplan, hfinds⟩ :=
    h Sample.invoice { Parameters.default with search := some "x" } "x" (by simp [hnone]) rfl rfl
      (by decide)
  have hbuild : build Sample.invoice { Parameters.default with search := some "x" } =
      .ok Sample.invoicePlan := rfl
  cases hbuild.symm.trans hplan
  have hrow : ⟨0, .object [("total", .number (.integer 1))]⟩ ∈
      Sample.invoicePlan.kept [.object [("total", .number (.integer 1))]] :=
    mem_kept.2 ⟨List.mem_singleton.2 rfl, rfl⟩
  obtain ⟨-, path, hpath, -⟩ := (hfinds _ _).1 hrow
  cases hpath

end Plan

end ListQuery
