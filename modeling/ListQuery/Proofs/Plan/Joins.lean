import ListQuery.Proofs.Plan.Requests

/-!
# What a plan joins

A condition on a collection has the collection joined, under its name.  The relation to join is the
first with that name, while the column of the condition comes from the relation that its path goes
through, which of several with one name is the last.

* `Plan.map_name_joins` : a plan joins the collections that its condition looks at, each once;
* `Plan.JoinsAsResolved` : it joins the relations that the paths go through;
* `Plan.joinsAsResolved_of_nodup` : it does if no two relations have the same name;
* `Plan.joinsAsResolved_iff` : what it takes;
* `Plan.not_joinsAsResolved_labels` : a column of one relation, looked for in the table of another.
-/

namespace ListQuery

variable {m : Metadata} {r : Parameters} {plan : Plan}

namespace Predicate

theorem flatMap_collections (ps : List Predicate) :
    ps.flatMap collections = (ps.flatMap fields).filterMap Field.collection := by
  rw [List.filterMap_flatMap]
  rfl

end Predicate

namespace Plan

/-- The fields that the condition of a plan looks at. -/
def conditionFields (plan : Plan) : List Field :=
  plan.predicate.toList.flatMap Predicate.fields

/-- The collections that the condition of a plan looks at, repetitions included. -/
def collections (plan : Plan) : List String :=
  plan.predicate.toList.flatMap Predicate.collections

theorem mem_collections {name : String} :
    name ∈ plan.collections ↔ ∃ field ∈ plan.conditionFields, field.collection = some name := by
  rw [collections, Predicate.flatMap_collections, List.mem_filterMap]
  rfl

theorem resolve_of_mem_conditionFields (h : build m r = .ok plan) {field : Field}
    (hfield : field ∈ plan.conditionFields) : m.resolve field.path = .ok field :=
  (declares_of_mem_fields h (List.mem_append_left _ hfield)).2

theorem joins_eq_filterMap (h : build m r = .ok plan) :
    plan.joins = (Builder.register [] plan.collections).filterMap m.collection? ∧
      plan.isDistinct = !(Builder.register [] plan.collections).isEmpty := by
  obtain ⟨b, hb, rfl⟩ := build_eq_ok_iff.1 h
  obtain ⟨filters, group, -, -, rfl⟩ := builder_eq_ok_iff.1 hb
  simp only [collections, Builder.predicate?, Builder.isDistinct, Predicate.flatMap_collections,
    Predicate.flatMap_fields_all?, true_and]

/-- **A plan joins the collections that its condition looks at**, each once. -/
theorem map_name_joins (h : build m r = .ok plan) :
    plan.joins.map Relation.name = Builder.register [] plan.collections := by
  rw [(joins_eq_filterMap h).1, map_name_filterMap_collection?, List.filter_eq_self]
  -- The relation that a path goes through has the name that is looked up.
  intro name hname
  obtain hname | hname := Builder.mem_register.1 hname
  · cases hname
  obtain ⟨field, hfield, hname⟩ := mem_collections.1 hname
  obtain ⟨relation, hrelation, rfl⟩ :=
    Metadata.exists_relation_of_resolve (resolve_of_mem_conditionFields h hfield) hname
  exact List.find?_isSome.2 ⟨relation, hrelation, beq_self_eq_true _⟩

theorem filter_joins_eq (h : build m r = .ok plan) {relation : Relation}
    (hrelation : relation ∈ plan.joins) :
    plan.joins.filter (·.name == relation.name) = [relation] :=
  Relation.filter_name_eq_singleton (nodup_names_joins h) hrelation

theorem exists_mem_joins (h : build m r = .ok plan) {name : String}
    (hname : name ∈ plan.collections) : ∃ relation ∈ plan.joins, relation.name = name := by
  rw [← List.mem_map, map_name_joins h, Builder.mem_register]
  exact .inr hname

end Plan

namespace Metadata

/-- The relation that a path goes through is the one that is joined under its name. -/
def JoinsAlike (m : Metadata) (path : String) : Prop :=
  ∀ relation, m.relationFor? path = some relation → m.collection? relation.name = some relation

/-- Names that are given once are looked up alike. -/
theorem joinsAlike_of_nodup (h : (m.collections.map Relation.name).Nodup) (path : String) :
    m.JoinsAlike path := by
  intro relation hrelation
  have hmem := mem_collections_of_relationFor? hrelation
  rw [collection?, ← List.head?_filter, Relation.filter_name_eq_singleton h hmem]
  rfl

end Metadata

namespace Plan

/-- Each collection that the condition looks at is joined once. -/
def JoinsOnce (plan : Plan) : Prop :=
  ∀ name ∈ plan.collections, (plan.joins.filter (·.name == name)).length = 1

/-- Each collection that the condition looks at is joined as the relation that the path of the field
goes through, from which the column of the field comes. -/
def JoinsAsResolved (m : Metadata) (plan : Plan) : Prop :=
  ∀ field ∈ plan.conditionFields, ∀ name, field.collection = some name →
    ∃ relation, m.relationFor? field.path = some relation ∧
      plan.joins.filter (·.name == name) = [relation]

theorem joinsAsResolved_of_joinsAlike (h : build m r = .ok plan)
    (halike : ∀ field ∈ plan.conditionFields, m.JoinsAlike field.path) :
    plan.JoinsAsResolved m := by
  intro field hfield name hname
  obtain ⟨relation, hrelation, rfl⟩ := Option.map_eq_some_iff.1
    ((Metadata.collection_of_resolve (resolve_of_mem_conditionFields h hfield)).symm.trans hname)
  obtain ⟨joined, hjoined, hsame⟩ := exists_mem_joins h (mem_collections.2 ⟨field, hfield, hname⟩)
  -- The relation that is joined is the first with the name, and so is that of the path.
  have hfirst := collection?_of_mem_joins h hjoined
  rw [hsame, halike field hfield relation hrelation] at hfirst
  cases hfirst
  exact ⟨relation, hrelation, filter_joins_eq h hjoined⟩

/-- **If no two relations have the same name, plans join the relations that paths go through.** -/
theorem joinsAsResolved_of_nodup (hnames : (m.collections.map Relation.name).Nodup)
    (h : build m r = .ok plan) : plan.JoinsAsResolved m :=
  joinsAsResolved_of_joinsAlike h fun field _ => m.joinsAlike_of_nodup hnames field.path

/-- **Every collection is joined once, and as the relation that paths go through just if each path
that can be asked for goes through the first relation of its name.** -/
theorem joinsAsResolved_iff (hvalid : m.ensureValid = .ok ()) :
    (∀ r plan, build m r = .ok plan → plan.JoinsOnce) ∧
      ((∀ r plan, build m r = .ok plan → plan.JoinsAsResolved m) ↔
        ∀ path, m.Asked path → m.JoinsAlike path) := by
  constructor
  · intro r plan h name hname
    obtain ⟨relation, hrelation, rfl⟩ := exists_mem_joins h hname
    rw [filter_joins_eq h hrelation]
    rfl
  · constructor
    · intro hall path hasked relation hrelation
      obtain ⟨r, plan, h, hpaths⟩ :=
        m.exists_build_of_asked hvalid (List.forall_mem_singleton.2 hasked)
      obtain ⟨field, hfield, rfl⟩ := List.mem_map.1 (hpaths (List.mem_singleton_self path))
      have hname : field.collection = some relation.name := by
        rw [Metadata.collection_of_resolve (resolve_of_mem_conditionFields h hfield), hrelation]
        rfl
      obtain ⟨joined, hjoined, hfilter⟩ := hall r plan h field hfield _ hname
      cases hrelation.symm.trans hjoined
      have hmem : relation ∈ plan.joins.filter (·.name == relation.name) := by
        rw [hfilter]
        exact List.mem_singleton_self relation
      exact collection?_of_mem_joins h (List.mem_of_mem_filter hmem)
    · intro halike r plan h
      exact joinsAsResolved_of_joinsAlike h fun field hfield =>
        halike field.path (asked_of_mem_fields h hfield)

/-- The collections of products have different names. -/
theorem joinsAsResolved_iff_products :
    Sample.product.ensureValid = .ok () ∧
      (∀ r plan, build Sample.product r = .ok plan → plan.JoinsOnce) ∧
      ((∀ r plan, build Sample.product r = .ok plan → plan.JoinsAsResolved Sample.product) ↔
        ∀ path, Sample.product.Asked path → Sample.product.JoinsAlike path) :=
  have hvalid : Sample.product.ensureValid = .ok () := rfl
  ⟨hvalid, joinsAsResolved_iff hvalid⟩

end Plan

namespace Sample

/-- Labels, which are called tags too. -/
def labels : Relation where
  name := "tags"
  table := "product_label"
  link := .oneToMany "product_id"
  elementColumn := some "label"

/-- The metadata of products with tags and labels. -/
def labelled : Metadata where
  entity := "product"
  table := "product"
  filterFields := ["tags"]
  collections := [tags, labels]

/-- A condition on a tag, with the column of labels. -/
def onSale : Predicate :=
  .equals ⟨"tags", some "tags", "label", .text⟩ (.text "sale") false

theorem lowers_onSale : labelled.Lowers "tags:eq:sale" onSale := by
  have hparse : Clause.parse "tags:eq:sale" = .ok ⟨"tags", .equals, "sale"⟩ := by decide
  exact ⟨_, hparse, by decide, ⟨"tags", some "tags", "label", .text⟩, rfl, rfl⟩

end Sample

namespace Plan

/-- **The condition on labels is put to the table of tags**, where two relations have one name. -/
theorem not_joinsAsResolved_labels :
    Sample.labelled.ensureValid = .ok () ∧
      build Sample.labelled (Parameters.default.withFilters ["tags:eq:sale"]) =
        .ok (ofFilter Sample.labelled Sample.onSale) ∧
      ¬ (ofFilter Sample.labelled Sample.onSale).JoinsAsResolved Sample.labelled := by
  have hthrough : Sample.labelled.relationFor? "tags" = some Sample.labels := by decide
  have hjoins : (ofFilter Sample.labelled Sample.onSale).joins.filter (·.name == "tags") =
      [Sample.tags] := by
    decide
  have hother : Sample.tags ≠ Sample.labels := by decide
  refine ⟨rfl, build_filter_eq_ok_iff.2 ⟨_, Sample.lowers_onSale, rfl⟩, fun hall => ?_⟩
  obtain ⟨relation, hrelation, hjoined⟩ := hall _ (List.mem_singleton_self _) "tags" rfl
  cases hthrough.symm.trans hrelation
  rw [hjoins] at hjoined
  exact hother (List.singleton_inj.1 hjoined)

end Plan

end ListQuery
