import ListQuery.Proofs.Plan.Contract
import ListQuery.Proofs.Sorting.Naturality
import ListQuery.Proofs.Store.Selection

/-!
# What an entity does not declare has no part in answers

Two stores in memory whose rows differ only in what the entity does not declare keep the rows at the
same positions, in the same order, whatever the request.

* `Row.AgreeOn`, `Metadata.SameDeclared` : two rows do not differ in a field, or in any field that
  is declared;
* `Predicate.holds_congr`, `Row.forall₂_bindings` : a condition sees the values of its fields alone,
  and the choices that two rows allow correspond to each other;
* `Plan.selects_eq_of_sameDeclared`, `SortKey.compareBy_congr` : so do selection and order;
* `Plan.samePositions` : the answers are made of rows at the same positions.
-/

namespace ListQuery

/-! ### Rows -/

namespace Row

/-- Two rows do not differ in a field: its value is the same, or missing in both; a field of a
collection has this said of its values in the elements, of which there are as many. -/
def AgreeOn (row row' : Json) (field : Field) : Prop :=
  match field.collection with
  | none => base? row field = base? row' field
  | some name => List.Forall₂ (fun e e' => element? e field = element? e' field)
      (elements row name) (elements row' name)

/-- Two elements of a collection do not differ in any of the fields that belong to it. -/
def SameElement (declared : Field → Prop) (name : String) (e e' : Json) : Prop :=
  ∀ field, declared field → field.collection = some name → element? e field = element? e' field

/-- Two choices of elements do not differ in any of the fields. -/
def SameElements (declared : Field → Prop) (b b' : Binding) : Prop :=
  ∀ field name, declared field → field.collection = some name →
    (Ordered.find? name b).bind (element? · field) = (Ordered.find? name b').bind (element? · field)

variable {declared : Field → Prop} {row row' : Json}

theorem forall₂_elements (hrow : ∀ field, declared field → AgreeOn row row' field) {name : String}
    (hname : ∃ field, declared field ∧ field.collection = some name) :
    List.Forall₂ (SameElement declared name) (elements row name) (elements row' name) := by
  have hfield (field : Field) (hfield : declared field) (hname : field.collection = some name) :
      List.Forall₂ (fun e e' => element? e field = element? e' field)
        (elements row name) (elements row' name) := by
    have h := hrow field hfield
    rwa [AgreeOn, hname] at h
  -- Any one field of the collection tells that there are as many elements.
  obtain ⟨first, hfirst, hname⟩ := hname
  rw [List.forall₂_iff_get]
  refine ⟨(hfield first hfirst hname).length_eq, fun i hi hi' field hdeclared hname => ?_⟩
  exact (hfield field hdeclared hname).get hi hi'

theorem SameElements.put {b b' : Binding} {name : String} {e e' : Json}
    (hb : SameElements declared b b') (he : SameElement declared name e e') :
    SameElements declared (Ordered.put name e b) (Ordered.put name e' b') := by
  intro field other hfield hother
  rw [Ordered.find?_put, Ordered.find?_put]
  split
  case isTrue heq => exact he field hfield (heq ▸ hother)
  case isFalse => exact hb field other hfield hother

/-- One more choice keeps bindings in step. -/
theorem forall₂_choose {name : String} {es es' : List Json} {bs bs' : List Binding}
    (hes : List.Forall₂ (SameElement declared name) es es')
    (hbs : List.Forall₂ (SameElements declared) bs bs') :
    List.Forall₂ (SameElements declared) (choose name es bs) (choose name es' bs') := by
  cases hes with
  | nil => exact hbs
  | cons he hes =>
    refine List.rel_flatMap hbs fun b b' hb => ?_
    exact List.rel_map (fun _ _ he => SameElements.put hb he) (.cons he hes)

/-- **The choices that two rows allow correspond to each other**, if the rows do not differ in the
fields and each collection has one of these. -/
theorem forall₂_bindings (hrow : ∀ field, declared field → AgreeOn row row' field)
    {joins : List Relation}
    (hjoins : ∀ r ∈ joins, ∃ field, declared field ∧ field.collection = some r.name) :
    List.Forall₂ (SameElements declared) (bindings row joins) (bindings row' joins) := by
  have hstart : List.Forall₂ (SameElements declared) [[]] [[]] :=
    .cons (fun _ _ _ _ => rfl) .nil
  have hfold {bs bs' : List Binding} (hbs : List.Forall₂ (SameElements declared) bs bs') :
      List.Forall₂ (SameElements declared)
        (joins.foldl (fun bs r => choose r.name (elements row r.name) bs) bs)
        (joins.foldl (fun bs r => choose r.name (elements row' r.name) bs) bs') := by
    induction joins generalizing bs bs' with
    | nil => exact hbs
    | cons r joins ih =>
      rw [List.forall_mem_cons] at hjoins
      exact ih hjoins.2 (forall₂_choose (forall₂_elements hrow hjoins.1) hbs)
  exact hfold hstart

theorem value?_eq {b b' : Binding} (hrow : ∀ field, declared field → AgreeOn row row' field)
    (hb : SameElements declared b b') {field : Field} (hfield : declared field) :
    value? row b field = value? row' b' field := by
  have h := hrow field hfield
  rw [AgreeOn] at h
  rw [value?, value?]
  split at h
  case h_1 hbase => simpa only [hbase] using h
  case h_2 name hname => simpa only [hname] using hb field name hfield hname

end Row

/-! ### Conditions -/

namespace Predicate

variable {row row' : Json} {b b' : Binding}

mutual

/-- **A condition sees the values of its fields**, and nothing else of a row. -/
theorem holds_congr (p : Predicate)
    (h : ∀ field ∈ p.fields, Row.value? row b field = Row.value? row' b' field) :
    p.holds row b = p.holds row' b' := by
  match p with
  | equals field _ _ | compare field _ _ | anyOf field _ =>
    have hfield := h field (List.mem_singleton.2 rfl)
    simp only [holds, Row.compareField?, hfield]
  | containsText field _ =>
    have hfield := h field (List.mem_singleton.2 rfl)
    simp only [holds, hfield]
  | all children => rw [holds, holds, allHold_congr children h]
  | any children => rw [holds, holds, anyHolds_congr children h]

theorem allHold_congr (ps : List Predicate)
    (h : ∀ field ∈ fieldsOf ps, Row.value? row b field = Row.value? row' b' field) :
    allHold row b ps = allHold row' b' ps := by
  match ps with
  | [] => rfl
  | p :: ps =>
    rw [fieldsOf, List.forall_mem_append] at h
    rw [allHold, allHold, holds_congr p h.1, allHold_congr ps h.2]

theorem anyHolds_congr (ps : List Predicate)
    (h : ∀ field ∈ fieldsOf ps, Row.value? row b field = Row.value? row' b' field) :
    anyHolds row b ps = anyHolds row' b' ps := by
  match ps with
  | [] => rfl
  | p :: ps =>
    rw [fieldsOf, List.forall_mem_append] at h
    rw [anyHolds, anyHolds, holds_congr p h.1, anyHolds_congr ps h.2]

end

end Predicate

/-! ### Order -/

/-- Sorting sees the values of the fields that it sorts by, and nothing else of a row. -/
theorem SortKey.compareBy_congr {keys : List SortKey} {a a' b b' : Json}
    (ha : ∀ k ∈ keys, Row.base? a k.field = Row.base? a' k.field)
    (hb : ∀ k ∈ keys, Row.base? b k.field = Row.base? b' k.field) :
    compareBy keys a b = compareBy keys a' b' := by
  induction keys with
  | nil => rfl
  | cons k keys ih =>
    rw [List.forall_mem_cons] at ha hb
    rw [compareBy, compareBy, ih ha.2 hb.2, compareRows, compareRows, ha.1, hb.1]

/-! ### Stores -/

/-- Two rows do not differ in any field that the entity declares. -/
def Metadata.SameDeclared (m : Metadata) (row row' : Json) : Prop :=
  ∀ field, m.Declares field → Row.AgreeOn row row' field

namespace Entry

/-- Two entries at one position, whose rows do not differ in any declared field. -/
def Same (m : Metadata) (e e' : Entry) : Prop :=
  e.position = e'.position ∧ m.SameDeclared e.row e'.row

theorem forall₂_ofRows {m : Metadata} {rows rows' : List Json}
    (h : List.Forall₂ m.SameDeclared rows rows') :
    List.Forall₂ (Same m) (ofRows rows) (ofRows rows') := by
  rw [ofRows, ofRows, List.forall₂_map_left_iff, List.forall₂_map_right_iff,
    List.forall₂_iff_get]
  rw [List.forall₂_iff_get] at h
  refine ⟨by simpa using h.1, fun i hi hi' => ?_⟩
  simp only [List.get_eq_getElem, List.getElem_zipIdx, List.length_zipIdx] at h hi hi' ⊢
  exact ⟨rfl, h.2 i hi hi'⟩

theorem getElem?_position {rows : List Json} {e : Entry} (h : e ∈ ofRows rows) :
    rows[e.position]? = some e.row := by
  obtain ⟨p, hp, rfl⟩ := List.mem_map.1 h
  exact List.mem_zipIdx_iff_getElem?.1 hp

end Entry

namespace Sample

/-- The metadata of products for those who may see no more than names and categories. -/
def catalog : Metadata :=
  { product with
    searchFields := []
    filterFields := ["categories.name"]
    sortFields := ["name"] }

/-- The row of a hammer, with what it costs and a note on its category. -/
def hammer (cost note : String) : Json :=
  .object [("categories", .array [.object [("name", .string "Tools"), ("note", .string note)]]),
    ("cost", .string cost), ("name", .string "Hammer")]

end Sample

namespace Plan

variable {m : Metadata} {r : Parameters} {plan : Plan} {row row' : Json} {rows rows' : List Json}

theorem selects_eq_of_sameDeclared (h : build m r = .ok plan) (hrow : m.SameDeclared row row') :
    plan.selects row = plan.selects row' := by
  rw [selects, selects]
  cases hp : plan.predicate with
  | none => rfl
  | some p =>
    have hbindings := Row.forall₂_bindings hrow fun _ hr => exists_field_of_mem_joins h hr
    have hholds {b b' : Binding} (hb : Row.SameElements m.Declares b b') :
        p.holds row b = p.holds row' b' := by
      refine Predicate.holds_congr p fun field hfield => Row.value?_eq hrow hb ?_
      refine declares_of_mem_fields h ?_
      simp [fields, hp, hfield]
    dsimp only
    -- The choices of elements are in step, and the condition holds of one as of the other.
    generalize Row.bindings row plan.joins = bs, Row.bindings row' plan.joins = bs' at hbindings
    induction hbindings with
    | nil => rfl
    | cons hb _ ih => rw [List.any_cons, List.any_cons, hholds hb, ih]

theorem forall₂_matching? (h : build m r = .ok plan)
    (hrows : List.Forall₂ m.SameDeclared rows rows') :
    Option.Rel (List.Forall₂ (Entry.Same m)) (plan.matching? rows) (plan.matching? rows') := by
  refine Sorting.forall₂_sort? ?_ (List.rel_filter ?_ (Entry.forall₂_ofRows hrows))
  · intro a a' b b' ha hb
    have hbase {e e' : Entry} (he : Entry.Same m e e') :
        ∀ k ∈ plan.sort, Row.base? e.row k.field = Row.base? e'.row k.field := by
      intro k hk
      have hdeclared : m.Declares k.field :=
        declares_of_mem_fields h (List.mem_append_right _ (List.mem_map_of_mem hk))
      have hfield := he.2 k.field hdeclared
      rwa [Row.AgreeOn, (lists_of_mem_sort h hk).2] at hfield
    rw [SortKey.compareBy_congr (hbase ha) (hbase hb)]
  · intro e e' he
    simp only [selects_eq_of_sameDeclared h he.2]

theorem map_some_page {found : List Entry} (h : plan.matching? rows = some found) :
    (((found.drop plan.offset).take plan.limit).map Entry.row).map some =
      (((found.map Entry.position).drop plan.offset).take plan.limit).map (rows[·]?) := by
  rw [← List.map_drop, ← List.map_take, List.map_map, List.map_map]
  refine List.map_congr_left fun e he => ?_
  have hfound : e ∈ found := List.mem_of_mem_drop (List.mem_of_mem_take he)
  rw [(matching?_perm h).mem_iff] at hfound
  exact (Entry.getElem?_position (mem_kept.1 hfound).1).symm

/-- Two stores answer a plan with the rows at the same positions, or both do not answer. -/
structure SamePositions (plan : Plan) (rows rows' : List Json) : Prop where
  /-- They find the rows at the same positions, in the same order. -/
  matching : (plan.matching? rows).map (List.map Entry.position) =
    (plan.matching? rows').map (List.map Entry.position)
  /-- They count as many rows. -/
  total : (plan.fetch? rows).map Prod.snd = (plan.fetch? rows').map Prod.snd
  /-- The rows of the page stand at the same positions. -/
  page : ∀ page page', plan.fetch? rows = some page → plan.fetch? rows' = some page' →
    ∃ positions : List Nat, page.1.map some = positions.map (rows[·]?) ∧
      page'.1.map some = positions.map (rows'[·]?)

/-- **What an entity does not declare has no part in answers.** -/
theorem samePositions (h : build m r = .ok plan)
    (hrows : List.Forall₂ m.SameDeclared rows rows') : plan.SamePositions rows rows' := by
  have hmatching := forall₂_matching? h hrows
  generalize hfound : plan.matching? rows = found, hfound' : plan.matching? rows' = found'
    at hmatching
  cases hmatching with
  | none => constructor <;> simp [fetch?_eq_map, hfound, hfound']
  | @some found found' hsame =>
    have hpositions : found.map Entry.position = found'.map Entry.position := by
      rw [← List.forall₂_eq_eq_eq, List.forall₂_map_left_iff, List.forall₂_map_right_iff]
      exact hsame.imp fun _ _ he => he.1
    constructor
    case matching => rw [hfound, hfound', Option.map_some, Option.map_some, hpositions]
    case total => simp [fetch?_eq_map, hfound, hfound', hsame.length_eq]
    case page =>
      rintro page page' hpage hpage'
      rw [fetch?_eq_map, hfound] at hpage
      rw [fetch?_eq_map, hfound'] at hpage'
      cases hpage
      cases hpage'
      refine ⟨((found.map Entry.position).drop plan.offset).take plan.limit,
        map_some_page hfound, ?_⟩
      rw [hpositions]
      exact map_some_page hfound'

/-- Two stores of a hammer, which differ in what it costs and in a note on its category. -/
theorem samePositions_catalog :
    ∃ plan, build Sample.catalog { Parameters.default with
        sort := some "name", filters := ["category:EQUALS:Tools"] } = .ok plan ∧
      plan.SamePositions [Sample.hammer "7" "low"] [Sample.hammer "9" "high"] := by
  have hplan : ∃ plan, build Sample.catalog { Parameters.default with
      sort := some "name", filters := ["category:EQUALS:Tools"] } = .ok plan := ⟨_, rfl⟩
  obtain ⟨plan, h⟩ := hplan
  have hcategory : Sample.catalog.resolve "categories.name" =
      .ok ⟨"categories.name", some "categories", "name", .text⟩ := rfl
  have hname : Sample.catalog.resolve "name" = .ok ⟨"name", none, "name", .text⟩ := rfl
  refine ⟨plan, h, samePositions h (.cons ?_ .nil)⟩
  rintro field ⟨hpath, hfield⟩
  simp only [Sample.catalog, List.nil_append, List.cons_append, List.mem_cons, List.not_mem_nil,
    or_false] at hpath
  obtain hpath | hpath := hpath <;> rw [hpath] at hfield
  · cases hcategory.symm.trans hfield
    exact .cons rfl .nil
  · cases hname.symm.trans hfield
    rfl

end Plan

end ListQuery
