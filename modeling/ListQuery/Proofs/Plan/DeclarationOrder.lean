import ListQuery.Proofs.Metadata.Path
import ListQuery.Proofs.Plan.Build

/-!
# The order in which collections are declared

Which collection a path goes through is told from the names alone, the order of declaration being
there for collections of one name only.  If there are none, plans do not depend on that order.

* `Metadata.declaring` : the metadata with other declarations of collections;
* `Relation.filter_name_eq_of_perm` : relations of one name in another order;
* `Metadata.resolve_declaring`, `Metadata.collection?_declaring` : where the collections come in;
* `Plan.build_declaring` : plans, step by step;
* `Metadata.takesLongest` : what paths denote, whatever the order.
-/

namespace ListQuery

variable {m : Metadata} {r : Parameters} {rs ss : List Relation} {path : String}

theorem Relation.filter_name_eq_of_perm (hnames : (rs.map Relation.name).Nodup) (h : rs.Perm ss)
    (name : String) : ss.filter (·.name == name) = rs.filter (·.name == name) := by
  have hperm : (ss.filter (·.name == name)).Perm (rs.filter (·.name == name)) :=
    (h.filter _).symm
  -- There is at most one of the name, so that there is nothing to change places.
  cases hfound : rs.filter (·.name == name) with
  | nil => rwa [hfound, List.perm_nil] at hperm
  | cons found rest =>
    have hmem : found ∈ rs.filter (·.name == name) := by
      rw [hfound]
      exact List.mem_cons_self
    obtain ⟨hmem, hname⟩ := List.mem_filter.1 hmem
    have hone := Relation.filter_name_eq_singleton hnames hmem
    rw [beq_iff_eq.1 hname] at hone
    rw [← hfound, hone]
    rwa [hone, List.perm_singleton] at hperm

namespace Metadata

/-- The metadata with other declarations of collections. -/
def declaring (m : Metadata) (rs : List Relation) : Metadata :=
  { m with collections := rs }

/-- The declarations differ in nothing but their order, and have different names. -/
structure Reordered (m : Metadata) (rs : List Relation) : Prop where
  /-- No two collections have the same name. -/
  names : (m.collections.map Relation.name).Nodup
  /-- The collections are the same. -/
  perm : m.collections.Perm rs

theorem Reordered.filter_name_eq (h : m.Reordered rs) (name : String) :
    (m.declaring rs).collections.filter (·.name == name) =
      m.collections.filter (·.name == name) :=
  Relation.filter_name_eq_of_perm h.names h.perm name

theorem Reordered.isLongest_iff (h : m.Reordered rs) {r : Relation} :
    (m.declaring rs).IsLongest path r ↔ m.IsLongest path r := by
  have hmem (other : Relation) : other ∈ (m.declaring rs).collections ↔ other ∈ m.collections :=
    h.perm.mem_iff.symm
  constructor
  · rintro ⟨hthrough, hlongest, hlast⟩
    rw [h.filter_name_eq] at hlast
    exact ⟨hthrough, fun other hother => hlongest other ((hmem other).2 hother), hlast⟩
  · rintro ⟨hthrough, hlongest, hlast⟩
    rw [← h.filter_name_eq] at hlast
    exact ⟨hthrough, fun other hother => hlongest other ((hmem other).1 hother), hlast⟩

theorem relationFor?_declaring (h : m.Reordered rs) (path : String) :
    (m.declaring rs).relationFor? path = m.relationFor? path := by
  refine Option.ext fun r => ?_
  rw [relationFor?_eq_some_iff, relationFor?_eq_some_iff, h.isLongest_iff]

theorem resolve_declaring (h : m.Reordered rs) (path : String) :
    (m.declaring rs).resolve path = m.resolve path := by
  rw [resolve, resolve, column, column, relationFor?_declaring h]
  rfl

theorem collection?_declaring (h : m.Reordered rs) (name : String) :
    (m.declaring rs).collection? name = m.collection? name := by
  rw [collection?, collection?, ← List.head?_filter, ← List.head?_filter, h.filter_name_eq]

theorem resolveSort_declaring (h : m.Reordered rs) (list : String) :
    (m.declaring rs).resolveSort list = m.resolveSort list := by
  rw [resolveSort, resolveSort]
  refine congrArg (List.filterMap · _) (funext fun segment => ?_)
  rw [sortKey?, sortKey?]
  simp only [resolve_declaring h]
  rfl

end Metadata

namespace Builder

variable {b : Builder}

theorem addRaw_declaring (h : m.Reordered rs) (b : Builder) (raw : String) :
    addRaw (m.declaring rs) b raw = addRaw m b raw := by
  have hfilter (c : Clause) : addFilter (m.declaring rs) b c = addFilter m b c := by
    rw [addFilter, addFilter]
    simp only [Metadata.resolve_declaring h]
    rfl
  rw [addRaw, addRaw]
  simp only [hfilter]

theorem addSearch_declaring (h : m.Reordered rs) (b : Builder) (term : String) :
    addSearch (m.declaring rs) b term = addSearch m b term := by
  have hmatches (needle : String) :
      searchMatches (m.declaring rs) needle = searchMatches m needle := by
    rw [searchMatches, searchMatches]
    simp only [Metadata.resolve_declaring h]
    rfl
  rw [addSearch, addSearch]
  simp only [hmatches]

end Builder

namespace Plan

theorem builder_declaring (h : m.Reordered rs) (r : Parameters) :
    builder (m.declaring rs) r = builder m r := by
  have hadd : Builder.addRaw (m.declaring rs) = Builder.addRaw m :=
    funext fun b => funext fun raw => Builder.addRaw_declaring h b raw
  rw [builder, builder, hadd]
  simp only [Builder.addSearch_declaring h]

/-- **Requests are planned alike**, or fail with the same error. -/
theorem build_declaring (h : m.Reordered rs) (r : Parameters) :
    build (m.declaring rs) r = build m r := by
  have hcollection : (m.declaring rs).collection? = m.collection? :=
    funext (Metadata.collection?_declaring h)
  have hsort : (m.declaring rs).resolveSort = m.resolveSort :=
    funext (Metadata.resolveSort_declaring h)
  rw [build, build, builder_declaring h, hcollection, hsort]
  rfl

end Plan

namespace Metadata

/-- **A path goes through the collection with the longest name**, and denotes what follows it.
Neither that nor a plan depends on the order in which collections with different names are
declared. -/
theorem takesLongest (m : Metadata) :
    (∀ path, (∃ field, m.resolve path = .ok field ∧ field.collection = none) ↔
        ∀ relation ∈ m.collections, ¬ GoesThrough relation.name path) ∧
      (∀ path result, m.resolve path = result ↔ m.Denotes path result) ∧
      ∀ rs, m.Reordered rs →
        (∀ path, (m.declaring rs).resolve path = m.resolve path) ∧
          ∀ r, Plan.build (m.declaring rs) r = Plan.build m r :=
  ⟨fun _ => exists_base_iff, fun _ _ => resolve_eq_iff,
    fun _ h => ⟨resolve_declaring h, Plan.build_declaring h⟩⟩

end Metadata

namespace Sample

/-- The parcels of a shipment. -/
def parcels : Relation where
  name := "parcels"
  table := "parcel"
  link := .oneToMany "shipment_id"

/-- The labels on parcels. -/
def parcelLabels : Relation where
  name := "parcels.labels"
  table := "parcel_label"
  link := .oneToMany "shipment_id"
  elementColumn := some "label"

/-- The metadata of shipments, with a collection whose name goes on behind that of another. -/
def shipment : Metadata where
  entity := "shipment"
  table := "shipment"
  filterFields := ["parcels.labels", "parcels.weight"]
  collections := [parcels, parcelLabels]
  fields := [("parcels.weight", { type := .numeric, column := some "weight_kg" })]

theorem reordered_shipment : shipment.Reordered [parcelLabels, parcels] :=
  ⟨by decide, .swap _ _ _⟩

theorem isLongest_parcelLabels : shipment.IsLongest "parcels.labels..code" parcelLabels := by
  refine ⟨.inr ⟨".code", by decide⟩, fun other hother _ => ?_, by decide⟩
  have hlengths : ∀ other ∈ shipment.collections, other.name.length ≤ 14 := by decide
  exact hlengths other hother

theorem isLongest_parcels : shipment.IsLongest "parcels.weight" parcels := by
  refine ⟨.inr ⟨"weight", by decide⟩, fun other hother hthrough => ?_, by decide⟩
  rcases List.mem_cons.1 hother with rfl | hother
  · exact le_rfl
  · -- The path does not go through the labels.
    rw [List.mem_singleton.1 hother, ← Metadata.isSome_remainder?_iff] at hthrough
    exact absurd hthrough (by decide)

theorem describes_weight : shipment.Describes "parcels.weight"
    { type := .numeric, column := some "weight_kg" } :=
  ⟨[], [], rfl, List.forall_mem_nil _⟩

end Sample

namespace Metadata

/-- Labels come before parcels, whichever is declared first.  The weight of parcels stands in a
column that it is given. -/
theorem takesLongest_shipment :
    Sample.shipment.Reordered [Sample.parcelLabels, Sample.parcels] ∧
      (Sample.shipment.declaring [Sample.parcelLabels, Sample.parcels]).resolve
          "parcels.labels..code" =
        .ok ⟨"parcels.labels..code", some "parcels.labels", "code", .text⟩ ∧
      (Sample.shipment.declaring [Sample.parcelLabels, Sample.parcels]).resolve "parcels.weight" =
        .ok ⟨"parcels.weight", some "parcels", "weight_kg", .numeric⟩ ∧
      (∀ relation ∈ Sample.shipment.collections, ¬ GoesThrough relation.name "parcelsize") ∧
      Plan.build (Sample.shipment.declaring [Sample.parcelLabels, Sample.parcels])
          (Parameters.default.withFilters ["parcels.labels:eq:fragile"]) =
        Plan.build Sample.shipment
          (Parameters.default.withFilters ["parcels.labels:eq:fragile"]) := by
  obtain ⟨hbase, hdenotes, horder⟩ := takesLongest Sample.shipment
  obtain ⟨hresolve, hbuild⟩ := horder _ Sample.reordered_shipment
  have hrest : Behind "parcels.labels" "parcels.labels..code" "code" :=
    ⟨⟨2, by decide⟩, by decide⟩
  refine ⟨Sample.reordered_shipment, ?_, ?_, (hbase _).1 ⟨_, rfl, rfl⟩, hbuild _⟩
  · have hnone : ∀ d, ¬ Sample.shipment.Describes "parcels.labels..code" d :=
      find?_fields_eq_none_iff.1 rfl
    rw [hresolve, hdenotes]
    exact .segment (.undescribed hnone) Sample.isLongest_parcelLabels
      (fun _ ⟨d, hd, _⟩ => hnone d hd) hrest (by decide) (by decide)
  · rw [hresolve, hdenotes]
    exact .givenElement (.described Sample.describes_weight) Sample.isLongest_parcels
      ⟨_, Sample.describes_weight, rfl⟩

end Metadata

end ListQuery
