import ListQuery.Proofs.Sql.Naming
import ListQuery.Proofs.Sql.Scoping
import Mathlib.Data.List.Pairwise

/-!
# Names that the server can tell apart

The server reads the first 63 bytes of a name.  The check of the metadata looks at each name by
itself, so that two names in one block may still be the same for the server: the base table and a
collection, a collection and the link table of another, or a collection with a long name and its own
link table.

* `Sql.serverName` : what the server reads of a name;
* `Metadata.Joinable` : the relations that plans join;
* `Plan.namesApart_iff` : what it takes for all names to be told apart;
* `Plan.not_namesApart_folders` : a collection with the name of the base table.
-/

namespace ListQuery

/-! ### Names cut off -/

namespace Sql

/-- The longest front that fits into `size` bytes. -/
def clip (size : Nat) : List Char → List Char
  | [] => []
  | c :: cs => if c.utf8Size ≤ size then c :: clip (size - c.utf8Size) cs else []

/-- What the server reads of a name. -/
def serverName (name : String) : String :=
  String.ofList (clip maxIdentifierLength name.toList)

end Sql

open Sql (serverName Block)

/-! ### Names of one block -/

namespace Relation

/-- The server can tell the names of a relation from each other and from the base table. -/
def NamesApart (table : String) (relation : Relation) : Prop :=
  ((table :: relation.joinedNames).map serverName).Nodup

/-- The server can tell the names of one relation from those of another. -/
def ApartFrom (relation other : Relation) : Prop :=
  List.Disjoint (relation.joinedNames.map serverName) (other.joinedNames.map serverName)

instance : Std.Symm ApartFrom :=
  ⟨fun _ _ h _ hother hone => h hone hother⟩

end Relation

namespace Plan

variable {m : Metadata} {r : Parameters} {plan : Plan}

/-- The names in each block of the statements of a plan are different ones for the server. -/
def NamesApart (plan : Plan) : Prop :=
  ∀ block ∈ plan.select.blocks ++ plan.count.blocks, (block.names.map serverName).Nodup

section Build

variable (h : build m r = .ok plan)
include h

theorem nodup_names_block_idQuery_iff :
    (plan.idQuery.block.names.map serverName).Nodup ↔
      (∀ relation ∈ plan.joins, relation.NamesApart m.table) ∧
        ∀ relation ∈ plan.joins, ∀ other ∈ plan.joins, relation ≠ other →
          relation.ApartFrom other := by
  have hnodup : plan.joins.Nodup := (nodup_names_joins h).of_map
  have hpairwise : plan.joins.Pairwise Relation.ApartFrom ↔
      ∀ relation ∈ plan.joins, ∀ other ∈ plan.joins, relation ≠ other →
        relation.ApartFrom other :=
    ⟨fun hall _ hr _ hs hne => hall.forall hr hs hne, hnodup.pairwise_of_forall_ne⟩
  rw [← hpairwise, names_block_idQuery, table_of_build h]
  simp only [Relation.NamesApart, List.map_cons, List.nodup_cons, List.map_flatMap,
    List.nodup_flatMap, List.mem_flatMap, not_exists, not_and, forall_and, and_assoc]
  rfl

/-- It is the query for identifiers that has names to tell apart. -/
theorem namesApart_iff_nodup :
    plan.NamesApart ↔ (plan.idQuery.block.names.map serverName).Nodup := by
  have hone (name : String) : ([name].map serverName).Nodup := List.nodup_singleton _
  rw [NamesApart, blocks_eq]
  cases hdistinct : plan.isDistinct with
  | true =>
    simp only [if_true, List.forall_mem_cons, List.not_mem_nil, false_imp_iff, implies_true,
      and_true]
    exact ⟨fun hall => hall.2.1, fun hnodup => ⟨hone _, hnodup, hone _, hnodup⟩⟩
  | false =>
    simp only [Bool.false_eq_true, if_false, List.forall_mem_cons, List.not_mem_nil, false_imp_iff,
      implies_true, and_true, names_block_idQuery, joins_eq_nil_of_not_isDistinct h hdistinct]
    exact iff_of_true ⟨hone _, hone _⟩ (hone _)

end Build

end Plan

/-! ### Joined relations -/

/-- A relation that is joined for a path that can be asked for: the first with the name of the one
that the path goes through. -/
def Metadata.Joinable (m : Metadata) (relation : Relation) : Prop :=
  ∃ path through, m.Asked path ∧ m.relationFor? path = some through ∧
    m.collection? through.name = some relation

namespace Plan

variable {m : Metadata} {r : Parameters} {plan : Plan}

theorem joinable_of_mem_joins (h : build m r = .ok plan) {relation : Relation}
    (hrelation : relation ∈ plan.joins) : m.Joinable relation := by
  have hname := List.mem_map_of_mem (f := Relation.name) hrelation
  rw [map_name_joins h, Builder.mem_register] at hname
  obtain ⟨field, hfield, hname⟩ := mem_collections.1 (hname.resolve_left List.not_mem_nil)
  rw [Metadata.collection_of_resolve (resolve_of_mem_conditionFields h hfield),
    Option.map_eq_some_iff] at hname
  obtain ⟨through, hthrough, hname⟩ := hname
  refine ⟨field.path, through, asked_of_mem_fields h hfield, hthrough, ?_⟩
  rw [hname]
  exact collection?_of_mem_joins h hrelation

theorem mem_joins_of_mem_paths (h : build m r = .ok plan) {path : String}
    (hpath : path ∈ plan.conditionFields.map Field.path) {through relation : Relation}
    (hthrough : m.relationFor? path = some through)
    (hrelation : m.collection? through.name = some relation) : relation ∈ plan.joins := by
  obtain ⟨field, hfield, rfl⟩ := List.mem_map.1 hpath
  have hname : field.collection = some through.name := by
    rw [Metadata.collection_of_resolve (resolve_of_mem_conditionFields h hfield), hthrough]
    rfl
  obtain ⟨joined, hjoined, hsame⟩ := exists_mem_joins h (mem_collections.2 ⟨field, hfield, hname⟩)
  have hfirst := collection?_of_mem_joins h hjoined
  rw [hsame, hrelation] at hfirst
  cases hfirst
  exact hjoined

/-- Some plan joins two relations together, if each can be joined. -/
theorem exists_build_of_joinable (hvalid : m.ensureValid = .ok ()) {relation other : Relation}
    (hrelation : m.Joinable relation) (hother : m.Joinable other) :
    ∃ r plan, build m r = .ok plan ∧ relation ∈ plan.joins ∧ other ∈ plan.joins := by
  obtain ⟨path, through, hasked, hthrough, hrelation⟩ := hrelation
  obtain ⟨path', through', hasked', hthrough', hother⟩ := hother
  obtain ⟨r, plan, h, hpaths⟩ := m.exists_build_of_asked hvalid
    (List.forall_mem_cons.2 ⟨hasked, List.forall_mem_singleton.2 hasked'⟩)
  exact ⟨r, plan, h, mem_joins_of_mem_paths h (hpaths (by simp)) hthrough hrelation,
    mem_joins_of_mem_paths h (hpaths (by simp)) hthrough' hother⟩

/-- **The names in all statements can be told apart** just if no relation that can be joined has a
name of the base table, of another such relation, or one name twice. -/
theorem namesApart_iff (hvalid : m.ensureValid = .ok ()) :
    (∀ r plan, build m r = .ok plan → plan.NamesApart) ↔
      (∀ relation, m.Joinable relation → relation.NamesApart m.table) ∧
        ∀ relation other, m.Joinable relation → m.Joinable other → relation ≠ other →
          relation.ApartFrom other := by
  constructor
  · intro hall
    constructor
    · intro relation hrelation
      obtain ⟨r, plan, h, hmem, -⟩ := exists_build_of_joinable hvalid hrelation hrelation
      have hnodup := (namesApart_iff_nodup h).1 (hall r plan h)
      exact ((nodup_names_block_idQuery_iff h).1 hnodup).1 relation hmem
    · intro relation other hrelation hother hne
      obtain ⟨r, plan, h, hmem, hmem'⟩ := exists_build_of_joinable hvalid hrelation hother
      have hnodup := (namesApart_iff_nodup h).1 (hall r plan h)
      exact ((nodup_names_block_idQuery_iff h).1 hnodup).2 relation hmem other hmem' hne
  · rintro ⟨hown, hother⟩ r plan h
    rw [namesApart_iff_nodup h, nodup_names_block_idQuery_iff h]
    exact ⟨fun relation hrelation => hown relation (joinable_of_mem_joins h hrelation),
      fun relation hrelation other hmem => hother relation other
        (joinable_of_mem_joins h hrelation) (joinable_of_mem_joins h hmem)⟩

/-- The collections of products and their link tables have names of their own. -/
theorem namesApart_iff_products :
    Sample.product.ensureValid = .ok () ∧
      ((∀ r plan, build Sample.product r = .ok plan → plan.NamesApart) ↔
        (∀ relation, Sample.product.Joinable relation →
          relation.NamesApart Sample.product.table) ∧
        ∀ relation other, Sample.product.Joinable relation → Sample.product.Joinable other →
          relation ≠ other → relation.ApartFrom other) :=
  have hvalid : Sample.product.ensureValid = .ok () := rfl
  ⟨hvalid, namesApart_iff hvalid⟩

end Plan

namespace Sample

/-- The folders in a folder. -/
def subfolders : Relation where
  name := "folders"
  table := "folders"
  link := .oneToMany "parent_id"

/-- The metadata of folders, which have folders in them. -/
def folder : Metadata where
  entity := "folder"
  table := "folders"
  filterFields := ["folders.name"]
  collections := [subfolders]

/-- A condition on a folder inside. -/
def holdsDrafts : Predicate :=
  .equals ⟨"folders.name", some "folders", "name", .text⟩ (.text "drafts") false

theorem lowers_holdsDrafts : folder.Lowers "folders.name:eq:drafts" holdsDrafts := by
  have hparse : Clause.parse "folders.name:eq:drafts" =
      .ok ⟨"folders.name", .equals, "drafts"⟩ := by
    decide
  exact ⟨_, hparse, by decide, ⟨"folders.name", some "folders", "name", .text⟩, rfl, rfl⟩

end Sample

namespace Plan

/-- **Folders inside a folder have the name of the table of all folders**, and no check finds it. -/
theorem not_namesApart_folders :
    Sample.folder.ensureValid = .ok () ∧
      build Sample.folder (Parameters.default.withFilters ["folders.name:eq:drafts"]) =
        .ok (ofFilter Sample.folder Sample.holdsDrafts) ∧
      ¬ (ofFilter Sample.folder Sample.holdsDrafts).NamesApart := by
  have h := build_filter_eq_ok_iff.2 ⟨_, Sample.lowers_holdsDrafts, rfl⟩
  have hnames : (ofFilter Sample.folder Sample.holdsDrafts).idQuery.block.names =
      ["folders", "folders"] := by
    decide
  refine ⟨rfl, h, fun hapart => ?_⟩
  have hnodup := (namesApart_iff_nodup h).1 hapart
  rw [hnames] at hnodup
  exact (List.nodup_cons.1 hnodup).1 (List.mem_singleton_self _)

end Plan

end ListQuery
