import ListQuery.Proofs.Sql.Paging
import ListQuery.Proofs.Sql.Scoping

/-!
# As many rows as are told

A row of the base table is joined once for every choice of elements, and may meet the condition with
many of them.  The one statement counts identifiers, each once, and the other looks them up; without
joins both test the rows themselves.

* `Sql.Select.IsWholeAnswer` : the answers to a query for rows without its limits;
* `Plan.mem_found_iff` : the rows that are meant meet the condition with some rows joined to them;
* `Plan.countsOnce` : the statements agree on the number of rows, and no row is counted twice.
-/

namespace ListQuery

open Sql

variable {V : Type}

/-! ### Answers -/

namespace Sql

theorem IdQuery.matchesSome_of_joins_eq_nil [DecidableEq V] {S : Reading V} {db : Tables V}
    {q : IdQuery} (h : q.joins = []) (record : Record V) :
    q.matchesSome S db record = meets S q.condition (.ofRecord q.column.table record) := by
  rw [matchesSome, h]
  exact Bool.or_false _

namespace Select

variable [DecidableEq V] {S : Server V} {db : Tables V} {s : Select} {answer : List (Record V)}

/-- A list of rows answers a query without its limits if it has all rows that the query means, in
some order that its columns allow. -/
def IsWholeAnswer (S : Server V) (db : Tables V) (s : Select) (answer : List (Record V)) : Prop :=
  answer.Perm (s.found S.toReading db) ∧
    Sorting.InOrder (compareRecords S s.table s.order) answer

theorem isAnswer_iff : s.IsAnswer S db answer ↔
    ∃ whole, s.IsWholeAnswer S db whole ∧ answer = (whole.drop s.offset).take s.limit :=
  exists_congr fun _ => and_assoc.symm

theorem exists_isWholeAnswer (S : Server V) (db : Tables V) (s : Select) :
    ∃ answer, s.IsWholeAnswer S db answer :=
  have := transCmp_compareRecords S s.table s.order
  Sorting.exists_inOrder _ _

end Select

end Sql

/-! ### Plans -/

namespace Plan

variable [DecidableEq V] {S : Server V} {db : Tables V} {m : Metadata} {r : Parameters}
  {plan : Plan}

/-- **The rows that are meant meet the condition with some rows joined to them**, whether they are
looked up or tested. -/
theorem mem_found_iff (h : build m r = .ok plan) (hkey : IsKey db plan.idColumnRef)
    {record : Record V} :
    record ∈ plan.select.found S.toReading db ↔
      record ∈ db plan.table ∧ plan.idQuery.matchesSome S.toReading db record = true := by
  have hholds : record ∈ db plan.table →
      plan.select.restriction.holds S.toReading db plan.table record =
        plan.idQuery.matchesSome S.toReading db record := by
    intro hrecord
    rw [select]
    cases hdistinct : plan.isDistinct with
    | true => exact IdQuery.selects_eq_matchesSome hkey hrecord
    | false =>
      have hjoins : plan.idQuery.joins = [] := by
        rw [idQuery, joins_eq_nil_of_not_isDistinct h hdistinct, List.flatMap_nil]
      exact (IdQuery.matchesSome_of_joins_eq_nil hjoins record).symm
  rw [Select.found, List.mem_filter]
  exact and_congr_right fun hrecord => by rw [← hholds hrecord]; rfl

theorem nodup_ids_found (hkey : IsKey db plan.idColumnRef) :
    ((plan.select.found S.toReading db).map fun record => record plan.idColumn).Nodup :=
  hkey.nodup.sublist (List.filter_sublist.map _)

/-- The two statements of a plan agree on the rows, and count each once. -/
structure CountsOnce (S : Server V) (db : Tables V) (plan : Plan) : Prop where
  /-- The statement for rows can be answered. -/
  isAnswered : ∃ answer, plan.select.IsWholeAnswer S db answer
  /-- Without its limits it is answered with as many rows as the other statement tells. -/
  length_eq : ∀ answer, plan.select.IsWholeAnswer S db answer →
    answer.length = plan.count.value S.toReading db
  /-- These are the rows that meet the condition with some of the rows joined to them. -/
  mem_iff : ∀ answer, plan.select.IsWholeAnswer S db answer → ∀ record,
    record ∈ answer ↔
      record ∈ db plan.table ∧ plan.idQuery.matchesSome S.toReading db record = true
  /-- No row is answered twice. -/
  nodup : ∀ answer, plan.select.IsWholeAnswer S db answer →
    (answer.map fun record => record plan.idColumn).Nodup
  /-- Neither is it with the limits. -/
  nodup_page : ∀ answer, plan.select.IsAnswer S db answer →
    (answer.map fun record => record plan.idColumn).Nodup

/-- **The number told is the number of rows, and no row is counted twice**, however many of the rows
joined to it meet the condition. -/
theorem countsOnce (h : build m r = .ok plan) (hkey : IsKey db plan.idColumnRef) :
    plan.CountsOnce S db := by
  have hnodup (answer : List (Record V)) (hanswer : plan.select.IsWholeAnswer S db answer) :
      (answer.map fun record => record plan.idColumn).Nodup :=
    (hanswer.1.map _).nodup_iff.2 (nodup_ids_found hkey)
  constructor
  case isAnswered => exact plan.select.exists_isWholeAnswer S db
  case length_eq =>
    intro answer hanswer
    rw [hanswer.1.length_eq, value_count hkey]
  case mem_iff =>
    intro answer hanswer record
    rw [hanswer.1.mem_iff, mem_found_iff h hkey]
  case nodup => exact hnodup
  case nodup_page =>
    intro answer hanswer
    obtain ⟨whole, hwhole, rfl⟩ := Select.isAnswer_iff.1 hanswer
    have hsub : ((whole.drop plan.select.offset).take plan.select.limit).Sublist whole :=
      (List.take_sublist ..).trans (List.drop_sublist ..)
    exact (hnodup whole hwhole).sublist (hsub.map _)

end Plan

/-! ### An example -/

namespace Sample

/-- A condition on the categories of a product. -/
def inTools : Predicate :=
  .equals ⟨"categories.name", some "categories", "name", .text⟩ (.text "Tools") false

theorem lowers_inTools : product.Lowers "category:eq:Tools" inTools := by
  have hparse : Clause.parse "category:eq:Tools" = .ok ⟨"category", .equals, "Tools"⟩ := by decide
  exact ⟨_, hparse, by decide, ⟨"categories.name", some "categories", "name", .text⟩, rfl, rfl⟩

/-- A server whose values are texts. -/
def texts : Server String where
  compare v
    | .string s => some (compare v s)
    | _ => none
  lowerText v := Text.lowerChars v.toList
  order := compare
  transCmp_order := inferInstance

/-- A row with the given values in its columns. -/
def recordOf (entries : List (String × String)) : Record String :=
  fun column => entries.lookup column

/-- A hammer, in two categories of one name, and a shovel in none. -/
def toolshed : Tables String := fun table =>
  if table = "product" then [recordOf [("id", "1")], recordOf [("id", "2")]]
  else if table = "category" then
    [recordOf [("id", "a"), ("name", "Tools")], recordOf [("id", "b"), ("name", "Tools")]]
  else if table = "product_category" then
    [recordOf [("product_id", "1"), ("category_id", "a")],
      recordOf [("product_id", "1"), ("category_id", "b")]]
  else []

theorem isKey_toolshed : IsKey toolshed ⟨"product", "id"⟩ where
  nodup := by decide
  isSome := by
    intro record hrecord
    have hrecord : record ∈ [recordOf [("id", "1")], recordOf [("id", "2")]] := hrecord
    rcases List.mem_pair.1 hrecord with rfl | rfl <;> rfl

end Sample

namespace Plan

/-- The hammer meets the condition with either of its categories, and counts once. -/
theorem countsOnce_toolshed :
    build Sample.product (Parameters.default.withFilters ["category:eq:Tools"]) =
        .ok (ofFilter Sample.product Sample.inTools) ∧
      IsKey Sample.toolshed (ofFilter Sample.product Sample.inTools).idColumnRef ∧
      (joined Sample.toolshed (ofFilter Sample.product Sample.inTools).idQuery.joins
        (.ofRecord "product" (Sample.recordOf [("id", "1")]))).length = 2 ∧
      (ofFilter Sample.product Sample.inTools).count.value Sample.texts.toReading
        Sample.toolshed = 1 ∧
      (ofFilter Sample.product Sample.inTools).CountsOnce Sample.texts Sample.toolshed := by
  have h := build_filter_eq_ok_iff.2 ⟨_, Sample.lowers_inTools, rfl⟩
  refine ⟨h, Sample.isKey_toolshed, ?_, ?_, countsOnce h Sample.isKey_toolshed⟩
  · decide
  · decide

end Plan

end ListQuery
