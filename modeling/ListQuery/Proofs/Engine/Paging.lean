import ListQuery.Engine
import ListQuery.Proofs.Page
import ListQuery.Proofs.Store.Selection

/-!
# Paging through rows in memory

The pages of a request, whatever its filters and its sort list, are the pages of one result.  There
is one if the rows that are kept can be sorted; without it no page is answered.

* `Plan.fetch?_atPage` : a page has a part of the rows that are found;
* `Engine.executeInMemory_atPage` : so has a page of the answer;
* `Engine.Pages` : the pages are the result, with nothing lost and nothing twice;
* `Engine.pages_executeInMemory` : so are those of every request.
-/

namespace ListQuery

variable {m : Metadata} {r : Parameters} {plan : Plan}

theorem Plan.matching?_atPage (plan : Plan) (rows : List Json) (page pageSize : Nat) :
    (plan.atPage page pageSize).matching? rows = plan.matching? rows :=
  rfl

theorem Plan.fetch?_atPage (plan : Plan) (rows : List Json) (page pageSize : Nat) :
    (plan.atPage page pageSize).fetch? rows = (plan.matching? rows).map fun found =>
      (((found.map Entry.row).drop ((page - 1) * pageSize)).take pageSize,
        (found.map Entry.row).length) := by
  simp only [fetch?_eq_map, matching?_atPage, List.length_map, ← List.map_drop, ← List.map_take]
  rfl

namespace Engine

theorem executeInMemory_of_build (hvalid : m.ensureValid = .ok ()) (h : Plan.build m r = .ok plan)
    (rows : List Json) :
    executeInMemory rows m r =
      (plan.fetch? rows).map fun page =>
        .ok (Page.make page.1 page.2 plan.page plan.pageSize) := by
  have hplan : Plan.ofValid m r = .ok plan := by
    rw [Plan.ofValid, hvalid]
    exact h
  rw [executeInMemory, execute, hplan]
  dsimp only
  cases plan.fetch? rows <;> rfl

/-- **A page of the answer is a page of the rows found.** -/
theorem executeInMemory_atPage (hvalid : m.ensureValid = .ok ()) (h : Plan.build m r = .ok plan)
    (rows : List Json) (page pageSize : Nat) :
    executeInMemory rows m (r.atPage page pageSize) =
      (plan.matching? rows).map fun found =>
        .ok (Page.slice (found.map Entry.row) page pageSize) := by
  rw [executeInMemory_of_build hvalid (Plan.build_atPage_eq_ok h page pageSize),
    Plan.fetch?_atPage, Option.map_map]
  refine congrArg (Option.map · _) (funext fun found => ?_)
  exact congrArg Except.ok (Page.make_eq_slice (found.map Entry.row) page pageSize)

/-- The pages of a request are those of one result. -/
structure Pages (m : Metadata) (r : Parameters) (plan : Plan) (rows : List Json) (pageSize : Nat) :
    Prop where
  /-- The result does not depend on the page that is asked for. -/
  matching : ∀ page, ∃ other, Plan.build m (r.atPage page pageSize) = .ok other ∧
    other.matching? rows = plan.matching? rows
  /-- It has the rows that are kept, and there is one if they can be sorted. -/
  answers : plan.AnswersKept rows
  /-- Without a result no page is answered. -/
  notAnswered : plan.matching? rows = none →
    ∀ page, executeInMemory rows m (r.atPage page pageSize) = none
  /-- With a result every page is answered, and has the rows behind those of the pages in front. -/
  isAnswered : ∀ found, plan.matching? rows = some found →
    ∀ page, executeInMemory rows m (r.atPage page pageSize) = some (.ok {
      items := ((found.map Entry.row).drop ((page - 1) * pageSize)).take pageSize
      page := page
      pageSize := pageSize
      totalPages := min Page.maxPages (found.length ⌈/⌉ pageSize)
      totalElements := found.length })
  /-- The pages together are the result, and there is a page behind another just if it has rows. -/
  areResult : ∀ found, plan.matching? rows = some found →
    ∃ pages : Nat → Page Json,
      (∀ page, executeInMemory rows m (r.atPage page pageSize) = some (.ok (pages page))) ∧
      (found.length ≤ Page.maxPages * pageSize →
        Page.Partition (found.map Entry.row) pageSize pages) ∧
      ∀ page, (pages page).hasNext = true ↔
        page < Parameters.maxPage ∧ (pages (page + 1)).items ≠ []

/-- **The pages of a request are one result, cut up**, for every page size. -/
theorem pages_executeInMemory (hvalid : m.ensureValid = .ok ()) (h : Plan.build m r = .ok plan)
    (rows : List Json) {pageSize : Nat} (hsize : 0 < pageSize) : Pages m r plan rows pageSize := by
  have hanswer := executeInMemory_atPage hvalid h rows
  constructor
  case matching =>
    exact fun page => ⟨plan.atPage page pageSize, Plan.build_atPage_eq_ok h page pageSize, rfl⟩
  case answers => exact Plan.answersKept plan rows
  case notAnswered =>
    intro hnone page
    rw [hanswer, hnone, Option.map_none]
  case isAnswered =>
    intro found hfound page
    rw [hanswer, hfound, Option.map_some, Page.slice, List.length_map]
  case areResult =>
    intro found hfound
    refine ⟨fun page => Page.slice (found.map Entry.row) page pageSize, fun page => ?_,
      fun hmax => ?_, fun page => Page.hasNext_slice_iff _ hsize⟩
    · rw [hanswer, hfound, Option.map_some]
    · rw [← List.length_map Entry.row] at hmax
      exact Page.partition_slice _ hsize hmax

/-- Products by name, two on a page. -/
theorem pages_executeInMemory_products :
    ∃ plan, Plan.build Sample.product { Parameters.default with sort := some "name:asc" } =
        .ok plan ∧
      Pages Sample.product { Parameters.default with sort := some "name:asc" } plan Sample.rows 2 ∧
      ∃ found, plan.matching? Sample.rows = some found := by
  have hvalid : Sample.product.ensureValid = .ok () := rfl
  have hplan : ∃ plan, Plan.build Sample.product
      { Parameters.default with sort := some "name:asc" } = .ok plan := ⟨_, rfl⟩
  obtain ⟨plan, h⟩ := hplan
  have hpages := pages_executeInMemory hvalid h Sample.rows Nat.two_pos
  exact ⟨plan, h, hpages, hpages.answers.isAnswered (Plan.isSortable_of_length_le (by decide))⟩

end Engine

end ListQuery
