import ListQuery.Proofs.Plan.Build
import ListQuery.Proofs.Sql.Meaning
import ListQuery.Sample
import ListQuery.Sql.Rendering

/-!
# Paging through rows in a database

Every page is a statement of its own, and its order is what the request names: nothing else tells
rows apart.  Rows that are equal in this order may be put differently for each page.

* `Plan.value_count` : the number of rows told is the number of rows meant;
* `Plan.PagesComplete` : whatever a server answers, the pages have every row, once;
* `Plan.pagesComplete_iff` : what this takes;
* `Plan.not_pagesComplete_invoices` : two rows without an order, and one of them is missing.
-/

namespace ListQuery

open Sql

open scoped List

namespace Plan

variable {V : Type} [DecidableEq V] {S : Server V} {db : Tables V} {m : Metadata} {r : Parameters}
  {plan : Plan} {pageSize : Nat}

/-! ### Statements for other pages -/

mutual

theorem condition_atPage (plan : Plan) (page pageSize : Nat) (p : Predicate) :
    (plan.atPage page pageSize).condition p = plan.condition p := by
  match p with
  | .equals _ _ _ | .compare _ _ _ | .containsText _ _ | .anyOf _ _ => rfl
  | .all children => rw [condition, condition, conditions_atPage plan page pageSize children]
  | .any children => rw [condition, condition, conditions_atPage plan page pageSize children]

theorem conditions_atPage (plan : Plan) (page pageSize : Nat) (ps : List Predicate) :
    (plan.atPage page pageSize).conditions ps = plan.conditions ps := by
  match ps with
  | [] => rfl
  | p :: ps =>
    rw [conditions, conditions, condition_atPage plan page pageSize p,
      conditions_atPage plan page pageSize ps]

end

theorem select_atPage (plan : Plan) (page pageSize : Nat) :
    (plan.atPage page pageSize).select =
      { plan.select with limit := pageSize, offset := (page - 1) * pageSize } := by
  have hwhere : (plan.atPage page pageSize).whereCondition = plan.whereCondition :=
    Option.map_congr fun p _ => condition_atPage plan page pageSize p
  have hids : (plan.atPage page pageSize).idQuery = plan.idQuery := by
    rw [idQuery, hwhere]
    rfl
  rw [select, hwhere, hids]
  rfl

theorem isAnswer_select_atPage (page : Nat) (answer : List (Record V)) :
    (plan.atPage page pageSize).select.IsAnswer S db answer ↔
      Sorting.IsPage (compareRecords S plan.table plan.order) (plan.select.found S.toReading db)
        ((page - 1) * pageSize) pageSize answer := by
  rw [select_atPage]
  rfl

/-! ### All pages -/

theorem value_count (hkey : IsKey db plan.idColumnRef) :
    plan.count.value S.toReading db = (plan.select.found S.toReading db).length := by
  rw [count, Select.found, select]
  cases plan.isDistinct with
  | false => rfl
  | true =>
    refine (IdQuery.length_ids hkey).trans (congrArg List.length ?_)
    exact List.filter_congr fun record hrecord =>
      (IdQuery.selects_eq_matchesSome hkey hrecord).symm

theorem nodup_found (hkey : IsKey db plan.idColumnRef) :
    (plan.select.found S.toReading db).Nodup :=
  (hkey.nodup.of_map _).filter _

/-- Whatever a server answers to the statements for the pages of one size, in whatever order it puts
rows that the statements leave equal: the pages of which it told have every row that is meant, and
have it once. -/
def PagesComplete (S : Server V) (db : Tables V) (m : Metadata) (r : Parameters) (plan : Plan)
    (pageSize : Nat) : Prop :=
  ∀ pages : Nat → List (Record V),
    (∀ page other, build m (r.atPage page pageSize) = .ok other →
      other.select.IsAnswer S db (pages page)) →
    ((List.range (Page.countPages (plan.count.value S.toReading db) pageSize)).map
      fun i => pages (i + 1)).flatten ~ plan.select.found S.toReading db

/-- The pages are those of the rows that are meant, each in an order of its own. -/
theorem pagesComplete_iff_forall_isPage (h : build m r = .ok plan)
    (hkey : IsKey db plan.idColumnRef) :
    PagesComplete S db m r plan pageSize ↔
      ∀ pages : Nat → List (Record V),
        (∀ j, Sorting.IsPage (compareRecords S plan.table plan.order)
          (plan.select.found S.toReading db) (j * pageSize) pageSize (pages j)) →
        ((List.range (Page.countPages (plan.select.found S.toReading db).length pageSize)).map
          pages).flatten ~ plan.select.found S.toReading db := by
  have hbuild (page : Nat) := build_atPage_eq_ok h page pageSize
  rw [PagesComplete, value_count hkey]
  constructor
  · intro hcomplete pages hpages
    refine hcomplete (fun page => pages (page - 1)) fun page other hother => ?_
    rw [hbuild] at hother
    cases hother
    exact (isAnswer_select_atPage page _).2 (hpages (page - 1))
  · intro hcomplete pages hpages
    exact hcomplete (fun j => pages (j + 1)) fun j =>
      (isAnswer_select_atPage (j + 1) _).1 (hpages (j + 1) _ (hbuild (j + 1)))

/-- **The pages have every row, once, just if page numbers go so far and no rows that are equal in
the order of the request belong on different pages.** -/
theorem pagesComplete_iff (h : build m r = .ok plan) (hsize : 0 < pageSize)
    (hkey : IsKey db plan.idColumnRef) :
    PagesComplete S db m r plan pageSize ↔
      (plan.select.found S.toReading db).length ≤ Page.maxPages * pageSize ∧
        Sorting.TiesOnOnePage (compareRecords S plan.table plan.order)
          (plan.select.found S.toReading db) pageSize := by
  have htrans := transCmp_compareRecords S plan.table plan.order
  rw [pagesComplete_iff_forall_isPage h hkey,
    Sorting.forall_pages_perm_iff hsize (nodup_found hkey), Page.le_countPages_mul_iff hsize]

end Plan

/-! ### An example -/

namespace Sample

/-- A server whose values are numbers. -/
def numbers : Server Nat where
  compare v
    | .integer i => some (compare (Int.ofNat v) i)
    | _ => none
  lowerText v := Nat.toDigits 10 v
  order := compare
  transCmp_order := inferInstance

/-- An invoice with nothing but its identifier. -/
def numberedInvoice (number : Nat) : Record Nat :=
  fun column => if column = invoice.idColumn then some number else none

/-- Two invoices. -/
def twoInvoices : Tables Nat :=
  fun table => if table = invoice.table then [numberedInvoice 1, numberedInvoice 2] else []

theorem isKey_twoInvoices : IsKey twoInvoices invoicePlan.idColumnRef where
  nodup := by decide
  isSome := by
    intro record hrecord
    have hrecord : record ∈ [numberedInvoice 1, numberedInvoice 2] := hrecord
    rcases List.mem_pair.1 hrecord with rfl | rfl <;> rfl

end Sample

namespace Plan

/-- On pages of two, the invoices are not put on different ones. -/
theorem pagesComplete_iff_invoices :
    PagesComplete Sample.numbers Sample.twoInvoices Sample.invoice Parameters.default
        Sample.invoicePlan 2 ↔
      (Sample.invoicePlan.select.found Sample.numbers.toReading Sample.twoInvoices).length ≤
          Page.maxPages * 2 ∧
        Sorting.TiesOnOnePage
          (compareRecords Sample.numbers Sample.invoicePlan.table Sample.invoicePlan.order)
          (Sample.invoicePlan.select.found Sample.numbers.toReading Sample.twoInvoices) 2 :=
  pagesComplete_iff Sample.build_invoice (by decide) Sample.isKey_twoInvoices

/-- **Two rows without an order, one on a page**: both pages can have the same row. -/
theorem not_pagesComplete_invoices :
    Sample.invoice.ensureValid = .ok () ∧
      build Sample.invoice Parameters.default = .ok Sample.invoicePlan ∧
      IsKey Sample.twoInvoices Sample.invoicePlan.idColumnRef ∧
      ¬ PagesComplete Sample.numbers Sample.twoInvoices Sample.invoice Parameters.default
        Sample.invoicePlan 1 := by
  have hkey := Sample.isKey_twoInvoices
  refine ⟨rfl, Sample.build_invoice, hkey, ?_⟩
  have htrans := transCmp_compareRecords Sample.numbers Sample.invoicePlan.table
    Sample.invoicePlan.order
  rw [pagesComplete_iff_forall_isPage Sample.build_invoice hkey,
    Sorting.forall_pages_perm_iff Nat.one_pos (nodup_found hkey)]
  -- No column tells the two apart, so that either place is open to each.
  rintro ⟨-, hties⟩
  have hmem : Sample.numberedInvoice 1 ∈
      Sample.invoicePlan.select.found Sample.numbers.toReading Sample.twoInvoices :=
    List.mem_cons_self
  have hplaces : ¬ (0 : Nat) / 1 = (2 - 1) / 1 := by decide
  exact hplaces (hties _ hmem)

end Plan

end ListQuery
