import ListQuery.Page
import Mathlib.Algebra.Order.Floor.Div
import Mathlib.Data.List.Basic

/-!
# The pages of a result

* `Page.slice` : the page of a result that is known as a whole;
* `Page.partition_slice` : the pages are the result, with nothing lost and nothing twice;
* `Page.hasNext_slice_iff` : what it means that there is a page behind another.
-/

namespace ListQuery

namespace Page

variable {α : Type} {total page pageSize : Nat}

theorem countPages_eq_min (total pageSize : Nat) :
    countPages total pageSize = min maxPages (total ⌈/⌉ pageSize) := by
  rw [countPages]
  split
  case isTrue h => rw [h, ceilDiv_zero, Nat.min_zero]
  case isFalse h =>
    rw [Nat.ceilDiv_eq_add_pred_div, Nat.add_sub_assoc (Nat.one_le_iff_ne_zero.2 h)]

theorem lt_countPages_iff (hsize : 0 < pageSize) :
    page < countPages total pageSize ↔ page < maxPages ∧ page * pageSize < total := by
  have hrows : page < total ⌈/⌉ pageSize ↔ page * pageSize < total := by
    rw [← not_le, ceilDiv_le_iff_le_mul hsize, not_le, Nat.mul_comm]
  rw [countPages_eq_min, Nat.lt_min, hrows]

/-- The pages hold all rows, if page numbers go so far. -/
theorem le_countPages_mul (hsize : 0 < pageSize) (hmax : total ≤ maxPages * pageSize) :
    total ≤ countPages total pageSize * pageSize := by
  have hceil : total ≤ (total ⌈/⌉ pageSize) * pageSize := by
    rw [Nat.mul_comm]
    exact (ceilDiv_le_iff_le_mul hsize).1 le_rfl
  rw [countPages_eq_min]
  rcases Nat.le_total maxPages (total ⌈/⌉ pageSize) with h | h
  · rwa [Nat.min_eq_left h]
  · rwa [Nat.min_eq_right h]

theorem le_countPages_mul_iff (hsize : 0 < pageSize) :
    total ≤ countPages total pageSize * pageSize ↔ total ≤ maxPages * pageSize := by
  refine ⟨fun h => h.trans (Nat.mul_le_mul_right _ ?_), le_countPages_mul hsize⟩
  rw [countPages_eq_min]
  exact Nat.min_le_left _ _

theorem flatten_pages (items : List α) (pageSize count : Nat) :
    ((List.range count).map fun i => (items.drop (i * pageSize)).take pageSize).flatten =
      items.take (count * pageSize) := by
  induction count with
  | zero => rw [Nat.zero_mul, List.take_zero]; rfl
  | succ count ih =>
    rw [List.range_succ, List.map_append, List.flatten_append, ih, List.map_singleton,
      List.flatten_singleton, Nat.succ_mul, List.take_add]

/-- The page of a result. -/
def slice (found : List α) (page pageSize : Nat) : Page α where
  items := (found.drop ((page - 1) * pageSize)).take pageSize
  page := page
  pageSize := pageSize
  totalPages := min maxPages (found.length ⌈/⌉ pageSize)
  totalElements := found.length

variable (found : List α)

theorem make_eq_slice (page pageSize : Nat) :
    make ((found.drop ((page - 1) * pageSize)).take pageSize) found.length page pageSize =
      slice found page pageSize := by
  rw [make, countPages_eq_min]
  rfl

theorem totalPages_slice (page pageSize : Nat) :
    (slice found page pageSize).totalPages = countPages found.length pageSize :=
  (countPages_eq_min _ _).symm

/-- Pages of one size that are a result, cut up. -/
structure Partition (found : List α) (pageSize : Nat) (pages : Nat → Page α) : Prop where
  /-- One after the other they are the result. -/
  flatten_eq :
    ((List.range (pages 1).totalPages).map fun i => (pages (i + 1)).items).flatten = found
  /-- All but the last are full. -/
  length_eq : ∀ page, 1 ≤ page → page < (pages page).totalPages →
    (pages page).items.length = pageSize
  /-- Behind the last there is nothing. -/
  items_eq_nil : ∀ page, (pages page).totalPages < page → (pages page).items = []

/-- **The pages of a result are the result, cut up**, if page numbers go so far. -/
theorem partition_slice (hsize : 0 < pageSize) (hmax : found.length ≤ maxPages * pageSize) :
    Partition found pageSize fun page => slice found page pageSize := by
  have hrows := le_countPages_mul hsize hmax
  constructor
  case flatten_eq =>
    rw [totalPages_slice]
    exact (flatten_pages found pageSize _).trans (List.take_of_length_le hrows)
  case length_eq =>
    intro page hpage hlast
    rw [totalPages_slice] at hlast
    have hbehind : page * pageSize < found.length := ((lt_countPages_iff hsize).1 hlast).2
    obtain ⟨k, rfl⟩ := Nat.exists_eq_add_of_le' hpage
    rw [Nat.succ_mul] at hbehind
    rw [slice, List.length_take, List.length_drop, Nat.add_sub_cancel]
    omega
  case items_eq_nil =>
    intro page hpage
    rw [totalPages_slice] at hpage
    have hfront : found.length ≤ (page - 1) * pageSize :=
      hrows.trans (Nat.mul_le_mul_right _ (Nat.le_sub_one_of_lt hpage))
    rw [slice, List.drop_of_length_le hfront, List.take_nil]

/-- **There is a page behind another just if it has rows**, as far as page numbers go. -/
theorem hasNext_slice_iff (hsize : 0 < pageSize) :
    (slice found page pageSize).hasNext = true ↔
      page < maxPages ∧ (slice found (page + 1) pageSize).items ≠ [] := by
  have hitems : (slice found (page + 1) pageSize).items ≠ [] ↔ page * pageSize < found.length := by
    rw [slice, Nat.add_sub_cancel, Ne, List.take_eq_nil_iff, List.drop_eq_nil_iff]
    omega
  rw [hasNext, decide_eq_true_iff, totalPages_slice, lt_countPages_iff hsize, hitems]
  rfl

end Page

end ListQuery
