import ListQuery.Proofs.Page
import Mathlib.Data.List.Nodup
import Mathlib.Data.List.Pairwise
import Mathlib.Data.List.Perm.Basic

/-!
# Pages of rows in an order with ties

If the rows of each page are taken from a list in order, and this may be another list for every
page, then rows that the order does not tell apart can change places from one page to the next.

* `Sorting.IsPage` : a page of some rows, put in order in one of the possible ways;
* `Sorting.TiesOnOnePage` : rows that the order does not tell apart belong on one page;
* `Sorting.forall_pages_perm_iff` : this is what it takes for pages to have each row once.
-/

namespace ListQuery

open scoped List

namespace Sorting

variable {α : Type} (cmp : α → α → Ordering) (rows : List α)

/-- A list is in order. -/
def InOrder (sorted : List α) : Prop :=
  sorted.Pairwise fun a b => (cmp a b).isLE = true

/-- The rows behind the first `offset`, at most `limit` of them, when all are put in order. -/
def IsPage (offset limit : Nat) (page : List α) : Prop :=
  ∃ sorted : List α, sorted.Perm rows ∧ InOrder cmp sorted ∧ page = (sorted.drop offset).take limit

/-- The number of rows that must stand in front of a row. -/
def before (a : α) : Nat :=
  rows.countP fun b => (cmp b a).isLT

/-- The number of rows that may stand in front of a row, and the row. -/
def upTo (a : α) : Nat :=
  rows.countP fun b => (cmp b a).isLE

/-- The first and the last of the places that a row can have are on the same page. -/
def TiesOnOnePage (pageSize : Nat) : Prop :=
  ∀ a ∈ rows, before cmp rows a / pageSize = (upTo cmp rows a - 1) / pageSize

variable {cmp rows}

theorem InOrder.of_perm_middle {front middle other back : List α}
    (h : InOrder cmp (front ++ middle ++ back))
    (hties : ∀ a ∈ middle, ∀ b ∈ middle, (cmp a b).isLE = true) (hperm : other ~ middle) :
    InOrder cmp (front ++ other ++ back) := by
  unfold InOrder at h ⊢
  rw [List.pairwise_append, List.pairwise_append] at h ⊢
  obtain ⟨⟨hfront, -, hfrontMiddle⟩, hback, hmiddleBack⟩ := h
  refine ⟨⟨hfront, ?_, ?_⟩, hback, ?_⟩
  · refine List.pairwise_of_forall_mem_list fun a ha b hb => ?_
    exact hties a (hperm.mem_iff.1 ha) b (hperm.mem_iff.1 hb)
  · intro a ha b hb
    exact hfrontMiddle a ha b (hperm.mem_iff.1 hb)
  · intro a ha b hb
    refine hmiddleBack a ?_ b hb
    rw [List.mem_append] at ha ⊢
    exact ha.imp_right hperm.mem_iff.1

variable [Std.TransCmp cmp]

/-! ### Places -/

/-- What holds of all in front of an item for which it holds, holds of as many items as there are
places in front of the first for which it does not. -/
theorem getElem_iff_lt_countP {P : α → Bool} {items : List α}
    (hfront : items.Pairwise fun a b => P b = true → P a = true) {i : Nat} (hi : i < items.length) :
    P items[i] = true ↔ i < items.countP P := by
  induction items generalizing i with
  | nil => cases hi
  | cons a items ih =>
    rw [List.pairwise_cons] at hfront
    obtain ⟨hhead, htail⟩ := hfront
    by_cases ha : P a = true
    · rw [List.countP_cons_of_pos ha]
      cases i with
      | zero => simp [ha]
      | succ i =>
        rw [List.getElem_cons_succ, ih htail (Nat.lt_of_succ_lt_succ hi), Nat.succ_lt_succ_iff]
    · have hnone : items.countP P = 0 := by
        rw [List.countP_eq_zero]
        exact fun b hb hPb => ha (hhead b hb hPb)
      rw [List.countP_cons_of_neg ha, hnone]
      cases i with
      | zero => simp [ha]
      | succ i =>
        simp only [List.getElem_cons_succ, Nat.not_lt_zero, iff_false]
        exact fun hPi => ha (hhead _ (List.getElem_mem _) hPi)

/-- The rows less than a row have the first places. -/
theorem isLT_getElem_iff {sorted : List α} (hperm : sorted.Perm rows) (horder : InOrder cmp sorted)
    (a : α) {i : Nat} (hi : i < sorted.length) :
    (cmp sorted[i] a).isLT = true ↔ i < before cmp rows a := by
  rw [before, ← hperm.countP_eq]
  refine getElem_iff_lt_countP (P := fun b => (cmp b a).isLT) (horder.imp fun {b c} hbc hc => ?_) hi
  rw [Ordering.isLT_iff_eq_lt] at hc ⊢
  exact Std.TransCmp.lt_of_isLE_of_lt hbc hc

/-- So have those that are not greater. -/
theorem isLE_getElem_iff {sorted : List α} (hperm : sorted.Perm rows) (horder : InOrder cmp sorted)
    (a : α) {i : Nat} (hi : i < sorted.length) :
    (cmp sorted[i] a).isLE = true ↔ i < upTo cmp rows a := by
  rw [upTo, ← hperm.countP_eq]
  exact getElem_iff_lt_countP (P := fun b => (cmp b a).isLE)
    (horder.imp fun hbc hc => Std.TransCmp.isLE_trans hbc hc) hi

theorem before_le_and_lt_upTo {sorted : List α} (hperm : sorted.Perm rows)
    (horder : InOrder cmp sorted) {i : Nat} (hi : i < sorted.length) :
    before cmp rows sorted[i] ≤ i ∧ i < upTo cmp rows sorted[i] := by
  have hself : cmp sorted[i] sorted[i] = .eq := Std.ReflCmp.compare_self
  constructor
  · rw [← Nat.not_lt, ← isLT_getElem_iff hperm horder _ hi, hself]
    exact Bool.false_ne_true
  · rw [← isLE_getElem_iff hperm horder _ hi, hself]
    rfl

theorem isLE_of_place {sorted : List α} (hperm : sorted.Perm rows) (horder : InOrder cmp sorted)
    {a : α} {i : Nat} (hi : i < sorted.length) (hbefore : before cmp rows a ≤ i)
    (hupTo : i < upTo cmp rows a) :
    (cmp sorted[i] a).isLE = true ∧ (cmp a sorted[i]).isLE = true := by
  have hnotLT := (isLT_getElem_iff hperm horder a hi).not.2 (Nat.not_lt.2 hbefore)
  refine ⟨(isLE_getElem_iff hperm horder a hi).2 hupTo, ?_⟩
  have hswap : cmp a sorted[i] = (cmp sorted[i] a).swap := Std.OrientedCmp.eq_swap
  rw [hswap]
  revert hnotLT
  cases cmp sorted[i] a <;> simp

theorem exists_inOrder (cmp : α → α → Ordering) [Std.TransCmp cmp] (rows : List α) :
    ∃ sorted : List α, sorted.Perm rows ∧ InOrder cmp sorted := by
  refine ⟨rows.mergeSort fun a b => (cmp a b).isLE, List.mergeSort_perm _ _, ?_⟩
  refine List.pairwise_mergeSort (fun a b c => Std.TransCmp.isLE_trans) (fun a b => ?_) rows
  have hswap : cmp b a = (cmp a b).swap := Std.OrientedCmp.eq_swap
  rw [hswap]
  cases cmp a b <;> rfl

/-! ### Pages without ties across them -/

variable {pageSize : Nat}

/-- If ties do not reach across pages, the place of a row tells the page on which every list in
order has it. -/
theorem before_div_eq (hties : TiesOnOnePage cmp rows pageSize) {sorted : List α}
    (hperm : sorted.Perm rows) (horder : InOrder cmp sorted) {i : Nat} (hi : i < sorted.length) :
    before cmp rows sorted[i] / pageSize = i / pageSize := by
  obtain ⟨hbefore, hupTo⟩ := before_le_and_lt_upTo hperm horder hi
  have hmem : sorted[i] ∈ rows := hperm.mem_iff.1 (List.getElem_mem hi)
  refine Nat.le_antisymm (Nat.div_le_div_right hbefore) ?_
  rw [hties _ hmem]
  exact Nat.div_le_div_right (Nat.le_sub_one_of_lt hupTo)

/-- The items of a page are those that a function of the items assigns to it, if it assigns every
item to the page on which it stands. -/
theorem drop_take_eq_filter {items : List α} (page : α → Nat) (hsize : 0 < pageSize)
    (hpage : ∀ i, ∀ hi : i < items.length, page items[i] = i / pageSize) (j : Nat) :
    (items.drop (j * pageSize)).take pageSize = items.filter fun a => page a == j := by
  have hfront : (items.take (j * pageSize)).filter (fun a => page a == j) = [] := by
    rw [List.filter_eq_nil_iff]
    intro a ha
    obtain ⟨i, hi, rfl⟩ := List.mem_take_iff_getElem.1 ha
    rw [hpage, beq_iff_eq]
    exact Nat.ne_of_lt ((Nat.div_lt_iff_lt_mul hsize).2 (Nat.lt_min.1 hi).1)
  have hback : (items.drop (j * pageSize + pageSize)).filter (fun a => page a == j) = [] := by
    rw [List.filter_eq_nil_iff]
    intro a ha
    obtain ⟨i, hi, rfl⟩ := List.mem_drop_iff_getElem.1 ha
    rw [hpage, beq_iff_eq]
    refine Nat.ne_of_gt ((Nat.le_div_iff_mul_le hsize).2 ?_)
    rw [Nat.succ_mul]
    exact Nat.le_add_right _ _
  have hmiddle : ((items.drop (j * pageSize)).take pageSize).filter (fun a => page a == j) =
      (items.drop (j * pageSize)).take pageSize := by
    rw [List.filter_eq_self]
    intro a ha
    obtain ⟨i, hi, rfl⟩ := List.mem_take_iff_getElem.1 ha
    rw [List.getElem_drop, hpage, beq_iff_eq, Nat.mul_comm, Nat.mul_add_div hsize,
      Nat.div_eq_of_lt (Nat.lt_min.1 hi).1, Nat.add_zero]
  calc (items.drop (j * pageSize)).take pageSize
    _ = ((items.drop (j * pageSize)).take pageSize).filter (fun a => page a == j) := hmiddle.symm
    _ = (items.take (j * pageSize)).filter (fun a => page a == j) ++
          (((items.drop (j * pageSize)).take pageSize).filter (fun a => page a == j) ++
            (items.drop (j * pageSize + pageSize)).filter (fun a => page a == j)) := by
        rw [hfront, hback, List.nil_append, List.append_nil]
    _ = items.filter (fun a => page a == j) := by
        rw [← List.filter_append, ← List.filter_append, ← List.drop_drop, List.take_append_drop,
          List.take_append_drop]

/-- If ties do not reach across pages, every page has the same rows, whatever their order. -/
theorem IsPage.perm_filter (hsize : 0 < pageSize) (hties : TiesOnOnePage cmp rows pageSize)
    {j : Nat} {page : List α} (h : IsPage cmp rows (j * pageSize) pageSize page) :
    page.Perm (rows.filter fun a => before cmp rows a / pageSize == j) := by
  obtain ⟨sorted, hperm, horder, rfl⟩ := h
  rw [drop_take_eq_filter (fun a => before cmp rows a / pageSize) hsize fun i hi =>
    before_div_eq hties hperm horder hi]
  exact hperm.filter _

theorem pages_perm (hsize : 0 < pageSize) (hties : TiesOnOnePage cmp rows pageSize) {count : Nat}
    (hcount : rows.length ≤ count * pageSize) {pages : Nat → List α}
    (hpages : ∀ j, IsPage cmp rows (j * pageSize) pageSize (pages j)) :
    ((List.range count).map pages).flatten.Perm rows := by
  obtain ⟨sorted, hperm, horder⟩ := exists_inOrder cmp rows
  have hlength : sorted.length ≤ count * pageSize := hperm.length_eq ▸ hcount
  have hpage (j : Nat) : (pages j).Perm ((sorted.drop (j * pageSize)).take pageSize) :=
    ((hpages j).perm_filter hsize hties).trans
      (IsPage.perm_filter hsize hties ⟨sorted, hperm, horder, rfl⟩).symm
  calc ((List.range count).map pages).flatten
    _ = (List.range count).flatMap pages := (List.flatMap_def ..).symm
    _ ~ (List.range count).flatMap fun j => (sorted.drop (j * pageSize)).take pageSize :=
        List.Perm.flatMap_left _ fun j _ => hpage j
    _ = sorted := by
        rw [List.flatMap_def, Page.flatten_pages, List.take_of_length_le hlength]
    _ ~ rows := hperm

/-! ### Ties across pages -/

theorem exists_split (cmp : α → α → Ordering) [Std.TransCmp cmp] {a : α} (ha : a ∈ rows) :
    ∃ front middle back, (front ++ middle ++ back) ~ rows ∧ InOrder cmp (front ++ middle ++ back) ∧
      front.length = before cmp rows a ∧ (front ++ middle).length = upTo cmp rows a ∧ a ∈ middle ∧
      ∀ b ∈ middle, ∀ c ∈ middle, (cmp b c).isLE = true := by
  obtain ⟨sorted, hperm, horder⟩ := exists_inOrder cmp rows
  obtain ⟨i, hi, rfl⟩ := List.getElem_of_mem (hperm.mem_iff.2 ha)
  obtain ⟨hbefore, hupTo⟩ := before_le_and_lt_upTo hperm horder hi
  generalize hx : sorted[i] = x at *
  have hle : upTo cmp rows x ≤ sorted.length := hperm.length_eq ▸ List.countP_le_length
  have hlt : before cmp rows x ≤ upTo cmp rows x := by omega
  have hsplit : (sorted.take (upTo cmp rows x)).take (before cmp rows x) ++
      (sorted.take (upTo cmp rows x)).drop (before cmp rows x) ++
        sorted.drop (upTo cmp rows x) = sorted := by
    rw [List.take_append_drop, List.take_append_drop]
  have hmiddle : ∀ b ∈ (sorted.take (upTo cmp rows x)).drop (before cmp rows x),
      (cmp b x).isLE = true ∧ (cmp x b).isLE = true := by
    intro b hb
    obtain ⟨k, hk, rfl⟩ := List.mem_drop_iff_getElem.1 hb
    rw [List.length_take] at hk
    rw [List.getElem_take]
    exact isLE_of_place hperm horder (by omega) (Nat.le_add_right _ _) (by omega)
  refine ⟨_, _, _, hsplit ▸ hperm, hsplit.symm ▸ horder, ?_, ?_, ?_, ?_⟩
  · rw [List.length_take, List.length_take]
    omega
  · rw [List.take_append_drop, List.length_take]
    omega
  · rw [List.mem_drop_iff_getElem]
    obtain ⟨k, rfl⟩ := Nat.exists_eq_add_of_le hbefore
    refine ⟨k, ?_, ?_⟩
    · rw [List.length_take]
      omega
    · rw [List.getElem_take, hx]
  · exact fun b hb c hc => Std.TransCmp.isLE_trans (hmiddle b hb).1 (hmiddle c hc).2

theorem exists_first (cmp : α → α → Ordering) [Std.TransCmp cmp] {a : α} (ha : a ∈ rows) :
    ∃ sorted, sorted ~ rows ∧ InOrder cmp sorted ∧ sorted[before cmp rows a]? = some a := by
  obtain ⟨front, middle, back, hperm, horder, hfront, -, hmem, hties⟩ := exists_split cmp ha
  obtain ⟨u, v, rfl⟩ := List.append_of_mem hmem
  have hswap : a :: (u ++ v) ~ u ++ a :: v := List.perm_middle.symm
  refine ⟨front ++ (a :: (u ++ v)) ++ back, ?_, horder.of_perm_middle hties hswap, ?_⟩
  · exact ((hswap.append_left front).append_right back).trans hperm
  · rw [← hfront, List.append_assoc, List.getElem?_append_right (Nat.le_refl _), Nat.sub_self]
    rfl

theorem exists_last (cmp : α → α → Ordering) [Std.TransCmp cmp] {a : α} (ha : a ∈ rows) :
    ∃ sorted, sorted ~ rows ∧ InOrder cmp sorted ∧ sorted[upTo cmp rows a - 1]? = some a := by
  obtain ⟨front, middle, back, hperm, horder, -, hlast, hmem, hties⟩ := exists_split cmp ha
  obtain ⟨u, v, rfl⟩ := List.append_of_mem hmem
  have hswap : (u ++ v) ++ [a] ~ u ++ a :: v := by
    rw [List.append_assoc]
    exact List.Perm.append_left u (List.perm_append_singleton a v)
  refine ⟨front ++ ((u ++ v) ++ [a]) ++ back, ?_, horder.of_perm_middle hties hswap, ?_⟩
  · exact ((hswap.append_left front).append_right back).trans hperm
  · have hplace : upTo cmp rows a - 1 = (front ++ (u ++ v)).length := by
      rw [← hlast]
      simp only [List.length_append, List.length_cons]
      omega
    rw [hplace, ← List.append_assoc, List.append_assoc,
      List.getElem?_append_right (Nat.le_refl _), Nat.sub_self]
    rfl

theorem mem_page_of_getElem? {items : List α} {a : α} {i : Nat} (hsize : 0 < pageSize)
    (h : items[i]? = some a) : a ∈ (items.drop (i / pageSize * pageSize)).take pageSize := by
  rw [List.mem_take_iff_getElem]
  obtain ⟨hi, rfl⟩ := List.getElem?_eq_some_iff.1 h
  have hdiv := Nat.div_add_mod' i pageSize
  have hmod := Nat.mod_lt i hsize
  refine ⟨i % pageSize, ?_, ?_⟩
  · rw [List.length_drop]
    omega
  · simp only [List.getElem_drop, hdiv]

theorem length_le_of_pages_perm {count : Nat}
    (h : ∀ pages : Nat → List α, (∀ j, IsPage cmp rows (j * pageSize) pageSize (pages j)) →
      ((List.range count).map pages).flatten ~ rows) : rows.length ≤ count * pageSize := by
  obtain ⟨sorted, hperm, horder⟩ := exists_inOrder cmp rows
  have hall := h (fun j => (sorted.drop (j * pageSize)).take pageSize)
    fun j => ⟨sorted, hperm, horder, rfl⟩
  rw [Page.flatten_pages] at hall
  rw [← hall.length_eq, List.length_take]
  exact Nat.min_le_left _ _

/-- A row that can be on two pages is on both of them, if each is filled as suits best. -/
theorem tiesOnOnePage_of_pages_perm {count : Nat} (hsize : 0 < pageSize) (hnodup : rows.Nodup)
    (h : ∀ pages : Nat → List α, (∀ j, IsPage cmp rows (j * pageSize) pageSize (pages j)) →
      ((List.range count).map pages).flatten ~ rows) : TiesOnOnePage cmp rows pageSize := by
  intro a ha
  by_contra hne
  obtain ⟨first, hfirst, horderFirst, hplaceFirst⟩ := exists_first cmp ha
  obtain ⟨last, hlast, horderLast, hplaceLast⟩ := exists_last cmp ha
  -- One page is filled from the list with the row at its first place, the others from the list with
  -- the row at its last one.
  let page (j : Nat) (sorted : List α) := (sorted.drop (j * pageSize)).take pageSize
  let pages (j : Nat) := if j = before cmp rows a / pageSize then page j first else page j last
  have hpages : ∀ j, IsPage cmp rows (j * pageSize) pageSize (pages j) := by
    intro j
    by_cases hj : j = before cmp rows a / pageSize
    · exact ⟨first, hfirst, horderFirst, if_pos hj⟩
    · exact ⟨last, hlast, horderLast, if_neg hj⟩
  have hmemFirst : a ∈ pages (before cmp rows a / pageSize) := by
    rw [show pages _ = _ from if_pos rfl]
    exact mem_page_of_getElem? hsize hplaceFirst
  have hmemLast : a ∈ pages ((upTo cmp rows a - 1) / pageSize) := by
    rw [show pages _ = _ from if_neg (Ne.symm hne)]
    exact mem_page_of_getElem? hsize hplaceLast
  have hlength := length_le_of_pages_perm h
  have hcount {i : Nat} {sorted : List α} (hperm : sorted ~ rows) (hi : sorted[i]? = some a) :
      i / pageSize ∈ List.range count := by
    obtain ⟨hlt, -⟩ := List.getElem?_eq_some_iff.1 hi
    rw [hperm.length_eq] at hlt
    exact List.mem_range.2 ((Nat.div_lt_iff_lt_mul hsize).2 (hlt.trans_le hlength))
  -- Both of these pages have the row, and together they must not.
  have hflat := (h pages hpages).nodup_iff.2 hnodup
  rw [List.nodup_flatten, List.pairwise_map] at hflat
  have hsymm : Std.Symm fun i j => (pages i).Disjoint (pages j) := ⟨fun _ _ hij => hij.symm⟩
  have hdisjoint := hflat.2.forall (hcount hfirst hplaceFirst) (hcount hlast hplaceLast) hne
  exact hdisjoint hmemFirst hmemLast

/-- **Pages that are filled one by one have every row, and once, just if there are enough of them
and no tie reaches across pages**, whichever order is taken for each. -/
theorem forall_pages_perm_iff {count : Nat} (hsize : 0 < pageSize) (hnodup : rows.Nodup) :
    (∀ pages : Nat → List α, (∀ j, IsPage cmp rows (j * pageSize) pageSize (pages j)) →
      ((List.range count).map pages).flatten ~ rows) ↔
        rows.length ≤ count * pageSize ∧ TiesOnOnePage cmp rows pageSize := by
  constructor
  · intro h
    exact ⟨length_le_of_pages_perm h, tiesOnOnePage_of_pages_perm hsize hnodup h⟩
  · rintro ⟨hlength, hties⟩ pages hpages
    exact pages_perm hsize hties hlength hpages

end Sorting

end ListQuery
