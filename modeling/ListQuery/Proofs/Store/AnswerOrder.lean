import ListQuery.Proofs.Store.Noninterference
import ListQuery.Proofs.Store.ValueOrder
import Mathlib.Data.List.Permutation
import Mathlib.Data.List.TFAE
import Mathlib.Tactic.TFAE

/-!
# The order of rows in answers

An answer has its rows in the order of the sort keys if the values that they hold are in an order.
If they are not, there are rows that come out in no order, and rows for which there is no answer.

* `SortKey.orderOn_compareBy` : rows are in an order by any number of keys;
* `Plan.exists_matching?_of_orderOn` : then there is an answer that has them in that order, and
  equal ones as they are stored;
* `Plan.matching?_singles` : rows that need not be moved stay as they are stored;
* `Row.orderable_tfae` : values, rows and answers are in an order together;
* `Row.not_orderOn_prices` : three prices that are not;
* `Row.matching?_many_prices` : many prices with which sorting breaks off.
-/

namespace ListQuery

open Sorting

namespace Row

/-! ### Rows with one value -/

/-- Sorting does not put the value `w` in front of `v`; both are such as are stored. -/
def Follows (stored : Json → Prop) (v w : Json) : Prop :=
  (stored v ∧ v.isNull = false) ∧ (stored w ∧ w.isNull = false) ∧ compareValues v w ≠ .gt

/-- A row with nothing but the value of a field. -/
def single (field : Field) (v : Json) : Json :=
  .object [(field.column, v)]

theorem base?_single (field : Field) {v : Json} (h : v.isNull = false) :
    base? (single field v) field = some v := by
  simp [base?, single, Json.get?, Ordered.find?, present, h]

theorem stored_of_mem_map_single {stored : Json → Prop} {field : Field} {values : List Json}
    (hall : ∀ v ∈ values, stored v ∧ v.isNull = false) :
    ∀ row ∈ values.map (single field), ∀ v ∈ base? row field, stored v := by
  intro row hrow v hv
  obtain ⟨w, hw, rfl⟩ := List.mem_map.1 hrow
  rw [base?_single field (hall w hw).2] at hv
  cases hv
  exact (hall _ hw).1

end Row

/-! ### Rows -/

/-- **Rows are in an order** by all keys if they are by each. -/
theorem SortKey.orderOn_compareBy {keys : List SortKey} {P : Json → Prop}
    (h : ∀ k ∈ keys, OrderOn (fun a b : Json =>
      Row.compareForSort (Row.base? a k.field) (Row.base? b k.field)) P) :
    OrderOn (compareBy keys) P := by
  induction keys with
  | nil => exact orderOn_iff.2 ⟨fun _ _ _ _ => rfl, fun _ _ _ _ _ _ _ _ => rfl⟩
  | cons k rest ih =>
    obtain ⟨hk, hrest⟩ := List.forall_mem_cons.1 h
    have hrows : OrderOn (fun a b : Json => compareRows a b k) P := by
      unfold compareRows
      cases k.direction with
      | ascending => exact hk
      | descending => exact OrderOn.swap hk
    exact OrderOn.then hrows (ih hrest)

/-! ### Sorted answers -/

theorem Entry.pairwise_ofRows_iff (R : Json → Json → Prop) {rows : List Json} :
    ((ofRows rows).Pairwise fun a b => R a.row b.row) ↔ rows.Pairwise R := by
  rw [← List.pairwise_map, map_row_ofRows]

namespace Plan

variable {plan : Plan} {field : Field} {stored : Json → Prop}

/-- **If the rows that are kept are in an order, the answer has them in that order**, equal ones in
the order of the store. -/
theorem exists_matching?_of_orderOn {rows : List Json}
    (h : OrderOn (SortKey.compareBy plan.sort) fun row => row ∈ rows ∧ plan.selects row = true) :
    ∃ found, plan.matching? rows = some found ∧ found.Pairwise (InFront
      (fun a b => SortKey.compareBy plan.sort a.row b.row) fun a b => a.position < b.position) := by
  refine exists_sort? (OrderOn.comap h fun e he => row_mem_of_mem_kept he) ?_
  have hpositions : (Entry.ofRows rows).Pairwise fun a b => a.position < b.position := by
    rw [← List.pairwise_map, Entry.map_position_ofRows]
    exact List.pairwise_lt_range
  exact hpositions.filter _

theorem matching?_ascending (hsort : plan.sort = [⟨field, .ascending⟩]) (rows : List Json) :
    plan.matching? rows = Sorting.sort? (fun a b =>
      Row.compareForSort (Row.base? a.row field) (Row.base? b.row field) == .lt)
        (plan.kept rows) := by
  rw [matching?, hsort]
  simp only [SortKey.compareBy, SortKey.compareRows, Ordering.then_eq]

/-- The plan for all rows, sorted. -/
def ofSort (m : Metadata) (list : String) : Plan where
  entity := m.entity
  table := m.table
  idColumn := m.idColumn
  joins := []
  predicate := none
  sort := m.resolveSort list
  isDistinct := false
  page := Parameters.defaultPage
  pageSize := Parameters.defaultPageSize
  offset := 0
  limit := Parameters.defaultPageSize

theorem build_sort (m : Metadata) (list : String) :
    build m { Parameters.default with sort := some list } = .ok (ofSort m list) :=
  rfl

theorem kept_eq_ofRows (hpredicate : plan.predicate = none) (rows : List Json) :
    plan.kept rows = Entry.ofRows rows := by
  rw [kept, List.filter_eq_self]
  intro e _
  rw [selects, hpredicate]

theorem matching?_singles (hsort : plan.sort = [⟨field, .ascending⟩])
    (hpredicate : plan.predicate = none) {values : List Json}
    (hchain : values.IsChain (Row.Follows stored)) :
    plan.matching? (values.map (Row.single field)) =
      some (Entry.ofRows (values.map (Row.single field))) := by
  have hrows : (values.map (Row.single field)).IsChain fun a b =>
      Row.compareForSort (Row.base? a field) (Row.base? b field) ≠ .gt := by
    rw [List.isChain_map]
    refine hchain.imp fun a b hab => ?_
    rw [Row.base?_single field hab.1.2, Row.base?_single field hab.2.1.2]
    exact hab.2.2
  rw [← Entry.map_row_ofRows (values.map (Row.single field)), List.isChain_map] at hrows
  rw [matching?_ascending hsort, kept_eq_ofRows hpredicate]
  refine Sorting.sort?_eq_self (hrows.imp fun a b hab => ?_)
  rw [beq_eq_false_iff_ne]
  exact Row.compareForSort_ne_gt_iff.1 hab

end Plan

namespace Sample

/-- The price of a product. -/
def price : Field :=
  ⟨"price", none, "price", .numeric⟩

theorem sort_price :
    (Plan.ofSort product "price:asc").sort = [⟨price, .ascending⟩] := by
  decide

/-- A price that is an integer, but no binary fraction. -/
def oddPrice : Json :=
  .number (.integer 9007199254740993)

/-- The price next to it that is a binary fraction, as an integer. -/
def evenPrice : Json :=
  .number (.integer 9007199254740992)

/-- The same price as a binary fraction. -/
def evenFraction : Binary64 where
  negative := false
  magnitude := 9007199254740992 * Binary64.one
  onGrid := by decide +kernel
  finite := by decide +kernel

/-- The three prices. -/
inductive Price where
  | odd
  | fraction
  | even

/-- The stored value of a price. -/
def Price.value : Price → Json
  | odd => oddPrice
  | fraction => .number (.real evenFraction)
  | even => evenPrice

/-- Only as integers are the prices told apart. -/
def Price.isLess : Price → Price → Bool
  | even, odd => true
  | _, _ => false

theorem Price.isNull_value (p : Price) : p.value.isNull = false := by
  cases p <;> rfl

theorem Price.isLess_eq (p q : Price) :
    p.isLess q = (Row.compareForSort (some p.value) (some q.value) == .lt) := by
  cases p <;> cases q <;> decide +kernel

/-- More prices than are inserted one after the other. -/
def manyPrices : List Price :=
  [.odd, .odd, .odd, .fraction, .odd, .even] ++ List.replicate 15 .odd

theorem sort?_manyPrices : sort? Price.isLess manyPrices = none := by
  have hmany : ¬ manyPrices.length ≤ maxInserted := by decide
  have hconsistent : isConsistent Price.isLess (insertion Price.isLess manyPrices) = false := by cbv
  have hruns : runs? Price.isLess manyPrices = none := by cbv
  rw [sort?, hconsistent, hruns, decide_eq_false hmany]
  rfl

end Sample

namespace Row

variable {stored : Json → Prop}

theorem matching?_prices {u v w : Json} (hu : u.isNull = false) (hv : v.isNull = false)
    (hw : w.isNull = false) (huv : (compareValues u v).isLE = true)
    (hvw : (compareValues v w).isLE = true) :
    (Plan.ofSort Sample.product "price:asc").matching? ([u, v, w].map (single Sample.price)) =
      some (Entry.ofRows ([u, v, w].map (single Sample.price))) := by
  have hfirst : Follows (fun _ => True) u v :=
    ⟨⟨trivial, hu⟩, ⟨trivial, hv⟩, Ordering.isLE_iff_ne_gt.1 huv⟩
  have hlast : Follows (fun _ => True) v w :=
    ⟨⟨trivial, hv⟩, ⟨trivial, hw⟩, Ordering.isLE_iff_ne_gt.1 hvw⟩
  exact Plan.matching?_singles Sample.sort_price rfl
    (List.isChain_cons_cons.2 ⟨hfirst, List.isChain_cons_cons.2 ⟨hlast, List.isChain_singleton w⟩⟩)

/-- There is an answer with its rows in the order of its keys, as long as they hold such values. -/
def SortsAnswers (stored : Json → Prop) : Prop :=
  ∀ (plan : Plan) (rows : List Json),
    (∀ row ∈ rows, ∀ k ∈ plan.sort, ∀ v ∈ base? row k.field, stored v) →
      ∃ found, plan.matching? rows = some found ∧ found.Pairwise fun a b =>
        (SortKey.compareBy plan.sort a.row b.row).isLE = true

theorem sortsAnswers_of_orderOn
    (h : ∀ keys, OrderOn (SortKey.compareBy keys) fun row =>
      ∀ k ∈ keys, ∀ v ∈ base? row k.field, stored v) : SortsAnswers stored := by
  intro plan rows hstored
  have hrows := OrderOn.mono (h plan.sort) fun row (hrow : row ∈ rows ∧ plan.selects row = true) =>
    hstored row hrow.1
  obtain ⟨found, hfound, horder⟩ := Plan.exists_matching?_of_orderOn hrows
  exact ⟨found, hfound, horder.imp InFront.isLE⟩

/-- If answers are in order, so are any three values: rows that hold them stay as they are. -/
theorem orderOn_of_sortsAnswers (h : SortsAnswers stored) :
    OrderOn compareValues fun v => stored v ∧ v.isNull = false := by
  refine orderOn_iff.2 ⟨fun v w _ _ => compareValues_eq_swap v w, ?_⟩
  intro u v w hu hv hw huv hvw
  have hall : ∀ x ∈ [u, v, w], stored x ∧ x.isNull = false :=
    List.forall_mem_cons.2 ⟨hu, List.forall_mem_cons.2 ⟨hv, List.forall_mem_singleton.2 hw⟩⟩
  have hstored : ∀ row ∈ [u, v, w].map (single Sample.price),
      ∀ k ∈ (Plan.ofSort Sample.product "price:asc").sort, ∀ x ∈ base? row k.field, stored x := by
    intro row hrow k hk
    rw [Sample.sort_price, List.mem_singleton] at hk
    subst hk
    exact stored_of_mem_map_single hall row hrow
  obtain ⟨found, hfound, horder⟩ := h (Plan.ofSort Sample.product "price:asc") _ hstored
  cases (matching?_prices hu.2 hv.2 hw.2 huv hvw).symm.trans hfound
  rw [Sample.sort_price] at horder
  have hrows := (Entry.pairwise_ofRows_iff fun a b =>
    (SortKey.compareBy [⟨Sample.price, .ascending⟩] a b).isLE = true).1 horder
  have hends := (List.pairwise_cons.1 hrows).1 (single Sample.price w)
    (List.mem_map_of_mem (List.mem_cons_of_mem v (List.mem_singleton_self w)))
  rw [SortKey.compareBy, SortKey.compareRows, base?_single _ hu.2, base?_single _ hw.2,
    SortKey.compareBy, Ordering.then_eq] at hends
  exact hends

/-- **Four ways to say that stored values are in an order.**  The comparison the other way round is
always the reverse. -/
theorem orderable_tfae (stored : Json → Prop) :
    (∀ a b, compareForSort b a = (compareForSort a b).swap) ∧
      [Orderable stored,
        OrderOn compareForSort fun v => ∀ w ∈ v, stored w,
        ∀ keys, OrderOn (SortKey.compareBy keys) fun row =>
          ∀ k ∈ keys, ∀ v ∈ base? row k.field, stored v,
        SortsAnswers stored].TFAE := by
  refine ⟨fun a b => compareForSort_eq_swap b a, ?_⟩
  tfae_have 1 → 2 := fun h => orderOn_compareForSort (orderOn_compareValues h)
  tfae_have 2 → 3 := by
    intro h keys
    exact SortKey.orderOn_compareBy fun k hk => OrderOn.comap h fun row hrow => hrow k hk
  tfae_have 3 → 4 := sortsAnswers_of_orderOn
  tfae_have 4 → 1 := fun h => orderable_of_orderOn (orderOn_of_sortsAnswers h)
  tfae_finish

/-- **Three prices that are not in an order**: as binary fractions the first two are equal, and so
are the last two, but as integers the first is greater than the last.  In ascending order the first
stays in front of the last. -/
theorem not_orderOn_prices :
    Number.ofLiteral? false "9007199254740992".toList (some ['0']) none =
        some (.real Sample.evenFraction) ∧
      compareForSort (some Sample.oddPrice) (some (.number (.real Sample.evenFraction))) = .eq ∧
      compareForSort (some (.number (.real Sample.evenFraction))) (some Sample.evenPrice) = .eq ∧
      compareForSort (some Sample.oddPrice) (some Sample.evenPrice) = .gt ∧
      (¬ ∀ a b c, (compareForSort a b).isLE = true → (compareForSort b c).isLE = true →
        (compareForSort a c).isLE = true) ∧
      ∃ plan, Plan.build Sample.product
          { Parameters.default with sort := some "price:asc" } = .ok plan ∧
        (plan.matching? ([Sample.oddPrice, .number (.real Sample.evenFraction),
          Sample.evenPrice].map (single Sample.price))).map (List.map Entry.position) =
            some [0, 1, 2] := by
  have hliteral : Number.ofLiteral? false "9007199254740992".toList (some ['0']) none =
      some (.real Sample.evenFraction) := by decide +kernel
  have hfirst : compareForSort (some Sample.oddPrice)
      (some (.number (.real Sample.evenFraction))) = .eq := by decide +kernel
  have hlast : compareForSort (some (.number (.real Sample.evenFraction)))
      (some Sample.evenPrice) = .eq := by decide +kernel
  have hends : compareForSort (some Sample.oddPrice) (some Sample.evenPrice) = .gt := by
    decide +kernel
  refine ⟨hliteral, hfirst, hlast, hends, fun htrans => ?_, _, Plan.build_sort _ _, ?_⟩
  · have hle := htrans _ _ _ (Ordering.isLE_of_eq_eq hfirst) (Ordering.isLE_of_eq_eq hlast)
    rw [hends] at hle
    cases hle
  · have hmatching := matching?_prices (u := Sample.oddPrice)
      (v := .number (.real Sample.evenFraction)) (w := Sample.evenPrice) rfl rfl rfl
      (Ordering.isLE_of_eq_eq hfirst) (Ordering.isLE_of_eq_eq hlast)
    rw [hmatching, Option.map_some, Entry.map_position_ofRows]
    rfl

/-- **For many such prices there is no answer**: two lists are merged, and the order of their items
from below is not the one from above. -/
theorem matching?_many_prices :
    (Plan.ofSort Sample.product "price:asc").matching?
      (Sample.manyPrices.map fun p => single Sample.price p.value) = none := by
  have hrows : List.Forall₂ (fun (p : Sample.Price) (e : Entry) =>
      single Sample.price p.value = e.row) Sample.manyPrices
      (Entry.ofRows (Sample.manyPrices.map fun p => single Sample.price p.value)) := by
    rw [← List.forall₂_map_right_iff, ← List.forall₂_map_left_iff, Entry.map_row_ofRows]
    exact List.forall₂_refl _
  have hless {p q : Sample.Price} {e e' : Entry} (hp : single Sample.price p.value = e.row)
      (hq : single Sample.price q.value = e'.row) : p.isLess q =
        (compareForSort (base? e.row Sample.price) (base? e'.row Sample.price) == .lt) := by
    rw [← hp, ← hq, base?_single _ p.isNull_value, base?_single _ q.isNull_value,
      Sample.Price.isLess_eq]
  -- The rows are sorted as their prices are, which breaks off.
  have hsame := forall₂_sort? (R := fun (p : Sample.Price) (e : Entry) =>
    single Sample.price p.value = e.row) hless hrows
  rw [Sample.sort?_manyPrices] at hsame
  rw [Plan.matching?_ascending Sample.sort_price, Plan.kept_eq_ofRows rfl]
  generalize sort? _ (Entry.ofRows _) = found at hsame ⊢
  cases hsame
  rfl

end Row

end ListQuery
