import ListQuery.Proofs.Number.Rounding
import ListQuery.Proofs.Sorting.Stability
import ListQuery.Store.Row
import Mathlib.Data.Int.Order.Basic

/-!
# The order of stored values

Rows are sorted by the values that they hold: integers of 64 bits exactly, other numbers by their
nearest binary fractions, and values of different kinds by their texts.  The reverse of a comparison
is always that of the values the other way round, but three values need not be in an order.

* `Row.compareForSort_eq_swap` : the comparison the other way round;
* `Row.Orderable` : what it takes of the values for them to be in an order;
* `Row.orderOn_compareValues`, `Row.orderable_of_orderOn` : it takes that and no less;
* `Row.orderable_of_integers`, `Row.orderable_of_no_number` : values of one kind.
-/

namespace ListQuery

open Sorting

/-! ### Comparisons the other way round -/

namespace Row

theorem compare_eq_swap {α : Type} [Ord α] [Std.OrientedOrd α] (a b : α) :
    compare a b = (compare b a).swap :=
  Std.OrientedCmp.eq_swap

theorem compareNumbers_eq_swap (a b : Number) : compareNumbers a b = (compareNumbers b a).swap := by
  unfold compareNumbers
  cases a.toInteger? with
  | none => cases b.toInteger? <;> exact compare_eq_swap a.units b.units
  | some i =>
    cases b.toInteger? with
    | none => exact compare_eq_swap a.units b.units
    | some j => exact compare_eq_swap i j

theorem compareValues_eq_swap (a b : Json) : compareValues a b = (compareValues b a).swap := by
  have htexts := compare_eq_swap (textOf? a) (textOf? b)
  cases a with
  | number n =>
    cases b with
    | number n' => exact compareNumbers_eq_swap n n'
    | _ => exact htexts
  | string s =>
    cases b with
    | string t => exact compare_eq_swap s t
    | _ => exact htexts
  | bool c =>
    cases b with
    | bool d => exact compare_eq_swap c d
    | _ => exact htexts
  | _ => cases b <;> exact htexts

theorem compareForSort_eq_swap (a b : Option Json) :
    compareForSort a b = (compareForSort b a).swap := by
  cases a with
  | none => cases b <;> rfl
  | some v =>
    cases b with
    | none => rfl
    | some w => exact compareValues_eq_swap v w

theorem compareForSort_ne_gt_iff {a b : Option Json} :
    compareForSort a b ≠ .gt ↔ compareForSort b a ≠ .lt := by
  rw [compareForSort_eq_swap a b, Ne, Ordering.swap_eq_gt]

/-! ### Numbers and texts -/

theorem eq_integer_of_toInteger? {n : Number} {i : Int} (h : n.toInteger? = some i) :
    n = .integer i := by
  cases n with
  | real x => cases h
  | integer j =>
    rw [Number.toInteger?] at h
    split at h
    case isTrue => cases h; rfl
    case isFalse => cases h

theorem units_eq_of_toInteger? {n : Number} {i : Int} (h : n.toInteger? = some i) :
    n.units = Binary64.unitsOfInt i := by
  rw [eq_integer_of_toInteger? h, Number.units]

/-- Numbers that are compared as integers have their nearest binary fractions in the same order. -/
theorem units_le_of_compareNumbers {a b : Number} (h : compareNumbers a b ≠ .gt) :
    a.units ≤ b.units := by
  rw [compareNumbers] at h
  split at h
  case h_1 i j hi hj =>
    rw [units_eq_of_toInteger? hi, units_eq_of_toInteger? hj]
    exact Binary64.unitsOfInt_mono (compare_le_iff_le.1 h)
  case h_2 => exact compare_le_iff_le.1 h

theorem compareNumbers_eq_eq_of_units {m n : Number} (hn : n.toInteger? = none)
    (h : m.units = n.units) : compareNumbers m n = .eq := by
  rw [compareNumbers, hn, h]
  cases m.toInteger? <;> exact Std.ReflOrd.compare_self

theorem textOf?_number (n : Number) : textOf? (.number n) = some n.write := by
  simp [textOf?, Json.compact, Json.compactChars]

/-- Values that are not both numbers are in the order of their texts, strings and truth values
included. -/
theorem compareValues_eq_compare {v w : Json} (h : (∀ n, v ≠ .number n) ∨ ∀ n, w ≠ .number n) :
    compareValues v w = compare (textOf? v) (textOf? w) := by
  cases v with
  | number m =>
    cases w with
    | number n =>
      rcases h with h | h
      · exact absurd rfl (h m)
      · exact absurd rfl (h n)
    | _ => rfl
  | bool b =>
    cases w with
    | bool c => cases b <;> cases c <;> decide
    | _ => rfl
  | string s => cases w <;> rfl
  | _ => cases w <;> rfl

theorem orderOn_compare_texts : OrderOn (compare (α := String)) fun _ => True :=
  orderOn_iff.2 ⟨fun s t _ _ => compare_eq_swap s t, fun _ _ _ _ _ _ => Std.TransCmp.isLE_trans⟩

section Other

variable {v : Json} (hother : ∀ n, v ≠ .number n) {t : String} (ht : textOf? v = some t)
include hother ht

theorem compareValues_number_left (n : Number) :
    compareValues (.number n) v = compare n.write t := by
  rw [compareValues_eq_compare (.inr hother), textOf?_number, ht]
  rfl

theorem compareValues_number_right (n : Number) :
    compareValues v (.number n) = compare t n.write := by
  rw [compareValues_eq_compare (.inl hother), textOf?_number, ht]
  rfl

end Other

theorem number_or (v : Json) : (∃ n, v = .number n) ∨ ∀ n, v ≠ .number n := by
  cases v <;> simp

theorem compareValues_isLE_trans_of_texts {u v w : Json}
    (hfirst : (∀ n, u ≠ .number n) ∨ ∀ n, v ≠ .number n)
    (hlast : (∀ n, v ≠ .number n) ∨ ∀ n, w ≠ .number n)
    (hends : (∀ n, u ≠ .number n) ∨ ∀ n, w ≠ .number n) (huv : (compareValues u v).isLE = true)
    (hvw : (compareValues v w).isLE = true) : (compareValues u w).isLE = true := by
  rw [compareValues_eq_compare hfirst] at huv
  rw [compareValues_eq_compare hlast] at hvw
  rw [compareValues_eq_compare hends]
  exact Std.TransCmp.isLE_trans huv hvw

/-! ### Values in an order -/

/-- What it takes of stored values for the comparison to put them into an order. -/
structure Orderable (stored : Json → Prop) : Prop where
  /-- No two integers of 64 bits have the nearest binary fraction of a number that is not one. -/
  integers {a b n : Number} {i j : Int} :
    stored (.number a) → stored (.number b) → stored (.number n) → a.toInteger? = some i →
      b.toInteger? = some j → n.toInteger? = none → a.units = n.units → b.units = n.units → i = j
  /-- Two numbers with the text of another value between theirs are in the order of their texts. -/
  texts {a b : Number} {v : Json} {t : String} :
    stored (.number a) → stored (.number b) → stored v → (∀ n, v ≠ .number n) → textOf? v = some t →
      (compare a.write t).isLE = true → (compare t b.write).isLE = true →
        compareNumbers a b = compare a.write b.write

section Orderable

variable {stored : Json → Prop} (h : Orderable stored)
include h

theorem compareNumbers_isLE_trans {a b c : Number} (ha : stored (.number a))
    (hb : stored (.number b)) (hc : stored (.number c)) (hab : (compareNumbers a b).isLE = true)
    (hbc : (compareNumbers b c).isLE = true) : (compareNumbers a c).isLE = true := by
  have habUnits := units_le_of_compareNumbers (Ordering.isLE_iff_ne_gt.1 hab)
  have hbcUnits := units_le_of_compareNumbers (Ordering.isLE_iff_ne_gt.1 hbc)
  have hacUnits : (compare a.units c.units).isLE = true :=
    Ordering.ne_gt_iff_isLE.1 (compare_le_iff_le.2 (habUnits.trans hbcUnits))
  unfold compareNumbers at hab hbc ⊢
  cases hi : a.toInteger? with
  | none => exact hacUnits
  | some i =>
    cases hk : c.toInteger? with
    | none => exact hacUnits
    | some k =>
      cases hj : b.toInteger? with
      | some j =>
        have hij : (compare i j).isLE = true := by rwa [hi, hj] at hab
        have hjk : (compare j k).isLE = true := by rwa [hj, hk] at hbc
        exact Std.TransCmp.isLE_trans hij hjk
      | none =>
        -- A number that is no integer is between two integers.
        refine Ordering.ne_gt_iff_isLE.1 (compare_le_iff_le.2 (not_lt.1 fun hlt => ?_))
        have hca : c.units ≤ a.units := by
          rw [units_eq_of_toInteger? hi, units_eq_of_toInteger? hk]
          exact Binary64.unitsOfInt_mono hlt.le
        have heq : i = k := h.integers ha hc hb hi hk hj (by omega) (by omega)
        exact hlt.ne heq.symm

/-- Two numbers with another value between them are in the order that it tells. -/
theorem compareNumbers_eq_then {a b : Number} {v : Json} (ha : stored (.number a))
    (hb : stored (.number b)) (hv : stored v) (hother : ∀ n, v ≠ .number n)
    (hav : (compareValues (.number a) v).isLE = true)
    (hvb : (compareValues v (.number b)).isLE = true) :
    compareNumbers a b = (compareValues (.number a) v).then (compareValues v (.number b)) := by
  cases ht : textOf? v with
  | none =>
    rw [compareValues_eq_compare (.inr hother), textOf?_number, ht] at hav
    cases hav
  | some t =>
    rw [compareValues_number_left hother ht] at hav ⊢
    rw [compareValues_number_right hother ht] at hvb ⊢
    rw [h.texts ha hb hv hother ht hav hvb]
    exact OrderOn.eq_then orderOn_compare_texts trivial trivial trivial hav hvb

theorem compareNumbers_eq_lt {a b : Number} {v : Json} (ha : stored (.number a))
    (hb : stored (.number b)) (hv : stored v) (hother : ∀ n, v ≠ .number n)
    (hav : (compareValues (.number a) v).isLE = true)
    (hvb : (compareValues v (.number b)).isLE = true)
    (hlt : compareValues (.number a) v = .lt ∨ compareValues v (.number b) = .lt) :
    compareNumbers a b = .lt := by
  rw [compareNumbers_eq_then h ha hb hv hother hav hvb, Ordering.then_eq_lt]
  rcases Ordering.isLE_iff_eq_lt_or_eq_eq.1 hav with hless | heq
  · exact .inl hless
  · exact .inr ⟨heq, hlt.resolve_left (by simp [heq])⟩

theorem compareValues_isLE_trans {u v w : Json} (hu : stored u) (hv : stored v) (hw : stored w)
    (huv : (compareValues u v).isLE = true) (hvw : (compareValues v w).isLE = true) :
    (compareValues u w).isLE = true := by
  rcases number_or u with ⟨a, rfl⟩ | hu' <;> rcases number_or v with ⟨b, rfl⟩ | hv' <;>
    rcases number_or w with ⟨c, rfl⟩ | hw'
  · exact compareNumbers_isLE_trans h hu hv hw huv hvw
  · -- Otherwise `w` is between `b` and the lesser `a`.
    refine Ordering.isLE_iff_ne_gt.2 fun hgt => ?_
    have hwa : compareValues w (.number a) = .lt := by rw [compareValues_eq_swap, hgt]; rfl
    have hba := compareNumbers_eq_lt h hv hu hw hw' hvw (by rw [hwa]; rfl) (.inr hwa)
    rw [compareValues, compareNumbers_eq_swap, hba] at huv
    cases huv
  · rw [compareValues, compareNumbers_eq_then h hu hw hv hv' huv hvw]
    exact Ordering.isLE_then_iff_and.2 ⟨huv, .inr hvw⟩
  · exact compareValues_isLE_trans_of_texts (.inr hv') (.inl hv') (.inr hw') huv hvw
  · -- Otherwise `u` is between `c` and the lesser `b`.
    refine Ordering.isLE_iff_ne_gt.2 fun hgt => ?_
    have hcu : compareValues (.number c) u = .lt := by rw [compareValues_eq_swap, hgt]; rfl
    have hcb := compareNumbers_eq_lt h hw hv hu hu' (by rw [hcu]; rfl) huv (.inl hcu)
    rw [compareValues, compareNumbers_eq_swap, hcb] at hvw
    cases hvw
  · exact compareValues_isLE_trans_of_texts (.inl hu') (.inr hw') (.inl hu') huv hvw
  · exact compareValues_isLE_trans_of_texts (.inl hu') (.inl hv') (.inl hu') huv hvw
  · exact compareValues_isLE_trans_of_texts (.inl hu') (.inl hv') (.inl hu') huv hvw

/-- **Values are in an order** if they are as it takes. -/
theorem orderOn_compareValues : OrderOn compareValues stored :=
  orderOn_iff.2 ⟨fun v w _ _ => compareValues_eq_swap v w,
    fun _ _ _ => compareValues_isLE_trans h⟩

end Orderable

theorem orderOn_compareForSort {stored : Json → Prop} (h : OrderOn compareValues stored) :
    OrderOn compareForSort fun v => ∀ w ∈ v, stored w := by
  refine orderOn_iff.2 ⟨fun a b _ _ => compareForSort_eq_swap a b, ?_⟩
  intro a b c ha hb hc hab hbc
  cases c with
  | none => cases a <;> rfl
  | some w =>
    cases b with
    | none => cases hbc
    | some v =>
      cases a with
      | none => cases hab
      | some u => exact (orderOn_iff.1 h).2 u v w (ha u rfl) (hb v rfl) (hc w rfl) hab hbc

theorem orderable_of_orderOn {stored : Json → Prop}
    (h : OrderOn compareValues fun v => stored v ∧ v.isNull = false) : Orderable stored := by
  constructor
  case integers =>
    intro a b n i j ha hb hn hi hj hnone han hbn
    -- Each of the integers is equal to the number that is none.
    have heq {m : Number} (hm : m.units = n.units) : compareNumbers m n = .eq :=
      compareNumbers_eq_eq_of_units hnone hm
    have heq' {m : Number} (hm : m.units = n.units) : compareNumbers n m = .eq := by
      rw [compareNumbers_eq_swap, heq hm]
      rfl
    have hab : compareNumbers a b = (compareNumbers a n).then (compareNumbers n b) :=
      OrderOn.eq_then h ⟨ha, rfl⟩ ⟨hn, rfl⟩ ⟨hb, rfl⟩ (Ordering.isLE_of_eq_eq (heq han))
        (Ordering.isLE_of_eq_eq (heq' hbn))
    rw [compareNumbers, hi, hj, heq han, heq' hbn] at hab
    exact compare_eq_iff_eq.1 hab
  case texts =>
    intro a b v t ha hb hv hother ht hav hvb
    have hnull : v.isNull = false := by
      cases v with
      | null => cases ht
      | _ => rfl
    have hleft := compareValues_number_left hother ht a
    have hright := compareValues_number_right hother ht b
    calc compareNumbers a b
      _ = (compareValues (.number a) v).then (compareValues v (.number b)) :=
        OrderOn.eq_then h ⟨ha, rfl⟩ ⟨hv, hnull⟩ ⟨hb, rfl⟩ (hleft ▸ hav) (hright ▸ hvb)
      _ = (compare a.write t).then (compare t b.write) := by rw [hleft, hright]
      _ = compare a.write b.write :=
        (OrderOn.eq_then orderOn_compare_texts trivial trivial trivial hav hvb).symm

/-! ### Values of one kind -/

theorem orderable_of_no_number {stored : Json → Prop} (h : ∀ n, ¬ stored (.number n)) :
    Orderable stored :=
  ⟨fun ha => absurd ha (h _), fun ha => absurd ha (h _)⟩

theorem orderable_of_integers {stored : Json → Prop}
    (h : ∀ v, stored v → ∃ n i, v = .number n ∧ n.toInteger? = some i) : Orderable stored := by
  constructor
  case integers =>
    intro a b n i j _ _ hn _ _ hnone
    obtain ⟨_, k, heq, hk⟩ := h _ hn
    cases heq
    cases hnone.symm.trans hk
  case texts =>
    intro a b v t _ _ hv hother
    obtain ⟨n, _, rfl, _⟩ := h v hv
    exact absurd rfl (hother n)

end Row

end ListQuery
