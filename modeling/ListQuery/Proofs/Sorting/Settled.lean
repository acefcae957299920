import ListQuery.Proofs.Sorting.Naturality
import Mathlib.Data.List.Chain

/-!
# Lists that sorting leaves as they are

A list in which no item is less than the one in front of it stays as it is, whatever the comparison
says of items further apart:

* `Sorting.Settled` : such a list;
* `Sorting.insertion_eq_self` : each item is inserted where it stands;
* `Sorting.asRun?_eq_self`, `Sorting.runs?_eq_self` : the list is a single run;
* `Sorting.sort?_eq_self` : however it is sorted, it stays.
-/

namespace ListQuery

namespace Sorting

open List

variable {α : Type} {less : α → α → Bool} {items : List α}

/-- No item is less than the one in front of it. -/
def Settled (less : α → α → Bool) (items : List α) : Prop :=
  items.IsChain fun a b => less b a = false

/-! ### Insertion -/

theorem foldl_insertDescending_eq (start : List α) (h : Settled less (start.reverse ++ items)) :
    items.foldl (fun sorted a => insertDescending less a sorted) start =
      items.reverse ++ start := by
  induction items generalizing start with
  | nil => rfl
  | cons a items ih =>
    have hinsert : insertDescending less a start = a :: start := by
      cases start with
      | nil => rfl
      | cons b rest =>
        rw [reverse_cons, append_assoc] at h
        have hab : less a b = false := (isChain_cons_cons.1 (isChain_append.1 h).2.1).1
        rw [insertDescending, hab]
        rfl
    rw [foldl_cons, hinsert, ih, reverse_cons, append_assoc]
    · rfl
    · rw [reverse_cons, append_assoc]
      exact h

theorem insertion_eq_self (h : Settled less items) : insertion less items = items := by
  have hfold := foldl_insertDescending_eq [] h
  rw [append_nil] at hfold
  rw [insertion, insertAll, reverse_nil, hfold, reverse_reverse]

/-! ### Runs -/

theorem countOn_eq_length {goesOn : α → α → Bool} {last : α} {rest : List α}
    (h : (last :: rest).IsChain fun a b => goesOn a b = true) :
    countOn goesOn last rest = rest.length := by
  induction rest generalizing last with
  | nil => rfl
  | cons a rest ih =>
    obtain ⟨hgoes, hrest⟩ := isChain_cons_cons.1 h
    rw [countOn, if_pos hgoes, ih hrest, length_cons]

theorem existingRun_eq (h : Settled less items) :
    existingRun less items = (items.length, false) := by
  match items with
  | [] | [_] => rfl
  | a :: b :: rest =>
    obtain ⟨hba, hrest⟩ := isChain_cons_cons.1 h
    have hcount : countOn (fun x y => !less y x) b rest = rest.length :=
      countOn_eq_length (hrest.imp fun x y hxy => by simpa using hxy)
    rw [existingRun, hba, hcount]
    rfl

theorem goodRun?_eq (h : Settled less items) {good : Nat} (hgood : good ≤ items.length) :
    goodRun? less good items = some ⟨items, true⟩ := by
  rw [goodRun?, existingRun_eq h]
  simp [hgood]

theorem goodLength_le (n : Nat) : goodLength n ≤ n := by
  rw [goodLength]
  split
  · omega
  · have hroot : Nat.pow 2 ((1 + n.log2) / 2) ≤ n :=
      (Nat.pow_le_pow_right (by decide) (by omega)).trans (Nat.log2_self_le (by omega))
    have hquotient := Nat.div_le_self n (Nat.pow 2 ((1 + n.log2) / 2))
    dsimp only
    omega

/-- A list in which nothing goes down is a single run. -/
theorem asRun?_eq_self (h : Settled less items) (block : List α → Option (Run α))
    (join : Run α → Run α → Option (Run α)) :
    asRun? less block join items = some ⟨items, true⟩ := by
  cases items with
  | nil => rfl
  | cons a rest =>
    have hgood := goodLength_le (a :: rest).length
    have hcut : cut? less (goodLength (a :: rest).length) block (a :: rest).length (a :: rest) =
        some [⟨a :: rest, true⟩] := by
      rw [length_cons, cut?_eq_bind, firstRun?, if_pos (by simpa using hgood),
        goodRun?_eq h (by simpa using hgood)]
      dsimp only [Option.elim_some, Option.bind_some]
      rw [drop_length]
      cases rest <;> rfl
    rw [asRun?, hcut]
    rfl

theorem eager?_eq_self (h : Settled less items) : eager? less items = some items := by
  rw [eager?, asRun?_eq_self h]
  rfl

theorem runs?_eq_self (h : Settled less items) : runs? less items = some items := by
  unfold runs?
  dsimp only
  rw [asRun?_eq_self h, eager?_eq_self h]
  split <;> rfl

/-- **A list in which nothing goes down stays as it is.** -/
theorem sort?_eq_self (h : Settled less items) : sort? less items = some items := by
  rw [sort?, insertion_eq_self h, runs?_eq_self h]
  split <;> rfl

end Sorting

end ListQuery
