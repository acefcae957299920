import ListQuery.Sorting.Stable
import Mathlib.Data.List.Count
import Mathlib.Data.List.Perm.Basic

/-!
# Sorting loses and repeats nothing

Whatever the comparison says, even where it contradicts itself, a sorted list has the items of the
list it was made from.  Each way of sorting is shown to permute its items:

* `Sorting.insertion_perm` : inserting one item after the other;
* `Sorting.mergeInward?_perm`, `Sorting.block?_perm` : merging from both ends, and blocks;
* `Sorting.asRun?_perm`, `Sorting.quick?_perm`, `Sorting.runs?_perm` : runs, and parting at a pivot;
* `Sorting.sort?_perm` : all of them together.
-/

namespace ListQuery

namespace Sorting

open List

variable {α : Type} (less : α → α → Bool)

/-! ### Insertion -/

theorem insertDescending_perm (a : α) (sorted : List α) :
    insertDescending less a sorted ~ a :: sorted := by
  induction sorted with
  | nil => exact Perm.refl _
  | cons b rest ih =>
    rw [insertDescending]
    split
    · exact (ih.cons b).trans (Perm.swap a b rest)
    · exact Perm.refl _

theorem foldl_insertDescending_perm (sorted items : List α) :
    items.foldl (fun sorted a => insertDescending less a sorted) sorted ~ sorted ++ items := by
  induction items generalizing sorted with
  | nil => simp
  | cons a items ih =>
    rw [foldl_cons]
    refine (ih _).trans ?_
    refine ((insertDescending_perm less a sorted).append_right items).trans ?_
    exact perm_middle.symm

theorem insertAll_perm (sorted items : List α) : insertAll less sorted items ~ sorted ++ items := by
  refine (reverse_perm _).trans ?_
  refine (foldl_insertDescending_perm less sorted.reverse items).trans ?_
  exact (reverse_perm sorted).append_right items

theorem insertion_perm (items : List α) : insertion less items ~ items :=
  insertAll_perm less [] items

/-! ### Merging -/

theorem mergeUp_perm (front back : List α) : mergeUp less front back ~ front ++ back :=
  merge_perm_append _

theorem mergeDown_perm (front back : List α) : mergeDown less front back ~ front ++ back := by
  have h : mergeDown less front back ~ back.reverse ++ front.reverse := merge_perm_append _
  refine h.trans ?_
  rw [← reverse_append]
  exact reverse_perm _

theorem merge_perm (front back : List α) : merge less front back ~ front ++ back := by
  rw [merge]
  split
  · exact mergeUp_perm less front back
  · exact (reverse_perm _).trans (mergeDown_perm less front back)

theorem take_merge_perm (le : α → α → Bool) (xs ys : List α) (k : Nat)
    (hk : k ≤ xs.length + ys.length) :
    ∃ i j, i ≤ xs.length ∧ j ≤ ys.length ∧ i + j = k ∧
      (xs.merge ys le).take k ~ xs.take i ++ ys.take j := by
  induction k generalizing xs ys with
  | zero => exact ⟨0, 0, by simp⟩
  | succ k ih =>
    match xs, ys with
    | [], ys =>
      refine ⟨0, k + 1, by simp, by simpa using hk, by simp, ?_⟩
      simp
    | x :: xs, [] =>
      refine ⟨k + 1, 0, by simpa using hk, by simp, by simp, ?_⟩
      simp
    | x :: xs, y :: ys =>
      rw [cons_merge_cons]
      split
      · obtain ⟨i, j, hi, hj, hij, h⟩ := ih xs (y :: ys) (by simp at hk ⊢; omega)
        refine ⟨i + 1, j, by simpa using hi, hj, by omega, ?_⟩
        simpa using h.cons x
      · obtain ⟨i, j, hi, hj, hij, h⟩ := ih (x :: xs) ys (by simp at hk ⊢; omega)
        refine ⟨i, j + 1, hi, by simpa using hj, by omega, ?_⟩
        simp only [take_succ_cons]
        exact (h.cons y).trans perm_middle.symm

theorem countP_marked (isFront : Bool) (items : List α) :
    (marked isFront items).countP (·.2) = if isFront then items.length else 0 := by
  cases isFront <;> simp [marked, countP_map, Function.comp_def]

theorem map_fst_marked (isFront : Bool) (items : List α) :
    (marked isFront items).map (·.1) = items := by
  simp [marked, Function.comp_def]

/-- What is known of a half of a merge made of the items `fronts` of the first list and `backs` of
the second one: how many come from the first list, and all of them together. -/
theorem half_perm (fronts backs : List α) {half : List (α × Bool)}
    (h : half ~ marked true fronts ++ marked false backs) :
    half.countP (·.2) = fronts.length ∧ half.map (·.1) ~ fronts ++ backs := by
  constructor
  · rw [h.countP_eq, countP_append, countP_marked, countP_marked]
    simp
  · have := h.map (·.1)
    rwa [map_append, map_fst_marked, map_fst_marked] at this

theorem lowerHalf_perm (front back : List α) {k : Nat} (hk : k ≤ front.length + back.length) :
    ∃ i j, i ≤ front.length ∧ j ≤ back.length ∧ i + j = k ∧
      ((mergeUp (fun a b => less a.1 b.1) (marked true front) (marked false back)).take k).countP
        (·.2) = i ∧
      ((mergeUp (fun a b => less a.1 b.1) (marked true front) (marked false back)).take k).map
        (·.1) ~ front.take i ++ back.take j := by
  obtain ⟨i, j, hi, hj, hij, h⟩ := take_merge_perm (fun a b => !less b.1 a.1)
    (marked true front) (marked false back) k (by simpa [marked] using hk)
  simp only [marked, length_map, ← map_take] at hi hj h
  obtain ⟨hcount, hitems⟩ := half_perm (front.take i) (back.take j) h
  rw [length_take, Nat.min_eq_left hi] at hcount
  exact ⟨i, j, hi, hj, hij, hcount, hitems⟩

theorem upperHalf_perm (front back : List α) {k : Nat} (hk : k ≤ front.length + back.length) :
    ∃ i j, i ≤ front.length ∧ j ≤ back.length ∧ i + j = k ∧
      ((mergeDown (fun a b => less a.1 b.1) (marked true front) (marked false back)).take k).countP
        (·.2) = i ∧
      ((mergeDown (fun a b => less a.1 b.1) (marked true front) (marked false back)).take k).map
        (·.1) ~ front.drop (front.length - i) ++ back.drop (back.length - j) := by
  obtain ⟨j, i, hj, hi, hij, h⟩ := take_merge_perm (fun b a => !less b.1 a.1)
    (marked false back).reverse (marked true front).reverse k (by simp [marked]; omega)
  simp only [marked, length_reverse, length_map, take_reverse, ← map_drop] at hi hj h
  obtain ⟨hcount, hitems⟩ := half_perm (front.drop (front.length - i))
    (back.drop (back.length - j))
    (h.trans (((reverse_perm _).append (reverse_perm _)).trans perm_append_comm))
  rw [length_drop, Nat.sub_sub_self hi] at hcount
  exact ⟨i, j, hi, hj, by omega, hcount, hitems⟩

theorem mergeInward?_perm {front back items : List α} (hl : front.length ≤ back.length)
    (hr : back.length ≤ front.length + 1) (h : mergeInward? less front back = some items) :
    items ~ front ++ back := by
  obtain ⟨i, j, hi, hj, hij, hlower, hlowerItems⟩ :=
    lowerHalf_perm less front back (k := front.length) (by omega)
  obtain ⟨v, u, hv, hu, huv, hupper, hupperItems⟩ :=
    upperHalf_perm less front back (k := front.length) (by omega)
  simp only [mergeInward?, hlower, hupper] at h
  split at h
  case isTrue hsum =>
    -- the halves share the front between them, and what is left is a part of the back
    cases h
    have hfront : front.drop (front.length - v) = front.drop i := by rw [← hsum]; simp
    have hback : (back.drop j).take (back.length - front.length) ++ back.drop (back.length - u) =
        back.drop j := by
      rw [show back.length - u = j + (back.length - front.length) by omega, ← drop_drop,
        take_append_drop]
    rw [show front.length - i = j by omega]
    rw [hfront] at hupperItems
    calc _ ~ (front.take i ++ back.take j) ++ (back.drop j).take (back.length - front.length) ++
          (front.drop i ++ back.drop (back.length - u)) :=
          (hlowerItems.append_right _).append ((reverse_perm _).trans hupperItems)
      _ ~ (front.take i ++ front.drop i) ++ (back.take j ++
          ((back.drop j).take (back.length - front.length) ++ back.drop (back.length - u))) := by
          classical
          rw [perm_iff_count]
          intro a
          simp only [count_append]
          omega
      _ = front ++ back := by rw [hback, take_append_drop, take_append_drop]
  case isFalse =>
    split at h
    case isTrue hsum =>
      -- the item left is one of the front
      cases h
      have hfront : (front.drop i).take 1 ++ front.drop (front.length - v) = front.drop i := by
        rw [show front.length - v = i + 1 by omega, ← drop_drop, take_append_drop]
      have hback : back.drop (back.length - u) = back.drop j := by congr 1; omega
      calc _ ~ (front.take i ++ back.take j) ++ (front.drop i).take 1 ++
            (front.drop (front.length - v) ++ back.drop (back.length - u)) :=
            (hlowerItems.append_right _).append ((reverse_perm _).trans hupperItems)
        _ ~ (front.take i ++ ((front.drop i).take 1 ++ front.drop (front.length - v))) ++
            (back.take j ++ back.drop (back.length - u)) := by
            classical
            rw [perm_iff_count]
            intro a
            simp only [count_append]
            omega
        _ = front ++ back := by rw [hfront, hback, take_append_drop, take_append_drop]
    case isFalse => cases h

/-! ### Few items -/

theorem sortPair_perm (a b : α) : [(sortPair less a b).1, (sortPair less a b).2] ~ [a, b] := by
  rw [sortPair]
  split
  · exact Perm.swap a b []
  · exact Perm.refl _

theorem sortFour_perm (w x y z : α) : sortFour less w x y z ~ [w, x, y, z] := by
  have hfirst := sortPair_perm less w x
  have hlast := sortPair_perm less y z
  simp only [sortFour]
  generalize sortPair less w x = p at *
  generalize sortPair less y z = q at *
  have hpairs : [p.1, p.2, q.1, q.2] ~ [w, x, y, z] := hfirst.append hlast
  -- whichever are the least and the greatest, the other two are sorted as a pair
  cases less q.1 p.1 <;> cases less q.2 p.2 <;> refine Perm.trans ?_ hpairs
  · exact ((sortPair_perm less p.2 q.1).append_right [q.2]).cons p.1
  · refine (((sortPair_perm less q.1 q.2).append_right [p.2]).cons p.1).trans (Perm.cons _ ?_)
    exact (perm_append_singleton p.2 [q.1, q.2])
  · refine (((sortPair_perm less p.1 p.2).append_right [q.2]).cons q.1).trans ?_
    have hmiddle : [p.1, p.2] ++ q.1 :: [q.2] ~ q.1 :: ([p.1, p.2] ++ [q.2]) := perm_middle
    exact hmiddle.symm
  · refine (((sortPair_perm less p.1 q.2).append_right [p.2]).cons q.1).trans ?_
    classical
    rw [perm_iff_count]
    intro a
    simp only [cons_append, nil_append, count_cons]
    omega

theorem start?_perm {blockLength : Nat} {items : List α} {p : List α × List α}
    (h : start? less blockLength items = some p) : p.1 ++ p.2 ~ items := by
  match items with
  | a :: b :: c :: d :: rest =>
    have hfour := sortFour_perm less a b c d
    simp only [start?] at h
    split at h
    · split at h
      case h_1 e f g k rest =>
        obtain ⟨eight, height, rfl⟩ := Option.map_eq_some_iff.1 h
        have hother := sortFour_perm less e f g k
        have := mergeInward?_perm less (by rw [hfour.length_eq, hother.length_eq]; simp)
          (by rw [hfour.length_eq, hother.length_eq]; simp) height
        exact (this.trans (hfour.append hother)).append_right rest
      case h_2 => cases h; exact hfour.append_right _
    · split at h <;> cases h
      · exact hfour.append_right _
      · exact Perm.refl _
  | [] | [_] | [_, _] | [_, _, _] => cases h; simp

theorem halfBlock?_perm {blockLength : Nat} {items sorted : List α}
    (h : halfBlock? less blockLength items = some sorted) : sorted ~ items := by
  obtain ⟨p, hp, rfl⟩ := Option.map_eq_some_iff.1 h
  exact (insertAll_perm less p.1 p.2).trans (start?_perm less hp)

theorem block?_perm {items sorted : List α} (h : block? less items = some sorted) :
    sorted ~ items := by
  simp only [block?, Option.bind_eq_bind] at h
  split at h
  · cases h
    exact Perm.refl _
  · obtain ⟨front, hfront, h⟩ := Option.bind_eq_some_iff.1 h
    obtain ⟨back, hback, h⟩ := Option.bind_eq_some_iff.1 h
    have hfront := halfBlock?_perm less hfront
    have hback := halfBlock?_perm less hback
    have hlengths : front.length = items.length / 2 ∧
        back.length = items.length - items.length / 2 := by
      rw [hfront.length_eq, hback.length_eq, length_take, length_drop]
      omega
    have := mergeInward?_perm less (by omega) (by omega) h
    refine this.trans ((hfront.append hback).trans ?_)
    rw [take_append_drop]

/-! ### Runs -/

namespace Run

/-- The items of a run are those at the start of a list, in some order. -/
def Starts (run : Run α) (items : List α) : Prop :=
  run.items ~ items.take run.items.length

/-- All items of some runs. -/
def allItems (runs : List (Run α)) : List α :=
  runs.flatMap Run.items

@[simp] theorem allItems_nil : allItems ([] : List (Run α)) = [] := rfl

@[simp] theorem allItems_cons (run : Run α) (runs : List (Run α)) :
    allItems (run :: runs) = run.items ++ allItems runs := rfl

/-- Part of a list in another order, whatever its length is, is a start of it. -/
theorem starts_of_perm_take {run : Run α} {items : List α} {n : Nat}
    (h : run.items ~ items.take n) : run.Starts items := by
  rw [Starts, h.length_eq, length_take]
  rcases Nat.le_total n items.length with hn | hn
  · rwa [Nat.min_eq_left hn]
  · rw [Nat.min_eq_right hn, take_length]
    rwa [take_of_length_le hn] at h

theorem Starts.append_drop_perm {run : Run α} {items : List α} (h : run.Starts items) :
    run.items ++ items.drop run.items.length ~ items := by
  have := h.append_right (items.drop run.items.length)
  rwa [take_append_drop] at this

end Run

theorem goodRun?_starts {good : Nat} {items : List α} {run : Run α}
    (h : goodRun? less good items = some run) : run.Starts items := by
  simp only [goodRun?] at h
  split at h
  · cases h
    refine Run.starts_of_perm_take (n := (existingRun less items).1) ?_
    dsimp only
    split
    · exact reverse_perm _
    · exact Perm.refl _
  · cases h

/-- One step of the cutting: a run at the start of the list, and the runs of the rest. -/
theorem cut?_cons {good : Nat} {block : List α → Option (Run α)}
    (hblock : ∀ items run, block items = some run → run.Starts items) {limit : Nat} {a : α}
    {items : List α} {runs : List (Run α)}
    (h : cut? less good block (limit + 1) (a :: items) = some runs) :
    ∃ run rest, run.Starts (a :: items) ∧
      cut? less good block limit ((a :: items).drop run.items.length) = some rest ∧
      runs = run :: rest := by
  rw [cut?] at h
  on_goal 2 => simp
  split at h
  · obtain ⟨run, hrun, h⟩ := Option.bind_eq_some_iff.1 h
    obtain ⟨rest, hrest, h⟩ := Option.bind_eq_some_iff.1 h
    cases h
    refine ⟨run, rest, ?_, hrest, rfl⟩
    cases hgood : goodRun? less good (a :: items) with
    | none => rw [hgood] at hrun; exact hblock _ _ hrun
    | some run' => rw [hgood] at hrun; cases hrun; exact goodRun?_starts less hgood
  · obtain ⟨run, hrun, h⟩ := Option.bind_eq_some_iff.1 h
    obtain ⟨rest, hrest, h⟩ := Option.bind_eq_some_iff.1 h
    cases h
    exact ⟨run, rest, hblock _ _ hrun, hrest, rfl⟩

theorem cut?_perm {good : Nat} {block : List α → Option (Run α)}
    (hblock : ∀ items run, block items = some run → run.Starts items) {limit : Nat}
    {items : List α} {runs : List (Run α)} (h : cut? less good block limit items = some runs) :
    Run.allItems runs ~ items := by
  induction limit generalizing items runs with
  | zero =>
    cases items with
    | nil => cases h; exact Perm.refl _
    | cons a items => cases h
  | succ limit ih =>
    cases items with
    | nil => cases h; exact Perm.refl _
    | cons a items =>
      obtain ⟨run, rest, hstarts, hrest, rfl⟩ := cut?_cons less hblock h
      rw [Run.allItems_cons]
      exact ((ih hrest).append_left _).trans hstarts.append_drop_perm

/-! ### The tree of merges -/

theorem collapse?_zero {join : Run α → Run α → Option (Run α)}
    {pending pending' : List (Run α × Nat)} {run run' : Run α}
    (h : collapse? join 0 pending run = some (pending', run')) :
    pending' = [] := by
  induction pending generalizing run with
  | nil => cases h; rfl
  | cons q rest ih =>
    rw [collapse?, if_pos (Nat.zero_le _)] at h
    obtain ⟨joined, -, h⟩ := Option.bind_eq_some_iff.1 h
    exact ih h

section Joining

variable {join : Run α → Run α → Option (Run α)}
  (hjoin : ∀ a b run, join a b = some run → run.items ~ a.items ++ b.items)

include hjoin

theorem collapse?_perm {limit : Nat} {pending pending' : List (Run α × Nat)} {run run' : Run α}
    (h : collapse? join limit pending run = some (pending', run')) :
    run'.items ++ Run.allItems (pending'.map Prod.fst) ~
      run.items ++ Run.allItems (pending.map Prod.fst) := by
  induction pending generalizing run with
  | nil => cases h; exact Perm.refl _
  | cons p rest ih =>
    rw [collapse?] at h
    split at h
    · obtain ⟨joined, hjoined, h⟩ := Option.bind_eq_some_iff.1 h
      refine (ih h).trans ?_
      rw [map_cons, Run.allItems_cons, ← append_assoc]
      exact ((hjoin _ _ _ hjoined).trans perm_append_comm).append_right _
    · cases h; exact Perm.refl _

theorem joinAll?_perm {n position : Nat} {pending : List (Run α × Nat)} {run run' : Run α}
    {rest : List (Run α)} (h : joinAll? join n pending position run rest = some run') :
    run'.items ~ (run.items ++ Run.allItems (pending.map Prod.fst)) ++ Run.allItems rest := by
  induction rest generalizing pending position run with
  | nil =>
    rw [joinAll?] at h
    obtain ⟨⟨pending', last⟩, hcollapse, h⟩ := Option.bind_eq_some_iff.1 h
    cases h
    have := collapse?_perm hjoin hcollapse
    rw [collapse?_zero hcollapse] at this
    simpa using this
  | cons next rest ih =>
    rw [joinAll?] at h
    obtain ⟨⟨pending', run''⟩, hcollapse, h⟩ := Option.bind_eq_some_iff.1 h
    have := collapse?_perm hjoin hcollapse
    refine (ih h).trans ?_
    rw [map_cons, Run.allItems_cons, Run.allItems_cons, ← append_assoc (_ ++ _)]
    exact (perm_append_comm.trans (this.append_right next.items)).append_right _

theorem asRun?_perm {block : List α → Option (Run α)}
    (hblock : ∀ items run, block items = some run → run.Starts items) {items : List α}
    {run : Run α} (h : asRun? less block join items = some run) : run.items ~ items := by
  rw [asRun?] at h
  obtain ⟨runs, hruns, h⟩ := Option.bind_eq_some_iff.1 h
  have := cut?_perm less hblock hruns
  cases runs with
  | nil => cases h; exact this
  | cons first rest => exact (joinAll?_perm hjoin h).trans (by simpa using this)

end Joining

theorem eager?_perm {items sorted : List α} (h : eager? less items = some sorted) :
    sorted ~ items := by
  obtain ⟨run, hrun, rfl⟩ := Option.map_eq_some_iff.1 h
  refine asRun?_perm less (fun a b run h => ?_) (fun items run h => ?_) hrun
  · cases h
    exact merge_perm less a.items b.items
  · obtain ⟨sorted, hsorted, rfl⟩ := Option.map_eq_some_iff.1 h
    exact Run.starts_of_perm_take (block?_perm less hsorted)

/-! ### Parting at a pivot -/

theorem part_perm (goesDown : α → Bool) (position : Nat) (pivotDown : Bool) (items : List α) :
    (part goesDown position pivotDown items).1 ++ (part goesDown position pivotDown items).2 ~
      items := by
  simp only [part, partition_eq_filter_filter, ← map_append]
  refine ((filter_append_perm _ items.zipIdx).map (·.1)).trans ?_
  rw [zipIdx_map_fst]

theorem quickUpTo?_perm {limit : Nat} {bound : Option α} {items sorted : List α}
    (h : quickUpTo? less limit bound items = some sorted) : sorted ~ items := by
  induction limit generalizing bound items sorted with
  | zero =>
    rw [quickUpTo?] at h
    split at h
    · exact block?_perm less h
    · exact eager?_perm less h
  | succ limit ih =>
    rw [quickUpTo?] at h
    split at h
    · exact block?_perm less h
    · obtain ⟨⟨pivot, position⟩, -, h⟩ := Option.bind_eq_some_iff.1 h
      simp only at h
      split at h
      · -- the items equal to the pivot are set aside
        obtain ⟨upper, hupper, h⟩ := Option.bind_eq_some_iff.1 h
        cases h
        exact ((ih hupper).append_left _).trans (part_perm _ position true items)
      · obtain ⟨upper, hupper, h⟩ := Option.bind_eq_some_iff.1 h
        obtain ⟨lower, hlower, h⟩ := Option.bind_eq_some_iff.1 h
        cases h
        exact ((ih hlower).append (ih hupper)).trans (part_perm _ position false items)

theorem quick?_perm {items sorted : List α} (h : quick? less items = some sorted) :
    sorted ~ items :=
  quickUpTo?_perm less h

/-! ### All together -/

theorem Run.sorted?_perm {run : Run α} {sorted : List α} (h : run.sorted? less = some sorted) :
    sorted ~ run.items := by
  rw [Run.sorted?] at h
  split at h
  · cases h; exact Perm.refl _
  · exact quick?_perm less h

theorem Run.join?_perm {a b run : Run α} (h : Run.join? less a b = some run) :
    run.items ~ a.items ++ b.items := by
  rw [Run.join?] at h
  split at h
  · obtain ⟨front, hfront, h⟩ := Option.bind_eq_some_iff.1 h
    obtain ⟨back, hback, h⟩ := Option.bind_eq_some_iff.1 h
    cases h
    exact (merge_perm less front back).trans
      ((Run.sorted?_perm less hfront).append (Run.sorted?_perm less hback))
  · cases h; exact Perm.refl _

theorem runs?_perm {items sorted : List α} (h : runs? less items = some sorted) :
    sorted ~ items := by
  rw [runs?] at h
  split at h
  · exact eager?_perm less h
  · obtain ⟨run, hrun, h⟩ := Option.bind_eq_some_iff.1 h
    refine (Run.sorted?_perm less h).trans ?_
    refine asRun?_perm less (fun a b run => Run.join?_perm less) (fun items' run h => ?_) hrun
    cases h
    exact Run.starts_of_perm_take (Perm.refl _)

/-- **Sorting permutes the items**, whatever the comparison says. -/
theorem sort?_perm {items sorted : List α} (h : sort? less items = some sorted) :
    sorted ~ items := by
  rw [sort?] at h
  split at h
  · cases h; exact insertion_perm less items
  · exact runs?_perm less h

end Sorting

end ListQuery
