import ListQuery.Proofs.Sorting.Naturality
import ListQuery.Proofs.Sorting.Permutation
import Mathlib.Order.Basic

/-!
# Sorting puts ranks in order

A comparison may contradict itself and still never go against a rank that the items have.  Then
every way of sorting puts the ranks in order, whatever it does with items of one rank:

* `Sorting.Respects` : a comparison that does not go against a rank;
* `Sorting.Ranked` : a list in which no rank goes down;
* `Sorting.ranked_mergeInward?`, `Sorting.ranked_block?` : merging from both ends, and blocks;
* `Sorting.ranked_quickUpTo?` : parting at a pivot;
* `Sorting.ranked_sort?` : all of them together.
-/

namespace ListQuery

namespace Sorting

open List

variable {α β : Type} [PartialOrder β]

/-- An item that is less has no greater rank, and one that is not less has no lesser rank. -/
structure Respects (less : α → α → Bool) (rank : α → β) : Prop where
  /-- An item that is less than another. -/
  le_of_less {a b : α} : less a b = true → rank a ≤ rank b
  /-- An item that is not less than another. -/
  le_of_not_less {a b : α} : less a b = false → rank b ≤ rank a

/-- No rank goes down in a list. -/
def Ranked (rank : α → β) (items : List α) : Prop :=
  items.Pairwise fun a b => rank a ≤ rank b

variable {less : α → α → Bool} {rank : α → β}

theorem ranked_reverse_iff {items : List α} :
    Ranked rank items.reverse ↔ items.Pairwise fun a b => rank b ≤ rank a :=
  pairwise_reverse

theorem ranked_iff_map {items : List α} : Ranked rank items ↔ (items.map rank).Pairwise (· ≤ ·) :=
  pairwise_map.symm

theorem ranked_of_length_lt {items : List α} (h : items.length < 2) : Ranked rank items := by
  cases items with
  | nil => exact Pairwise.nil
  | cons a items =>
    cases items with
    | nil => exact pairwise_singleton _ a
    | cons b items => exact absurd h (Nat.not_lt.2 (Nat.le_add_left 2 items.length))

section Respects

variable (h : Respects less rank)
include h

/-! ### Insertion -/

theorem pairwise_insertDescending (a : α) {sorted : List α}
    (hsorted : sorted.Pairwise fun a b => rank b ≤ rank a) :
    (insertDescending less a sorted).Pairwise fun a b => rank b ≤ rank a := by
  induction sorted with
  | nil => exact pairwise_singleton _ a
  | cons b rest ih =>
    obtain ⟨hb, hrest⟩ := pairwise_cons.1 hsorted
    rw [insertDescending]
    split
    case isTrue hless =>
      refine pairwise_cons.2 ⟨fun c hc => ?_, ih hrest⟩
      obtain rfl | hc := mem_cons.1 ((insertDescending_perm less a rest).mem_iff.1 hc)
      · exact h.le_of_less hless
      · exact hb c hc
    case isFalse hnot =>
      have hba : rank b ≤ rank a := h.le_of_not_less (Bool.eq_false_iff.2 hnot)
      refine pairwise_cons.2 ⟨forall_mem_cons.2 ⟨hba, fun c hc => ?_⟩, hsorted⟩
      exact (hb c hc).trans hba

theorem ranked_insertAll {sorted : List α} (hsorted : Ranked rank sorted) (items : List α) :
    Ranked rank (insertAll less sorted items) := by
  have hfold {start : List α} (hstart : start.Pairwise fun a b => rank b ≤ rank a) :
      (items.foldl (fun sorted a => insertDescending less a sorted) start).Pairwise
        fun a b => rank b ≤ rank a := by
    induction items generalizing start with
    | nil => exact hstart
    | cons a items ih => exact ih (pairwise_insertDescending h a hstart)
  exact ranked_reverse_iff.2 (hfold (pairwise_reverse.2 hsorted))

theorem ranked_insertion (items : List α) : Ranked rank (insertion less items) :=
  ranked_insertAll h Pairwise.nil items

end Respects

/-! ### Merging -/

/-- A merge keeps what its choices go by, if this can be passed on. -/
theorem pairwise_merge_of {R : α → α → Prop} {le : α → α → Bool}
    (htrans : ∀ {a b c}, R a b → R b c → R a c) (hle : ∀ {a b}, le a b = true → R a b)
    (hnot : ∀ {a b}, le a b = false → R b a) {xs ys : List α} (hxs : xs.Pairwise R)
    (hys : ys.Pairwise R) : (xs.merge ys le).Pairwise R := by
  induction xs generalizing ys with
  | nil => rwa [nil_merge]
  | cons x xs ihx =>
    induction ys with
    | nil => rwa [merge_right]
    | cons y ys ihy =>
      obtain ⟨hx, hxs'⟩ := pairwise_cons.1 hxs
      obtain ⟨hy, hys'⟩ := pairwise_cons.1 hys
      rw [cons_merge_cons]
      split
      case isTrue hxy =>
        refine pairwise_cons.2 ⟨fun z hz => ?_, ihx hxs' hys⟩
        obtain hz | hz := mem_append.1 ((merge_perm_append le).mem_iff.1 hz)
        · exact hx z hz
        · obtain rfl | hz := mem_cons.1 hz
          · exact hle hxy
          · exact htrans (hle hxy) (hy z hz)
      case isFalse hxy =>
        have hyx : R y x := hnot (Bool.eq_false_iff.2 hxy)
        refine pairwise_cons.2 ⟨fun z hz => ?_, ihy hys'⟩
        obtain hz | hz := mem_append.1 ((merge_perm_append le).mem_iff.1 hz)
        · obtain rfl | hz := mem_cons.1 hz
          · exact hyx
          · exact htrans hyx (hx z hz)
        · exact hy z hz

omit [PartialOrder β] in
theorem eq_of_perm_of_take_of_drop {ranks other : List β} (middle : List β) {k n : Nat}
    (hle : k ≤ n) (hn : n ≤ k + 1) (hother : other = ranks.take k ++ middle ++ ranks.drop n)
    (hperm : other ~ ranks) : other = ranks := by
  obtain ⟨d, rfl⟩ := Nat.exists_eq_add_of_le hle
  have hsplit : ranks.take k ++ (ranks.drop k).take d ++ ranks.drop (k + d) = ranks := by
    rw [append_assoc, ← drop_drop, take_append_drop, take_append_drop]
  have hmiddle : middle ~ (ranks.drop k).take d := by
    have hall : other ~ ranks.take k ++ (ranks.drop k).take d ++ ranks.drop (k + d) :=
      hsplit.symm ▸ hperm
    rwa [hother, perm_append_right_iff, perm_append_left_iff] at hall
  have hlength : ((ranks.drop k).take d).length ≤ 1 := by
    rw [length_take]
    omega
  have hsame : middle = (ranks.drop k).take d := by
    generalize (ranks.drop k).take d = single at hmiddle hlength
    match single with
    | [] => exact hmiddle.eq_nil
    | [b] => exact perm_singleton.1 hmiddle
  rw [hother, hsame, hsplit]

section Respects

variable (h : Respects less rank) {front back : List α} (hfront : Ranked rank front)
  (hback : Ranked rank back)
include h hfront hback

theorem ranked_mergeUp : Ranked rank (mergeUp less front back) := by
  refine pairwise_merge_of (R := fun a b => rank a ≤ rank b) le_trans (fun hle => ?_)
    (fun hnot => ?_) hfront hback
  · exact h.le_of_not_less (by simpa using hle)
  · exact h.le_of_less (by simpa using hnot)

theorem ranked_reverse_mergeDown : Ranked rank (mergeDown less front back).reverse := by
  refine ranked_reverse_iff.2 (pairwise_merge_of (fun hab hbc => hbc.trans hab) (fun hle => ?_)
    (fun hnot => ?_) (pairwise_reverse.2 hback) (pairwise_reverse.2 hfront))
  · exact h.le_of_not_less (by simpa using hle)
  · exact h.le_of_less (by simpa using hnot)

theorem ranked_merge : Ranked rank (merge less front back) := by
  rw [merge]
  split
  · exact ranked_mergeUp h hfront hback
  · exact ranked_reverse_mergeDown h hfront hback

omit h hfront hback [PartialOrder β] in
/-- A merge from both ends is made of the first halves of two merges, and what is left. -/
theorem exists_of_mergeInward? {items : List α}
    (hitems : mergeInward? less front back = some items) :
    ∃ middle, items = (mergeUp less front back).take front.length ++ middle ++
      ((mergeDown less front back).take front.length).reverse := by
  let lessMarked (a b : α × Bool) : Bool := less a.1 b.1
  have hup : (mergeUp lessMarked (marked true front) (marked false back)).map (·.1) =
      mergeUp less front back := by
    have hmap := map_mergeUp less Prod.fst (marked true front) (marked false back)
    rwa [map_fst_marked, map_fst_marked] at hmap
  have hdown : (mergeDown lessMarked (marked true front) (marked false back)).map (·.1) =
      mergeDown less front back := by
    have hmap := map_mergeDown less Prod.fst (marked true front) (marked false back)
    rwa [map_fst_marked, map_fst_marked] at hmap
  rw [← hup, ← hdown, ← map_take, ← map_take]
  unfold mergeInward? at hitems
  dsimp only at hitems
  split at hitems
  · cases hitems
    exact ⟨_, rfl⟩
  · split at hitems
    · cases hitems
      exact ⟨_, rfl⟩
    · cases hitems

theorem ranked_mergeInward? (hl : front.length ≤ back.length) (hr : back.length ≤ front.length + 1)
    {items : List α} (hitems : mergeInward? less front back = some items) : Ranked rank items := by
  obtain ⟨middle, hmiddle⟩ := exists_of_mergeInward? hitems
  have hperm := mergeInward?_perm less hl hr hitems
  have hup := mergeUp_perm less front back
  have hdown := (reverse_perm _).trans (mergeDown_perm less front back)
  have hlength := (mergeDown_perm less front back).length_eq
  rw [length_append] at hlength
  -- From below and from above the same ranks are met, though perhaps with other items.
  have hsame : (mergeDown less front back).reverse.map rank = (mergeUp less front back).map rank :=
    ((hdown.trans hup.symm).map rank).eq_of_pairwise (fun _ _ _ _ => le_antisymm)
      (ranked_iff_map.1 (ranked_reverse_mergeDown h hfront hback))
      (ranked_iff_map.1 (ranked_mergeUp h hfront hback))
  have hupper : ((mergeDown less front back).take front.length).reverse.map rank =
      ((mergeUp less front back).map rank).drop back.length := by
    rw [← hsame, ← map_drop, drop_reverse, hlength, Nat.add_sub_cancel]
  have hranks : items.map rank = (mergeUp less front back).map rank := by
    refine eq_of_perm_of_take_of_drop (middle.map rank) hl hr ?_
      ((hperm.trans hup.symm).map rank)
    rw [hmiddle, map_append, map_append, hupper, map_take]
  rw [ranked_iff_map, hranks, ← ranked_iff_map]
  exact ranked_mergeUp h hfront hback

end Respects

section Respects

variable (h : Respects less rank)
include h

/-! ### Few items -/

theorem sortPair_le (a b : α) :
    rank (sortPair less a b).1 ≤ rank (sortPair less a b).2 := by
  rw [sortPair]
  split
  case isTrue hless => exact h.le_of_less hless
  case isFalse hnot => exact h.le_of_not_less (Bool.eq_false_iff.2 hnot)

theorem ranked_sortPair {a b least greatest : α}
    (hleast : rank least ≤ rank a ∧ rank least ≤ rank b)
    (hgreatest : rank a ≤ rank greatest ∧ rank b ≤ rank greatest) :
    Ranked rank [least, (sortPair less a b).1, (sortPair less a b).2, greatest] := by
  have hpair := sortPair_le h a b
  have hmem : ∀ c ∈ [(sortPair less a b).1, (sortPair less a b).2],
      rank least ≤ rank c ∧ rank c ≤ rank greatest := by
    intro c hc
    rw [(sortPair_perm less a b).mem_iff, mem_pair] at hc
    obtain rfl | rfl := hc
    · exact ⟨hleast.1, hgreatest.1⟩
    · exact ⟨hleast.2, hgreatest.2⟩
  simp only [forall_mem_cons] at hmem
  obtain ⟨hfirst, hsecond, -⟩ := hmem
  simp only [Ranked, pairwise_cons, forall_mem_cons, not_mem_nil, false_imp_iff, implies_true,
    and_true, Pairwise.nil]
  exact ⟨⟨hfirst.1, hsecond.1, hfirst.1.trans hfirst.2⟩, ⟨hpair, hfirst.2⟩, hsecond.2⟩

theorem ranked_sortFour (w x y z : α) : Ranked rank (sortFour less w x y z) := by
  have hfirst := sortPair_le h w x
  have hlast := sortPair_le h y z
  simp only [sortFour]
  generalize sortPair less w x = p at *
  generalize sortPair less y z = q at *
  cases hleast : less q.1 p.1 with
  | false =>
    have hleast := h.le_of_not_less hleast
    cases hgreatest : less q.2 p.2 with
    | false =>
      have hgreatest := h.le_of_not_less hgreatest
      exact ranked_sortPair h ⟨hfirst, hleast⟩ ⟨hgreatest, hlast⟩
    | true =>
      have hgreatest := h.le_of_less hgreatest
      exact ranked_sortPair h ⟨hleast, hleast.trans hlast⟩ ⟨hlast.trans hgreatest, hgreatest⟩
  | true =>
    have hleast := h.le_of_less hleast
    cases hgreatest : less q.2 p.2 with
    | false =>
      have hgreatest := h.le_of_not_less hgreatest
      exact ranked_sortPair h ⟨hleast, hleast.trans hfirst⟩ ⟨hfirst.trans hgreatest, hgreatest⟩
    | true =>
      have hgreatest := h.le_of_less hgreatest
      exact ranked_sortPair h ⟨hleast, hlast⟩ ⟨hfirst, hgreatest⟩

theorem ranked_start? {blockLength : Nat} {items : List α} {p : List α × List α}
    (hp : start? less blockLength items = some p) : Ranked rank p.1 := by
  match items with
  | a :: b :: c :: d :: rest =>
    have hfour := ranked_sortFour h a b c d
    simp only [start?] at hp
    split at hp
    · split at hp
      case h_1 e f g k rest =>
        obtain ⟨eight, height, rfl⟩ := Option.map_eq_some_iff.1 hp
        have hlength := (sortFour_perm less a b c d).length_eq
        have hlength' := (sortFour_perm less e f g k).length_eq
        exact ranked_mergeInward? h hfour (ranked_sortFour h e f g k)
          (by rw [hlength, hlength']; simp) (by rw [hlength, hlength']; simp) height
      case h_2 => cases hp; exact hfour
    · split at hp <;> cases hp
      · exact hfour
      · exact pairwise_singleton _ a
  | [] => cases hp; exact Pairwise.nil
  | [a] | [a, _] | [a, _, _] => cases hp; exact pairwise_singleton _ a

theorem ranked_halfBlock? {blockLength : Nat} {items sorted : List α}
    (hsorted : halfBlock? less blockLength items = some sorted) : Ranked rank sorted := by
  obtain ⟨p, hp, rfl⟩ := Option.map_eq_some_iff.1 hsorted
  exact ranked_insertAll h (ranked_start? h hp) p.2

theorem ranked_block? {items sorted : List α} (hsorted : block? less items = some sorted) :
    Ranked rank sorted := by
  simp only [block?, Option.bind_eq_bind] at hsorted
  split at hsorted
  case isTrue hshort =>
    cases hsorted
    exact ranked_of_length_lt hshort
  case isFalse =>
    obtain ⟨front, hfront, hsorted⟩ := Option.bind_eq_some_iff.1 hsorted
    obtain ⟨back, hback, hsorted⟩ := Option.bind_eq_some_iff.1 hsorted
    have hfrontLength := (halfBlock?_perm less hfront).length_eq
    have hbackLength := (halfBlock?_perm less hback).length_eq
    rw [length_take] at hfrontLength
    rw [length_drop] at hbackLength
    exact ranked_mergeInward? h (ranked_halfBlock? h hfront) (ranked_halfBlock? h hback) (by omega)
      (by omega) hsorted

end Respects

/-! ### Runs -/

theorem isChain_take_countOn (goesOn : α → α → Bool) (last : α) (rest : List α) :
    (last :: rest.take (countOn goesOn last rest)).IsChain fun a b => goesOn a b = true := by
  induction rest generalizing last with
  | nil => exact .singleton last
  | cons a rest ih =>
    rw [countOn]
    split
    case isTrue hgoes => exact (ih a).cons_cons hgoes
    case isFalse => exact .singleton last

/-- A run that exists goes down everywhere, or nowhere. -/
theorem isChain_take_existingRun (less : α → α → Bool) (items : List α) :
    (items.take (existingRun less items).1).IsChain
      fun a b => less b a = (existingRun less items).2 := by
  match items with
  | [] => exact .nil
  | [a] => exact .singleton a
  | a :: b :: rest =>
    rw [existingRun]
    split
    case isTrue hless => exact (isChain_take_countOn (fun x y => less y x) b rest).cons_cons hless
    case isFalse hnot =>
      have hchain := isChain_take_countOn (fun x y => !less y x) b rest
      exact (hchain.imp fun x y hxy => by simpa using hxy).cons_cons (Bool.eq_false_iff.2 hnot)

/-! ### The tree of merges -/

section Tree

variable {P : Run α → Prop} {join : Run α → Run α → Option (Run α)}
  (hjoin : ∀ a b run, P a → P b → join a b = some run → P run)
include hjoin

/-- What joining two runs keeps, joining runs to those in front of them keeps. -/
theorem collapse?_of_join {limit : Nat} {pending pending' : List (Run α × Nat)} {run run' : Run α}
    (hpending : ∀ p ∈ pending, P p.1) (hrun : P run)
    (h : collapse? join limit pending run = some (pending', run')) :
    (∀ p ∈ pending', P p.1) ∧ P run' := by
  induction pending generalizing run with
  | nil => cases h; exact ⟨hpending, hrun⟩
  | cons front rest ih =>
    rw [collapse?] at h
    split at h
    · obtain ⟨joined, hjoined, h⟩ := Option.bind_eq_some_iff.1 h
      rw [forall_mem_cons] at hpending
      exact ih hpending.2 (hjoin _ _ _ hpending.1 hrun hjoined) h
    · cases h; exact ⟨hpending, hrun⟩

theorem joinAll?_of_join {n position : Nat} {pending : List (Run α × Nat)} {run run' : Run α}
    {rest : List (Run α)} (hpending : ∀ p ∈ pending, P p.1) (hrun : P run)
    (hrest : ∀ next ∈ rest, P next)
    (h : joinAll? join n pending position run rest = some run') : P run' := by
  induction rest generalizing pending position run with
  | nil =>
    obtain ⟨⟨pending', last⟩, hcollapse, h⟩ := Option.bind_eq_some_iff.1 h
    cases h
    exact (collapse?_of_join hjoin hpending hrun hcollapse).2
  | cons next rest ih =>
    obtain ⟨⟨pending', last⟩, hcollapse, h⟩ := Option.bind_eq_some_iff.1 h
    obtain ⟨hpending', hlast⟩ := collapse?_of_join hjoin hpending hrun hcollapse
    rw [forall_mem_cons] at hrest
    exact ih (forall_mem_cons.2 ⟨hlast, hpending'⟩) hrest.1 hrest.2 h

omit hjoin in
theorem cut?_of_block {less : α → α → Bool} {good : Nat} {block : List α → Option (Run α)}
    (hgood : ∀ items run, goodRun? less good items = some run → P run)
    (hblock : ∀ items run, block items = some run → P run) {limit : Nat} {items : List α}
    {runs : List (Run α)} (h : cut? less good block limit items = some runs) :
    ∀ run ∈ runs, P run := by
  induction limit generalizing items runs with
  | zero =>
    cases items with
    | nil => cases h; exact forall_mem_nil _
    | cons a rest => cases h
  | succ limit ih =>
    cases items with
    | nil => cases h; exact forall_mem_nil _
    | cons a rest =>
      rw [cut?_eq_bind] at h
      obtain ⟨run, hrun, h⟩ := Option.bind_eq_some_iff.1 h
      obtain ⟨runs, hruns, rfl⟩ := Option.map_eq_some_iff.1 h
      refine forall_mem_cons.2 ⟨?_, ih hruns⟩
      rw [firstRun?] at hrun
      split at hrun
      · cases hfound : goodRun? less good (a :: rest) with
        | none => rw [hfound] at hrun; exact hblock _ _ hrun
        | some found => rw [hfound] at hrun; cases hrun; exact hgood _ _ hfound
      · exact hblock _ _ hrun

/-- **What holds of the runs that a list is cut into, and is kept when two are joined, holds of the
run that the list becomes.** -/
theorem asRun?_of_join {less : α → α → Bool} {block : List α → Option (Run α)} (hnil : P ⟨[], true⟩)
    (hgood : ∀ good items run, goodRun? less good items = some run → P run)
    (hblock : ∀ items run, block items = some run → P run) {items : List α} {run : Run α}
    (h : asRun? less block join items = some run) : P run := by
  obtain ⟨runs, hruns, h⟩ := Option.bind_eq_some_iff.1 h
  have hall := cut?_of_block (hgood _) hblock hruns
  cases runs with
  | nil => cases h; exact hnil
  | cons first rest =>
    rw [forall_mem_cons] at hall
    exact joinAll?_of_join hjoin (forall_mem_nil _) hall.1 hall.2 h

end Tree

section Respects

variable (h : Respects less rank)
include h

theorem ranked_goodRun? {good : Nat} {items : List α} {run : Run α}
    (hrun : goodRun? less good items = some run) : Ranked rank run.items := by
  have : Trans (fun a b : α => rank a ≤ rank b) (fun a b => rank a ≤ rank b)
      (fun a b => rank a ≤ rank b) := ⟨le_trans⟩
  have : Trans (fun a b : α => rank b ≤ rank a) (fun a b => rank b ≤ rank a)
      (fun a b => rank b ≤ rank a) := ⟨fun hab hbc => hbc.trans hab⟩
  have hchain := isChain_take_existingRun less items
  simp only [goodRun?] at hrun
  split at hrun
  case isFalse => cases hrun
  case isTrue =>
    cases hrun
    dsimp only
    split
    case isTrue hdown =>
      rw [hdown] at hchain
      exact ranked_reverse_iff.2 (hchain.imp fun a b hab => h.le_of_less hab).pairwise
    case isFalse hup =>
      rw [Bool.eq_false_iff.2 hup] at hchain
      exact (hchain.imp fun a b hab => h.le_of_not_less hab).pairwise

theorem ranked_eager? {items sorted : List α} (hsorted : eager? less items = some sorted) :
    Ranked rank sorted := by
  obtain ⟨run, hrun, rfl⟩ := Option.map_eq_some_iff.1 hsorted
  refine asRun?_of_join (P := fun run => Ranked rank run.items) (fun a b run ha hb hab => ?_)
    Pairwise.nil (fun _ _ _ => ranked_goodRun? h) (fun items run hblock => ?_) hrun
  · cases hab
    exact ranked_merge h ha hb
  · obtain ⟨sorted, hsorted, rfl⟩ := Option.map_eq_some_iff.1 hblock
    exact ranked_block? h hsorted

end Respects

/-! ### Parting at a pivot -/

theorem median_mem (less : α → α → Bool) (a b c : α × Nat) : median less a b c ∈ [a, b, c] := by
  rw [median]
  split
  · split <;> simp
  · simp

theorem of_median {Q : α × Nat → Prop} {a? b? c? : Option (α × Nat)} {p : α × Nat}
    (ha : ∀ p ∈ a?, Q p) (hb : ∀ p ∈ b?, Q p) (hc : ∀ p ∈ c?, Q p)
    (h : (do return median less (← a?) (← b?) (← c?)) = some p) : Q p := by
  obtain ⟨a, hamem, h⟩ := Option.bind_eq_some_iff.1 h
  obtain ⟨b, hbmem, h⟩ := Option.bind_eq_some_iff.1 h
  obtain ⟨c, hcmem, h⟩ := Option.bind_eq_some_iff.1 h
  cases h
  have hall : ∀ p ∈ [a, b, c], Q p := by
    simp only [forall_mem_cons, not_mem_nil, false_imp_iff, implies_true, and_true]
    exact ⟨ha a hamem, hb b hbmem, hc c hcmem⟩
  exact hall _ (median_mem less a b c)

theorem of_pseudoMedian {Q : α × Nat → Prop} {at? : Nat → Option (α × Nat)}
    (hat : ∀ n, ∀ p ∈ at? n, Q p) {limit a b c n : Nat} {p : α × Nat}
    (h : pseudoMedian less at? limit a b c n = some p) : Q p := by
  induction limit generalizing a b c n p with
  | zero => cases h
  | succ limit ih =>
    rw [pseudoMedian] at h
    split at h
    · exact of_median (fun _ => ih) (fun _ => ih) (fun _ => ih) h
    · exact of_median (hat a) (hat b) (hat c) h

theorem getElem?_of_pivot? {items : List α} {p : α × Nat} (h : pivot? less items = some p) :
    items[p.2]? = some p.1 := by
  have hat (n : Nat) : ∀ q ∈ items[n]?.map fun a => (a, n), items[q.2]? = some q.1 := by
    intro q hq
    obtain ⟨a, ha, rfl⟩ := Option.map_eq_some_iff.1 hq
    exact ha
  unfold pivot? at h
  dsimp only at h
  split at h
  · exact of_median (Q := fun q => items[q.2]? = some q.1) (hat _) (hat _) (hat _) h
  · exact of_pseudoMedian (Q := fun q => items[q.2]? = some q.1) hat h

section Part

variable {goesDown : α → Bool} {position : Nat} {pivotDown : Bool} {items : List α} {a : α}

/-- An item that goes down does so by itself, unless it stands at the position. -/
theorem of_mem_part_fst (ha : a ∈ (part goesDown position pivotDown items).1) :
    items[position]? = some a ∧ pivotDown = true ∨ goesDown a = true := by
  simp only [part, partition_eq_filter_filter, mem_map, mem_filter] at ha
  obtain ⟨p, ⟨hp, hdown⟩, rfl⟩ := ha
  split at hdown
  case isTrue hplace => exact .inl ⟨hplace ▸ mem_zipIdx_iff_getElem?.1 hp, hdown⟩
  case isFalse => exact .inr hdown

theorem of_mem_part_snd (ha : a ∈ (part goesDown position pivotDown items).2) :
    items[position]? = some a ∧ pivotDown = false ∨ goesDown a = false := by
  simp only [part, partition_eq_filter_filter, mem_map, mem_filter, Function.comp_apply,
    Bool.not_eq_true'] at ha
  obtain ⟨p, ⟨hp, hup⟩, rfl⟩ := ha
  split at hup
  case isTrue hplace => exact .inl ⟨hplace ▸ mem_zipIdx_iff_getElem?.1 hp, hup⟩
  case isFalse => exact .inr hup

end Part

section Respects

variable (h : Respects less rank)
include h

omit h in
theorem Ranked.append {front back : List α} (hfront : Ranked rank front) (hback : Ranked rank back)
    (bound : β) (hle : ∀ a ∈ front, rank a ≤ bound) (hge : ∀ a ∈ back, bound ≤ rank a) :
    Ranked rank (front ++ back) :=
  pairwise_append.2 ⟨hfront, hback, fun a ha b hb => (hle a ha).trans (hge b hb)⟩

section Pivot

variable {items : List α} {pivot a : α} {position : Nat}

theorem le_of_mem_down (ha : a ∈ (part (less · pivot) position false items).1) :
    rank a ≤ rank pivot := by
  obtain ⟨-, hfalse⟩ | hless := of_mem_part_fst ha
  · cases hfalse
  · exact h.le_of_less hless

theorem le_of_mem_up (hpivot : items[position]? = some pivot)
    (ha : a ∈ (part (less · pivot) position false items).2) :
    rank pivot ≤ rank a := by
  obtain ⟨hplace, -⟩ | hnot := of_mem_part_snd ha
  · cases hpivot.symm.trans hplace
    exact le_refl _
  · exact h.le_of_not_less hnot

theorem le_of_mem_equal (hpivot : items[position]? = some pivot)
    (ha : a ∈ (part (fun a => !less pivot a) position true items).1) :
    rank a ≤ rank pivot := by
  obtain ⟨hplace, -⟩ | hnot := of_mem_part_fst ha
  · cases hpivot.symm.trans hplace
    exact le_refl _
  · exact h.le_of_not_less (by simpa using hnot)

theorem le_of_mem_beyond (ha : a ∈ (part (fun a => !less pivot a) position true items).2) :
    rank pivot ≤ rank a := by
  obtain ⟨-, hfalse⟩ | hless := of_mem_part_snd ha
  · cases hfalse
  · exact h.le_of_less (by simpa using hless)

/-- A pivot that is not greater than the bound, or that has nothing below it, is of least rank. -/
theorem pivot_le_of_mem {bound : Option α} (hbound : ∀ b ∈ bound, ∀ a ∈ items, rank b ≤ rank a)
    (hpivot : items[position]? = some pivot)
    (hleast : (bound.any (fun b => !less b pivot) ||
      (part (less · pivot) position false items).1.isEmpty) = true) (ha : a ∈ items) :
    rank pivot ≤ rank a := by
  obtain hless | hempty := Bool.or_eq_true_iff.1 hleast
  · cases bound with
    | none => cases hless
    | some b => exact (h.le_of_not_less (by simpa using hless)).trans (hbound b rfl a ha)
  · have hparts := part_perm (less · pivot) position false items
    rw [isEmpty_iff.1 hempty, nil_append] at hparts
    exact le_of_mem_up h hpivot (hparts.mem_iff.2 ha)

/-- The items that are not greater than a pivot of least rank have its rank. -/
theorem ranked_equal (hpivot : items[position]? = some pivot)
    (hall : ∀ a ∈ items, rank pivot ≤ rank a) :
    Ranked rank (part (fun a => !less pivot a) position true items).1 := by
  refine pairwise_of_forall_mem_list fun a ha b hb => ?_
  have hb : b ∈ items :=
    (part_perm (fun a => !less pivot a) position true items).mem_iff.1 (mem_append_left _ hb)
  exact (le_of_mem_equal h hpivot ha).trans (hall b hb)

end Pivot

/-- **Parting at a pivot puts ranks in order.**  The bound, if there is one, is of no greater rank
than any item, so that items that are set aside for being no greater than it have one rank. -/
theorem ranked_quickUpTo? {limit : Nat} {bound : Option α} {items sorted : List α}
    (hbound : ∀ b ∈ bound, ∀ a ∈ items, rank b ≤ rank a)
    (hsorted : quickUpTo? less limit bound items = some sorted) : Ranked rank sorted := by
  induction limit generalizing bound items sorted with
  | zero =>
    rw [quickUpTo?] at hsorted
    split at hsorted
    · exact ranked_block? h hsorted
    · exact ranked_eager? h hsorted
  | succ limit ih =>
    rw [quickUpTo?] at hsorted
    split at hsorted
    · exact ranked_block? h hsorted
    · obtain ⟨⟨pivot, position⟩, hpivot, hsorted⟩ := Option.bind_eq_some_iff.1 hsorted
      have hpivot : items[position]? = some pivot := getElem?_of_pivot? hpivot
      simp only at hsorted
      split at hsorted
      case isTrue hleast =>
        obtain ⟨upper, hupper, hsorted⟩ := Option.bind_eq_some_iff.1 hsorted
        cases hsorted
        have hequal := ranked_equal h hpivot fun a => pivot_le_of_mem h hbound hpivot hleast
        exact Ranked.append hequal (ih (by simp) hupper) (rank pivot)
          (fun a => le_of_mem_equal h hpivot)
          fun a ha => le_of_mem_beyond h ((quickUpTo?_perm less hupper).mem_iff.1 ha)
      case isFalse =>
        obtain ⟨upper, hupper, hsorted⟩ := Option.bind_eq_some_iff.1 hsorted
        obtain ⟨lower, hlower, hsorted⟩ := Option.bind_eq_some_iff.1 hsorted
        cases hsorted
        have hparts := part_perm (less · pivot) position false items
        have hboundDown : ∀ b ∈ bound, ∀ a ∈ (part (less · pivot) position false items).1,
            rank b ≤ rank a :=
          fun b hb a ha => hbound b hb a (hparts.mem_iff.1 (mem_append_left _ ha))
        refine Ranked.append (ih hboundDown hlower) (ih ?_ hupper) (rank pivot) ?_ ?_
        · rintro _ ⟨⟩ a ha
          exact le_of_mem_up h hpivot ha
        · intro a ha
          exact le_of_mem_down h ((quickUpTo?_perm less hlower).mem_iff.1 ha)
        · intro a ha
          exact le_of_mem_up h hpivot ((quickUpTo?_perm less hupper).mem_iff.1 ha)

/-! ### All together -/

theorem ranked_quick? {items sorted : List α} (hsorted : quick? less items = some sorted) :
    Ranked rank sorted :=
  ranked_quickUpTo? h (by simp) hsorted

theorem ranked_sorted? {run : Run α} (hrun : run.isSorted = true → Ranked rank run.items)
    {sorted : List α} (hsorted : run.sorted? less = some sorted) : Ranked rank sorted := by
  rw [Run.sorted?] at hsorted
  split at hsorted
  case isTrue his => cases hsorted; exact hrun his
  case isFalse => exact ranked_quick? h hsorted

theorem ranked_runs? {items sorted : List α} (hsorted : runs? less items = some sorted) :
    Ranked rank sorted := by
  rw [runs?] at hsorted
  split at hsorted
  · exact ranked_eager? h hsorted
  · obtain ⟨run, hrun, hsorted⟩ := Option.bind_eq_some_iff.1 hsorted
    refine ranked_sorted? h (asRun?_of_join
      (P := fun run => run.isSorted = true → Ranked rank run.items) (fun a b run ha hb hab => ?_)
      (fun _ => Pairwise.nil) (fun _ _ _ hgood _ => ranked_goodRun? h hgood)
      (fun items run hblock his => ?_) hrun) hsorted
    · rw [Run.join?] at hab
      split at hab
      · obtain ⟨front, hfront, hab⟩ := Option.bind_eq_some_iff.1 hab
        obtain ⟨back, hback, hab⟩ := Option.bind_eq_some_iff.1 hab
        cases hab
        exact fun _ => ranked_merge h (ranked_sorted? h ha hfront) (ranked_sorted? h hb hback)
      · cases hab
        intro his
        cases his
    · cases hblock
      cases his

/-- **Sorting puts ranks in order.** -/
theorem ranked_sort? {items sorted : List α} (hsorted : sort? less items = some sorted) :
    Ranked rank sorted := by
  rw [sort?] at hsorted
  split at hsorted
  · cases hsorted; exact ranked_insertion h items
  · exact ranked_runs? h hsorted

end Respects

theorem ranked_sort?_of_mem (rank : α → β) {items sorted : List α}
    (hless : ∀ a ∈ items, ∀ b ∈ items, less a b = true → rank a ≤ rank b)
    (hnot : ∀ a ∈ items, ∀ b ∈ items, less a b = false → rank b ≤ rank a)
    (hsorted : sort? less items = some sorted) : Ranked rank sorted := by
  let value (a : { a // a ∈ items }) : α := a.1
  have hrespects : Respects (Function.onFun less value) (rank ∘ value) :=
    ⟨fun {a b} => hless a.1 a.2 b.1 b.2, fun {a b} => hnot a.1 a.2 b.1 b.2⟩
  have hattach := map_sort? less value items.attach
  rw [attach_map_subtype_val, hsorted, Option.map_eq_some_iff] at hattach
  obtain ⟨pairs, hpairs, rfl⟩ := hattach
  rw [Ranked, pairwise_map]
  exact ranked_sort? hrespects hpairs

end Sorting

end ListQuery
