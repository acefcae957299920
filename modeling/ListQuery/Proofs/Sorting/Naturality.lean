import ListQuery.Sorting.Stable
import Mathlib.Data.List.Forall2
import Mathlib.Logic.Function.Basic

/-!
# Sorting sees the comparison alone

What a way of sorting does with its items depends on what the comparison says of them, and on
nothing else: items that are replaced by others of which the comparison says the same are put into
the same order.  This holds of every way of sorting, also where the comparison contradicts itself:

* `Sorting.map_insertion` : inserting one item after the other;
* `Sorting.map_mergeInward?`, `Sorting.map_block?` : merging from both ends, and blocks;
* `Sorting.map_asRun?`, `Sorting.map_quick?`, `Sorting.map_runs?` : runs, and parting at a pivot;
* `Sorting.map_sort?` : all of them together;
* `Sorting.forall₂_sort?` : two lists that the comparisons cannot tell apart stay in step.
-/

namespace ListQuery

namespace Sorting

open Function (onFun)

variable {α β : Type} (less : β → β → Bool) (f : α → β)

/-! ### Insertion -/

theorem map_insertDescending (a : α) (sorted : List α) :
    (insertDescending (onFun less f) a sorted).map f =
      insertDescending less (f a) (sorted.map f) := by
  induction sorted with
  | nil => rfl
  | cons b rest ih =>
    rw [insertDescending, List.map_cons, insertDescending, apply_ite (List.map f), List.map_cons,
      List.map_cons, List.map_cons, ih]

theorem map_insertAll (sorted items : List α) :
    (insertAll (onFun less f) sorted items).map f =
      insertAll less (sorted.map f) (items.map f) := by
  have hfold (start : List α) :
      (items.foldl (fun sorted a => insertDescending (onFun less f) a sorted) start).map f =
        items.foldl (fun sorted a => insertDescending less (f a) sorted) (start.map f) :=
    (List.foldl_hom (List.map f) fun sorted a => (map_insertDescending less f a sorted).symm).symm
  rw [insertAll, insertAll, List.map_reverse, hfold, List.map_reverse, List.foldl_map]

theorem map_insertion (items : List α) :
    (insertion (onFun less f) items).map f = insertion less (items.map f) :=
  map_insertAll less f [] items

/-! ### Merging -/

theorem map_mergeUp (front back : List α) :
    (mergeUp (onFun less f) front back).map f = mergeUp less (front.map f) (back.map f) :=
  List.map_merge fun _ _ _ _ => rfl

theorem map_mergeDown (front back : List α) :
    (mergeDown (onFun less f) front back).map f = mergeDown less (front.map f) (back.map f) := by
  rw [mergeDown, mergeDown, ← List.map_reverse, ← List.map_reverse]
  exact List.map_merge fun _ _ _ _ => rfl

theorem map_merge (front back : List α) :
    (merge (onFun less f) front back).map f = merge less (front.map f) (back.map f) := by
  rw [merge, merge, apply_ite (List.map f), List.map_reverse, map_mergeUp, map_mergeDown,
    List.length_map, List.length_map]

theorem map_marked (isFront : Bool) (items : List α) :
    (marked isFront items).map (Prod.map f id) = marked isFront (items.map f) := by
  simp [marked, Function.comp_def]

theorem map_mergeInward? (front back : List α) :
    (mergeInward? (onFun less f) front back).map (List.map f) =
      mergeInward? less (front.map f) (back.map f) := by
  -- Marked items are compared by the items alone, so that marks are a case of `map_mergeUp`.
  let lessMarked (a b : β × Bool) : Bool := less a.1 b.1
  have hup : mergeUp lessMarked (marked true (front.map f)) (marked false (back.map f)) =
      (mergeUp (fun a b => onFun less f a.1 b.1) (marked true front) (marked false back)).map
        (Prod.map f id) := by
    rw [← map_marked, ← map_marked, ← map_mergeUp]
    rfl
  have hdown : mergeDown lessMarked (marked true (front.map f)) (marked false (back.map f)) =
      (mergeDown (fun a b => onFun less f a.1 b.1) (marked true front) (marked false back)).map
        (Prod.map f id) := by
    rw [← map_marked, ← map_marked, ← map_mergeDown]
    rfl
  have hcount (items : List (α × Bool)) :
      (items.map (Prod.map f id)).countP (·.2) = items.countP (·.2) := by
    rw [List.countP_map]
    rfl
  have hfst (items : List (α × Bool)) :
      (items.map (Prod.map f id)).map (·.1) = (items.map (·.1)).map f := by
    simp
  unfold mergeInward?
  dsimp only
  rw [hup, hdown]
  simp only [List.length_map, ← List.map_take, ← List.map_drop, hcount, hfst,
    apply_ite (Option.map (List.map f)), Option.map_some, Option.map_none, List.map_append,
    List.map_reverse]

/-! ### Few items -/

theorem map_sortPair (a b : α) :
    Prod.map f f (sortPair (onFun less f) a b) = sortPair less (f a) (f b) := by
  rw [sortPair, sortPair, apply_ite (Prod.map f f)]
  rfl

theorem map_sortFour (w x y z : α) :
    (sortFour (onFun less f) w x y z).map f = sortFour less (f w) (f x) (f y) (f z) := by
  unfold sortFour
  dsimp only
  simp only [← map_sortPair, Prod.map_fst, Prod.map_snd, onFun]
  split <;> rfl

theorem map_start? (blockLength : Nat) (items : List α) :
    (start? (onFun less f) blockLength items).map (Prod.map (List.map f) (List.map f)) =
      start? less blockLength (items.map f) := by
  match items with
  | [] | [_] | [_, _] | [_, _, _] => rfl
  | a :: b :: c :: d :: rest =>
    have hfour := map_sortFour less f a b c d
    simp only [List.map_cons, start?]
    split
    · match rest with
      | [] | [_] | [_, _] | [_, _, _] => simp [hfour]
      | e :: f' :: g :: h :: rest =>
        have hmerge := map_mergeInward? less f (sortFour (onFun less f) a b c d)
          (sortFour (onFun less f) e f' g h)
        rw [map_sortFour, map_sortFour] at hmerge
        simp only [List.map_cons, ← hmerge, Option.map_map]
        rfl
    · rw [apply_ite (Option.map (Prod.map (List.map f) (List.map f)))]
      simp [hfour]

theorem map_halfBlock? (blockLength : Nat) (items : List α) :
    (halfBlock? (onFun less f) blockLength items).map (List.map f) =
      halfBlock? less blockLength (items.map f) := by
  rw [halfBlock?, halfBlock?, ← map_start?, Option.map_map, Option.map_map]
  refine congrArg (Option.map · _) (funext fun p => ?_)
  exact map_insertAll less f p.1 p.2

theorem map_block? (items : List α) :
    (block? (onFun less f) items).map (List.map f) = block? less (items.map f) := by
  unfold block?
  dsimp only
  rw [List.length_map, apply_ite (Option.map (List.map f)), ← List.map_take, ← List.map_drop,
    ← map_halfBlock?, ← map_halfBlock?]
  refine if_congr Iff.rfl rfl ?_
  cases halfBlock? (onFun less f) items.length (items.take (items.length / 2)) with
  | none => rfl
  | some front =>
    cases halfBlock? (onFun less f) items.length (items.drop (items.length / 2)) with
    | none => rfl
    | some back => exact map_mergeInward? less f front back

/-! ### Runs -/

namespace Run

/-- The run with each item replaced. -/
def map (f : α → β) (run : Run α) : Run β :=
  ⟨run.items.map f, run.isSorted⟩

end Run

theorem countOn_map (goesOn : β → β → Bool) (last : α) (rest : List α) :
    countOn goesOn (f last) (rest.map f) = countOn (onFun goesOn f) last rest := by
  induction rest generalizing last with
  | nil => rfl
  | cons a rest ih => rw [List.map_cons, countOn, countOn, ih]

theorem existingRun_map (items : List α) :
    existingRun less (items.map f) = existingRun (onFun less f) items := by
  match items with
  | [] | [_] => rfl
  | a :: b :: rest =>
    rw [List.map_cons, List.map_cons, existingRun, existingRun, countOn_map, countOn_map]

theorem map_goodRun? (good : Nat) (items : List α) :
    (goodRun? (onFun less f) good items).map (Run.map f) = goodRun? less good (items.map f) := by
  unfold goodRun?
  rw [existingRun_map]
  dsimp only
  split
  · rw [Option.map_some, Run.map, ← List.map_take, apply_ite (List.map f), List.map_reverse]
  · rfl

section Tree

variable {f} {join : Run α → Run α → Option (Run α)} {join' : Run β → Run β → Option (Run β)}
  {block : List α → Option (Run α)} {block' : List β → Option (Run β)}

/-- The runs in front, with each item replaced. -/
def mapPending (f : α → β) (pending : List (Run α × Nat)) : List (Run β × Nat) :=
  pending.map (Prod.map (Run.map f) id)

theorem map_collapse? (hjoin : ∀ a b, (join a b).map (Run.map f) = join' (a.map f) (b.map f))
    (limit : Nat) (pending : List (Run α × Nat)) (run : Run α) :
    (collapse? join limit pending run).map (Prod.map (mapPending f) (Run.map f)) =
      collapse? join' limit (mapPending f pending) (run.map f) := by
  induction pending generalizing run with
  | nil => rfl
  | cons front rest ih =>
    obtain ⟨front, d⟩ := front
    have hrest : mapPending f ((front, d) :: rest) = (front.map f, d) :: mapPending f rest := rfl
    rw [hrest, collapse?, collapse?, ← hjoin]
    split
    · cases join front run with
      | none => rfl
      | some run => exact ih run
    · rfl

theorem map_joinAll? (hjoin : ∀ a b, (join a b).map (Run.map f) = join' (a.map f) (b.map f))
    (n : Nat) (pending : List (Run α × Nat)) (position : Nat) (run : Run α)
    (runs : List (Run α)) :
    (joinAll? join n pending position run runs).map (Run.map f) =
      joinAll? join' n (mapPending f pending) position (run.map f) (runs.map (Run.map f)) := by
  have hlength (run : Run α) : (run.map f).items.length = run.items.length := List.length_map f
  induction runs generalizing pending position run with
  | nil =>
    rw [List.map_nil, joinAll?, joinAll?, ← map_collapse? hjoin]
    cases collapse? join 0 pending run <;> rfl
  | cons next rest ih =>
    rw [List.map_cons, joinAll?, joinAll?, hlength, hlength]
    dsimp only
    rw [← map_collapse? hjoin]
    cases collapse? join _ pending run with
    | none => rfl
    | some p => exact ih _ _ next

/-- The first of the runs that a list is cut into. -/
def firstRun? (less : α → α → Bool) (good : Nat) (block : List α → Option (Run α))
    (items : List α) : Option (Run α) :=
  if good ≤ items.length then (goodRun? less good items).elim (block items) some else block items

theorem cut?_eq_bind (less : α → α → Bool) (good : Nat) (block : List α → Option (Run α))
    (limit : Nat) (a : α) (rest : List α) :
    cut? less good block (limit + 1) (a :: rest) =
      (firstRun? less good block (a :: rest)).bind fun run =>
        (cut? less good block limit ((a :: rest).drop run.items.length)).map (run :: ·) := by
  -- The first run is taken in two places of the definition, and the rest cut in each of them.
  have hnext (run? : Option (Run α)) :
      (do
        let run ← run?
        return run :: (← cut? less good block limit ((a :: rest).drop run.items.length))) =
        run?.bind fun run =>
          (cut? less good block limit ((a :: rest).drop run.items.length)).map (run :: ·) := by
    refine congrArg run?.bind (funext fun run => ?_)
    cases cut? less good block limit ((a :: rest).drop run.items.length) <;> rfl
  rw [cut?, firstRun?, apply_ite (Option.bind · _), ← hnext, ← hnext]
  exact List.cons_ne_nil a rest

theorem map_firstRun? (hblock : ∀ items, (block items).map (Run.map f) = block' (items.map f))
    (good : Nat) (items : List α) :
    (firstRun? (onFun less f) good block items).map (Run.map f) =
      firstRun? less good block' (items.map f) := by
  rw [firstRun?, firstRun?, List.length_map, apply_ite (Option.map (Run.map f)), ← hblock,
    ← map_goodRun?]
  cases goodRun? (onFun less f) good items <;> rfl

theorem map_cut? (hblock : ∀ items, (block items).map (Run.map f) = block' (items.map f))
    (good limit : Nat) (items : List α) :
    (cut? (onFun less f) good block limit items).map (List.map (Run.map f)) =
      cut? less good block' limit (items.map f) := by
  induction limit generalizing items with
  | zero => cases items <;> rfl
  | succ limit ih =>
    cases items with
    | nil => rfl
    | cons a rest =>
      rw [List.map_cons, cut?_eq_bind, cut?_eq_bind, ← List.map_cons, ← map_firstRun? less hblock]
      cases firstRun? (onFun less f) good block (a :: rest) with
      | none => rfl
      | some run =>
        have hlength : (run.map f).items.length = run.items.length := List.length_map f
        rw [Option.map_some, Option.bind_some, Option.bind_some, hlength, ← List.map_drop, ← ih,
          Option.map_map, Option.map_map]
        rfl

variable (join block) in
theorem map_asRun? (hblock : ∀ items, (block items).map (Run.map f) = block' (items.map f))
    (hjoin : ∀ a b, (join a b).map (Run.map f) = join' (a.map f) (b.map f)) (items : List α) :
    (asRun? (onFun less f) block join items).map (Run.map f) =
      asRun? less block' join' (items.map f) := by
  rw [asRun?, asRun?, List.length_map, ← map_cut? less hblock]
  cases cut? (onFun less f) (goodLength items.length) block items.length items with
  | none => rfl
  | some runs =>
    cases runs with
    | nil => rfl
    | cons run rest =>
      have hlength : (run.map f).items.length = run.items.length := List.length_map f
      refine (map_joinAll? hjoin items.length [] run.items.length run rest).trans ?_
      rw [← hlength]
      rfl

end Tree

theorem map_eager? (items : List α) :
    (eager? (onFun less f) items).map (List.map f) = eager? less (items.map f) := by
  let block (items : List α) : Option (Run α) :=
    (block? (onFun less f) (items.take maxBlock)).map (⟨·, true⟩)
  let join (a b : Run α) : Option (Run α) := some ⟨merge (onFun less f) a.items b.items, true⟩
  rw [eager?, eager?, ← map_asRun? less join block, Option.map_map,
    Option.map_map]
  · rfl
  · intro items
    rw [← List.map_take, ← map_block?, Option.map_map, Option.map_map]
    rfl
  · intro a b
    rw [Option.map_some, Run.map, map_merge]
    rfl

/-! ### Parting at a pivot -/

theorem median_map (a b c : α × Nat) :
    median less (Prod.map f id a) (Prod.map f id b) (Prod.map f id c) =
      Prod.map f id (median (onFun less f) a b c) := by
  unfold median
  dsimp only [Prod.map_fst, onFun]
  split_ifs <;> rfl

theorem map_median (a? b? c? : Option (α × Nat)) :
    (do return median (onFun less f) (← a?) (← b?) (← c?) : Option (α × Nat)).map
        (Prod.map f id) =
      (do
        let a ← a?.map (Prod.map f id)
        let b ← b?.map (Prod.map f id)
        let c ← c?.map (Prod.map f id)
        return median less a b c) := by
  cases a? <;> cases b? <;> cases c? <;> try rfl
  exact congrArg some (median_map less f _ _ _).symm

theorem map_pseudoMedian {at? : Nat → Option (α × Nat)} {at?' : Nat → Option (β × Nat)}
    (hat : ∀ p, (at? p).map (Prod.map f id) = at?' p) (limit a b c n : Nat) :
    (pseudoMedian (onFun less f) at? limit a b c n).map (Prod.map f id) =
      pseudoMedian less at?' limit a b c n := by
  induction limit generalizing a b c n with
  | zero => rfl
  | succ limit ih =>
    rw [pseudoMedian, pseudoMedian, apply_ite (Option.map (Prod.map f id))]
    dsimp only
    rw [map_median, map_median, ih, ih, ih, hat, hat, hat]

theorem map_pivot? (items : List α) :
    (pivot? (onFun less f) items).map (Prod.map f id) = pivot? less (items.map f) := by
  have hat (p : Nat) :
      (items[p]?.map (·, p)).map (Prod.map f id) = (items.map f)[p]?.map (·, p) := by
    rw [List.getElem?_map, Option.map_map, Option.map_map]
    rfl
  unfold pivot?
  dsimp only
  rw [List.length_map, apply_ite (Option.map (Prod.map f id)), map_median,
    map_pseudoMedian less f hat, hat, hat, hat]

theorem map_part (goesDown : β → Bool) (position : Nat) (pivotDown : Bool) (items : List α) :
    Prod.map (List.map f) (List.map f) (part (goesDown ∘ f) position pivotDown items) =
      part goesDown position pivotDown (items.map f) := by
  unfold part
  simp only [List.zipIdx_map, List.partition_eq_filter_filter, List.filter_map, List.map_map,
    Prod.map]
  rfl

theorem map_parts? (up? down? : Option (List α)) :
    (up?.bind fun up => down?.bind fun down => some (down ++ up)).map (List.map f) =
      (up?.map (List.map f)).bind fun up =>
        (down?.map (List.map f)).bind fun down => some (down ++ up) := by
  cases up? <;> cases down? <;> try rfl
  exact congrArg some List.map_append

theorem map_quickUpTo? (limit : Nat) (bound : Option α) (items : List α) :
    (quickUpTo? (onFun less f) limit bound items).map (List.map f) =
      quickUpTo? less limit (bound.map f) (items.map f) := by
  induction limit generalizing bound items with
  | zero =>
    rw [quickUpTo?, quickUpTo?, List.length_map, apply_ite (Option.map (List.map f)), map_block?]
    exact if_congr Iff.rfl rfl (map_eager? less f items)
  | succ limit ih =>
    rw [quickUpTo?, quickUpTo?, List.length_map, apply_ite (Option.map (List.map f)), map_block?]
    refine if_congr Iff.rfl rfl ?_
    rw [← map_pivot?]
    cases pivot? (onFun less f) items with
    | none => rfl
    | some p =>
      obtain ⟨pivot, position⟩ := p
      have hequal (equal up : List α) :
          ((quickUpTo? (onFun less f) limit none up).bind fun up => some (equal ++ up)).map
              (List.map f) =
            (quickUpTo? less limit none (up.map f)).bind fun up => some (equal.map f ++ up) := by
        rw [← Option.map_none f, ← ih]
        exact map_parts? f (quickUpTo? (onFun less f) limit none up) (some equal)
      have hdown (down up : List α) :
          ((quickUpTo? (onFun less f) limit (some pivot) up).bind fun up =>
              (quickUpTo? (onFun less f) limit bound down).bind fun down => some (down ++ up)).map
                (List.map f) =
            (quickUpTo? less limit (some (f pivot)) (up.map f)).bind fun up =>
              (quickUpTo? less limit (bound.map f) (down.map f)).bind fun down =>
                some (down ++ up) := by
        rw [← Option.map_some, ← ih, ← ih]
        exact map_parts? f _ _
      have hpart := map_part f (less · (f pivot)) position false items
      have hpart' := map_part f (fun a => !less (f pivot) a) position true items
      simp only [Option.bind_eq_bind, Option.map_some, Option.bind_some, Option.any_map, Prod.map,
        id, onFun, pure, Function.comp_def] at hpart hpart' ⊢
      rw [← hpart, ← hpart', List.isEmpty_map, apply_ite (Option.map (List.map f))]
      exact if_congr Iff.rfl (hequal _ _) (hdown _ _)

theorem map_quick? (items : List α) :
    (quick? (onFun less f) items).map (List.map f) = quick? less (items.map f) := by
  rw [quick?, quick?, List.length_map]
  exact map_quickUpTo? less f _ none items

/-! ### All together -/

theorem Run.map_sorted? (run : Run α) :
    (run.sorted? (onFun less f)).map (List.map f) = (run.map f).sorted? less := by
  rw [Run.sorted?, Run.sorted?, apply_ite (Option.map (List.map f)), map_quick?]
  rfl

theorem Run.map_join? (a b : Run α) :
    (Run.join? (onFun less f) a b).map (Run.map f) =
      Run.join? less (a.map f) (b.map f) := by
  unfold Run.join?
  rw [← Run.map_sorted?, ← Run.map_sorted?, apply_ite (Option.map (Run.map f))]
  refine if_congr Iff.rfl ?_ ?_
  · cases a.sorted? (onFun less f) <;> cases b.sorted? (onFun less f) <;> try rfl
    exact congrArg (fun items => some (Run.mk items true)) (map_merge less f _ _)
  · rw [Option.map_some, Run.map, List.map_append]
    rfl

theorem map_runs? (items : List α) :
    (runs? (onFun less f) items).map (List.map f) = runs? less (items.map f) := by
  let block (items' : List α) : Option (Run α) :=
    some ⟨items'.take (goodLength items.length), false⟩
  unfold runs?
  dsimp only
  rw [List.length_map, apply_ite (Option.map (List.map f)), map_eager?,
    ← map_asRun? less (Run.join? (onFun less f)) block]
  · refine if_congr Iff.rfl rfl ?_
    cases asRun? (onFun less f) block (Run.join? (onFun less f)) items with
    | none => rfl
    | some run => exact Run.map_sorted? less f run
  · intro items
    rw [Option.map_some, Run.map, List.map_take]
  · exact Run.map_join? less f

theorem countEqual_map (a : α) (items : List α) :
    countEqual less (f a) (items.map f) = countEqual (onFun less f) a items := by
  rw [countEqual, countEqual, List.takeWhile_map, List.length_map]
  rfl

theorem isConsistent_map (items : List α) :
    isConsistent less (items.map f) = isConsistent (onFun less f) items := by
  induction items with
  | nil => rfl
  | cons a rest ih =>
    have hcount := countEqual_map less f a rest
    rw [List.map_cons, isConsistent.eq_def, isConsistent.eq_def]
    dsimp only
    rw [ih, hcount, ← List.map_drop, List.all_map, List.all_map]
    cases rest with
    | nil => rfl
    | cons b others =>
      rw [List.map_cons]
      dsimp only
      rw [countEqual_map]
      rfl

/-- Sorting puts items into an order that depends on what the comparison says of them, and on
nothing else. -/
theorem map_sort? (items : List α) :
    (sort? (onFun less f) items).map (List.map f) = sort? less (items.map f) := by
  unfold sort?
  dsimp only
  rw [List.length_map, ← map_insertion, isConsistent_map, ← map_runs?,
    apply_ite (Option.map (List.map f)), Option.map_some]

/-- **Sorting keeps items in step**: two lists of which the comparisons say the same, item by item,
are put into the same order, or sorting breaks off with both. -/
theorem forall₂_sort? {R : α → β → Prop} {less : α → α → Bool} {less' : β → β → Bool}
    (hless : ∀ {a a' b b'}, R a a' → R b b' → less a b = less' a' b') {items : List α}
    {items' : List β} (h : List.Forall₂ R items items') :
    Option.Rel (List.Forall₂ R) (sort? less items) (sort? less' items') := by
  -- Both lists are made of the pairs of items that stand at one place, which are sorted alike.
  let left (p : { p : α × β // R p.1 p.2 }) : α := p.1.1
  let right (p : { p : α × β // R p.1 p.2 }) : β := p.1.2
  obtain ⟨pairs, hleft, hright⟩ :
      ∃ pairs : List { p : α × β // R p.1 p.2 }, pairs.map left = items ∧
        pairs.map right = items' := by
    induction h with
    | nil => exact ⟨[], rfl, rfl⟩
    | @cons a b _ _ hr _ ih =>
      obtain ⟨pairs, hleft, hright⟩ := ih
      exact ⟨⟨(a, b), hr⟩ :: pairs, congrArg (a :: ·) hleft, congrArg (b :: ·) hright⟩
  have hsame : onFun less left = onFun less' right :=
    funext fun p => funext fun q => hless p.2 q.2
  rw [← hleft, ← hright, ← map_sort?, ← map_sort?, ← hsame]
  cases sort? (onFun less left) pairs with
  | none => exact .none
  | some sorted =>
    refine .some ?_
    rw [List.forall₂_map_left_iff, List.forall₂_map_right_iff, List.forall₂_same]
    exact fun p _ => p.2

end Sorting

end ListQuery
