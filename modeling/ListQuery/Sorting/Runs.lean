import ListQuery.Sorting.Block

/-!
# Sorting by runs

A list is cut into runs: parts that are in order already, and blocks.  Runs are merged with their
neighbours so that a part of the list is merged about as often as it would be in a balanced tree.

* `Sorting.existingRun` : the part at the start of a list that is in order already.
* `Sorting.eager?` : a list in order, its blocks being sorted at once.
* `Sorting.quick?` : a list in order, sorted by parting it at a pivot.
* `Sorting.runs?` : a list in order, its blocks being taken together as long as none is sorted.
-/

namespace ListQuery

namespace Sorting

variable {α : Type}

/-- A part of a list. -/
structure Run (α : Type) where
  /-- Its items. -/
  items : List α
  /-- They are in order. -/
  isSorted : Bool

/-! ### Runs that exist -/

/-- How many items at the start of `rest` go on from `last`, each to the next as `goesOn` says. -/
def countOn (goesOn : α → α → Bool) (last : α) : List α → Nat
  | [] => 0
  | a :: rest => if goesOn last a then countOn goesOn a rest + 1 else 0

/-- The length of the part at the start of a list that nowhere goes down or everywhere goes down,
and whether it goes down. -/
def existingRun (less : α → α → Bool) : List α → Nat × Bool
  | a :: b :: rest =>
    if less b a then (countOn (fun x y => less y x) b rest + 2, true)
    else (countOn (fun x y => !less y x) b rest + 2, false)
  | items => (items.length, false)

/-- The length of the longest block. -/
def maxBlock : Nat := 32

/-- The least length of a run that is not made a block of, in a list of `n` items: half of a short
list, about the root of the length of a long one. -/
def goodLength (n : Nat) : Nat :=
  if n ≤ 4096 then min (n - n / 2) 64
  else
    let shift := (1 + Nat.log2 n) / 2
    (Nat.pow 2 shift + n / Nat.pow 2 shift) / 2

/-- The run at the start of a list, if it is long enough. -/
def goodRun? (less : α → α → Bool) (good : Nat) (items : List α) : Option (Run α) :=
  let (n, goesDown) := existingRun less items
  if good ≤ n then
    some ⟨if goesDown then (items.take n).reverse else items.take n, true⟩
  else none

/-! ### The tree of merges -/

/-- How deep in a balanced tree over `n` items the node lies that joins the items from `left` to
`mid` with those from `mid` to `right`. -/
def depth (n left mid right : Nat) : Nat :=
  let scale := (4611686018427387904 + n - 1) / n
  63 - Nat.log2 (Nat.xor (scale * (left + mid)) (scale * (mid + right)))

/-- Merges `run` with the runs in front of it, the nearest first, that are joined to what follows
them at least as deep as `limit`. -/
def collapse? (join : Run α → Run α → Option (Run α)) (limit : Nat) :
    List (Run α × Nat) → Run α → Option (List (Run α × Nat) × Run α)
  | [], run => some ([], run)
  | (front, d) :: rest, run =>
    if limit ≤ d then do collapse? join limit rest (← join front run)
    else some ((front, d) :: rest, run)

/-- One run of all runs; those in front of `run` are in `pending`, the nearest first, and `position`
is where `run` ends. -/
def joinAll? (join : Run α → Run α → Option (Run α)) (n : Nat) (pending : List (Run α × Nat))
    (position : Nat) (run : Run α) : List (Run α) → Option (Run α)
  | [] => do
    let (_, run) ← collapse? join 0 pending run
    return run
  | next :: rest => do
    let d := depth n (position - run.items.length) position (position + next.items.length)
    let (pending, run) ← collapse? join d pending run
    joinAll? join n ((run, d) :: pending) (position + next.items.length) next rest

/-- Cuts a list into runs.  Each takes at least one item, so that `limit`, the length of the list,
is enough of them. -/
def cut? (less : α → α → Bool) (good : Nat) (block : List α → Option (Run α)) (limit : Nat)
    (items : List α) : Option (List (Run α)) :=
  match limit, items with
  | _, [] => some []
  | 0, _ :: _ => none
  | limit + 1, items => do
    let run ← if good ≤ items.length then (goodRun? less good items).elim (block items) some
      else block items
    return run :: (← cut? less good block limit (items.drop run.items.length))

/-- One run of a list: existing runs and those that `block` makes, joined by `join`. -/
def asRun? (less : α → α → Bool) (block : List α → Option (Run α))
    (join : Run α → Run α → Option (Run α)) (items : List α) : Option (Run α) := do
  match ← cut? less (goodLength items.length) block items.length items with
  | [] => return ⟨[], true⟩
  | run :: rest => joinAll? join items.length [] run.items.length run rest

/-- A list in order, its blocks being sorted at once. -/
def eager? (less : α → α → Bool) (items : List α) : Option (List α) :=
  (asRun? less (fun items => (block? less (items.take maxBlock)).map (⟨·, true⟩))
    (fun a b => some ⟨merge less a.items b.items, true⟩) items).map Run.items

/-! ### Parting at a pivot -/

/-- The one of three items that lies between the others, given with their positions. -/
def median (less : α → α → Bool) (a b c : α × Nat) : α × Nat :=
  let x := less a.1 b.1
  if x == less a.1 c.1 then (if less b.1 c.1 != x then c else b) else a

/-- A median of medians of the items from three positions on, `n` from each. -/
def pseudoMedian (less : α → α → Bool) (at? : Nat → Option (α × Nat)) (limit a b c n : Nat) :
    Option (α × Nat) :=
  match limit with
  | 0 => none
  | limit + 1 =>
    if 64 ≤ n * 8 then do
      let eighth := n / 8
      let choose (p : Nat) : Option (α × Nat) :=
        pseudoMedian less at? limit p (p + eighth * 4) (p + eighth * 7) eighth
      return median less (← choose a) (← choose b) (← choose c)
    else do return median less (← at? a) (← at? b) (← at? c)

/-- The item at which a list is parted, and its position. -/
def pivot? (less : α → α → Bool) (items : List α) : Option (α × Nat) :=
  let n := items.length
  let eighth := n / 8
  let at? (p : Nat) : Option (α × Nat) := items[p]?.map (·, p)
  if n < 64 then do return median less (← at? 0) (← at? (eighth * 4)) (← at? (eighth * 7))
  else pseudoMedian less at? n 0 (eighth * 4) (eighth * 7) eighth

/-- The items that go down and those that go up, in order; the one at `position` goes down as
`pivotDown` says. -/
def part (goesDown : α → Bool) (position : Nat) (pivotDown : Bool) (items : List α) :
    List α × List α :=
  let (down, up) := items.zipIdx.partition fun p =>
    if p.2 = position then pivotDown else goesDown p.1
  (down.map (·.1), up.map (·.1))

/-- A list in order, sorted by parting it at a pivot, at most `limit` times one after the other.
Items equal to `bound`, an item that none of the list is less than, are set aside. -/
def quickUpTo? (less : α → α → Bool) (limit : Nat) (bound : Option α) (items : List α) :
    Option (List α) :=
  if items.length ≤ maxBlock then block? less items
  else
    match limit with
    | 0 => eager? less items
    | limit + 1 => do
      let (pivot, position) ← pivot? less items
      let (down, up) := part (less · pivot) position false items
      if bound.any (fun b => !less b pivot) || down.isEmpty then
        let (equal, up) := part (fun a => !less pivot a) position true items
        return equal ++ (← quickUpTo? less limit none up)
      else
        let upper ← quickUpTo? less limit (some pivot) up
        return (← quickUpTo? less limit bound down) ++ upper

/-- A list in order, sorted by parting it at a pivot. -/
def quick? (less : α → α → Bool) (items : List α) : Option (List α) :=
  quickUpTo? less (2 * Nat.log2 (max 1 items.length)) none items

/-! ### All together -/

/-- The items of a run in order. -/
def Run.sorted? (less : α → α → Bool) (run : Run α) : Option (List α) :=
  if run.isSorted then some run.items else quick? less run.items

/-- Two runs as one, in order if one of them is. -/
def Run.join? (less : α → α → Bool) (a b : Run α) : Option (Run α) :=
  if a.isSorted || b.isSorted then do
    return ⟨merge less (← a.sorted? less) (← b.sorted? less), true⟩
  else some ⟨a.items ++ b.items, false⟩

/-- A list in order: a short one by sorting its blocks at once, a long one by taking them
together. -/
def runs? (less : α → α → Bool) (items : List α) : Option (List α) :=
  if items.length ≤ 2 * maxBlock then eager? less items
  else do
    let block (items' : List α) : Option (Run α) :=
      some ⟨items'.take (goodLength items.length), false⟩
    let run ← asRun? less block (Run.join? less) items
    run.sorted? less

end Sorting

end ListQuery
