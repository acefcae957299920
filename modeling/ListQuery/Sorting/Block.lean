/-!
# Sorting by insertion and by blocks

* `Sorting.insertDescending` : an item put into its place.
* `Sorting.insertion` : a list in order, equal items staying in the order of the list.
* `Sorting.merge` : two sorted lists as one.
* `Sorting.mergeInward?` : the same for lists of one length, or the second longer by one, from both
  ends to the middle.
* `Sorting.block?` : a list of few items in order.

A function with a question mark finds that the order contradicts itself, and gives nothing then.
-/

namespace ListQuery

namespace Sorting

variable {α : Type}

/-! ### Insertion -/

/-- `sorted`, which is in descending order, with `a` in front of the first item that `a` is not less
than. -/
def insertDescending (less : α → α → Bool) (a : α) : List α → List α
  | [] => [a]
  | b :: rest => if less a b then b :: insertDescending less a rest else a :: b :: rest

/-- `sorted`, which is in ascending order, with the items inserted one after the other.  Each is
compared with the greatest of those in front of it first. -/
def insertAll (less : α → α → Bool) (sorted items : List α) : List α :=
  (items.foldl (fun sorted a => insertDescending less a sorted) sorted.reverse).reverse

/-- The items in ascending order, equal ones in the order of the list. -/
def insertion (less : α → α → Bool) (items : List α) : List α :=
  insertAll less [] items

/-! ### Merging -/

/-- The items of two lists, the lesser of the first ones first; of equal ones that of `front`. -/
def mergeUp (less : α → α → Bool) (front back : List α) : List α :=
  front.merge back fun a b => !less b a

/-- The items of two lists in descending order, the greater of the last ones first; of equal ones
that of `back`. -/
def mergeDown (less : α → α → Bool) (front back : List α) : List α :=
  back.reverse.merge front.reverse fun b a => !less b a

/-- Two sorted lists as one, made from the end at which the shorter one stands. -/
def merge (less : α → α → Bool) (front back : List α) : List α :=
  if front.length ≤ back.length then mergeUp less front back
  else (mergeDown less front back).reverse

/-- The items, each with the answer to the question whether it comes from the first list. -/
def marked (isFront : Bool) (items : List α) : List (α × Bool) :=
  items.map (·, isFront)

/-- Two sorted lists as one: the lower half is made from below, the upper half from above.  They are
made of each item once, unless the order contradicts itself; an item between them is the one
left. -/
def mergeInward? (less : α → α → Bool) (front back : List α) : Option (List α) :=
  let half := front.length
  let lessMarked (a b : α × Bool) : Bool := less a.1 b.1
  let lower := (mergeUp lessMarked (marked true front) (marked false back)).take half
  let upper := (mergeDown lessMarked (marked true front) (marked false back)).take half
  let lowerFront := lower.countP (·.2)
  let upperFront := upper.countP (·.2)
  let result (middle : List α) : List α := lower.map (·.1) ++ middle ++ (upper.map (·.1)).reverse
  let backLeft := (back.drop (half - lowerFront)).take (back.length - half)
  if lowerFront + upperFront = half then some (result backLeft)
  else if lowerFront + upperFront + 1 = half ∧ half < back.length then
    some (result ((front.drop lowerFront).take 1))
  else none

/-! ### Few items -/

/-- Two items in order. -/
def sortPair (less : α → α → Bool) (a b : α) : α × α :=
  if less b a then (b, a) else (a, b)

/-- Four items in order: pairs first, then the least and the greatest of all, then the rest. -/
def sortFour (less : α → α → Bool) (w x y z : α) : List α :=
  let (a, b) := sortPair less w x
  let (c, d) := sortPair less y z
  let (least, greatest, rest) :=
    match less c a, less d b with
    | false, false => (a, d, sortPair less b c)
    | false, true => (a, b, sortPair less c d)
    | true, false => (c, d, sortPair less a b)
    | true, true => (c, b, sortPair less a d)
  [least, rest.1, rest.2, greatest]

/-- The first items of a list in order, and the others: eight, four or one of them, as many as go
into half of the block that the list is a half of. -/
def start? (less : α → α → Bool) (blockLength : Nat) (items : List α) :
    Option (List α × List α) :=
  match items with
  | a :: b :: c :: d :: rest =>
    let four := sortFour less a b c d
    if 16 ≤ blockLength then
      match rest with
      | e :: f :: g :: h :: rest =>
        (mergeInward? less four (sortFour less e f g h)).map fun eight => (eight, rest)
      | _ => some (four, rest)
    else if 8 ≤ blockLength then some (four, rest)
    else some ([a], b :: c :: d :: rest)
  | items => some (items.take 1, items.drop 1)

/-- One half of a block in order. -/
def halfBlock? (less : α → α → Bool) (blockLength : Nat) (items : List α) : Option (List α) :=
  (start? less blockLength items).map fun p => insertAll less p.1 p.2

/-- A list of few items in order: its halves are sorted and merged. -/
def block? (less : α → α → Bool) (items : List α) : Option (List α) :=
  let n := items.length
  if n < 2 then some items
  else do
    let front ← halfBlock? less n (items.take (n / 2))
    let back ← halfBlock? less n (items.drop (n / 2))
    mergeInward? less front back

end Sorting

end ListQuery
