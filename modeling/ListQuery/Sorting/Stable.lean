import ListQuery.Sorting.Runs

/-!
# Stable sorting

* `Sorting.isConsistent` : a sorted list shows that its items form classes in an order.
* `Sorting.sort?` : a list in order, equal items staying in the order of the list.

Where the order is consistent there is one such list, whatever way it is found.  Where it is not, as
with values of several kinds, what is found depends on the items that are compared: up to twenty
items are inserted one after the other, and more are sorted by runs.  A merge of runs may find that
the order contradicts itself; then sorting breaks off and nothing is found.
-/

namespace ListQuery

namespace Sorting

variable {α : Type}

/-- How many items at the start of a list `a` is not less than. -/
def countEqual (less : α → α → Bool) (a : α) (items : List α) : Nat :=
  (items.takeWhile fun b => !less a b).length

/-- The items form classes in an order: no item is less than one in front of it, each is less than
all behind its class, and neighbours in a class agree where it ends. -/
def isConsistent (less : α → α → Bool) : List α → Bool
  | [] => true
  | a :: rest =>
    rest.all (fun b => !less b a) &&
      (rest.drop (countEqual less a rest)).all (less a) &&
      (match rest with
        | [] => true
        | b :: others => less a b || countEqual less a rest == countEqual less b others + 1) &&
      isConsistent less rest

/-- The greatest number of items that are always inserted. -/
def maxInserted : Nat := 20

/-- The items in ascending order, equal ones in the order of the list. -/
def sort? (less : α → α → Bool) (items : List α) : Option (List α) :=
  let inserted := insertion less items
  if items.length ≤ maxInserted || isConsistent less inserted then some inserted
  else runs? less items

end Sorting

end ListQuery
