import ListQuery.Plan
import ListQuery.Sorting.Stable
import ListQuery.Store.Binding

/-!
# Answers from rows in memory

* `Entry` : a stored row with its position.
* `Plan.selects` : whether a row meets the condition of a plan.
* `Plan.kept` : the rows that do.
* `Plan.matching?` : these rows, sorted.
* `Plan.fetch?` : the rows of the page, and the number of all.

The stored values may contradict each other in the order of the sort keys.  If sorting finds that
they do, it breaks off, and there is no answer.
-/

namespace ListQuery

/-- A stored row. -/
structure Entry where
  /-- Its position in the store, from 0. -/
  position : Nat
  /-- The row. -/
  row : Json

namespace Entry

/-- The entries of a store. -/
def ofRows (rows : List Json) : List Entry :=
  rows.zipIdx.map fun p => ⟨p.2, p.1⟩

end Entry

/-! ### Sorting -/

namespace SortKey

/-- The order of two rows by a key; descending is the reverse of ascending. -/
def compareRows (a b : Json) (k : SortKey) : Ordering :=
  let o := Row.compareForSort (Row.base? a k.field) (Row.base? b k.field)
  match k.direction with
  | .ascending => o
  | .descending => o.swap

/-- The order of two rows by a list of keys, the first that tells them apart deciding. -/
def compareBy (keys : List SortKey) (a b : Json) : Ordering :=
  match keys with
  | [] => .eq
  | k :: rest => (compareRows a b k).then (compareBy rest a b)

end SortKey

/-! ### Answers -/

namespace Plan

/-- A row meets the condition of the plan with some choice of elements. -/
def selects (plan : Plan) (row : Json) : Bool :=
  match plan.predicate with
  | none => true
  | some p => (Row.bindings row plan.joins).any fun b => p.holds row b

/-- The entries that meet the condition of the plan, in the order of the store. -/
def kept (plan : Plan) (rows : List Json) : List Entry :=
  (Entry.ofRows rows).filter fun e => plan.selects e.row

/-- The entries that meet the condition of the plan, in its order. -/
def matching? (plan : Plan) (rows : List Json) : Option (List Entry) :=
  Sorting.sort? (fun a b => SortKey.compareBy plan.sort a.row b.row == .lt) (plan.kept rows)

/-- The rows of the page of the plan, and the number of rows that meet its condition. -/
def fetch? (plan : Plan) (rows : List Json) : Option (List Json × Nat) := do
  let found ← plan.matching? rows
  return (((found.drop plan.offset).take plan.limit).map Entry.row, found.length)

end Plan

end ListQuery
