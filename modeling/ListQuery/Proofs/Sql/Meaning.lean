import ListQuery.Proofs.Sorting.Ties
import ListQuery.Proofs.Sql.Truth
import ListQuery.Sql.Statement
import Mathlib.Data.List.Dedup
import Mathlib.Data.List.Induction

/-!
# What statements say

The tables of a database are lists of rows.  A statement is about the rows of its base table that
its restriction means; it may answer with them in any order that its own order allows.

* `Sql.Scope` : rows of tables under the names that these have in a statement;
* `Sql.joined` : the scopes that a row of the base table is joined into;
* `Sql.IdQuery.ids`, `Sql.Count.value` : the answers of a query for identifiers and of one for a
  number;
* `Sql.Select.found`, `Sql.Select.IsAnswer` : the rows that a query for rows means, and the lists of
  rows that answer it;
* `Sql.IdQuery.length_ids` : identifiers that tell rows apart are as many as the rows they are of.
-/

namespace ListQuery

namespace Sql

variable {V : Type}

/-- A row of a table: the values in its columns, `none` where there is none. -/
abbrev Record (V : Type) := String → Option V

/-- The rows of the tables of a database. -/
abbrev Tables (V : Type) := String → List (Record V)

/-- How a server takes the values that stand in columns, also where it sorts by them. -/
structure Server (V : Type) extends Reading V where
  /-- The ascending order of values. -/
  order : V → V → Ordering
  /-- It is an order. -/
  transCmp_order : Std.TransCmp order

/-! ### Joins -/

/-- Rows under the names of their tables, `none` where a join found no row.  Of two tables of one
name the first counts. -/
abbrev Scope (V : Type) := List (String × Option (Record V))

/-- The value of a column. -/
def Scope.value? (scope : Scope V) (c : Column) : Option V :=
  (scope.lookup c.table).join.bind fun record => record c.name

/-- The scope of a statement that joins nothing. -/
def Scope.ofRecord (table : String) (record : Record V) : Scope V :=
  [(table, some record)]

variable [DecidableEq V]

/-- The two columns of a join are equal, neither being missing. -/
def Join.holds (j : Join) (scope : Scope V) : Bool :=
  (scope.value? j.left).any fun v => scope.value? j.right == some v

/-- A scope with each of the rows that are joined to it, or with none, once. -/
def Join.extend (db : Tables V) (j : Join) (scope : Scope V) : List (Scope V) :=
  match ((db j.table).map fun record => scope ++ [(j.name, some record)]).filter j.holds with
  | [] => [scope ++ [(j.name, none)]]
  | scopes => scopes

/-- The scopes that a row of the base table is joined into, by one join after the other. -/
def joined (db : Tables V) (joins : List Join) (scope : Scope V) : List (Scope V) :=
  joins.foldl (fun scopes j => scopes.flatMap (j.extend db)) [scope]

/-- A condition is true in a scope; without one there is nothing to meet. -/
def meets (S : Reading V) (condition : Option Condition) (scope : Scope V) : Bool :=
  condition.all fun c => (c.truth S scope.value?).isYes

/-! ### Statements -/

namespace IdQuery

variable (S : Reading V) (db : Tables V) (q : IdQuery)

/-- The identifiers, each once. -/
def ids : List (Option V) :=
  (((db q.column.table).flatMap fun record =>
    (joined db q.joins (.ofRecord q.column.table record)).filter (meets S q.condition)).map
      fun scope => scope.value? q.column).dedup

/-- The identifier of a row is one of those. -/
def selects (record : Record V) : Bool :=
  ((Scope.ofRecord q.column.table record).value? q.column).any fun v => some v ∈ q.ids S db

/-- A row meets the condition with some of the rows joined to it. -/
def matchesSome (record : Record V) : Bool :=
  (joined db q.joins (.ofRecord q.column.table record)).any (meets S q.condition)

end IdQuery

/-- A row of the base table is meant. -/
def Restriction.holds (S : Reading V) (db : Tables V) (table : String) (record : Record V) :
    Restriction → Bool
  | plain condition => meets S condition (.ofRecord table record)
  | byId q => q.selects S db record

/-- The number of rows that are meant, or of the identifiers. -/
def Count.value (S : Reading V) (db : Tables V) : Count → Nat
  | rows table condition =>
    ((db table).filter fun record => meets S condition (.ofRecord table record)).length
  | ids q => (q.ids S db).length

/-- The rows that a query means, whatever their order and the page. -/
def Select.found (S : Reading V) (db : Tables V) (s : Select) : List (Record V) :=
  (db s.table).filter fun record => s.restriction.holds S db s.table record

/-! ### Order -/

/-- The ascending order of the values of a column, missing ones last. -/
def compareNullable (order : V → V → Ordering) : Option V → Option V → Ordering
  | none, none => .eq
  | none, some _ => .gt
  | some _, none => .lt
  | some v, some w => order v w

/-- The order of two rows by a column; descending is the reverse of ascending. -/
def OrderKey.compare (S : Server V) (table : String) (k : OrderKey) (a b : Record V) : Ordering :=
  let o := compareNullable S.order ((Scope.ofRecord table a).value? k.column)
    ((Scope.ofRecord table b).value? k.column)
  match k.direction with
  | .ascending => o
  | .descending => o.swap

/-- The order of two rows by several columns, the first that tells them apart deciding. -/
def compareRecords (S : Server V) (table : String) (keys : List OrderKey) (a b : Record V) :
    Ordering :=
  match keys with
  | [] => .eq
  | k :: rest => (k.compare S table a b).then (compareRecords S table rest a b)

omit [DecidableEq V] in
theorem transCmp_compareNullable {order : V → V → Ordering} (h : Std.TransCmp order) :
    Std.TransCmp (compareNullable order) where
  eq_swap {a b} := by
    cases a <;> cases b
    case some.some v w => exact h.eq_swap
    all_goals rfl
  isLE_trans {a b c} hab hbc := by
    cases a <;> cases b <;> cases c
    case some.some.some u v w => exact h.isLE_trans hab hbc
    -- A missing value stands behind no other.
    case none.none.some w => exact hbc
    case none.some.some v w => exact hab
    case some.none.some v w => exact absurd hbc Bool.false_ne_true
    all_goals rfl

/-- A list of rows answers a query if it is the page of the rows that the query means, in some order
that its columns allow. -/
def Select.IsAnswer (S : Server V) (db : Tables V) (s : Select) (answer : List (Record V)) : Prop :=
  Sorting.IsPage (compareRecords S s.table s.order) (s.found S.toReading db) s.offset s.limit answer

omit [DecidableEq V] in
theorem OrderKey.transCmp_compare (S : Server V) (table : String) (k : OrderKey) :
    Std.TransCmp (k.compare S table) := by
  have htrans := transCmp_compareNullable S.transCmp_order
  have hvalue : Std.TransCmp fun a b : Record V =>
      compareNullable S.order ((Scope.ofRecord table a).value? k.column)
        ((Scope.ofRecord table b).value? k.column) :=
    { eq_swap := htrans.eq_swap, isLE_trans := htrans.isLE_trans }
  unfold OrderKey.compare
  cases k.direction with
  | ascending => exact hvalue
  | descending =>
    have hswap (v w : Option V) :
        (compareNullable S.order v w).swap = compareNullable S.order w v := htrans.eq_swap.symm
    simp only [hswap]
    exact hvalue.opposite

omit [DecidableEq V] in
theorem transCmp_compareRecords (S : Server V) (table : String) (keys : List OrderKey) :
    Std.TransCmp (compareRecords S table keys) := by
  induction keys with
  | nil => exact { eq_swap := rfl, isLE_trans := fun _ _ => rfl }
  | cons k keys ih =>
    have hk := k.transCmp_compare S table
    exact inferInstanceAs (Std.TransCmp
      (compareLex (k.compare S table) (compareRecords S table keys)))

/-! ### Identifiers -/

/-- The values of a column tell the rows of its table apart, none being missing. -/
structure IsKey (db : Tables V) (c : Column) : Prop where
  /-- No value occurs twice. -/
  nodup : ((db c.table).map fun record => record c.name).Nodup
  /-- No value is missing. -/
  isSome : ∀ record ∈ db c.table, (record c.name).isSome = true

variable {S : Reading V} {db : Tables V}

omit [DecidableEq V] in
@[simp] theorem Scope.value?_ofRecord_append (table name : String) (record : Record V)
    (more : Scope V) :
    Scope.value? (.ofRecord table record ++ more) ⟨table, name⟩ = record name := by
  simp [value?, ofRecord]

theorem Join.prefix_of_mem_extend {j : Join} {scope other : Scope V}
    (h : other ∈ j.extend db scope) : scope <+: other := by
  unfold extend at h
  split at h
  · rw [List.mem_singleton.1 h]
    exact List.prefix_append _ _
  · obtain ⟨hmem, -⟩ := List.mem_filter.1 h
    obtain ⟨record, -, rfl⟩ := List.mem_map.1 hmem
    exact List.prefix_append _ _

theorem prefix_of_mem_joined {joins : List Join} {scope other : Scope V}
    (h : other ∈ joined db joins scope) : scope <+: other := by
  induction joins using List.reverseRecOn generalizing other with
  | nil =>
    rw [List.mem_singleton.1 h]
  | append_singleton joins j ih =>
    rw [joined, List.foldl_append, List.foldl_cons, List.foldl_nil, List.mem_flatMap] at h
    obtain ⟨mid, hmid, hother⟩ := h
    exact (ih hmid).trans (j.prefix_of_mem_extend hother)

namespace IdQuery

variable {q : IdQuery}

theorem mem_ids {v : Option V} :
    v ∈ q.ids S db ↔ ∃ record ∈ db q.column.table,
      q.matchesSome S db record = true ∧ record q.column.name = v := by
  simp only [ids, List.mem_dedup, List.mem_map, List.mem_filter, List.mem_flatMap, matchesSome,
    List.any_eq_true]
  -- Whatever is joined to a row, its own identifier stays where it is.
  constructor
  · rintro ⟨scope, ⟨record, hrecord, hscope, hmeets⟩, rfl⟩
    refine ⟨record, hrecord, ⟨scope, hscope, hmeets⟩, ?_⟩
    obtain ⟨more, rfl⟩ := prefix_of_mem_joined hscope
    exact (Scope.value?_ofRecord_append ..).symm
  · rintro ⟨record, hrecord, ⟨scope, hscope, hmeets⟩, rfl⟩
    refine ⟨scope, ⟨record, hrecord, hscope, hmeets⟩, ?_⟩
    obtain ⟨more, rfl⟩ := prefix_of_mem_joined hscope
    exact Scope.value?_ofRecord_append ..

/-- If identifiers tell rows apart, a query for them selects the rows that meet its condition. -/
theorem selects_eq_matchesSome (hkey : IsKey db q.column) {record : Record V}
    (hrecord : record ∈ db q.column.table) :
    q.selects S db record = q.matchesSome S db record := by
  obtain ⟨v, hv⟩ := Option.isSome_iff_exists.1 (hkey.isSome record hrecord)
  have hvalue : (Scope.ofRecord q.column.table record).value? q.column = some v := by
    rw [← hv]
    exact Scope.value?_ofRecord_append _ _ record []
  rw [selects, hvalue, Option.any_some, Bool.eq_iff_iff, decide_eq_true_iff, mem_ids]
  constructor
  · rintro ⟨other, hother, hmatches, heq⟩
    have : other = record :=
      List.inj_on_of_nodup_map hkey.nodup hother hrecord (heq.trans hv.symm)
    exact this ▸ hmatches
  · exact fun hmatches => ⟨record, hrecord, hmatches, hv⟩

/-- **Identifiers that tell rows apart are as many as the rows they are of.** -/
theorem length_ids (hkey : IsKey db q.column) :
    (q.ids S db).length = ((db q.column.table).filter (q.matchesSome S db)).length := by
  have hnodup : (((db q.column.table).filter (q.matchesSome S db)).map
      fun record => record q.column.name).Nodup :=
    hkey.nodup.sublist (List.filter_sublist.map _)
  have hperm : (q.ids S db).Perm (((db q.column.table).filter (q.matchesSome S db)).map
      fun record => record q.column.name) := by
    have hids : (q.ids S db).Nodup := List.nodup_dedup _
    refine (List.perm_ext_iff_of_nodup hids hnodup).2 fun v => ?_
    simp only [mem_ids, List.mem_map, List.mem_filter, and_assoc]
  rw [hperm.length_eq, List.length_map]

end IdQuery

end Sql

end ListQuery
