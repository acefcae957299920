import ListQuery.Plan
import ListQuery.Sql.Statement

/-!
# Plans in SQL

A collection is joined under its own name.  If there are joins, they and the condition stand in a
query for identifiers, so that the statement itself sees each row of the base table once.

* `Plan.condition` : the condition of a predicate.
* `Plan.select` : the statement for the rows of the page.
* `Plan.count` : the statement for the number of all rows.
-/

namespace ListQuery

namespace Plan

open Sql

/-- The column of a field. -/
def fieldColumn (plan : Plan) (field : Field) : Column :=
  ⟨plan.sourceAlias field.collection, field.column⟩

/-- The identifying column of the base table. -/
def idColumnRef (plan : Plan) : Column :=
  ⟨plan.table, plan.idColumn⟩

mutual

/-- The condition of a predicate. -/
def condition (plan : Plan) : Predicate → Condition
  | .equals field v negated =>
    .compare (plan.fieldColumn field) (if negated then .notEqual else .equal) (.ofValue v)
  | .compare field c v => .compare (plan.fieldColumn field) (.order c) (.ofValue v)
  | .containsText field needle =>
    .like (plan.fieldColumn field) (field.type != .text) (containsPattern needle)
  | .anyOf field vs => .oneOf (plan.fieldColumn field) (vs.map .ofValue)
  | .all children => .all (conditions plan children)
  | .any children => .any (conditions plan children)

/-- The conditions of predicates. -/
def conditions (plan : Plan) : List Predicate → List Condition
  | [] => []
  | p :: ps => condition plan p :: conditions plan ps

end

/-- The condition of the plan. -/
def whereCondition (plan : Plan) : Option Condition :=
  plan.predicate.map plan.condition

/-- The joins of a collection: its table, behind the link table if there is one. -/
def relationJoins (plan : Plan) (r : Relation) : List Join :=
  match r.link with
  | .oneToMany foreignKey => [⟨r.table, r.name, plan.idColumnRef, ⟨r.name, foreignKey⟩⟩]
  | .manyToMany joinTable joinKey inverseKey =>
    [⟨joinTable, r.linkAlias, plan.idColumnRef, ⟨r.linkAlias, joinKey⟩⟩,
      ⟨r.table, r.name, ⟨r.linkAlias, inverseKey⟩, ⟨r.name, r.targetKey⟩⟩]

/-- The query for the identifiers of the rows that meet the condition. -/
def idQuery (plan : Plan) : IdQuery :=
  ⟨plan.idColumnRef, plan.joins.flatMap plan.relationJoins, plan.whereCondition⟩

/-- The columns that the plan sorts by. -/
def order (plan : Plan) : List OrderKey :=
  plan.sort.map fun k => ⟨plan.fieldColumn k.field, k.direction⟩

/-- The statement for the rows of the page. -/
def select (plan : Plan) : Select where
  table := plan.table
  restriction := if plan.isDistinct then .byId plan.idQuery else .plain plan.whereCondition
  order := plan.order
  limit := plan.limit
  offset := plan.offset

/-- The statement for the number of all rows. -/
def count (plan : Plan) : Count :=
  if plan.isDistinct then .ids plan.idQuery else .rows plan.table plan.whereCondition

end Plan

end ListQuery
