import ListQuery.Metadata.Validation
import ListQuery.Predicate.Builder
import ListQuery.Request.Parameters
import ListQuery.Sort

/-!
# Plans

* `Plan` : all that a store needs to answer a list request.
* `Plan.build` : the plan of a request to an entity.
* `Plan.ofValid` : the same, after the metadata of the entity were checked.
-/

namespace ListQuery

/-- All that a store needs to answer a list request. -/
structure Plan where
  /-- The name of the entity. -/
  entity : String
  /-- The base table. -/
  table : String
  /-- The identifying column of the base table. -/
  idColumn : String
  /-- The collections to join. -/
  joins : List Relation
  /-- The condition on the rows. -/
  predicate : Option Predicate
  /-- What the rows are sorted by. -/
  sort : List SortKey
  /-- Each row counts once, with however many elements it meets the condition. -/
  isDistinct : Bool
  /-- The page, from 1. -/
  page : Nat
  /-- The number of rows on a page. -/
  pageSize : Nat
  /-- The number of rows in front of the page. -/
  offset : Nat
  /-- The greatest number of rows to return. -/
  limit : Nat
deriving Repr

namespace Plan

/-- What the filters and the search of a request add up to. -/
def builder (m : Metadata) (p : Parameters) : Except QueryError Builder := do
  let b ← p.filters.foldlM (Builder.addRaw m) {}
  match p.search with
  | some term => b.addSearch m term
  | none => return b

/-- The plan of a request, or the error of its first filter that is at fault. -/
def build (m : Metadata) (p : Parameters) : Except QueryError Plan := do
  let b ← builder m p
  return {
    entity := m.entity
    table := m.table
    idColumn := m.idColumn
    joins := b.joins.filterMap m.collection?
    predicate := b.predicate?
    sort := p.sort.elim [] m.resolveSort
    isDistinct := b.isDistinct
    page := p.page
    pageSize := p.pageSize
    offset := p.offset
    limit := p.pageSize }

/-- The plan of a request, after a check of the metadata. -/
def ofValid (m : Metadata) (p : Parameters) : Except QueryError Plan := do
  m.ensureValid
  build m p

/-- The name under which the table of a field is known in a statement. -/
def sourceAlias (plan : Plan) (collection : Option String) : String :=
  collection.getD plan.table

end Plan

end ListQuery
