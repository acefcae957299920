import ListQuery.Filter.Clause
import ListQuery.Number.Integer

/-!
# Parameters of a list request

* `Parameters` : paging, sort, search and raw filters of a request.
* `Parameters.make` : the parameters of a request; numbers out of range are brought into it.
* `Parameters.ofPairs` : the parameters given by names and values.
* `Parameters.offset` : the number of rows in front of the page.
* `Parameters.clauses` : the clauses of the filters.
-/

namespace ListQuery

/-- What a list request asks for. -/
structure Parameters where
  /-- The page, from 1. -/
  page : Nat
  /-- The number of rows on a page. -/
  pageSize : Nat
  /-- The sort list. -/
  sort : Option String
  /-- The text to search for. -/
  search : Option String
  /-- The raw filters. -/
  filters : List String
deriving DecidableEq, Repr

namespace Parameters

/-- The page of a request that names none. -/
def defaultPage : Nat := 1

/-- The page size of a request that names none. -/
def defaultPageSize : Nat := 20

/-- The greatest page number. -/
def maxPage : Nat := 4294967295

/-- The greatest page size. -/
def maxPageSize : Nat := 1000

/-- The parameters of a request that asks for nothing in particular. -/
def default : Parameters :=
  ⟨defaultPage, defaultPageSize, none, none, []⟩

/-- The number from 1 to `greatest` nearest to `i`. -/
def clamp (greatest : Nat) (i : Int) : Nat :=
  max 1 (min greatest i.toNat)

/-- The parameters of a request.  Paging is brought into range, and a blank sort list or search text
counts as none. -/
def make (page pageSize : Option Int) (sort search : Option String) (filters : List String) :
    Parameters where
  page := page.elim defaultPage (clamp maxPage)
  pageSize := pageSize.elim defaultPageSize (clamp maxPageSize)
  sort := sort.bind Text.nonBlank?
  search := search.bind Text.nonBlank?
  filters := filters

/-- The same request with other filters. -/
def withFilters (p : Parameters) (filters : List String) : Parameters :=
  { p with filters := filters }

/-- The number of rows in front of the page. -/
def offset (p : Parameters) : Nat :=
  (p.page - 1) * p.pageSize

/-- The clauses of the filters, or the error of the first that is malformed. -/
def clauses (p : Parameters) : Except QueryError (List Clause) :=
  p.filters.mapM Clause.parse

/-! ### Names and values -/

/-- The values that a list of pairs gives to the names that satisfy `isName`. -/
def valuesOf (isName : String → Bool) (pairs : List (String × String)) : List String :=
  (pairs.filter fun p => isName p.1).map Prod.snd

/-- The number that the last of `values` writes, blanks around it aside. -/
def lastNumber? (values : List String) : Option Int :=
  values.getLast?.bind fun s => Integer.read? (Text.trimChars s.toList)

/-- The parameters given by names and values: of page, page size and search the last counts, the
sort lists are taken together, and there is a filter for each value. -/
def ofPairs (pairs : List (String × String)) : Parameters :=
  let sorts := valuesOf (· == "sort") pairs
  make
    (lastNumber? (valuesOf (· == "page") pairs))
    (lastNumber? (valuesOf (fun name => name == "pageSize" || name == "page_size") pairs))
    (if sorts.isEmpty then none else some (Text.joinWith "," sorts))
    (valuesOf (· == "search") pairs).getLast?
    (valuesOf (· == "filter") pairs)

end Parameters

end ListQuery
