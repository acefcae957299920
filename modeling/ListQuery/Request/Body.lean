import ListQuery.Json.Decode
import ListQuery.Request.Parameters

/-!
# List requests in JSON

* `ListRequest` : a request as the body of a message.
* `ListRequest.read?` : the request that a JSON text writes.
* `Parameters.ofListRequest` : the parameters of such a request.
-/

namespace ListQuery

/-- A request as the body of a message. -/
structure ListRequest where
  /-- The page. -/
  page : Option Int
  /-- The number of rows on a page. -/
  pageSize : Option Int
  /-- The sort list. -/
  sort : Option String
  /-- The text to search for. -/
  search : Option String
  /-- The raw filters. -/
  filter : List String
deriving DecidableEq, Repr

namespace ListRequest

/-- The fields of a request, each by its names. -/
def fields : List (List String) :=
  [["page"], ["pageSize", "page_size"], ["sort"], ["search"], ["filter", "filters"]]

/-- A signed integer of 64 bits. -/
def integer? : Document → Option Int :=
  Document.integer? Integer.min64 Integer.max64

/-- A field that may be missing or without a value. -/
def optional? {α : Type} (read : Document → Option α) : Option Document → Option (Option α)
  | none => some none
  | some d => Document.optional? read d

/-- The request that a document writes. -/
def ofDocument? (d : Document) : Option ListRequest := do
  match ← Document.slots? fields d with
  | [page, pageSize, sort, search, filter] => do
    return {
      page := ← optional? integer? page
      pageSize := ← optional? integer? pageSize
      sort := ← optional? Document.text? sort
      search := ← optional? Document.text? search
      filter := ← filter.elim (some []) Document.texts? }
  | _ => none

/-- The request that a JSON text writes. -/
def read? (s : String) : Option ListRequest :=
  (Document.read? s).bind ofDocument?

end ListRequest

namespace Parameters

/-- The parameters of a request in JSON. -/
def ofListRequest (r : ListRequest) : Parameters :=
  make r.page r.pageSize r.sort r.search r.filter

end Parameters

end ListQuery
