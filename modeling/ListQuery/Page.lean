import ListQuery.Json.Decode

/-!
# Pages

* `Page` : some of the rows of a result, with the numbers of pages and rows.
* `Page.make` : the page of given rows.
* `Page.hasNext`, `Page.hasPrevious` : whether there are pages behind and in front.
* `Page.toJson`, `Page.read?` : a page in JSON.
-/

namespace ListQuery

/-- Some of the rows of a result. -/
structure Page (α : Type) where
  /-- The rows. -/
  items : List α
  /-- The page, from 1. -/
  page : Nat
  /-- The number of rows on a page. -/
  pageSize : Nat
  /-- The number of pages. -/
  totalPages : Nat
  /-- The number of rows of the result. -/
  totalElements : Nat
deriving DecidableEq, Repr

namespace Page

variable {α β : Type}

/-- The greatest number of pages that is told. -/
def maxPages : Nat := 4294967295

/-- The number of pages that `total` rows fill, the last perhaps in part. -/
def countPages (total pageSize : Nat) : Nat :=
  if pageSize = 0 then 0 else min maxPages ((total + (pageSize - 1)) / pageSize)

/-- The page of the given rows out of `total`. -/
def make (items : List α) (total page pageSize : Nat) : Page α :=
  ⟨items, page, pageSize, countPages total pageSize, total⟩

/-- A page of no rows. -/
def empty (page pageSize : Nat) : Page α :=
  make [] 0 page pageSize

/-- There is a page behind this one. -/
def hasNext (p : Page α) : Bool :=
  p.page < p.totalPages

/-- There is a page in front of this one. -/
def hasPrevious (p : Page α) : Bool :=
  1 < p.page

/-- The page with each row changed by `f`. -/
def map (f : α → β) (p : Page α) : Page β :=
  { p with items := p.items.map f }

/-- The page in JSON. -/
def toJson (p : Page Json) : Json :=
  .object [("items", .array p.items), ("page", .ofNat p.page), ("pageSize", .ofNat p.pageSize),
    ("totalPages", .ofNat p.totalPages), ("totalElements", .ofNat p.totalElements)]

/-- The fields of a page in JSON. -/
def fields : List (List String) :=
  [["items"], ["page"], ["pageSize"], ["totalPages"], ["totalElements"]]

/-- The number up to `greatest` that a document writes. -/
def natural? (greatest : Nat) (d : Document) : Option Nat :=
  (d.integer? 0 greatest).map Int.toNat

/-- The items that a document lists. -/
def items? (item : Document → Option α) : Document → Option (List α)
  | .array items => items.mapM item
  | _ => none

/-- The page that a document writes; all of its fields are necessary. -/
def ofDocument? (item : Document → Option α) (d : Document) : Option (Page α) := do
  match ← d.slots? fields with
  | [items, page, pageSize, totalPages, totalElements] => do
    return {
      items := ← items.bind (items? item)
      page := ← page.bind (natural? maxPages)
      pageSize := ← pageSize.bind (natural? maxPages)
      totalPages := ← totalPages.bind (natural? maxPages)
      totalElements := ← totalElements.bind (natural? Number.maxUnsigned64) }
  | _ => none

/-- The page that a JSON text writes, of rows that are JSON values. -/
def read? (s : String) : Option (Page Json) :=
  (Document.read? s).bind (ofDocument? Document.value?)

end Page

end ListQuery
