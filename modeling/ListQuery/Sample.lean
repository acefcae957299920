import ListQuery.Json.Basic
import ListQuery.Metadata.Basic
import ListQuery.Time.Instant
import ListQuery.Uuid

/-!
# A sample entity

* `Sample.product` : the metadata of products, with every type of field and both kinds of
  collections.
* `Sample.invoice` : the metadata of invoices, with little more than a table.
* `Product` : a product, and its row.
* `Sample.products` : six products with common categories and tags.
-/

namespace ListQuery

namespace Sample

/-- The states of a product. -/
def statuses : List String :=
  ["ACTIVE", "DISCONTINUED", "DRAFT"]

/-- The categories of a product. -/
def categories : Relation where
  name := "categories"
  table := "category"
  link := .manyToMany "product_category" "product_id" "category_id"

/-- The tags of a product. -/
def tags : Relation where
  name := "tags"
  table := "product_tag"
  link := .oneToMany "product_id"
  elementColumn := some "tag"

/-- The metadata of products. -/
def product : Metadata where
  entity := "product"
  table := "product"
  searchFields := Ordered.ofList ["name", "description", "categories.name"]
  filterFields := Ordered.ofList
    ["id", "sku", "name", "price", "quantity", "status", "in_stock", "created_at", "supplier.city",
      "categories.name", "tags"]
  sortFields := Ordered.ofList ["name", "price", "quantity", "created_at", "categories.name"]
  aliases := Ordered.ofListBy Prod.fst
    [("createdAt", "created_at"), ("inStock", "in_stock"), ("category", "categories.name"),
      ("tag", "tags"), ("city", "supplier.city")]
  collections := [categories, tags]
  fields := Ordered.ofListBy Prod.fst
    [("id", { type := .uuid }), ("sku", { type := .uuid }), ("price", { type := .numeric }),
      ("quantity", { type := .integer }), ("status", { type := .enumeration statuses }),
      ("in_stock", { type := .boolean }), ("created_at", { type := .timestamp })]

/-- The metadata of invoices. -/
def invoice : Metadata where
  entity := "invoice"
  table := "invoice"
  filterFields := ["total"]
  aliases := [("amount", "total")]

end Sample

/-- A product. -/
structure Product where
  /-- Its identifier. -/
  id : Uuid
  /-- The number of its kind. -/
  sku : Uuid
  /-- Its name. -/
  name : String
  /-- What there is to say about it. -/
  description : Option String := none
  /-- Its price. -/
  price : Option Binary64
  /-- How many there are. -/
  quantity : Int := 1
  /-- Its state. -/
  status : String := "ACTIVE"
  /-- It can be delivered. -/
  inStock : Bool := true
  /-- When it was entered. -/
  createdAt : Instant := ⟨0, 0⟩
  /-- The city of its supplier. -/
  supplierCity : Option String := none
  /-- The names of its categories. -/
  categories : List String := []
  /-- Its tags. -/
  tags : List String := []
deriving DecidableEq, Repr

namespace Product

/-- The product entered at the time of a timestamp; it stays as it is if that is none. -/
def created (p : Product) (timestamp : String) : Product :=
  { p with createdAt := (Instant.read? timestamp).getD p.createdAt }

/-- The row of a product. -/
def toJson (p : Product) : Json :=
  .ofMembers
    [("id", .string p.id.write), ("sku", .string p.sku.write), ("name", .string p.name),
      ("description", .ofText? p.description),
      ("price", p.price.elim .null fun x => .number (.real x)),
      ("quantity", .number (.integer p.quantity)), ("status", .string p.status),
      ("in_stock", .bool p.inStock), ("created_at", .string p.createdAt.write),
      ("supplier_city", .ofText? p.supplierCity),
      ("categories", .array (p.categories.map fun name => .object [("name", .string name)])),
      ("tags", .ofTexts p.tags)]

end Product

namespace Sample

/-- Thirty-two digits, zeros but for the sixteenth and the last. -/
def digits (kind number : Nat) : List (Fin 16) :=
  (List.replicate 15 0 ++ kind :: List.replicate 15 0 ++ [number]).map lastHexDigit

theorem length_digits (kind number : Nat) : (digits kind number).length = 32 := by
  simp [digits]

/-- The identifier of the `number`th object of a kind. -/
def identifier (kind number : Nat) : Uuid :=
  ⟨digits kind number, length_digits kind number⟩

/-- The price of `coefficient` hundredths. -/
def hundredths (coefficient : Nat) : Option Binary64 :=
  Binary64.ofDecimal? false coefficient (-2)

/-- The product of a given number, with its name and its price in hundredths. -/
def numbered (number : Nat) (name : String) (price : Nat) : Product where
  id := identifier 1 number
  sku := identifier 2 number
  name := name
  price := hundredths price

/-- Six products. -/
def products : List Product :=
  [ { numbered 1 "Claw Hammer" 2499 with
      description := some "Steel claw hammer with fiberglass handle"
      quantity := 12
      supplierCity := some "Portland"
      categories := ["Tools", "Hardware"]
      tags := ["sale", "steel"] }.created "2024-01-05T09:00:00Z",
    { numbered 2 "Box of Nails" 450 with
      description := some "500 galvanized 2\" nails"
      quantity := 500
      supplierCity := some "Portland"
      categories := ["Hardware"]
      tags := ["bulk"] }.created "2024-02-11T14:30:00Z",
    { numbered 3 "Garden Hose" 3200 with
      description := some "50ft expandable hose"
      quantity := 0
      status := "DISCONTINUED"
      inStock := false
      supplierCity := some "Austin"
      categories := ["Garden"]
      tags := ["sale"] }.created "2023-11-20T08:15:00+02:00",
    { numbered 4 "Cordless Drill" 12900 with
      description := some "18V drill, battery included"
      quantity := 3
      supplierCity := some "Denver"
      categories := ["Tools", "Power Tools"] }.created "2024-03-02T17:45:00Z",
    { numbered 5 "Pruning Shears" 1875 with
      description := some "Bypass shears for 100% clean cuts"
      quantity := 25
      status := "DRAFT"
      supplierCity := some "Austin"
      categories := ["Garden", "Tools"]
      tags := ["steel", "sale"] }.created "2024-03-15T10:00:00Z",
    { numbered 6 "Workbench" 1000 with
      supplierCity := some "Denver" }.created "2024-01-20T12:00:00Z" ]

/-- The rows of the six products. -/
def rows : List Json :=
  products.map Product.toJson

/-- The names of the rows that have one, in order. -/
def names (rows : List Json) : List String :=
  rows.filterMap fun row => (row.get? "name").bind Json.text?

end Sample

end ListQuery
