import ListQuery.Json.Document

/-!
# Records in documents

A record is written as an object, its fields under their names, or as an array, its fields in order.

* `Document.slots?` : what a document holds for each field of a record.
* `Document.integer?`, `Document.text?`, `Document.texts?`, `Document.optional?` : values of fields.
-/

namespace ListQuery

namespace Document

/-- The integer between two limits that a document writes. -/
def integer? (least greatest : Int) : Document → Option Int
  | number (some (.integer i)) => if least ≤ i && i ≤ greatest then some i else none
  | _ => none

/-- The text that a document writes. -/
def text? : Document → Option String
  | string s => s
  | _ => none

/-- The texts that a document lists. -/
def texts? : Document → Option (List String)
  | array items => items.mapM text?
  | _ => none

/-- What `read` makes of a document, the word for no value giving `none`. -/
def optional? {α : Type} (read : Document → Option α) : Document → Option (Option α)
  | null => some none
  | d => (read d).map some

/-- The place of `name` among fields that each have one or more names. -/
def fieldIndex? (fields : List (List String)) (name : String) : Option Nat :=
  fields.findIdx? (·.contains name)

/-- Puts the members of an object into the slots of their fields.  A member of another name is left
out; a field that occurs twice, by whichever of its names, is an error. -/
def fill? (fields : List (List String)) (slots : List (Option Document)) :
    List (Option String × Document) → Option (List (Option Document))
  | [] => some slots
  | (name, d) :: rest => do
    match fieldIndex? fields (← name) with
    | none => fill? fields slots rest
    | some i =>
      match slots[i]? with
      | some none => fill? fields (slots.set i (some d)) rest
      | _ => none

/-- What a document holds for each of the fields, which are given by their names; `none` if it is no
record. -/
def slots? (fields : List (List String)) : Document → Option (List (Option Document))
  | object members => fill? fields (fields.map fun _ => none) members
  | array items =>
    if items.length ≤ fields.length then
      some (items.map some ++ List.replicate (fields.length - items.length) none)
    else none
  | _ => none

end Document

end ListQuery
