import ListQuery.Error

/-!
# Filter clauses

* `Clause` : a filter as the request names it, with field, operation and raw value.
* `Clause.parse` : the clause of a raw filter `field:operation:value`.
* `Clause.listValues` : the raw value read as a list.
-/

namespace ListQuery

/-- A filter of a request. -/
structure Clause where
  /-- The field, by any of its names. -/
  field : String
  /-- The operation. -/
  operation : Operation
  /-- The value, as the request gives it. -/
  rawValue : String
deriving DecidableEq, Repr

namespace Clause

/-- The clause of a raw filter.  The first two colons end the field and the operation; blanks around
these do not count, while the value is taken as it is. -/
def parse (raw : String) : Except QueryError Clause :=
  let malformed (fault : ClauseFault) : Except QueryError Clause :=
    .error (.malformedFilter raw fault)
  match Text.cut? ':' raw.toList with
  | none => malformed .missingPart
  | some (field, rest) =>
    match Text.cut? ':' rest with
    | none => malformed .missingPart
    | some (operation, value) =>
      let field := Text.trim (String.ofList field)
      let token := String.ofList operation
      if field.isEmpty then malformed .emptyField
      else
        match Operation.ofToken? token with
        | none => malformed (.unknownOperation (Text.trim token))
        | some operation => .ok ⟨field, operation, String.ofList value⟩

/-- The non-blank pieces between the commas of a text, without the blanks around them. -/
def pieces (s : String) : List String :=
  ((Text.splitOn ',' s).map Text.trim).filter fun t => !t.isEmpty

/-- The raw value read as a list. -/
def listValues (c : Clause) : List String :=
  pieces c.rawValue

end Clause

end ListQuery
