import ListQuery.Text.Blank
import ListQuery.Text.Case

/-!
# Operations of filters

* `Comparison` : the four comparisons by order.
* `Operation` : the nine operations that a filter may name.
* `Operation.ofToken?` : the operation that a token names.
-/

namespace ListQuery

/-- A comparison by order. -/
inductive Comparison where
  | greaterThan
  | greaterOrEqual
  | lessThan
  | lessOrEqual
deriving DecidableEq, Repr

namespace Comparison

/-- The comparison holds of a value that stands in the order `o` to the value of the filter. -/
def accepts : Comparison → Ordering → Bool
  | greaterThan, o => o == .gt
  | greaterOrEqual, o => o != .lt
  | lessThan, o => o == .lt
  | lessOrEqual, o => o != .gt

end Comparison

/-- What a filter asks of a field. -/
inductive Operation where
  /-- The value of the field is the given one. -/
  | equals
  /-- The value of the field is another one. -/
  | notEquals
  /-- The value of the field stands in the given order to the given one. -/
  | compare (c : Comparison)
  /-- The text of the field contains the given one, whatever the case. -/
  | like
  /-- The text of the field contains the given one; the elements of a collection are compared. -/
  | contains
  /-- The value of the field is one of a list. -/
  | oneOf
deriving DecidableEq, Repr

namespace Operation

/-- The operations, in their order of declaration. -/
def all : List Operation :=
  [equals, notEquals, compare .greaterThan, compare .greaterOrEqual, compare .lessThan,
    compare .lessOrEqual, like, contains, oneOf]

/-- The name of an operation. -/
def name : Operation → String
  | equals => "EQUALS"
  | notEquals => "NOT_EQUALS"
  | compare .greaterThan => "GREATER_THAN"
  | compare .greaterOrEqual => "GREATER_OR_EQUAL"
  | compare .lessThan => "LESS_THAN"
  | compare .lessOrEqual => "LESS_OR_EQUAL"
  | like => "LIKE"
  | contains => "CONTAINS"
  | oneOf => "IN"

/-- The tokens that name an operation, in lower case. -/
def tokens : Operation → List String
  | equals => ["eq", "equals"]
  | notEquals => ["ne", "neq", "not_equals"]
  | compare .greaterThan => ["gt", "greater_than"]
  | compare .greaterOrEqual => ["gte", "ge", "greater_or_equal"]
  | compare .lessThan => ["lt", "less_than"]
  | compare .lessOrEqual => ["lte", "le", "less_or_equal"]
  | like => ["like"]
  | contains => ["contains"]
  | oneOf => ["in"]

/-- The operation that a token names, whatever the case of its letters and the blanks around it. -/
def ofToken? (token : String) : Option Operation :=
  let t := Text.lowerAscii (Text.trim token)
  all.find? fun o => o.tokens.contains t

/-- The operation compares by order. -/
def isOrdering : Operation → Bool
  | compare _ => true
  | _ => false

/-- The operation reads its value as a list. -/
def takesList : Operation → Bool
  | oneOf => true
  | _ => false

/-- The place of an operation among all of them. -/
def index (o : Operation) : Nat :=
  all.idxOf o

end Operation

end ListQuery
