import ListQuery.Filter.Value

/-!
# Predicates

* `Predicate` : a condition on the rows of an entity and the elements of their collections.
* `Predicate.all?`, `Predicate.any?` : conditions joined by "and" and "or".
* `Predicate.collections` : the collections that a condition looks at.
-/

namespace ListQuery

/-- A condition on a row. -/
inductive Predicate where
  /-- The field has the value, or, if `negated`, another one. -/
  | equals (field : Field) (value : Value) (negated : Bool)
  /-- The value of the field stands in the given order to `value`. -/
  | compare (field : Field) (comparison : Comparison) (value : Value)
  /-- The text of the field contains `needle`, whatever the case. -/
  | containsText (field : Field) (needle : String)
  /-- The field has one of the values. -/
  | anyOf (field : Field) (values : List Value)
  /-- All of the conditions hold. -/
  | all (children : List Predicate)
  /-- One of the conditions holds. -/
  | any (children : List Predicate)
deriving Repr

namespace Predicate

/-- All of the conditions: one alone stands for itself, and none is no condition. -/
def all? : List Predicate → Option Predicate
  | [] => none
  | [p] => some p
  | ps => some (all ps)

/-- One of the conditions: one alone stands for itself, and none is no condition. -/
def any? : List Predicate → Option Predicate
  | [] => none
  | [p] => some p
  | ps => some (any ps)

mutual

/-- The fields that a condition looks at, from left to right. -/
def fields : Predicate → List Field
  | equals field _ _ => [field]
  | compare field _ _ => [field]
  | containsText field _ => [field]
  | anyOf field _ => [field]
  | all children => fieldsOf children
  | any children => fieldsOf children

/-- The fields that conditions look at, from left to right. -/
def fieldsOf : List Predicate → List Field
  | [] => []
  | p :: ps => p.fields ++ fieldsOf ps

end

/-- The collections that a condition looks at, from left to right, repetitions included. -/
def collections (p : Predicate) : List String :=
  p.fields.filterMap Field.collection

end Predicate

end ListQuery
