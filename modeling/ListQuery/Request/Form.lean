import ListQuery.Request.Parameters
import ListQuery.Text.Utf8

/-!
# Query strings

Names and values in the form `application/x-www-form-urlencoded`.

* `Form.pairs` : the pairs of names and values of a query string.
* `Parameters.ofQueryString` : the parameters that a query string gives.
-/

namespace ListQuery

namespace Form

/-- The text that an encoded text stands for: `+` is a space, and percent signs stand for bytes. -/
def decode (cs : List Char) : String :=
  String.ofList (Utf8.decode (Percent.decode (Text.replaceChar '+' [' '] cs)))

/-- The name and value of one segment; without `=` the value is empty. -/
def pair (segment : List Char) : String × String :=
  match Text.cut? '=' segment with
  | some (name, value) => (decode name, decode value)
  | none => (decode segment, decode [])

/-- The pairs of a query string, one for each segment that is not empty. -/
def pairs (query : List Char) : List (String × String) :=
  ((query.splitOn '&').filter fun s => !s.isEmpty).map pair

end Form

namespace Parameters

/-- `query` without one leading question mark. -/
def dropQuestionMark : List Char → List Char
  | '?' :: cs => cs
  | cs => cs

/-- The parameters that a query string gives, with or without its question mark. -/
def ofQueryString (query : String) : Parameters :=
  ofPairs (Form.pairs (dropQuestionMark query.toList))

end Parameters

end ListQuery
