import ListQuery.Text.Character

/-!
# Universally unique identifiers

* `Uuid` : an identifier, as its thirty-two hexadecimal digits.
* `Uuid.read?` : the identifier that a text writes in one of the four usual forms.
* `Uuid.write` : its text, with lower-case digits in five groups.
-/

namespace ListQuery

/-- An identifier. -/
structure Uuid where
  /-- Its hexadecimal digits, the most significant first. -/
  digits : List (Fin 16)
  /-- There are thirty-two of them. -/
  length_eq : digits.length = 32
deriving DecidableEq, Repr

namespace Uuid

/-- The order of two digit lists of one length, the first difference deciding. -/
def compareDigits : List (Fin 16) → List (Fin 16) → Ordering
  | a :: as, b :: bs => (Ord.compare a.val b.val).then (compareDigits as bs)
  | [], [] => .eq
  | [], _ :: _ => .lt
  | _ :: _, [] => .gt

/-- Identifiers in the order of their digits. -/
def compare (a b : Uuid) : Ordering :=
  compareDigits a.digits b.digits

/-- The identifier with the thirty-two digits `cs`. -/
def ofDigits? (cs : List Char) : Option Uuid :=
  match cs.mapM hexDigit? with
  | some ds => if h : ds.length = 32 then some ⟨ds, h⟩ else none
  | none => none

/-- The identifier written in groups of 8, 4, 4, 4 and 12 digits with hyphens between them. -/
def ofGroups? (cs : List Char) : Option Uuid :=
  match cs.splitOn '-' with
  | [a, b, c, d, e] =>
    if a.length = 8 ∧ b.length = 4 ∧ c.length = 4 ∧ d.length = 4 ∧ e.length = 12 then
      ofDigits? (a ++ b ++ c ++ d ++ e)
    else none
  | _ => none

/-- The name space in front of an identifier used as a resource name, in lower case. -/
def urn : List Char := "urn:uuid:".toList

/-- The groups behind the name space, if that stands in front in whatever case. -/
def behindUrn? (cs : List Char) : Option (List Char) :=
  let front := cs.take urn.length
  if front.map Char.toLower = urn then some (cs.drop urn.length) else none

/-- The groups between braces, if there are braces. -/
def unbrace? : List Char → Option (List Char)
  | c :: cs => if c = '\x7b' ∧ cs.getLast? = some '\x7d' then some cs.dropLast else none
  | [] => none

/-- The identifier that `cs` writes: its digits alone, in groups, in groups between braces, or in
groups behind `urn:uuid:` in whatever case. -/
def read? (cs : List Char) : Option Uuid :=
  if cs.length = 32 then ofDigits? cs
  else if cs.length = 36 then ofGroups? cs
  else if cs.length = 38 then (unbrace? cs).bind ofGroups?
  else if cs.length = 45 then (behindUrn? cs).bind ofGroups?
  else none

/-- The text of an identifier. -/
def write (u : Uuid) : String :=
  let cs := u.digits.map hexChar
  String.ofList (cs.take 8 ++ '-' :: (cs.drop 8).take 4 ++ '-' :: (cs.drop 12).take 4 ++ '-' ::
    (cs.drop 16).take 4 ++ '-' :: cs.drop 20)

end Uuid

end ListQuery
