import ListQuery.Text.CaseTable
import ListQuery.Text.Character

/-!
# Lower case

* `Text.lowerAscii` : the letters `A` to `Z` in lower case, all else unchanged.
* `Text.lowerChars` : full lower case.  `İ` becomes two characters, and `Σ` becomes `ς` at the end
  of a word and `σ` elsewhere.
-/

namespace ListQuery

namespace Text

/-- `s` with the letters `A` to `Z` in lower case. -/
def lowerAscii (s : String) : String :=
  String.ofList (s.toList.map Char.toLower)

/-- The lower-case form of one character, seen alone. -/
def lowerChar (c : Char) : List Char :=
  let n := c.toNat
  if n < 0x80 then [c.toLower]
  else if n == 0x130 then [Char.ofNat 0x69, Char.ofNat 0x307]
  else
    match lowerRanges.find? (·.covers n) with
    | some r => [Char.ofNat (n + r.shift).toNat]
    | none => [c]

/-- The Unicode property `Cased`. -/
def isCased (c : Char) : Bool :=
  inRanges casedRanges c.toNat

/-- The Unicode property `Case_Ignorable`. -/
def isCaseIgnorable (c : Char) : Bool :=
  inRanges caseIgnorableRanges c.toNat

/-- Behind its case-ignorable characters the text starts with a cased one. -/
def startsCased (cs : List Char) : Bool :=
  (cs.dropWhile isCaseIgnorable).head?.any isCased

/-- The Greek capital sigma. -/
def capitalSigma : Char := Char.ofNat 0x3A3

/-- The lower-case form of a sigma that stands between `before` (nearest character first) and
`after`: final if it ends a word. -/
def lowerSigma (before after : List Char) : Char :=
  if startsCased before && !startsCased after then Char.ofNat 0x3C2 else Char.ofNat 0x3C3

/-- The lower-case form of a text that follows `before` (nearest character first). -/
def lowerAfter (before : List Char) : List Char → List Char
  | [] => []
  | c :: cs =>
    (if c = capitalSigma then [lowerSigma before cs] else lowerChar c) ++
      lowerAfter (c :: before) cs

/-- The lower-case form of a text. -/
def lowerChars (cs : List Char) : List Char :=
  lowerAfter [] cs

end Text

end ListQuery
