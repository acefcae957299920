/-!
# Blank characters and trimming

The blank characters are those with the Unicode property `White_Space`.

* `Text.isBlank` : membership in that class.
* `Text.trim` : a text without the blanks at its two ends.
-/

namespace ListQuery

namespace Text

/-- The Unicode property `White_Space`. -/
def isBlank (c : Char) : Bool :=
  let n := c.toNat
  (9 ≤ n && n ≤ 13) || n == 0x20 || n == 0x85 || n == 0xA0 || n == 0x1680 ||
    (0x2000 ≤ n && n ≤ 0x200A) || n == 0x2028 || n == 0x2029 || n == 0x202F || n == 0x205F ||
    n == 0x3000

/-- `cs` without its leading blanks. -/
def trimStart (cs : List Char) : List Char :=
  cs.dropWhile isBlank

/-- `cs` without its trailing blanks. -/
def trimEnd (cs : List Char) : List Char :=
  (trimStart cs.reverse).reverse

/-- `cs` without the blanks at its two ends. -/
def trimChars (cs : List Char) : List Char :=
  trimEnd (trimStart cs)

/-- `s` without the blanks at its two ends. -/
def trim (s : String) : String :=
  String.ofList (trimChars s.toList)

/-- The trimmed text, if anything is left of it. -/
def nonBlank? (s : String) : Option String :=
  let t := trim s
  if t.isEmpty then none else some t

@[simp] theorem toList_trim (s : String) : (trim s).toList = trimChars s.toList := by
  simp [trim]

end Text

end ListQuery
