/-!
# Characters

* `Text.inRanges` : membership in a class of code points given by ranges.
* `Text.char?` : the character of a code point.
* `hexDigit?` : the value of a hexadecimal digit of either case.
* `hexChar` : the lower-case digit of a value, which `hexDigit?` reads back.
-/

namespace ListQuery

/-! ### Code points -/

namespace Text

/-- `n` lies in one of `ranges`, given by their lowest and highest code points. -/
def inRanges (ranges : List (Nat × Nat)) (n : Nat) : Bool :=
  ranges.any fun r => r.1 ≤ n && n ≤ r.2

/-- The character of a code point, if there is one: surrogates are none. -/
def char? (n : Nat) : Option Char :=
  if n < 0xD800 || (0xDFFF < n && n ≤ 0x10FFFF) then some (Char.ofNat n) else none

end Text

/-! ### Hexadecimal digits -/

/-- The value of a hexadecimal digit of either case. -/
def hexDigit? (c : Char) : Option (Fin 16) :=
  let n := c.toNat
  if h : 0x30 ≤ n ∧ n ≤ 0x39 then some ⟨n - 0x30, by omega⟩
  else if h : 0x61 ≤ n ∧ n ≤ 0x66 then some ⟨n - 0x61 + 10, by omega⟩
  else if h : 0x41 ≤ n ∧ n ≤ 0x46 then some ⟨n - 0x41 + 10, by omega⟩
  else none

/-- The lower-case character of a hexadecimal digit. -/
def hexChar (d : Fin 16) : Char :=
  if d.val < 10 then Char.ofNat (0x30 + d.val) else Char.ofNat (0x61 + (d.val - 10))

/-- The last hexadecimal digit of a number. -/
def lastHexDigit (n : Nat) : Fin 16 :=
  ⟨n % 16, Nat.mod_lt n (by decide)⟩

theorem hexDigit?_hexChar (d : Fin 16) : hexDigit? (hexChar d) = some d := by
  revert d; decide

end ListQuery
