import ListQuery.Text.Utf8
import Mathlib.Data.List.Basic

/-!
# UTF-8 reads back what it writes

The decoder goes through the bytes of a character from the state between two characters to that
state again, and has the character then.

* `Utf8.piecesFrom_start`, `Utf8.piecesFrom_more`, `Utf8.piecesFrom_last` : the steps of the decoder
  on the first byte of a character, on those between, and on the last;
* `Utf8.piecesFrom_encodeChar` : the bytes of a character are one piece;
* `Utf8.decode_encode`, `Utf8.read_encode` : the text of the bytes of a text is that text, and they
  have no fault.
-/

namespace ListQuery

namespace Utf8

variable {bs : List UInt8} {n : Nat}

theorem toNat_ofNat (h : n < 256) : (UInt8.ofNat n).toNat = n := by
  rw [UInt8.toNat_ofNat']
  exact Nat.mod_eq_of_lt h

/-! ### Steps -/

/-- A byte that starts a longer character is no piece yet. -/
theorem piecesFrom_start (hn : n < 256) {p : Partial} (h : start n = ([], some p)) :
    piecesFrom none (UInt8.ofNat n :: bs) = piecesFrom (some p) bs := by
  rw [piecesFrom, toNat_ofNat hn, State.feed, h]
  rfl

theorem piecesFrom_more {bits count more least greatest : Nat} (hn : n < 256)
    (hleast : least ≤ n) (hgreatest : n ≤ greatest) :
    piecesFrom (some ⟨bits, count, more + 1, least, greatest⟩) (UInt8.ofNat n :: bs) =
      piecesFrom (some ⟨bits * 64 + (n - 0x80), count + 1, more, 0x80, 0xBF⟩) bs := by
  rw [piecesFrom, toNat_ofNat hn, State.feed, if_pos (by simp [hleast, hgreatest])]
  rfl

theorem piecesFrom_last {bits count least greatest : Nat} (hn : n < 256)
    (hleast : least ≤ n) (hgreatest : n ≤ greatest) :
    piecesFrom (some ⟨bits, count, 0, least, greatest⟩) (UInt8.ofNat n :: bs) =
      .char (Char.ofNat (bits * 64 + (n - 0x80))) :: piecesFrom none bs := by
  rw [piecesFrom, toNat_ofNat hn, State.feed, if_pos (by simp [hleast, hgreatest])]
  rfl

/-! ### First bytes -/

theorem start_two : ∀ k < 32, 2 ≤ k → start (0xC0 + k) = ([], some ⟨k, 1, 0, 0x80, 0xBF⟩) := by
  decide

/-- The first of three bytes leaves room for the next six bits of characters beyond those of two
bytes, surrogates not being among them. -/
theorem start_three (k next : Nat) (hk : k < 16) (hlong : 0x800 ≤ k * 4096 + next * 64 + 63)
    (hsurrogate : k * 4096 + next * 64 < 0xD800 ∨ 0xE000 ≤ k * 4096 + next * 64)
    (hnext : next < 64) :
    ∃ least greatest, start (0xE0 + k) = ([], some ⟨k, 1, 1, least, greatest⟩) ∧
      least ≤ 0x80 + next ∧ 0x80 + next ≤ greatest := by
  by_cases hzero : k = 0
  · subst hzero
    exact ⟨0xA0, 0xBF, rfl, by omega, by omega⟩
  by_cases hlast : k = 0xD
  · subst hlast
    exact ⟨0x80, 0x9F, rfl, by omega, by omega⟩
  have hother : ∀ k < 16, k ≠ 0 → k ≠ 0xD →
      start (0xE0 + k) = ([], some ⟨k, 1, 1, 0x80, 0xBF⟩) := by decide
  exact ⟨0x80, 0xBF, hother k hk hzero hlast, by omega, by omega⟩

theorem start_four (k next : Nat) (hlong : 0x10000 ≤ k * 262144 + next * 4096 + 4095)
    (hlimit : k * 262144 + next * 4096 < 0x110000) (hnext : next < 64) :
    ∃ least greatest, start (0xF0 + k) = ([], some ⟨k, 1, 2, least, greatest⟩) ∧
      least ≤ 0x80 + next ∧ 0x80 + next ≤ greatest := by
  by_cases hzero : k = 0
  · subst hzero
    exact ⟨0x90, 0xBF, rfl, by omega, by omega⟩
  by_cases hlast : k = 4
  · subst hlast
    exact ⟨0x80, 0x8F, rfl, by omega, by omega⟩
  have hother : ∀ k < 4, k ≠ 0 → start (0xF0 + k) = ([], some ⟨k, 1, 2, 0x80, 0xBF⟩) := by
    decide
  exact ⟨0x80, 0xBF, hother k (by omega) hzero, by omega, by omega⟩

/-! ### Characters -/

theorem piecesFrom_one (h : n < 0x80) :
    piecesFrom none (UInt8.ofNat n :: bs) = .char (Char.ofNat n) :: piecesFrom none bs := by
  rw [piecesFrom, toNat_ofNat (by omega), State.feed, start, if_pos h]
  rfl

theorem piecesFrom_two (h : 0x80 ≤ n) (h' : n < 0x800) :
    piecesFrom none (UInt8.ofNat (0xC0 + n / 64) :: UInt8.ofNat (0x80 + n % 64) :: bs) =
      .char (Char.ofNat n) :: piecesFrom none bs := by
  have hbits : n / 64 * 64 + (0x80 + n % 64 - 0x80) = n := by omega
  rw [piecesFrom_start (by omega) (start_two (n / 64) (by omega) (by omega)),
    piecesFrom_last (by omega) (by omega) (by omega), hbits]

theorem piecesFrom_three (h : 0x800 ≤ n) (h' : n < 0xD800 ∨ 0xE000 ≤ n ∧ n < 0x10000) :
    piecesFrom none (UInt8.ofNat (0xE0 + n / 4096) :: UInt8.ofNat (0x80 + n / 64 % 64) ::
        UInt8.ofNat (0x80 + n % 64) :: bs) =
      .char (Char.ofNat n) :: piecesFrom none bs := by
  obtain ⟨least, greatest, hstart, hleast, hgreatest⟩ :=
    start_three (n / 4096) (n / 64 % 64) (by omega) (by omega) (by omega) (by omega)
  have hbits : (n / 4096 * 64 + (0x80 + n / 64 % 64 - 0x80)) * 64 + (0x80 + n % 64 - 0x80) = n := by
    omega
  rw [piecesFrom_start (by omega) hstart, piecesFrom_more (by omega) hleast hgreatest,
    piecesFrom_last (by omega) (by omega) (by omega), hbits]

theorem piecesFrom_four (h : 0x10000 ≤ n) (h' : n < 0x110000) :
    piecesFrom none (UInt8.ofNat (0xF0 + n / 262144) :: UInt8.ofNat (0x80 + n / 4096 % 64) ::
        UInt8.ofNat (0x80 + n / 64 % 64) :: UInt8.ofNat (0x80 + n % 64) :: bs) =
      .char (Char.ofNat n) :: piecesFrom none bs := by
  obtain ⟨least, greatest, hstart, hleast, hgreatest⟩ :=
    start_four (n / 262144) (n / 4096 % 64) (by omega) (by omega) (by omega)
  have hbits : ((n / 262144 * 64 + (0x80 + n / 4096 % 64 - 0x80)) * 64 +
      (0x80 + n / 64 % 64 - 0x80)) * 64 + (0x80 + n % 64 - 0x80) = n := by
    omega
  rw [piecesFrom_start (by omega) hstart, piecesFrom_more (by omega) hleast hgreatest,
    piecesFrom_more (by omega) (by omega) (by omega),
    piecesFrom_last (by omega) (by omega) (by omega), hbits]

/-- **The bytes of a character are one piece**, whatever follows. -/
theorem piecesFrom_encodeChar (c : Char) (bs : List UInt8) :
    piecesFrom none (encodeChar c ++ bs) = .char c :: piecesFrom none bs := by
  have hvalid : c.toNat < 0xD800 ∨ 0xE000 ≤ c.toNat ∧ c.toNat < 0x110000 := by
    rcases c.valid with h | ⟨h, h'⟩
    · exact .inl h
    · exact .inr ⟨h, h'⟩
  have hchar : Char.ofNat c.toNat = c := Char.ofNat_toNat c
  unfold encodeChar
  dsimp only
  generalize c.toNat = n at hvalid hchar
  subst hchar
  split
  case isTrue hone => exact piecesFrom_one hone
  case isFalse hone =>
    split
    case isTrue htwo => exact piecesFrom_two (by omega) htwo
    case isFalse htwo =>
      split
      case isTrue hthree => exact piecesFrom_three (by omega) (by omega)
      case isFalse hthree => exact piecesFrom_four (by omega) (by omega)

/-! ### Texts -/

/-- The bytes of a text are its characters, one piece each. -/
theorem pieces_encode (cs : List Char) : pieces (encode cs) = cs.map .char := by
  rw [pieces]
  induction cs with
  | nil => rfl
  | cons c cs ih =>
    rw [encode, List.flatMap_cons, piecesFrom_encodeChar, ← encode, ih, List.map_cons]

/-- **The text of the bytes of a text is that text.** -/
theorem decode_encode (cs : List Char) : decode (encode cs) = cs := by
  rw [decode, pieces_encode, List.map_map]
  exact List.map_id cs

theorem faultFrom?_chars (index : Nat) (cs : List Char) :
    faultFrom? index (cs.map .char) = none := by
  induction cs generalizing index with
  | nil => rfl
  | cons c cs ih => exact ih (index + c.utf8Size)

theorem read_encode (cs : List Char) : read (encode cs) = .ok (String.ofList cs) := by
  rw [read, pieces_encode, faultFrom?_chars, decode_encode]

end Utf8

end ListQuery
