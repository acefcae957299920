import ListQuery.Text.Character

/-!
# UTF-8

* `Utf8.encode` : the bytes of a text.
* `Utf8.pieces` : the characters of a byte sequence, and what is no part of one.
* `Utf8.decode` : the text of a byte sequence, with a replacement character for each malformed
  piece.
* `Utf8.read` : the text of a byte sequence without malformed pieces.
* `Percent.decode` : the bytes of a text in which `%` and two hexadecimal digits may stand for a
  byte.

Decoding is a machine that reads one byte at a time (`Utf8.State.feed`).
-/

namespace ListQuery

namespace Utf8

/-- The bytes of one character. -/
def encodeChar (c : Char) : List UInt8 :=
  let n := c.toNat
  if n < 0x80 then [UInt8.ofNat n]
  else if n < 0x800 then [UInt8.ofNat (0xC0 + n / 64), UInt8.ofNat (0x80 + n % 64)]
  else if n < 0x10000 then
    [UInt8.ofNat (0xE0 + n / 4096), UInt8.ofNat (0x80 + n / 64 % 64), UInt8.ofNat (0x80 + n % 64)]
  else
    [UInt8.ofNat (0xF0 + n / 262144), UInt8.ofNat (0x80 + n / 4096 % 64),
      UInt8.ofNat (0x80 + n / 64 % 64), UInt8.ofNat (0x80 + n % 64)]

/-- The bytes of a text. -/
def encode (cs : List Char) : List UInt8 :=
  cs.flatMap encodeChar

/-! ### Pieces -/

/-- A part of a byte sequence. -/
inductive Piece where
  /-- A character. -/
  | char (c : Char)
  /-- So many bytes: the start of a character that breaks off, or a byte that starts none. -/
  | malformed (length : Nat)
  /-- The start of a character, cut off by the end. -/
  | cut
deriving DecidableEq, Repr

/-- A character of which some bytes are still to come. -/
structure Partial where
  /-- The bits read so far. -/
  bits : Nat
  /-- The number of bytes read so far. -/
  count : Nat
  /-- How many more bytes follow the next one. -/
  more : Nat
  /-- The least value of the next byte. -/
  least : Nat
  /-- The greatest value of the next byte. -/
  greatest : Nat
deriving DecidableEq, Repr

/-- The state of the decoder between two bytes: `none` between two characters. -/
abbrev State := Option Partial

/-- The first byte of a character: a piece if it is complete or malformed, and the next state. -/
def start (b : Nat) : List Piece × State :=
  if b < 0x80 then ([.char (Char.ofNat b)], none)
  else if 0xC2 ≤ b && b ≤ 0xDF then ([], some ⟨b - 0xC0, 1, 0, 0x80, 0xBF⟩)
  else if b == 0xE0 then ([], some ⟨0, 1, 1, 0xA0, 0xBF⟩)
  else if b == 0xED then ([], some ⟨0xD, 1, 1, 0x80, 0x9F⟩)
  else if 0xE1 ≤ b && b ≤ 0xEF then ([], some ⟨b - 0xE0, 1, 1, 0x80, 0xBF⟩)
  else if b == 0xF0 then ([], some ⟨0, 1, 2, 0x90, 0xBF⟩)
  else if 0xF1 ≤ b && b ≤ 0xF3 then ([], some ⟨b - 0xF0, 1, 2, 0x80, 0xBF⟩)
  else if b == 0xF4 then ([], some ⟨4, 1, 2, 0x80, 0x8F⟩)
  else ([.malformed 1], none)

/-- One more byte: a byte that cannot continue a character ends it as malformed and starts the
next one. -/
def State.feed (s : State) (b : Nat) : List Piece × State :=
  match s with
  | none => start b
  | some p =>
    if p.least ≤ b && b ≤ p.greatest then
      let bits := p.bits * 64 + (b - 0x80)
      match p.more with
      | 0 => ([.char (Char.ofNat bits)], none)
      | more + 1 => ([], some ⟨bits, p.count + 1, more, 0x80, 0xBF⟩)
    else
      let (pieces, next) := start b
      (.malformed p.count :: pieces, next)

/-- The pieces of the bytes that follow state `s`. -/
def piecesFrom (s : State) : List UInt8 → List Piece
  | [] => if s.isSome then [.cut] else []
  | b :: bs =>
    let (front, next) := s.feed b.toNat
    front ++ piecesFrom next bs

/-- The pieces of a byte sequence. -/
def pieces (bs : List UInt8) : List Piece :=
  piecesFrom none bs

/-! ### Texts -/

/-- What stands for a malformed piece. -/
def replacement : Char := Char.ofNat 0xFFFD

/-- The character of a piece, or what stands for one. -/
def Piece.toChar : Piece → Char
  | char c => c
  | malformed _ => replacement
  | cut => replacement

/-- The text of a byte sequence. -/
def decode (bs : List UInt8) : List Char :=
  (pieces bs).map Piece.toChar

/-- Why a byte sequence is no text. -/
inductive Fault where
  /-- So many bytes from an index on are malformed. -/
  | malformed (length index : Nat)
  /-- The character that starts at an index is cut off. -/
  | cut (index : Nat)
deriving DecidableEq, Repr

/-- The wording of a fault. -/
def Fault.message : Fault → String
  | malformed length index =>
    "invalid utf-8 sequence of " ++ toString length ++ " bytes from index " ++ toString index
  | cut index => "incomplete utf-8 byte sequence from index " ++ toString index

/-- The first fault among pieces, `index` bytes standing in front of them. -/
def faultFrom? (index : Nat) : List Piece → Option Fault
  | [] => none
  | .char c :: rest => faultFrom? (index + c.utf8Size) rest
  | .malformed length :: _ => some (.malformed length index)
  | .cut :: _ => some (.cut index)

/-- The text of a byte sequence, or the first fault of it. -/
def read (bs : List UInt8) : Except Fault String :=
  match faultFrom? 0 (pieces bs) with
  | some fault => .error fault
  | none => .ok (String.ofList (decode bs))

end Utf8

/-! ### Percent signs for bytes -/

namespace Percent

/-- The bytes of a text: `%` and two hexadecimal digits are a byte, and all else stands for
itself. -/
def decode : List Char → List UInt8
  | [] => []
  | '%' :: a :: b :: cs =>
    match hexDigit? a, hexDigit? b with
    | some a, some b => UInt8.ofNat (a.val * 16 + b.val) :: decode cs
    | _, _ => Utf8.encodeChar '%' ++ decode (a :: b :: cs)
  | c :: cs => Utf8.encodeChar c ++ decode cs

end Percent

end ListQuery
