import ListQuery.Proofs.Sql.Injection
import ListQuery.Proofs.Text.Utf8
import ListQuery.Text.Character
import Mathlib.Tactic.TFAE

/-!
# What literals stand for

A server takes what stands between the quotes of a literal for a text by rules of its own.  In a
plain literal a quote is written twice and all else stands for itself; in one with escapes a
backslash goes with the characters behind it, which name a control character, a byte or a code
point, or stand for themselves.  Literals are written by another table of escapes, so that it takes
an argument that the text is the string that was written.  There is one character for which it is
not: U+001A is written as an escape that these rules do not have.

* `Sql.Token.text?` : the text that a literal stands for;
* `Sql.readBack` : the character that is read for one that is written;
* `Sql.text?_ofString` : the text of a literal, character by character;
* `Sql.text?_ofString_iff` : the strings whose literals stand for them;
* `Plan.literals_tfae` : the same of the literals in the statements of plans.
-/

namespace ListQuery

namespace Sql

/-! ### Escapes -/

/-- The digits at the front of a text, `most` at most. -/
def leadingDigits (base most : Nat) (cs : List Char) : List Char :=
  (cs.take most).takeWhile fun c => (hexDigit? c).any (·.val < base)

/-- The number that digits denote. -/
def digitsValue (base : Nat) (ds : List Char) : Nat :=
  ds.foldl (fun n d => n * base + (hexDigit? d).elim 0 (·.val)) 0

/-- The character that a letter behind a backslash stands for. -/
def controlOf : Char → Char
  | 'b' => Char.ofNat 8
  | 'f' => Char.ofNat 12
  | 'n' => '\n'
  | 'r' => '\r'
  | 't' => '\t'
  | c => c

/-- The character of a code point of so many digits, in bytes, and what stands behind the digits. -/
def readCodePoint? (count : Nat) (cs : List Char) : Option (List UInt8 × List Char) :=
  let ds := leadingDigits 16 count cs
  if ds.length = count then
    (Text.char? (digitsValue 16 ds)).map fun c => (Utf8.encodeChar c, cs.drop count)
  else none

/-- The bytes of an escape, from what stands behind its backslash, and what stands behind it. -/
def readEscape? : List Char → Option (List UInt8 × List Char)
  | [] => none
  | c :: cs =>
    let octal := leadingDigits 8 3 (c :: cs)
    let hex := leadingDigits 16 2 cs
    if !octal.isEmpty then
      some ([UInt8.ofNat (digitsValue 8 octal)], (c :: cs).drop octal.length)
    else if c = 'x' && !hex.isEmpty then
      some ([UInt8.ofNat (digitsValue 16 hex)], cs.drop hex.length)
    else if c = 'u' then readCodePoint? 4 cs
    else if c = 'U' then readCodePoint? 8 cs
    else some (Utf8.encodeChar (controlOf c), cs)

/-- The bytes that the front of a literal stands for, and the rest. -/
def readItem? (hasEscapes : Bool) (c : Char) (cs : List Char) : Option (List UInt8 × List Char) :=
  if hasEscapes && c == '\\' then readEscape? cs
  else if c = '\'' then
    if cs.head? = some '\'' then some (Utf8.encodeChar '\'', cs.tail) else none
  else some (Utf8.encodeChar c, cs)

theorem length_of_readEscape? {cs rest : List Char} {bytes : List UInt8}
    (h : readEscape? cs = some (bytes, rest)) : rest.length ≤ cs.length := by
  have hcodePoint {count : Nat} {cs : List Char}
      (h : readCodePoint? count cs = some (bytes, rest)) : rest.length ≤ cs.length := by
    simp only [readCodePoint?, Option.ite_none_right_eq_some, Option.map_eq_some_iff,
      Prod.mk.injEq] at h
    obtain ⟨-, _, -, -, rfl⟩ := h
    simp
  cases cs with
  | nil => cases h
  | cons c cs =>
    rw [readEscape?] at h
    split at h
    case isTrue => cases h; simp
    case isFalse =>
      refine Nat.le_succ_of_le ?_
      split at h
      case isTrue => cases h; simp
      case isFalse =>
        split at h
        case isTrue => exact hcodePoint h
        case isFalse =>
          split at h
          case isTrue => exact hcodePoint h
          case isFalse => cases h; exact Nat.le_refl _

theorem length_of_readItem? {hasEscapes : Bool} {c : Char} {cs rest : List Char}
    {bytes : List UInt8} (h : readItem? hasEscapes c cs = some (bytes, rest)) :
    rest.length ≤ cs.length := by
  rw [readItem?] at h
  split at h
  case isTrue => exact length_of_readEscape? h
  case isFalse =>
    split at h
    case isTrue =>
      simp only [Option.ite_none_right_eq_some, Option.some.injEq, Prod.mk.injEq] at h
      obtain ⟨-, -, rfl⟩ := h
      simp
    case isFalse => cases h; exact Nat.le_refl _

/-- The bytes that the inside of a literal stands for. -/
def readBytes? (hasEscapes : Bool) : List Char → Option (List UInt8)
  | [] => some []
  | c :: cs =>
    match _h : readItem? hasEscapes c cs with
    | none => none
    | some (bytes, rest) => (readBytes? hasEscapes rest).map (bytes ++ ·)
  termination_by cs => cs.length
  decreasing_by exact Nat.lt_succ_of_le (length_of_readItem? _h)

theorem readBytes?_cons {hasEscapes : Bool} {c : Char} {cs rest : List Char} {bytes : List UInt8}
    (h : readItem? hasEscapes c cs = some (bytes, rest)) :
    readBytes? hasEscapes (c :: cs) = (readBytes? hasEscapes rest).map (bytes ++ ·) := by
  rw [readBytes?]
  split
  case h_1 hnone => cases h.symm.trans hnone
  case h_2 hsome => cases h.symm.trans hsome; rfl

/-- The text that a literal stands for, if it does for one: its bytes are those of characters, and
none is zero. -/
def Token.text? : Token → Option String
  | literal hasEscapes body => do
    let bytes ← readBytes? hasEscapes body
    let s ← (Utf8.read bytes).toOption
    if s.toList.any (·.toNat == 0) then none else some s
  | _ => none

-- Escapes of each kind, and a quote that is written twice.
example : (Token.literal true "\\x41\\u0042\\103\\q''\\n".toList).text? = some "ABCq'\n" := by
  cbv

/-! ### Strings -/

/-- The character that is read for one that is written: the escape for U+001A stands for its
letter. -/
def readBack (c : Char) : Char :=
  if c.toNat = 26 then 'z' else c

/-- The character behind a backslash is no part of a number in digits. -/
def isLetterEscape (d : Char) : Bool :=
  !(hexDigit? d).any (·.val < 8) && d != 'x' && d != 'u' && d != 'U'

theorem readEscape?_of_isLetterEscape {d : Char} (h : isLetterEscape d = true) (cs : List Char) :
    readEscape? (d :: cs) = some (Utf8.encodeChar (controlOf d), cs) := by
  simp only [isLetterEscape, Bool.and_eq_true, Bool.not_eq_true', bne_iff_ne] at h
  obtain ⟨⟨⟨hdigit, hx⟩, hu⟩, hU⟩ := h
  have hoctal : leadingDigits 8 3 (d :: cs) = [] := by
    rw [leadingDigits, List.take_succ_cons, List.takeWhile_cons_of_neg (by rw [hdigit]; decide)]
  simp [readEscape?, hoctal, hx, hu, hU]

/-- A character is written as it is, or by an escape for what is read instead. -/
theorem escapeChar_eq_readBack {c : Char} (hzero : c.toNat ≠ 0) :
    (escapeChar c = [c] ∧ c ≠ '\'' ∧ c ≠ '\\' ∧ readBack c = c) ∨
      ∃ d, escapeChar c = ['\\', d] ∧ isLetterEscape d = true ∧ controlOf d = readBack c := by
  have hcontrol {n : Nat} (hn : c.toNat = n) (hne : n ≠ 26) : Char.ofNat n = readBack c := by
    rw [readBack, if_neg (hn ▸ hne), ← hn, Char.ofNat_toNat]
  generalize hcs : escapeChar c = cs
  rw [escapeChar, if_neg hzero] at hcs
  repeat' split at hcs
  all_goals subst hcs
  case isFalse => exact .inl ⟨rfl, ‹_›, ‹_›, if_neg ‹_›⟩
  all_goals refine .inr ⟨_, rfl, by decide, ?_⟩
  -- Three marks stand for themselves, and control characters are named by a letter.
  case isTrue hc | isTrue hc | isTrue hc => rw [hc]; rfl
  case isTrue hc | isTrue hc => exact hcontrol hc (by decide)
  case isTrue hc => exact (if_pos hc).symm
  case isTrue hc | isTrue hc => exact hcontrol hc (by decide)

/-- What is written for a character stands for that one, or for what is read instead. -/
theorem readBytes?_escapeChar {hasEscapes : Bool} {c : Char} (hzero : c.toNat ≠ 0)
    (hescapes : '\\' ∈ escapeChar c → hasEscapes = true) (rest : List Char) :
    readBytes? hasEscapes (escapeChar c ++ rest) =
      (readBytes? hasEscapes rest).map (Utf8.encodeChar (readBack c) ++ ·) := by
  obtain ⟨heq, hquote, hslash, hback⟩ | ⟨d, heq, hd, hback⟩ := escapeChar_eq_readBack hzero
  · have hitem : readItem? hasEscapes c rest = some (Utf8.encodeChar c, rest) := by
      simp [readItem?, hquote, hslash]
    rw [heq, hback]
    exact readBytes?_cons hitem
  · have hitem : readItem? hasEscapes '\\' (d :: rest) =
        some (Utf8.encodeChar (readBack c), rest) := by
      rw [readItem?, if_pos (by simp [hescapes (heq ▸ List.mem_cons_self)]),
        readEscape?_of_isLetterEscape hd, hback]
    rw [heq]
    exact readBytes?_cons hitem

theorem readBytes?_flatMap {hasEscapes : Bool} {cs : List Char} (hzero : ∀ c ∈ cs, c.toNat ≠ 0)
    (hescapes : '\\' ∈ cs.flatMap escapeChar → hasEscapes = true) :
    readBytes? hasEscapes (cs.flatMap escapeChar) = some (Utf8.encode (cs.map readBack)) := by
  induction cs with
  | nil => rw [List.flatMap_nil, readBytes?]; rfl
  | cons c cs ih =>
    rw [List.forall_mem_cons] at hzero
    rw [List.flatMap_cons, List.mem_append, or_imp] at hescapes
    rw [List.flatMap_cons, readBytes?_escapeChar hzero.1 hescapes.1, ih hzero.2 hescapes.2]
    rfl

/-- **The text of a literal**: it is the string that was written, with a letter for each
U+001A. -/
theorem text?_ofString {s : String} (hzero : ∀ c ∈ s.toList, c.toNat ≠ 0) :
    (Token.ofString s).text? = some (String.ofList (s.toList.map readBack)) := by
  have hbytes : readBytes? ((s.toList.flatMap escapeChar).contains '\\')
      (s.toList.flatMap escapeChar) = some (Utf8.encode (s.toList.map readBack)) :=
    readBytes?_flatMap hzero List.contains_iff_mem.2
  have hback : ∀ c ∈ s.toList.map readBack, c.toNat ≠ 0 := by
    rw [List.forall_mem_map]
    intro c hc
    rw [readBack]
    split
    case isTrue => decide
    case isFalse => exact hzero c hc
  have hany : (s.toList.map readBack).any (·.toNat == 0) = false := by
    simpa only [List.any_eq_false, beq_iff_eq] using hback
  simp only [Token.ofString, Token.text?, hbytes, Option.bind_eq_bind, Option.bind_some,
    Utf8.read_encode, Except.toOption, String.toList_ofList, hany]
  rfl

theorem ne_zero_of_text? {t : Token} {s : String} (h : t.text? = some s) :
    ∀ c ∈ s.toList, c.toNat ≠ 0 := by
  cases t with
  | literal hasEscapes body =>
    simp only [Token.text?, Option.bind_eq_bind, Option.bind_eq_some_iff,
      Option.ite_none_left_eq_some, Option.some.injEq] at h
    obtain ⟨_, -, _, -, hany, rfl⟩ := h
    simpa only [List.any_eq_true, beq_iff_eq, not_exists, not_and] using hany
  | _ => cases h

/-- The string has no character of code point zero, which no text of a database has, and none that
is read for another one. -/
def IsKept (s : String) : Prop :=
  ∀ c ∈ s.toList, c.toNat ≠ 0 ∧ c.toNat ≠ 26

-- The instance goes through the characters of the string, not through all that there are.
instance (s : String) : Decidable (IsKept s) :=
  List.decidableBAll (fun c : Char => c.toNat ≠ 0 ∧ c.toNat ≠ 26) s.toList

theorem map_readBack_eq_iff {cs : List Char} :
    cs.map readBack = cs ↔ ∀ c ∈ cs, c.toNat ≠ 26 := by
  have hchar (c : Char) : readBack c = c ↔ c.toNat ≠ 26 := by
    refine ⟨fun hc hsub => ?_, fun hc => if_neg hc⟩
    rw [readBack, if_pos hsub] at hc
    exact absurd (hc ▸ hsub) (by decide)
  induction cs with
  | nil => simp
  | cons c cs ih => simp only [List.map_cons, List.cons.injEq, hchar, ih, List.forall_mem_cons]

/-- **The literal of a string stands for that string**, unless a character is lost. -/
theorem text?_ofString_iff {s : String} : (Token.ofString s).text? = some s ↔ IsKept s := by
  constructor
  · intro h
    have hzero := ne_zero_of_text? h
    rw [text?_ofString hzero, Option.some.injEq, ← String.toList_inj, String.toList_ofList,
      map_readBack_eq_iff] at h
    exact fun c hc => ⟨hzero c hc, h c hc⟩
  · intro h
    have hback := map_readBack_eq_iff.2 fun c hc => (h c hc).2
    rw [text?_ofString fun c hc => (h c hc).1, hback, String.ofList_toList]

/-! ### Statements -/

/-- The literals in the text of a statement are as `R` says, each for the string in its place. -/
def Literals (R : Token → String → Prop) (text : String) (strings : List String) : Prop :=
  ∃ tokens, lex text.toList = some tokens ∧ List.Forall₂ R (tokens.filter Token.isLiteral) strings

theorem literals_iff {R : Token → String → Prop} {text : String} {tokens : List Token}
    {strings : List String} (hlex : lex text.toList = some tokens)
    (hfilter : tokens.filter Token.isLiteral = strings.map Token.ofString) :
    Literals R text strings ↔ ∀ s ∈ strings, R (Token.ofString s) s := by
  rw [Literals, hlex]
  simp [hfilter, List.forall₂_map_left_iff, List.forall₂_same]

end Sql

namespace Plan

open Sql (Literals IsKept)

variable {plan : Plan} {m : Metadata} {r : Parameters} {R : Sql.Token → String → Prop}

theorem literals_count (hvalid : m.ensureValid = .ok ()) (h : build m r = .ok plan) :
    Literals R plan.count.write plan.strings ↔ ∀ s ∈ plan.strings, R (.ofString s) s := by
  refine Sql.literals_iff (Sql.Count.lex_write (isNamed_count hvalid h)) ?_
  rw [Sql.Count.filter_tokens, strings_count]

theorem literals_select (hvalid : m.ensureValid = .ok ()) (h : build m r = .ok plan) :
    Literals R plan.select.write plan.strings ↔ ∀ s ∈ plan.strings, R (.ofString s) s := by
  refine Sql.literals_iff (Sql.Select.lex_write (isNamed_select hvalid h)) ?_
  rw [Sql.Select.filter_tokens, strings_select]

/-- **Literals stand for what was asked for**, unless a character is lost.  What is written for a
string is read as one literal, whatever delimiter comes behind it.  For every string the following
say the same: no character of it is lost; the literal stands for it; in both statements of every plan
for valid metadata, which have one literal for each text and each pattern of the plan, that of the
string stands for it. -/
theorem literals_tfae (s : String) :
    Sql.Reads (Sql.quoteString s) [.ofString s] ∧
      [IsKept s,
        (Sql.Token.ofString s).text? = some s,
        ∀ m r plan, m.ensureValid = .ok () → build m r = .ok plan →
          Literals (fun t other => other = s → t.text? = some s) plan.count.write plan.strings ∧
            Literals (fun t other => other = s → t.text? = some s) plan.select.write
              plan.strings].TFAE := by
  refine ⟨Sql.reads_quoteString s, ?_⟩
  tfae_have 1 ↔ 2 := Sql.text?_ofString_iff.symm
  tfae_have 2 → 3 := by
    intro htext m r plan hvalid h
    rw [literals_count hvalid h, literals_select hvalid h]
    have hall : ∀ other ∈ plan.strings, other = s → (Sql.Token.ofString other).text? = some s := by
      rintro _ - rfl
      exact htext
    exact ⟨hall, hall⟩
  tfae_have 3 → 2 := by
    intro hread
    -- The products of that name.
    have hvalid : Sample.product.ensureValid = .ok () := rfl
    have hclause : Clause.parse (Sample.nameFilter "eq" s) = .ok ⟨"name", .equals, s⟩ :=
      Sample.parse_nameFilter (by decide) (by decide) s
    have hterm : Text.nonBlank? "steel" = some "steel" := by decide
    have h := Sample.build_named hclause hterm
    have hall := (literals_count hvalid h).1 (hread _ _ _ hvalid h).1
    exact hall s List.mem_cons_self rfl
  tfae_finish

/-- A name with U+001A: its literals stand for another name. -/
theorem not_literals_substitute :
    ∃ plan, build Sample.product (Sample.namedRequest "name:EQUALS:a\x1ab" "steel") = .ok plan ∧
      (∀ s ∈ plan.strings, '\x00' ∉ s.toList) ∧
      ¬ Literals (fun t s => t.text? = some s) plan.count.write plan.strings ∧
      ¬ Literals (fun t s => t.text? = some s) plan.select.write plan.strings := by
  have hvalid : Sample.product.ensureValid = .ok () := rfl
  have hclause : Clause.parse "name:EQUALS:a\x1ab" = .ok ⟨"name", .equals, "a\x1ab"⟩ := by decide
  have hterm : Text.nonBlank? "steel" = some "steel" := by decide
  have h := Sample.build_named hclause hterm
  have hlost : ¬ IsKept "a\x1ab" := by decide
  have hname : "a\x1ab" ∈ (Sample.namedPlan "a\x1ab" "steel").strings := by decide
  refine ⟨_, h, by decide, ?_, ?_⟩
  · rw [literals_count hvalid h]
    exact fun hall => hlost (Sql.text?_ofString_iff.1 (hall _ hname))
  · rw [literals_select hvalid h]
    exact fun hall => hlost (Sql.text?_ofString_iff.1 (hall _ hname))

end Plan

end ListQuery
