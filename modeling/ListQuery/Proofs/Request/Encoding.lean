import ListQuery.Proofs.Request.Form
import ListQuery.Proofs.Text.Split

/-!
# Query strings in any encoding

Clients differ in how they write a query string: which characters they leave as they are, whether a
space is a plus, in which case they write digits, whether there is a question mark in front, and
whether there are segments without anything in them.  All of these have the same pairs.

* `Percent.Writes` : bytes as percent signs and digits of either case;
* `Form.Encodes`, `Form.Encodes.decode_eq` : the encodings of a text, which are read as the text;
* `Form.EncodesPair`, `Form.EncodesAll`, `Form.EncodesQuery` : those of pairs;
* `Form.EncodesQuery.pairs_eq` : the pairs of a query string are those that it encodes;
* `Form.exists_encodesQuery` : all pairs can be encoded.
-/

namespace ListQuery

/-! ### Bytes -/

namespace Percent

variable {c : Char} {cs : List Char} {bs : List UInt8}

/-- Each byte is written as a percent sign and two digits, of either case. -/
inductive Writes : List Char → List UInt8 → Prop
  | nil : Writes [] []
  | byte {high low : Char} {a b : Fin 16} {cs : List Char} {bs : List UInt8}
      (hhigh : hexDigit? high = some a) (hlow : hexDigit? low = some b) (hrest : Writes cs bs) :
      Writes ('%' :: high :: low :: cs) (UInt8.ofNat (a.val * 16 + b.val) :: bs)

theorem Writes.decode_append (h : Writes cs bs) (rest : List Char) :
    decode (cs ++ rest) = bs ++ decode rest := by
  induction h with
  | nil => rfl
  | byte hhigh hlow _ ih => simp only [List.cons_append, decode, hhigh, hlow, ih]

theorem Writes.not_mem (h : Writes cs bs) (hsign : c ≠ '%') (hc : hexDigit? c = none) : c ∉ cs := by
  induction h with
  | nil => exact List.not_mem_nil
  | byte hhigh hlow _ ih =>
    have hother {d : Char} {a : Fin 16} (hd : hexDigit? d = some a) : c ≠ d := by
      rintro rfl
      cases hc.symm.trans hd
    simp [hsign, hother hhigh, hother hlow, ih]

variable {digit : Fin 16 → Char} (hdigit : ∀ d, hexDigit? (digit d) = some d)
include hdigit

theorem writes_encode (bs : List UInt8) : Writes (encode digit bs) bs := by
  induction bs with
  | nil => exact .nil
  | cons b bs ih =>
    have hsize := b.toNat_lt
    have hvalue : b.toNat / 16 % 16 * 16 + b.toNat % 16 = b.toNat := by omega
    have hbyte := Writes.byte (hdigit (lastHexDigit (b.toNat / 16)))
      (hdigit (lastHexDigit b.toNat)) ih
    rw [lastHexDigit, lastHexDigit, hvalue, UInt8.ofNat_toNat] at hbyte
    exact hbyte

end Percent

namespace Form

/-! ### Texts -/

section Encodes

variable {cs text : List Char}

/-- The ways to encode a text, character by character. -/
inductive Encodes : List Char → List Char → Prop
  | nil : Encodes [] []
  /-- A character without a meaning of its own stands for itself. -/
  | plain {c : Char} {cs text : List Char} (hc : c ∉ ['&', '+', '%']) (hrest : Encodes cs text) :
      Encodes (c :: cs) (c :: text)
  /-- A plus stands for a space. -/
  | space {cs text : List Char} (hrest : Encodes cs text) : Encodes ('+' :: cs) (' ' :: text)
  /-- A character is written by its bytes. -/
  | bytes {c : Char} {code cs text : List Char} (hcode : Percent.Writes code (Utf8.encodeChar c))
      (hrest : Encodes cs text) : Encodes (code ++ cs) (c :: text)

theorem replaceChar_append (c : Char) (new front back : List Char) :
    Text.replaceChar c new (front ++ back) =
      Text.replaceChar c new front ++ Text.replaceChar c new back :=
  List.flatMap_append

theorem decode_cons_of_ne {c : Char} (hc : c ≠ '%') (cs : List Char) :
    Percent.decode (c :: cs) = Utf8.encodeChar c ++ Percent.decode cs := by
  rw [Percent.decode]
  intro a b rest hsign
  exact absurd hsign hc

/-- An encoding has the bytes of the text. -/
theorem Encodes.decode_replaceChar (h : Encodes cs text) :
    Percent.decode (Text.replaceChar '+' [' '] cs) = Utf8.encode text := by
  induction h with
  | nil => rfl
  | @plain c cs text hc _ ih =>
    simp only [List.mem_cons, List.not_mem_nil, or_false, not_or] at hc
    have hkept : Text.replaceChar '+' [' '] (c :: cs) = c :: Text.replaceChar '+' [' '] cs := by
      rw [Text.replaceChar, List.flatMap_cons, if_neg hc.2.1]
      rfl
    rw [hkept, decode_cons_of_ne hc.2.2, ih]
    rfl
  | @space cs text _ ih =>
    have hspace : Text.replaceChar '+' [' '] ('+' :: cs) = ' ' :: Text.replaceChar '+' [' '] cs :=
      rfl
    rw [hspace, decode_cons_of_ne (by decide), ih]
    rfl
  | @bytes c code cs text hcode _ ih =>
    have hplus : '+' ∉ code := hcode.not_mem (by decide) (by decide)
    rw [replaceChar_append, replaceChar_of_not_mem hplus, hcode.decode_append, ih]
    rfl

/-- **An encoding of a text is read as the text.** -/
theorem Encodes.decode_eq (h : Encodes cs text) : decode cs = String.ofList text := by
  rw [decode, h.decode_replaceChar, Utf8.decode_encode]

theorem Encodes.not_mem (h : Encodes cs text) : '&' ∉ cs := by
  induction h with
  | nil => exact List.not_mem_nil
  | plain hc _ ih =>
    simp only [List.mem_cons, not_or] at hc
    rw [List.mem_cons, not_or]
    exact ⟨Ne.symm hc.1, ih⟩
  | space _ ih => simpa using ih
  | bytes hcode _ ih =>
    rw [List.mem_append, not_or]
    exact ⟨hcode.not_mem (by decide) (by decide), ih⟩

theorem encodes_self {text : String} (h : IsPlain text) : Encodes text.toList text.toList := by
  have hchars : ∀ c ∈ text.toList, c ∉ ['&', '+', '%'] := by
    intro c hc hmem
    simp only [List.mem_cons, List.not_mem_nil, or_false] at hmem
    rcases hmem with rfl | rfl | rfl <;> exact h _ (by decide) hc
  generalize text.toList = cs at hchars
  induction cs with
  | nil => exact .nil
  | cons c cs ih =>
    rw [List.forall_mem_cons] at hchars
    exact .plain hchars.1 (ih hchars.2)

theorem encodes_encode {digit : Fin 16 → Char} (hdigit : ∀ d, hexDigit? (digit d) = some d)
    (text : List Char) : Encodes (Percent.encode digit (Utf8.encode text)) text := by
  induction text with
  | nil => exact .nil
  | cons c text ih =>
    have hcode : Percent.encode digit (Utf8.encode (c :: text)) =
        Percent.encode digit (Utf8.encodeChar c) ++ Percent.encode digit (Utf8.encode text) := by
      rw [Utf8.encode, List.flatMap_cons, Percent.encode, List.flatMap_append]
      rfl
    rw [hcode]
    exact .bytes (Percent.writes_encode hdigit _) ih

end Encodes

/-! ### Pairs -/

variable {segment : List Char} {segments : List (List Char)} {p : String × String}
  {ps : List (String × String)} {query : String}

/-- The ways to encode a name with a value. -/
inductive EncodesPair : List Char → String × String → Prop
  /-- The name ends at the first `=`. -/
  | both {name value : String} {front back : List Char} (hname : Encodes front name.toList)
      (hsign : '=' ∉ front) (hvalue : Encodes back value.toList) :
      EncodesPair (front ++ '=' :: back) (name, value)
  /-- An empty value may be left out, with its `=`. -/
  | alone {name : String} {front : List Char} (hname : Encodes front name.toList)
      (hsign : '=' ∉ front) (hne : front ≠ []) : EncodesPair front (name, "")

theorem EncodesPair.pair_eq (h : EncodesPair segment p) : pair segment = p := by
  cases h with
  | @both name value front back hname hsign hvalue =>
    have hcut : Text.cut? '=' (front ++ '=' :: back) = some (front, back) :=
      Text.cut?_eq_some_iff.2 ⟨rfl, hsign⟩
    simp only [pair, hcut, hname.decode_eq, hvalue.decode_eq, String.ofList_toList]
  | @alone name front hname hsign hne =>
    have hcut : Text.cut? '=' segment = none := Text.cut?_eq_none_iff.2 hsign
    have hempty : decode [] = "" := rfl
    simp only [pair, hcut, hname.decode_eq, hempty, String.ofList_toList]

theorem encodesPair_self {name value : String}
    (hsegment : segment = name.toList ++ '=' :: value.toList)
    (hname : IsPlain name) (hvalue : IsPlain value) : EncodesPair segment (name, value) := by
  subst hsegment
  exact .both (encodes_self hname) (hname '=' (by decide)) (encodes_self hvalue)

theorem EncodesPair.ne_nil (h : EncodesPair segment p) : segment ≠ [] := by
  cases h with
  | both => simp
  | alone _ _ hne => exact hne

theorem EncodesPair.not_mem (h : EncodesPair segment p) : '&' ∉ segment := by
  cases h with
  | both hname _ hvalue =>
    rw [List.mem_append, List.mem_cons, not_or, not_or]
    exact ⟨hname.not_mem, by decide, hvalue.not_mem⟩
  | alone hname => exact hname.not_mem

/-- The segments encode the pairs, one after the other.  There may be empty ones anywhere. -/
inductive EncodesAll : List (List Char) → List (String × String) → Prop
  | nil : EncodesAll [] []
  | empty {segments : List (List Char)} {ps : List (String × String)}
      (hrest : EncodesAll segments ps) : EncodesAll ([] :: segments) ps
  | full {segment : List Char} {p : String × String} {segments : List (List Char)}
      {ps : List (String × String)} (h : EncodesPair segment p) (hrest : EncodesAll segments ps) :
      EncodesAll (segment :: segments) (p :: ps)

theorem EncodesAll.not_mem (h : EncodesAll segments ps) : ∀ segment ∈ segments, '&' ∉ segment := by
  induction h with
  | nil => exact nofun
  | empty _ ih => exact List.forall_mem_cons.2 ⟨List.not_mem_nil, ih⟩
  | full h _ ih => exact List.forall_mem_cons.2 ⟨h.not_mem, ih⟩

theorem EncodesAll.map_pair (h : EncodesAll segments ps) :
    (segments.filter fun s => !s.isEmpty).map pair = ps := by
  induction h with
  | nil => rfl
  | empty _ ih => exact ih
  | @full segment p segments ps h _ ih =>
    have hkept : (segment :: segments).filter (fun s => !s.isEmpty) =
        segment :: segments.filter fun s => !s.isEmpty :=
      List.filter_cons_of_pos (by simp [h.ne_nil])
    rw [hkept, List.map_cons, h.pair_eq, ih]

/-- **The pairs are read from the segments**, however they are encoded. -/
theorem EncodesAll.pairs_eq (h : EncodesAll segments ps) :
    pairs (['&'].intercalate segments) = ps := by
  cases segments with
  | nil =>
    cases h
    rfl
  | cons segment segments =>
    rw [pairs, List.splitOn_intercalate '&' h.not_mem (List.cons_ne_nil _ _), h.map_pair]

/-! ### Query strings -/

/-- The ways to encode pairs in a query string, with ampersands between the segments.  A question
mark in front does not count, so that one that counts is written by its byte. -/
inductive EncodesQuery (ps : List (String × String)) : String → Prop
  | unmarked {segments : List (List Char)} (h : EncodesAll segments ps)
      (hmark : (['&'].intercalate segments).head? ≠ some '?') :
      EncodesQuery ps (String.ofList (['&'].intercalate segments))
  | marked {segments : List (List Char)} (h : EncodesAll segments ps) :
      EncodesQuery ps (String.ofList ('?' :: ['&'].intercalate segments))

theorem dropQuestionMark_eq_self {cs : List Char} (h : cs.head? ≠ some '?') :
    Parameters.dropQuestionMark cs = cs := by
  rw [Parameters.dropQuestionMark]
  rintro rest rfl
  exact h rfl

/-- **The pairs of a query string are those that it encodes.** -/
theorem EncodesQuery.pairs_eq (h : EncodesQuery ps query) :
    pairs (Parameters.dropQuestionMark query.toList) = ps := by
  cases h with
  | unmarked h hmark => rw [String.toList_ofList, dropQuestionMark_eq_self hmark, h.pairs_eq]
  | marked h =>
    rw [String.toList_ofList]
    exact h.pairs_eq

/-- **All pairs can be encoded**, by the bytes of all their characters. -/
theorem exists_encodesQuery (ps : List (String × String)) : ∃ query, EncodesQuery ps query := by
  obtain ⟨segments, h⟩ : ∃ segments, EncodesAll segments ps := by
    induction ps with
    | nil => exact ⟨[], .nil⟩
    | cons p ps ih =>
      obtain ⟨segments, h⟩ := ih
      have hsign : '=' ∉ Percent.encode hexChar (Utf8.encode p.1.toList) :=
        Percent.not_mem_encode hexDigit?_hexChar (by decide) (by decide) _
      exact ⟨_, .full (.both (encodes_encode hexDigit?_hexChar _) hsign
        (encodes_encode hexDigit?_hexChar _)) h⟩
  exact ⟨_, .marked h⟩

end Form

end ListQuery
