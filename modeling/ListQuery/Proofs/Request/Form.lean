import ListQuery.Proofs.Text.Utf8
import ListQuery.Request.Form
import Mathlib.Data.List.Basic

/-!
# Query strings read back what they write

A query string in which every byte of every value is written with a percent sign has the pairs that
it was written from, whatever the values are.

* `Percent.encode`, `Percent.decode_encode` : bytes as percent signs and digits, read back;
* `Form.write` : the query string of names and values;
* `Form.pairs_write` : its pairs are the names and values.
-/

namespace ListQuery

/-! ### Bytes -/

namespace Percent

/-- The text in which every byte is written as a percent sign and two digits. -/
def encode (digit : Fin 16 → Char) (bs : List UInt8) : List Char :=
  bs.flatMap fun b => ['%', digit (lastHexDigit (b.toNat / 16)), digit (lastHexDigit b.toNat)]

theorem decode_of_not_mem {cs : List Char} (h : '%' ∉ cs) : decode cs = Utf8.encode cs := by
  induction cs with
  | nil => rfl
  | cons c cs ih =>
    rw [List.mem_cons, not_or] at h
    have hstep : decode (c :: cs) = Utf8.encodeChar c ++ decode cs := by
      rw [decode]
      intro a b rest hsign
      exact absurd hsign.symm h.1
    rw [hstep, ih h.2, Utf8.encode, Utf8.encode, List.flatMap_cons]

variable {digit : Fin 16 → Char} (hdigit : ∀ d, hexDigit? (digit d) = some d)
include hdigit

/-- **Bytes are read back** from percent signs and digits. -/
theorem decode_encode (bs : List UInt8) : decode (encode digit bs) = bs := by
  induction bs with
  | nil => rfl
  | cons b bs ih =>
    have hbyte : UInt8.ofNat ((lastHexDigit (b.toNat / 16)).val * 16 +
        (lastHexDigit b.toNat).val) = b := by
      have hsize := b.toNat_lt
      have hvalue : b.toNat / 16 % 16 * 16 + b.toNat % 16 = b.toNat := by omega
      rw [lastHexDigit, lastHexDigit, hvalue]
      exact UInt8.ofNat_toNat
    rw [encode, List.flatMap_cons, ← encode]
    simp only [List.cons_append, List.nil_append, decode, hdigit, hbyte, ih]

theorem not_mem_encode {c : Char} (hsign : c ≠ '%') (hc : hexDigit? c = none) (bs : List UInt8) :
    c ∉ encode digit bs := by
  intro hmem
  obtain ⟨b, -, hmem⟩ := List.mem_flatMap.1 hmem
  have hother (d : Fin 16) : c ≠ digit d := by
    rintro rfl
    cases (hdigit d).symm.trans hc
  simp [hsign, hother] at hmem

end Percent

/-! ### Pairs -/

namespace Form

/-- A name with a value, every byte of the value being written with a percent sign. -/
def writePair (digit : Fin 16 → Char) (pair : String × String) : List Char :=
  pair.1.toList ++ '=' :: Percent.encode digit (Utf8.encode pair.2.toList)

/-- The query string of names and values. -/
def write (digit : Fin 16 → Char) (pairs : List (String × String)) : List Char :=
  ['&'].intercalate (pairs.map (writePair digit))

/-- A name without the characters that have a meaning in a query string. -/
def IsPlain (name : String) : Prop :=
  ∀ c ∈ ['&', '=', '+', '%'], c ∉ name.toList

instance (name : String) : Decidable (IsPlain name) :=
  List.decidableBAll (fun c => c ∉ name.toList) ['&', '=', '+', '%']

theorem replaceChar_of_not_mem {c : Char} {cs new : List Char} (h : c ∉ cs) :
    Text.replaceChar c new cs = cs := by
  rw [Text.replaceChar]
  induction cs with
  | nil => rfl
  | cons d cs ih =>
    rw [List.mem_cons, not_or] at h
    rw [List.flatMap_cons, if_neg (Ne.symm h.1), ih h.2]
    rfl

theorem decode_of_isPlain {name : String} (h : IsPlain name) : decode name.toList = name := by
  rw [decode, replaceChar_of_not_mem (h '+' (by decide)),
    Percent.decode_of_not_mem (h '%' (by decide)), Utf8.decode_encode, String.ofList_toList]

variable {digit : Fin 16 → Char} (hdigit : ∀ d, hexDigit? (digit d) = some d)
include hdigit

/-- A value is read back from its bytes. -/
theorem decode_encode (value : String) :
    decode (Percent.encode digit (Utf8.encode value.toList)) = value := by
  have hplus : '+' ∉ Percent.encode digit (Utf8.encode value.toList) :=
    Percent.not_mem_encode hdigit (by decide) (by decide) _
  rw [decode, replaceChar_of_not_mem hplus, Percent.decode_encode hdigit, Utf8.decode_encode,
    String.ofList_toList]

theorem pair_writePair {p : String × String} (h : IsPlain p.1) : pair (writePair digit p) = p := by
  have hcut : Text.cut? '=' (writePair digit p) =
      some (p.1.toList, Percent.encode digit (Utf8.encode p.2.toList)) :=
    Text.cut?_eq_some_iff.2 ⟨rfl, h '=' (by decide)⟩
  simp only [pair, hcut, decode_of_isPlain h, decode_encode hdigit]

theorem not_mem_writePair {p : String × String} (h : IsPlain p.1) : '&' ∉ writePair digit p := by
  rw [writePair, List.mem_append, List.mem_cons, not_or, not_or]
  exact ⟨h '&' (by decide), by decide, Percent.not_mem_encode hdigit (by decide) (by decide) _⟩

/-- **The pairs of a query string are those that it was written from**, whatever the values are. -/
theorem pairs_write {ps : List (String × String)} (h : ∀ p ∈ ps, IsPlain p.1) :
    pairs (write digit ps) = ps := by
  cases ps with
  | nil => rfl
  | cons p ps =>
    have hsegments : (write digit (p :: ps)).splitOn '&' = (p :: ps).map (writePair digit) := by
      refine List.splitOn_intercalate '&' (fun segment hsegment => ?_) (List.cons_ne_nil _ _)
      obtain ⟨q, hq, rfl⟩ := List.mem_map.1 hsegment
      exact not_mem_writePair hdigit (h q hq)
    have hfull : ∀ segment ∈ (p :: ps).map (writePair digit), (!segment.isEmpty) = true := by
      intro segment hsegment
      obtain ⟨q, -, rfl⟩ := List.mem_map.1 hsegment
      simp [writePair]
    have hread : ∀ q ∈ p :: ps, (pair ∘ writePair digit) q = q := fun q hq =>
      pair_writePair hdigit (h q hq)
    rw [pairs, hsegments, List.filter_eq_self.2 hfull, List.map_map, List.map_congr_left hread,
      List.map_id']

end Form

end ListQuery
