import ListQuery.Proofs.Time.Timestamp

/-!
# Instants read back from their text

The text of an instant is a timestamp of UTC.  Its year has four digits, as timestamps ask, unless
it is before the year 0 or after the year 9999; then there is a sign, and no timestamp has one.

* `Instant.IsProper`, `Instant.isProper_of_read?` : what is known of instants that are read;
* `Instant.exists_spells_write` : the text of an instant is a timestamp;
* `Instant.read?_write`, `Instant.read?_write_eq_none` : which instants are read back.
-/

namespace ListQuery

namespace Instant

/-! ### Instants of timestamps -/

/-- The nanoseconds are those of a second, or of two at the end of a minute. -/
structure IsProper (t : Instant) : Prop where
  /-- There are fewer than two billions of them. -/
  nanosecond : t.nanosecond < 2000000000
  /-- A second billion is that of a leap second. -/
  leap : 1000000000 ≤ t.nanosecond → t.second % 60 = 59

theorem offset_emod_of_spells {offset : Int} {os : List Char}
    (h : Timestamp.SpellsOffset offset os) : offset % 60 = 0 := by
  have hdistance {n : Nat} {cs : List Char} (h : Timestamp.SpellsDistance n cs) : n % 60 = 0 := by
    cases h
    omega
  cases h with
  | utc => rfl
  | ahead h | behind _ h =>
    have hn := hdistance h
    omega

theorem isProper_of_spells {ts : Timestamp} {cs : List Char} (h : ts.Spells cs) :
    ts.instant.IsProper := by
  cases h with
  | @mk _ _ _ _ _ _ _ fs os _ hvalid _ _ _ _ _ _ _ _ hfs hos =>
    have hoffset := offset_emod_of_spells hos
    have hfraction : Digits.value ts.fraction * 1000000000 / Nat.pow 10 ts.fraction.length <
        1000000000 := by
      have hten : 0 < Nat.pow 10 ts.fraction.length := Nat.pow_pos (by decide)
      rw [Nat.div_lt_iff_lt_mul hten, Nat.mul_comm]
      exact Nat.mul_lt_mul_of_pos_left (Digits.value_lt (isDigit_of_spellsFraction hfs)) (by decide)
    have hsecond := hvalid.second
    constructor
    · simp only [Timestamp.instant]
      split <;> omega
    · simp only [Timestamp.instant]
      split
      · omega
      · omega

theorem isProper_of_read? {s : String} {t : Instant} (h : read? s = some t) : t.IsProper := by
  obtain ⟨ts, hs, rfl⟩ := read?_eq_some_iff.1 h
  exact isProper_of_spells hs

/-! ### Parts of texts -/

theorem spells_padded {width n : Nat} (hwidth : 0 < width) (h : n < Nat.pow 10 width) :
    Digits.Spells width n (padded width n) := by
  have hlength : (Nat.toDigits 10 n).length ≤ width :=
    (Nat.length_toDigits_le_iff (by decide) hwidth).2 h
  refine ⟨?_, ?_, ?_⟩
  · rw [padded, List.length_append, List.length_replicate]
    omega
  · rw [padded, List.forall_mem_append]
    refine ⟨fun c hc => ?_, fun c => Digits.isDigit_toDigits⟩
    rw [List.eq_of_mem_replicate hc]
    decide
  · rw [padded, Digits.value_append, Digits.value_zeros, Digits.value_toDigits, Nat.zero_mul,
      Nat.zero_add]

theorem spells_writeYear {year : Int} (hleast : 0 ≤ year) (hgreatest : year ≤ 9999) :
    Digits.Spells 4 year.toNat (writeYear year) := by
  have hten : Nat.pow 10 4 = 10000 := rfl
  have habs : year.natAbs = year.toNat := by omega
  rw [writeYear, if_neg (by omega), if_neg (by omega), habs]
  exact spells_padded (by decide) (by omega)

theorem exists_spellsFraction (t : Instant) :
    ∃ ds, Timestamp.SpellsFraction ds t.writeFraction ∧
      Digits.value ds * 1000000000 / Nat.pow 10 ds.length = t.fraction := by
  have hlt : t.fraction < 1000000000 := Nat.mod_lt _ (by decide)
  have hpoint {width n : Nat} (hwidth : 0 < width) (hn : n < Nat.pow 10 width)
      (hvalue : n * 1000000000 / Nat.pow 10 width = t.fraction) :
      ∃ ds, Timestamp.SpellsFraction ds ('.' :: padded width n) ∧
        Digits.value ds * 1000000000 / Nat.pow 10 ds.length = t.fraction := by
    have hspells := spells_padded hwidth hn
    have hne : padded width n ≠ [] := by
      rw [← List.length_pos_iff, hspells.length]
      exact hwidth
    refine ⟨padded width n, .point hne hspells.isDigit, ?_⟩
    rw [hspells.value, hspells.length, hvalue]
  have hthree : Nat.pow 10 3 = 1000 := rfl
  have hsix : Nat.pow 10 6 = 1000000 := rfl
  have hnine : Nat.pow 10 9 = 1000000000 := rfl
  simp only [writeFraction]
  split
  case isTrue hzero => exact ⟨[], .none, by rw [hzero]; rfl⟩
  case isFalse =>
    split
    case isTrue hmilli =>
      exact hpoint (by decide) (by omega) (by rw [hthree]; omega)
    case isFalse =>
      split
      case isTrue hmicro =>
        exact hpoint (by decide) (by omega) (by rw [hsix]; omega)
      case isFalse =>
        exact hpoint (by decide) (by omega) (by rw [hnine]; omega)

theorem spellsOffset_zero : Timestamp.SpellsOffset 0 "+00:00".toList := by
  have hzero : Digits.Spells 2 0 ['0', '0'] := ⟨rfl, by simp, rfl⟩
  exact .ahead (.mk hzero hzero (by decide) (by decide))

/-! ### Whole texts -/

theorem toList_write (t : Instant) {n : Nat} (hn : t.second % 86400 = n) :
    t.write.toList = writeYear t.date.year ++ '-' :: (padded 2 t.date.month ++ '-' ::
      (padded 2 t.date.day ++ 'T' :: (padded 2 (n / 3600) ++ ':' :: (padded 2 (n / 60 % 60) ++
        ':' :: (padded 2 (n % 60 + t.nanosecond / 1000000000) ++
          (t.writeFraction ++ "+00:00".toList)))))) := by
  have hsecond : (t.second % secondsPerDay).toNat = n := by
    rw [secondsPerDay, hn, Int.toNat_natCast]
  simp only [write, writeWith, writeDate, writeCivil, writeTime, writeClock, hsecond, billion,
    String.toList_append, String.toList_ofList, List.append_assoc, List.cons_append]

theorem isValid_date (t : Instant) :
    t.date.isValid = true ∧ t.date.month < 100 ∧ t.date.day < 100 := by
  have hvalid : t.date.isValid = true := CivilDate.isValid_ofDay _
  obtain ⟨-, hmonth, -, hday⟩ := CivilDate.isValid_iff.1 hvalid
  have hdays (year : Int) (month : Nat) : CivilDate.daysInMonth year month ≤ 31 := by
    rw [CivilDate.daysInMonth]
    split
    · split <;> decide
    · split <;> decide
  have hday' := Nat.le_trans hday (hdays _ _)
  exact ⟨hvalid, by omega, by omega⟩

/-- **The text of an instant is a timestamp**, which gives the instant, if the year has four
digits. -/
theorem exists_spells_write {t : Instant} (h : t.IsProper) (hleast : 0 ≤ t.date.year)
    (hgreatest : t.date.year ≤ 9999) :
    ∃ ts : Timestamp, ts.Spells t.write.toList ∧ ts.instant = t := by
  obtain ⟨hnanosecond, hleap⟩ := h
  obtain ⟨ds, hds, hfraction⟩ := t.exists_spellsFraction
  obtain ⟨hvalid, hmonth, hday⟩ := t.isValid_date
  have hcount : t.date.toDay = t.second / 86400 := CivilDate.toDay_ofDay _
  have hyear : t.date.year = t.date.year.toNat := by omega
  have htwo {n : Nat} (hn : n < 100) : Digits.Spells 2 n (padded 2 n) :=
    spells_padded (by decide) hn
  -- The second of the day, and the minute and the second that it gives.
  obtain ⟨n, hn⟩ : ∃ n : Nat, t.second % 86400 = n := ⟨(t.second % 86400).toNat, by omega⟩
  have hhour : n / 3600 ≤ 23 := by omega
  have hminute : n / 60 % 60 ≤ 59 := by omega
  have hlast : t.second % 60 = (n % 60 : Nat) := by omega
  have hsecond : n % 60 + t.nanosecond / 1000000000 ≤ 60 := by omega
  let ts : Timestamp := ⟨t.date, n / 3600, n / 60 % 60, n % 60 + t.nanosecond / 1000000000, ds, 0⟩
  have hspells : ts.Spells t.write.toList := by
    rw [t.toList_write hn]
    exact .mk ⟨hvalid, hhour, hminute, hsecond⟩ hyear (spells_writeYear hleast hgreatest)
      (htwo hmonth) (htwo hday) (.inl rfl) (htwo (Nat.lt_of_le_of_lt hhour (by decide)))
      (htwo (Nat.lt_of_le_of_lt hminute (by decide)))
      (htwo (Nat.lt_of_le_of_lt hsecond (by decide))) hds spellsOffset_zero
  have hseconds : ts.instant.second = t.second := by
    have hcut : min (n % 60 + t.nanosecond / 1000000000) 59 = n % 60 := by omega
    simp only [ts, Timestamp.instant, hcut, hcount]
    omega
  have hnanoseconds : ts.instant.nanosecond = t.nanosecond := by
    have hwhole : t.fraction = t.nanosecond % 1000000000 := rfl
    simp only [ts, Timestamp.instant, hfraction, hwhole]
    split <;> omega
  refine ⟨ts, hspells, ?_⟩
  calc ts.instant
    _ = ⟨ts.instant.second, ts.instant.nanosecond⟩ := rfl
    _ = ⟨t.second, t.nanosecond⟩ := by rw [hseconds, hnanoseconds]

/-- **An instant is read back from its text** if its year has four digits. -/
theorem read?_write {t : Instant} (h : t.IsProper) (hleast : 0 ≤ t.date.year)
    (hgreatest : t.date.year ≤ 9999) : read? t.write = some t :=
  read?_eq_some_iff.2 (exists_spells_write h hleast hgreatest)

/-- No timestamp has the sign of a year that has not. -/
theorem read?_write_eq_none {t : Instant} (h : ¬(0 ≤ t.date.year ∧ t.date.year ≤ 9999)) :
    read? t.write = none := by
  obtain ⟨n, hn⟩ : ∃ n : Nat, t.second % 86400 = n := ⟨(t.second % 86400).toNat, by omega⟩
  have hsigned : ∃ c cs, t.write.toList = c :: cs ∧ c.isDigit = false := by
    rw [t.toList_write hn, writeYear]
    split
    case isTrue => exact ⟨'-', _, rfl, rfl⟩
    case isFalse =>
      rw [if_pos (by omega)]
      exact ⟨'+', _, rfl, rfl⟩
  obtain ⟨c, cs, htext, hc⟩ := hsigned
  rw [read?, htext, readChars?, readDate?, takeDigits?]
  simp [hc]

end Instant

end ListQuery
