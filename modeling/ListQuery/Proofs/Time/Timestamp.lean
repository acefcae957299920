import ListQuery.Proofs.Number.Digits
import ListQuery.Proofs.Time.Calendar
import ListQuery.Time.Instant

/-!
# What timestamps say

A timestamp gives a local date and time of day, a fraction of a second and how far the local time is
ahead of UTC.

* `Timestamp` : these parts, and `Timestamp.instant` : the instant that they give;
* `Timestamp.Spells` : the texts that have them;
* `Instant.readChars?_eq_some_iff` : reading gives the instants of these texts, and of no others.
-/

namespace ListQuery

/-- What a timestamp says. -/
structure Timestamp where
  /-- The local date. -/
  date : CivilDate
  /-- The hour of the local time of day. -/
  hour : Nat
  /-- The minute. -/
  minute : Nat
  /-- The second, `60` being a leap second. -/
  second : Nat
  /-- The digits of the fraction of the second. -/
  fraction : List Char
  /-- How far local time is ahead of UTC, in seconds. -/
  offset : Int

namespace Timestamp

/-- The instant at which a timestamp is right: its second of UTC, and the fraction cut to
nanoseconds.  A leap second is the last second of its minute and one second of fraction more. -/
def instant (ts : Timestamp) : Instant where
  second := ts.date.toDay * 86400 + (ts.hour * 3600 + ts.minute * 60 + min ts.second 59 : Nat) -
    ts.offset
  nanosecond := Digits.value ts.fraction * 1000000000 / Nat.pow 10 ts.fraction.length +
    if ts.second = 60 then 1000000000 else 0

/-! ### Texts -/

/-- The parts of a date and time of day are in range. -/
structure IsValid (ts : Timestamp) : Prop where
  /-- The date is one of the calendar. -/
  date : ts.date.isValid = true
  /-- There are 24 hours. -/
  hour : ts.hour ≤ 23
  /-- An hour has 60 minutes. -/
  minute : ts.minute ≤ 59
  /-- A minute has 60 seconds, and may have one more. -/
  second : ts.second ≤ 60

/-- The digits of a fraction, in a text that has none, or has them behind a point. -/
inductive SpellsFraction : List Char → List Char → Prop
  | none : SpellsFraction [] []
  | point {ds : List Char} (hne : ds ≠ []) (hdigits : ∀ c ∈ ds, c.isDigit = true) :
      SpellsFraction ds ('.' :: ds)

/-- A distance from UTC in seconds, written `hh:mm`. -/
inductive SpellsDistance : Nat → List Char → Prop
  | mk {hour minute : Nat} {hs ms : List Char} (hhour : Digits.Spells 2 hour hs)
      (hminute : Digits.Spells 2 minute ms) (hhour' : hour ≤ 23) (hminute' : minute ≤ 59) :
      SpellsDistance (hour * 3600 + minute * 60) (hs ++ ':' :: ms)

/-- The offset of local time from UTC in seconds, written `Z`, or with a sign. -/
inductive SpellsOffset : Int → List Char → Prop
  | utc {c : Char} (hc : c = 'Z' ∨ c = 'z') : SpellsOffset 0 [c]
  | ahead {n : Nat} {cs : List Char} (h : SpellsDistance n cs) : SpellsOffset n ('+' :: cs)
  | behind {n : Nat} {cs : List Char} {c : Char} (hc : c = '-' ∨ c = Instant.minusSign)
      (h : SpellsDistance n cs) : SpellsOffset (-n) (c :: cs)

/-- The text has the parts of the timestamp. -/
inductive Spells (ts : Timestamp) : List Char → Prop
  | mk {year : Nat} {ys ms ds hs mins ss fs os : List Char} {separator : Char}
      (hvalid : ts.IsValid) (hyear : ts.date.year = year) (hys : Digits.Spells 4 year ys)
      (hms : Digits.Spells 2 ts.date.month ms) (hds : Digits.Spells 2 ts.date.day ds)
      (hseparator : separator = 'T' ∨ separator = 't' ∨ separator = ' ')
      (hhs : Digits.Spells 2 ts.hour hs) (hmins : Digits.Spells 2 ts.minute mins)
      (hss : Digits.Spells 2 ts.second ss) (hfs : SpellsFraction ts.fraction fs)
      (hos : SpellsOffset ts.offset os) :
      Spells ts (ys ++ '-' :: (ms ++ '-' :: (ds ++ separator :: (hs ++ ':' :: (mins ++ ':' ::
        (ss ++ (fs ++ os)))))))

end Timestamp

namespace Instant

variable {cs rest : List Char}

/-! ### Steps of reading -/

theorem takeDigits?_eq_some_iff {width n : Nat} :
    takeDigits? width cs = some (n, rest) ↔
      ∃ ds, cs = ds ++ rest ∧ Digits.Spells width n ds := by
  rw [takeDigits?]
  constructor
  · intro h
    split at h
    case isTrue hdigits =>
      rw [Bool.and_eq_true, decide_eq_true_eq, List.all_eq_true] at hdigits
      cases h
      exact ⟨cs.take width, (List.take_append_drop width cs).symm, hdigits.1, hdigits.2, rfl⟩
    case isFalse => cases h
  · rintro ⟨ds, rfl, hlength, hdigits, hvalue⟩
    subst hlength hvalue
    simpa using hdigits

theorem skip?_eq_some_iff {c : Char} : skip? c cs = some rest ↔ cs = c :: rest := by
  cases cs with
  | nil => simp [skip?]
  | cons d cs =>
    rw [skip?]
    split <;> simp [*]

theorem readDate?_eq_some_iff {date : CivilDate} :
    readDate? cs = some (date, rest) ↔ ∃ (year : Nat) (ys ms ds : List Char),
      cs = ys ++ '-' :: (ms ++ '-' :: (ds ++ rest)) ∧ date.isValid = true ∧ date.year = year ∧
        Digits.Spells 4 year ys ∧ Digits.Spells 2 date.month ms ∧ Digits.Spells 2 date.day ds := by
  simp only [readDate?, Option.bind_eq_bind, Option.bind_eq_some_iff, Prod.exists,
    takeDigits?_eq_some_iff, skip?_eq_some_iff]
  constructor
  · rintro ⟨year, _, ⟨ys, rfl, hys⟩, _, rfl, month, _, ⟨ms, rfl, hms⟩, _, rfl, day, _,
      ⟨ds, rfl, hds⟩, h⟩
    split at h
    case isTrue hvalid =>
      cases h
      exact ⟨year, ys, ms, ds, rfl, hvalid, rfl, hys, hms, hds⟩
    case isFalse => cases h
  · rintro ⟨year, ys, ms, ds, rfl, hvalid, hyear, hys, hms, hds⟩
    obtain ⟨_, month, day⟩ := date
    cases hyear
    exact ⟨year, _, ⟨ys, rfl, hys⟩, _, rfl, month, _, ⟨ms, rfl, hms⟩, _, rfl, day, _,
      ⟨ds, rfl, hds⟩, if_pos hvalid⟩

theorem skipSeparator?_eq_some_iff :
    skipSeparator? cs = some rest ↔ ∃ c, (c = 'T' ∨ c = 't' ∨ c = ' ') ∧ cs = c :: rest := by
  cases cs with
  | nil => simp [skipSeparator?]
  | cons c cs =>
    simp only [skipSeparator?, Bool.or_eq_true, decide_eq_true_eq, or_assoc, List.cons.injEq]
    split
    case isTrue h =>
      rw [Option.some.injEq]
      exact ⟨fun hrest => ⟨c, h, rfl, hrest⟩, fun ⟨_, _, _, hrest⟩ => hrest⟩
    case isFalse h =>
      refine iff_of_false nofun ?_
      rintro ⟨_, hc, rfl, -⟩
      exact h hc

theorem readDistance?_eq_some_iff {n : Int} :
    readDistance? cs = some (n, rest) ↔
      ∃ (d : Nat) (ds : List Char), cs = ds ++ rest ∧ Timestamp.SpellsDistance d ds ∧ n = d := by
  simp only [readDistance?, Option.bind_eq_bind, Option.bind_eq_some_iff, Prod.exists,
    takeDigits?_eq_some_iff, skip?_eq_some_iff]
  constructor
  · rintro ⟨hour, _, ⟨hs, rfl, hhs⟩, _, rfl, minute, _, ⟨ms, rfl, hms⟩, h⟩
    split at h
    case isTrue hrange =>
      rw [Bool.and_eq_true, decide_eq_true_eq, decide_eq_true_eq] at hrange
      cases h
      exact ⟨_, _, by simp, ⟨hhs, hms, hrange.1, hrange.2⟩, by push_cast; rfl⟩
    case isFalse => cases h
  · rintro ⟨_, _, rfl, ⟨hhs, hms, hhour, hminute⟩, rfl⟩
    refine ⟨_, _, ⟨_, List.append_assoc .., hhs⟩, _, rfl, _, _, ⟨_, rfl, hms⟩, ?_⟩
    rw [if_pos (by simp [hhour, hminute])]
    push_cast
    rfl

theorem readOffset?_eq_some_iff {offset : Int} :
    readOffset? cs = some (offset, rest) ↔
      ∃ os, cs = os ++ rest ∧ Timestamp.SpellsOffset offset os := by
  constructor
  · intro h
    cases cs with
    | nil => cases h
    | cons c cs =>
      simp only [readOffset?, Bool.or_eq_true, decide_eq_true_eq] at h
      split at h
      case isTrue hc =>
        cases h
        exact ⟨[c], rfl, .utc hc⟩
      case isFalse =>
        split at h
        case isTrue hc =>
          obtain ⟨n, ds, rfl, hds, rfl⟩ := readDistance?_eq_some_iff.1 h
          exact ⟨c :: ds, rfl, hc ▸ .ahead hds⟩
        case isFalse =>
          split at h
          case isTrue hc =>
            obtain ⟨⟨_, _⟩, hdistance, hp⟩ := Option.map_eq_some_iff.1 h
            obtain ⟨n, ds, rfl, hds, rfl⟩ := readDistance?_eq_some_iff.1 hdistance
            cases hp
            exact ⟨c :: ds, rfl, .behind hc hds⟩
          case isFalse => cases h
  · rintro ⟨_, rfl, hos⟩
    cases hos with
    | utc hc => obtain rfl | rfl := hc <;> rfl
    | @ahead n ds h =>
      have hdistance : readDistance? (ds ++ rest) = some ((n : Int), rest) :=
        readDistance?_eq_some_iff.2 ⟨n, ds, rfl, h, rfl⟩
      simp [readOffset?, hdistance]
    | @behind n ds c hc h =>
      have hdistance : readDistance? (ds ++ rest) = some ((n : Int), rest) :=
        readDistance?_eq_some_iff.2 ⟨n, ds, rfl, h, rfl⟩
      obtain rfl | rfl := hc <;> simp [readOffset?, minusSign, hdistance]

/-! ### Fractions -/

/-- A text in front of which a fraction can end. -/
def EndsFraction (rest : List Char) : Prop :=
  ∀ c, rest.head? = some c → c.isDigit = false ∧ c ≠ '.'

theorem endsFraction_of_spellsOffset {offset : Int} {os : List Char}
    (h : Timestamp.SpellsOffset offset os) : EndsFraction os := by
  intro d hd
  cases h with
  | utc hc => obtain rfl | rfl := hc <;> cases hd <;> decide
  | ahead => cases hd; decide
  | behind hc => obtain rfl | rfl := hc <;> cases hd <;> decide

theorem readFraction?_append {ds fs : List Char} (h : Timestamp.SpellsFraction ds fs)
    (hrest : EndsFraction rest) : readFraction? (fs ++ rest) = some (fractionOf ds, rest) := by
  cases h with
  | none =>
    rw [List.nil_append]
    unfold readFraction?
    split
    case h_1 => exact absurd rfl (hrest '.' rfl).2
    case h_2 => rfl
  | point hne hdigits =>
    have htake : (ds ++ rest).takeWhile Char.isDigit = ds := by
      rw [List.takeWhile_append_of_pos hdigits]
      cases rest with
      | nil => simp
      | cons c rest => rw [List.takeWhile_cons_of_neg (by simp [(hrest c rfl).1]), List.append_nil]
    have hdrop : (ds ++ rest).dropWhile Char.isDigit = rest := by
      rw [List.dropWhile_append_of_pos hdigits]
      cases rest with
      | nil => rfl
      | cons c rest => rw [List.dropWhile_cons_of_neg (by simp [(hrest c rfl).1])]
    simp [readFraction?, htake, hdrop, hne]

theorem exists_of_readFraction? {n : Nat} (h : readFraction? cs = some (n, rest)) :
    ∃ ds fs, cs = fs ++ rest ∧ Timestamp.SpellsFraction ds fs ∧ n = fractionOf ds := by
  unfold readFraction? at h
  split at h
  case h_1 cs =>
    dsimp only at h
    split at h
    case isTrue => cases h
    case isFalse hne =>
      rw [List.isEmpty_iff] at hne
      cases h
      refine ⟨_, _, ?_, .point hne (List.all_eq_true.1 List.all_takeWhile), rfl⟩
      rw [List.cons_append, List.takeWhile_append_dropWhile]
  case h_2 =>
    cases h
    exact ⟨[], [], rfl, .none, rfl⟩

/-- The nanoseconds of a fraction, what is less than one being cut off. -/
theorem fractionOf_eq {ds : List Char} (h : ∀ c ∈ ds, c.isDigit = true) :
    fractionOf ds = Digits.value ds * 1000000000 / Nat.pow 10 ds.length := by
  have hbillion : 1000000000 = 10 ^ 9 := rfl
  simp only [fractionOf, Nat.pow_eq, hbillion]
  obtain hshort | hlong := Nat.le_total ds.length 9
  · have hpow : 10 ^ 9 = 10 ^ (9 - ds.length) * 10 ^ ds.length := by
      rw [← Nat.pow_add, Nat.sub_add_cancel hshort]
    rw [List.take_of_length_le hshort, hpow, ← Nat.mul_assoc,
      Nat.mul_div_cancel _ (Nat.pow_pos (by decide))]
  · have hpow : 10 ^ ds.length = 10 ^ (ds.drop 9).length * 10 ^ 9 := by
      rw [← Nat.pow_add, List.length_drop, Nat.sub_add_cancel hlong]
    have hcut := Digits.value_append (ds.take 9) (ds.drop 9)
    have hrest : Digits.value (ds.drop 9) < 10 ^ (ds.drop 9).length :=
      Digits.value_lt fun c hc => h c (List.mem_of_mem_drop hc)
    rw [List.take_append_drop, Nat.pow_eq] at hcut
    rw [hpow, Nat.mul_div_mul_right _ _ (Nat.pow_pos (by decide)), hcut,
      Nat.mul_comm _ (10 ^ (ds.drop 9).length), Nat.mul_add_div (Nat.pow_pos (by decide)),
      Nat.div_eq_of_lt hrest, List.length_take, Nat.min_eq_left hlong, Nat.sub_self, Nat.pow_zero,
      Nat.mul_one, Nat.add_zero]

/-! ### Whole timestamps -/

theorem timeOfDay?_eq_some_iff {hour minute second nanosecond : Nat} {time : Nat × Nat} :
    timeOfDay? hour minute second nanosecond = some time ↔
      hour ≤ 23 ∧ minute ≤ 59 ∧ second ≤ 60 ∧ time = (hour * 3600 + minute * 60 + min second 59,
        nanosecond + if second = 60 then 1000000000 else 0) := by
  simp only [timeOfDay?, Bool.and_eq_true, decide_eq_true_eq, and_assoc]
  split
  case isTrue h =>
    have hminutes : min second 59 = if second = 60 then 59 else second := by
      split <;> omega
    simp only [h, true_and, hminutes, billion]
    split <;> simp [eq_comm]
  case isFalse h =>
    refine iff_of_false nofun ?_
    rintro ⟨hhour, hminute, hsecond, -⟩
    exact h ⟨hhour, hminute, hsecond⟩

theorem ofLocal_eq (ts : Timestamp) (h : ∀ c ∈ ts.fraction, c.isDigit = true) :
    ofLocal ts.date (ts.hour * 3600 + ts.minute * 60 + min ts.second 59,
      fractionOf ts.fraction + if ts.second = 60 then 1000000000 else 0) ts.offset =
        ts.instant := by
  rw [fractionOf_eq h]
  rfl

theorem isDigit_of_spellsFraction {ds fs : List Char} (h : Timestamp.SpellsFraction ds fs) :
    ∀ c ∈ ds, c.isDigit = true := by
  cases h with
  | none => exact nofun
  | point _ hdigits => exact hdigits

/-- **Reading gives the instants of the texts that spell timestamps**, and of no others. -/
theorem readChars?_eq_some_iff {t : Instant} :
    readChars? cs = some t ↔ ∃ ts : Timestamp, ts.Spells cs ∧ ts.instant = t := by
  simp only [readChars?, readTime?, Option.bind_eq_bind, Option.bind_eq_some_iff, Prod.exists,
    readDate?_eq_some_iff, skipSeparator?_eq_some_iff, takeDigits?_eq_some_iff,
    skip?_eq_some_iff, timeOfDay?_eq_some_iff, readOffset?_eq_some_iff]
  constructor
  · rintro ⟨date, _, ⟨year, ys, ms, ds, rfl, hdate, hyear, hys, hms, hds⟩, _,
      ⟨separator, hseparator, rfl⟩, _, _, _, ⟨hour, _, ⟨hs, rfl, hhs⟩, _, rfl, minute, _,
      ⟨mins, rfl, hmins⟩, _, rfl, second, _, ⟨ss, rfl, hss⟩, nanosecond, _, hfraction, _, _,
      ⟨hhour, hminute, hsecond, htime⟩, h⟩, offset, _, ⟨os, rfl, hos⟩, hend⟩
    obtain ⟨fraction, fs, rfl, hfs, rfl⟩ := exists_of_readFraction? hfraction
    cases htime
    cases h
    split at hend
    case isTrue hempty =>
      rw [List.isEmpty_iff] at hempty
      subst hempty
      cases hend
      rw [List.append_nil]
      refine ⟨⟨date, hour, minute, second, fraction, offset⟩, .mk ⟨hdate, hhour, hminute, hsecond⟩
        hyear hys hms hds hseparator hhs hmins hss hfs hos, ?_⟩
      exact (ofLocal_eq _ (isDigit_of_spellsFraction hfs)).symm
    case isFalse => cases hend
  · rintro ⟨ts, hspells, rfl⟩
    cases hspells with
    | @mk year ys ms ds hs mins ss fs os separator hvalid hyear hys hms hds hseparator hhs hmins
        hss hfs hos =>
      have hfraction := readFraction?_append hfs (endsFraction_of_spellsOffset hos)
      refine ⟨ts.date, _, ⟨year, ys, ms, ds, rfl, hvalid.date, hyear, hys, hms, hds⟩, _,
        ⟨separator, hseparator, rfl⟩, _, _, _, ⟨ts.hour, _, ⟨hs, rfl, hhs⟩, _, rfl, ts.minute, _,
        ⟨mins, rfl, hmins⟩, _, rfl, ts.second, _, ⟨ss, rfl, hss⟩, _, _, hfraction, _, _,
        ⟨hvalid.hour, hvalid.minute, hvalid.second, rfl⟩, rfl⟩, ts.offset, [],
        ⟨os, (List.append_nil os).symm, hos⟩, ?_⟩
      rw [← ofLocal_eq ts (isDigit_of_spellsFraction hfs)]
      rfl

theorem read?_eq_some_iff {s : String} {t : Instant} :
    read? s = some t ↔ ∃ ts : Timestamp, ts.Spells s.toList ∧ ts.instant = t :=
  readChars?_eq_some_iff

end Instant

end ListQuery
