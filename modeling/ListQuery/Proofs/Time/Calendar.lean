import ListQuery.Time.Calendar
import Mathlib.Tactic.IntervalCases

/-!
# Days of the calendar, one after the other

* `CivilDate.next` : the day after a date, month by month;
* `CivilDate.isDayCount_toDay` : the numbers of days count them so;
* `CivilDate.exists_ofDay_eq` : the year, starting in March, that a day belongs to;
* `CivilDate.isValid_ofDay`, `CivilDate.toDay_ofDay` : each number is that of a date.
-/

namespace ListQuery

namespace CivilDate

theorem isValid_iff {d : CivilDate} :
    d.isValid = true ↔
      1 ≤ d.month ∧ d.month ≤ 12 ∧ 1 ≤ d.day ∧ d.day ≤ daysInMonth d.year d.month := by
  simp [isValid, and_assoc]

/-! ### Years and months from March on -/

/-- The year that starts in March and has the month. -/
def marchYear (year : Int) (month : Nat) : Int :=
  if month ≤ 2 then year - 1 else year

/-- The number of months from March to the month. -/
def sinceMarch (month : Nat) : Int :=
  if month ≤ 2 then month + 9 else month - 3

theorem toDay_eq (d : CivilDate) :
    d.toDay = daysBeforeYear (marchYear d.year d.month) + daysBeforeMonth (sinceMarch d.month) +
      (d.day - 1) - epochDay :=
  rfl

/-- A year that starts in March has the leap day of the calendar year that it ends in. -/
theorem daysBeforeYear_succ (year : Int) :
    daysBeforeYear (year + 1) =
      daysBeforeYear year + if isLeapYear (year + 1) then 366 else 365 := by
  have hleap : isLeapYear (year + 1) = true ↔
      (year + 1) % 4 = 0 ∧ ((year + 1) % 100 ≠ 0 ∨ (year + 1) % 400 = 0) := by
    simp [isLeapYear]
  simp only [hleap, daysBeforeYear]
  split <;> omega

theorem marchYear_succ (year : Int) {month : Nat} (h : month ≠ 2) :
    marchYear year (month + 1) = marchYear year month := by
  have hle : month + 1 ≤ 2 ↔ month ≤ 2 := by omega
  simp only [marchYear, hle]

theorem sinceMarch_succ {month : Nat} (h : month ≠ 2) (hmonth : 1 ≤ month) :
    sinceMarch (month + 1) = sinceMarch month + 1 := by
  simp only [sinceMarch]
  split <;> split <;> omega

/-- The months behind one, and this one, but for February, which ends the year. -/
theorem daysBeforeMonth_succ (year : Int) {month : Nat} (hmonth : 1 ≤ month) (hmonth' : month ≤ 12)
    (hfebruary : month ≠ 2) :
    daysBeforeMonth (sinceMarch month + 1) =
      daysBeforeMonth (sinceMarch month) + daysInMonth year month := by
  interval_cases month <;> first | rfl | contradiction

/-! ### Counting -/

/-- The day after `d`. -/
def next (d : CivilDate) : CivilDate :=
  if d.day < daysInMonth d.year d.month then ⟨d.year, d.month, d.day + 1⟩
  else if d.month < 12 then ⟨d.year, d.month + 1, 1⟩
  else ⟨d.year + 1, 1, 1⟩

/-- Days are counted one by one from 1970-01-01. -/
structure IsDayCount (day : CivilDate → Int) : Prop where
  /-- The count starts there. -/
  epoch : day ⟨1970, 1, 1⟩ = 0
  /-- The next day has the next number. -/
  next : ∀ d : CivilDate, d.isValid = true → day d.next = day d + 1

/-- **The numbers of days count them one by one.** -/
theorem isDayCount_toDay : IsDayCount toDay where
  epoch := by decide
  next d h := by
    obtain ⟨year, month, day⟩ := d
    obtain ⟨hmonth, hmonth', -, hday⟩ := isValid_iff.1 h
    dsimp only at hmonth hmonth' hday
    simp only [next]
    split
    case isTrue =>
      simp only [toDay_eq]
      omega
    case isFalse hlast =>
      have hlast : day = daysInMonth year month := by omega
      by_cases hfebruary : month = 2
      · -- The next day starts a year.
        subst hfebruary
        have hyear := daysBeforeYear_succ (year - 1)
        rw [Int.sub_add_cancel] at hyear
        have hmarch : toDay ⟨year, 3, 1⟩ = daysBeforeYear year - epochDay := by
          simp [toDay, daysBeforeMonth]
        have hday : toDay ⟨year, 2, day⟩ =
            daysBeforeYear (year - 1) + 337 + (day - 1) - epochDay := by
          simp [toDay, daysBeforeMonth]
        rw [if_pos (by decide), hmarch, hday, hyear, hlast, daysInMonth]
        split <;> simp only [if_true] <;> omega
      · have hnext := daysBeforeMonth_succ year hmonth hmonth' hfebruary
        rw [← hlast] at hnext
        split
        case isTrue hdecember =>
          simp only [toDay_eq, marchYear_succ year hfebruary, sinceMarch_succ hfebruary hmonth,
            hnext]
          omega
        case isFalse hdecember =>
          obtain rfl : month = 12 := by omega
          have hjanuary : sinceMarch 1 = sinceMarch 12 + 1 := rfl
          have hyear : marchYear (year + 1) 1 = marchYear year 12 := Int.add_sub_cancel ..
          simp only [toDay_eq, hjanuary, hyear, hnext]
          omega

/-! ### Dates of numbers -/

/-- The date that is `day` days behind the start, in March, of a year. -/
def ofDayOfYear (year day : Int) : CivilDate :=
  let month := (5 * day + 2) / 153
  let date := day - daysBeforeMonth month + 1
  if month < 10 then ⟨year, (month + 3).toNat, date.toNat⟩
  else ⟨year + 1, (month - 9).toNat, date.toNat⟩

/-- The days before a year of an era, by century, group of four years and year of the group. -/
theorem daysBeforeYear_eq {century group year : Int} (hcentury : 0 ≤ century ∧ century ≤ 3)
    (hgroup : 0 ≤ group ∧ group ≤ 24) (hyear : 0 ≤ year ∧ year ≤ 3) :
    daysBeforeYear (100 * century + 4 * group + year) =
      36524 * century + 1461 * group + 365 * year := by
  have h4 : (100 * century + 4 * group + year) / 4 = 25 * century + group := by omega
  have h100 : (100 * century + 4 * group + year) / 100 = century := by omega
  have h400 : (100 * century + 4 * group + year) / 400 = 0 := by omega
  rw [daysBeforeYear, h4, h100, h400]
  omega

/-- A day of an era by century, group of four years and day of the group.  The last day of the era
is one more day of its last century. -/
theorem exists_dayOfGroup {day : Int} (hday : 0 ≤ day ∧ day < 146097) :
    ∃ century group rest : Int, day = 36524 * century + 1461 * group + rest ∧
      (0 ≤ century ∧ century ≤ 3) ∧ (0 ≤ group ∧ group ≤ 24) ∧ (0 ≤ rest ∧ rest ≤ 1460) ∧
        (rest = 1460 → group ≤ 23 ∨ century = 3) ∧ day / 36524 - day / 146096 = century := by
  by_cases hlast : day = 146096
  · exact ⟨3, 24, 1460, by omega⟩
  · exact ⟨day / 36524, day % 36524 / 1461, day % 36524 % 1461, by omega⟩

/-- The last year of a group of four is a leap year, unless its century ends with it; that of an era
is one again. -/
theorem isLeapYear_group {century group : Int} (hgroup : 0 ≤ group ∧ group ≤ 24)
    (h : group ≤ 23 ∨ century = 3) :
    isLeapYear (100 * century + 4 * group + 3 + 1) = true := by
  simp only [isLeapYear, Bool.and_eq_true, Bool.or_eq_true, beq_iff_eq, bne_iff_ne]
  omega

/-- The days of an era without one for each leap day before. -/
theorem sub_leapDays_eq {century group rest day : Int}
    (hparts : day = 36524 * century + 1461 * group + rest)
    (hcentury : 0 ≤ century ∧ century ≤ 3) (hgroup : 0 ≤ group ∧ group ≤ 24)
    (hrest : 0 ≤ rest ∧ rest ≤ 1460) (hcount : day / 36524 - day / 146096 = century) :
    ∃ year, (day - day / 1460 + day / 36524 - day / 146096) / 365 =
      100 * century + 4 * group + year ∧ (0 ≤ year ∧ year ≤ 3) ∧ 365 * year ≤ rest ∧
        (rest < 365 * (year + 1) ∨ year = 3) := by
  obtain ⟨more, hmore, hlate⟩ : ∃ more, day / 1460 = 25 * century + group + more ∧
      (more = 0 ∧ rest ≤ 1459 ∨ more = 1 ∧ 1364 ≤ rest) :=
    ⟨(24 * century + group + rest) / 1460, by omega, by omega⟩
  refine ⟨(rest - more) / 365, ?_, by omega, by omega, by omega⟩
  rw [hmore]
  generalize day / 36524 = late, day / 146096 = last at hcount ⊢
  clear hmore
  omega

/-- The year of an era that a day belongs to. -/
theorem exists_yearOfEra {day : Int} (hday : 0 ≤ day ∧ day < 146097) :
    ∃ year, (day - day / 1460 + day / 36524 - day / 146096) / 365 = year ∧
      daysBeforeYear year ≤ day ∧ day < daysBeforeYear (year + 1) := by
  obtain ⟨century, group, rest, hparts, hcentury, hgroup, hrest, hleap, hcount⟩ :=
    exists_dayOfGroup hday
  obtain ⟨year, hquotient, hyear, hfrom, huntil⟩ :=
    sub_leapDays_eq hparts hcentury hgroup hrest hcount
  have hbefore := daysBeforeYear_eq hcentury hgroup hyear
  clear hcount
  refine ⟨_, hquotient, by omega, ?_⟩
  rw [daysBeforeYear_succ, hbefore, hparts]
  clear hquotient hbefore
  by_cases hfull : rest = 1460
  · obtain rfl : year = 3 := by omega
    rw [if_pos (isLeapYear_group hgroup (hleap hfull))]
    omega
  · split <;> omega

theorem daysBeforeYear_era (era year : Int) :
    daysBeforeYear (era * 400 + year) = era * 146097 + daysBeforeYear year := by
  simp only [daysBeforeYear]
  omega

/-- **The year, starting in March, that a day belongs to.** -/
theorem exists_ofDay_eq (n : Int) : ∃ year day, ofDay n = ofDayOfYear year day ∧
    n + epochDay = daysBeforeYear year + day ∧ 0 ≤ day ∧
      daysBeforeYear year + day < daysBeforeYear (year + 1) := by
  have hday : 0 ≤ (n + epochDay) % 146097 ∧ (n + epochDay) % 146097 < 146097 := by omega
  obtain ⟨year, hyear, hleast, hnext⟩ := exists_yearOfEra hday
  have hera := Int.mul_ediv_add_emod (n + epochDay) 146097
  have hnext' := daysBeforeYear_era ((n + epochDay) / 146097) (year + 1)
  rw [← Int.add_assoc] at hnext'
  refine ⟨(n + epochDay) / 146097 * 400 + year, (n + epochDay) % 146097 - daysBeforeYear year, ?_⟩
  rw [daysBeforeYear_era, hnext', ofDay, hyear]
  exact ⟨rfl, by omega, by omega, by omega⟩

theorem exists_month {day : Int} (hday : 0 ≤ day ∧ day ≤ 365) :
    ∃ month : Nat, (1 ≤ month ∧ month ≤ 12) ∧ (5 * day + 2) / 153 = sinceMarch month ∧
      daysBeforeMonth (sinceMarch month) ≤ day ∧
        day < daysBeforeMonth (sinceMarch month + 1) := by
  obtain ⟨index, hindex⟩ : ∃ index, (5 * day + 2) / 153 = index := ⟨_, rfl⟩
  have hbounds : daysBeforeMonth index ≤ day ∧ day < daysBeforeMonth (index + 1) := by
    simp only [daysBeforeMonth]
    omega
  have hsince : sinceMarch (if index < 10 then index + 3 else index - 9).toNat = index := by
    simp only [sinceMarch]
    split <;> split <;> omega
  refine ⟨(if index < 10 then index + 3 else index - 9).toNat, ?_, ?_⟩
  · split <;> omega
  · rw [hsince]
    exact ⟨hindex, hbounds⟩

theorem ofDayOfYear_eq (year : Int) {day : Int} {month : Nat} (hmonth : 1 ≤ month ∧ month ≤ 12)
    (h : (5 * day + 2) / 153 = sinceMarch month) :
    (ofDayOfYear year day).month = month ∧
      marchYear (ofDayOfYear year day).year month = year ∧
      (ofDayOfYear year day).day = (day - daysBeforeMonth (sinceMarch month) + 1).toNat := by
  simp only [ofDayOfYear, h, sinceMarch, marchYear]
  split <;> split <;> simp <;> omega

variable {year day : Int} (hleast : 0 ≤ day)
  (hnext : daysBeforeYear year + day < daysBeforeYear (year + 1))
include hleast hnext

theorem isValid_ofDayOfYear : (ofDayOfYear year day).isValid = true := by
  have hlength := daysBeforeYear_succ year
  have hday : 0 ≤ day ∧ day ≤ 365 := by
    split at hlength <;> omega
  obtain ⟨month, hmonth, hindex, hfrom, huntil⟩ := exists_month hday
  obtain ⟨hdateMonth, hdateYear, hdateDay⟩ := ofDayOfYear_eq year hmonth hindex
  rw [isValid_iff, hdateMonth, hdateDay]
  refine ⟨hmonth.1, hmonth.2, by omega, ?_⟩
  by_cases hfebruary : month = 2
  · subst hfebruary
    have hyear : (ofDayOfYear year day).year = year + 1 := by
      rw [marchYear, if_pos (Nat.le_refl 2)] at hdateYear
      omega
    have hbefore : daysBeforeMonth (sinceMarch 2) = 337 := rfl
    rw [hyear, daysInMonth, if_pos rfl, hbefore]
    by_cases hleap : isLeapYear (year + 1) = true
    · rw [if_pos hleap] at hlength ⊢
      omega
    · rw [if_neg hleap] at hlength ⊢
      omega
  · have hmonthLength :=
      daysBeforeMonth_succ (ofDayOfYear year day).year hmonth.1 hmonth.2 hfebruary
    omega

theorem toDay_ofDayOfYear :
    (ofDayOfYear year day).toDay = daysBeforeYear year + day - epochDay := by
  have hlength := daysBeforeYear_succ year
  have hday : 0 ≤ day ∧ day ≤ 365 := by
    split at hlength <;> omega
  obtain ⟨month, hmonth, hindex, hfrom, -⟩ := exists_month hday
  obtain ⟨hdateMonth, hdateYear, hdateDay⟩ := ofDayOfYear_eq year hmonth hindex
  rw [toDay_eq, hdateMonth, hdateYear, hdateDay]
  omega

omit hleast hnext

theorem isValid_ofDay (n : Int) : (ofDay n).isValid = true := by
  obtain ⟨year, day, hdate, -, hleast, hnext⟩ := exists_ofDay_eq n
  rw [hdate]
  exact isValid_ofDayOfYear hleast hnext

/-- **Each number is that of a date.** -/
theorem toDay_ofDay (n : Int) : (ofDay n).toDay = n := by
  obtain ⟨year, day, hdate, hn, hleast, hnext⟩ := exists_ofDay_eq n
  rw [hdate, toDay_ofDayOfYear hleast hnext, ← hn, Int.add_sub_cancel]

end CivilDate

end ListQuery
