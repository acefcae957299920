import ListQuery.Proofs.Number.Decimal
import ListQuery.Proofs.Plan.Typing
import ListQuery.Proofs.Time.Writing
import ListQuery.Proofs.Uuid

/-!
# Values read back from their text

The text of a value is one that a filter takes for the value, whatever spelling it was read from.
The one exception are instants, whose text is in UTC: the local year of a timestamp has four digits,
but the year in UTC can be the one before or after these.

* `Value.HasPlainYear` : the values without such a year;
* `Value.read_display` : they are read back from their text;
* `Value.read_display_eq_error` : the others are not;
* `Value.cast_display` : both, for the values of filters;
* `Value.not_cast_display` : an instant that is not read back.
-/

namespace ListQuery

namespace Value

/-- An instant has a year of four digits in UTC. -/
def HasPlainYear : Value → Prop
  | timestamp t => 0 ≤ t.date.year ∧ t.date.year ≤ 9999
  | _ => True

variable {type : FieldType} {raw name : String} {v : Value}

/-- **A value is read back from its text**, if its year has four digits. -/
theorem read_display (h : read type raw = .ok v) (hyear : v.HasPlainYear) :
    read type v.display = .ok v := by
  have htype := hasType_of_read h
  cases htype with
  | text s => rfl
  | boolean b => cases b <;> decide
  | @integer i hleast hgreatest =>
    rw [display, read, Integer.read?_toString_of_le hleast hgreatest, Option.elim_some]
  | numeric x =>
    have hstyle : style.positional = none ∧ style.marksWhole = false := ⟨rfl, rfl⟩
    rw [display, read, Binary64.read?_write hstyle.1 hstyle.2 x, Option.elim_some]
  | uuid u =>
    rw [display, read, readUuid?, if_pos u.length_toList_write, u.read?_write, Option.elim_some]
  | timestamp t =>
    obtain ⟨u, hu, hvalue⟩ := elim_eq_ok_iff.1 h
    cases hvalue
    have hwrite := Instant.read?_write (Instant.isProper_of_read? hu) hyear.1 hyear.2
    rw [display, read, hwrite, Option.elim_some]
  | enumeration hname => exact if_pos (List.contains_iff_mem.2 hname)

/-- Other instants are not read back. -/
theorem read_display_eq_error (h : read type raw = .ok v) (hyear : ¬v.HasPlainYear) :
    read type v.display = .error .notTimestamp := by
  have htype := hasType_of_read h
  cases htype with
  | timestamp t => rw [display, read, Instant.read?_write_eq_none hyear, Option.elim_none]
  | _ => exact absurd trivial hyear

/-- **The text of a value of a filter stands for the value**, whatever spelling it was read from;
but for instants with a year before 0 or after 9999, whose text stands for nothing. -/
theorem cast_display (h : cast name type raw = .ok v) :
    (v.HasPlainYear → cast name type v.display = .ok v) ∧
      (¬v.HasPlainYear →
        cast name type v.display = .error (.invalidValue name v.display .notTimestamp)) := by
  rw [cast_eq_ok_iff] at h
  refine ⟨fun hyear => cast_eq_ok_iff.2 (read_display h hyear), fun hyear => ?_⟩
  rw [cast, read_display_eq_error h hyear]
  rfl

/-- Half a leap second, at the end of a year in London. -/
theorem cast_display_leapSecond :
    ∃ v, cast "created_at" .timestamp "2016-12-31T23:59:60.5Z" = .ok v ∧ v.HasPlainYear ∧
      cast "created_at" .timestamp v.display = .ok v := by
  have hread : cast "created_at" .timestamp "2016-12-31T23:59:60.5Z" =
      .ok (.timestamp ⟨1483228799, 1500000000⟩) := by decide
  have hyear : HasPlainYear (.timestamp ⟨1483228799, 1500000000⟩) :=
    ⟨by decide, by decide⟩
  exact ⟨_, hread, hyear, (cast_display hread).1 hyear⟩

/-- **An instant that is not read back**: the first half hour of the year 0, a little to the east of
UTC. -/
theorem not_cast_display :
    ¬ ∀ name type raw v, cast name type raw = .ok v → cast name type v.display = .ok v := by
  intro h
  have hread : cast "f" .timestamp "0000-01-01T00:00:00+00:30" =
      .ok (.timestamp ⟨-62167221000, 0⟩) := by decide
  have hagain : cast "f" .timestamp (display (.timestamp ⟨-62167221000, 0⟩)) ≠
      .ok (.timestamp ⟨-62167221000, 0⟩) := by decide
  exact hagain (h _ _ _ _ hread)

end Value

end ListQuery
