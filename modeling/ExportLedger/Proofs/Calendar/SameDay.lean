import Mathlib.Data.Prod.Lex
import ExportLedger.Proofs.Calendar.DayNumber
/-!
Two timestamps are on one local date exactly if their seconds, shifted to local time, have the same
quotient by the length of a day. So the date of an instant does not depend on the offset in which it
is written, and the instants of one day have no other day between them.
-/
namespace ExportLedger.Timestamp

/-- Instants are in the order of their seconds, and a leap second comes after the rest of the second
that it extends. -/
def instant (t : Timestamp) : Int ×ₗ Nat := toLex (t.seconds, t.nanos)

variable {t u : Timestamp}

theorem seconds_le_of_instant_le (h : t.instant ≤ u.instant) : t.seconds ≤ u.seconds := by
  unfold instant at h
  rcases Prod.Lex.toLex_le_toLex.1 h with hlt | heq
  · exact Int.le_of_lt hlt
  · exact Int.le_of_eq heq.1

theorem seconds_eq_of_instant_eq (h : t.instant = u.instant) : t.seconds = u.seconds := by
  have hle := seconds_le_of_instant_le (le_of_eq h)
  have hge := seconds_le_of_instant_le (le_of_eq h.symm)
  omega

theorem dayAt_eq_fdiv (t : Timestamp) (offset : Offset) :
    t.dayAt offset = (t.seconds + 60 * offset.minutes).fdiv 86400 :=
  (Int.fdiv_eq_ediv_of_nonneg _ (by decide)).symm

theorem isOnDayOf_iff {now : LocalTime} :
    t.isOnDayOf now ↔ t.dayIn now.zone = now.dayIn now.zone := by
  rw [isOnDayOf_eq, beq_iff_eq]

/-- Where the offset is always the same, it is the same for both days. -/
theorem isOnDayOf_fixed_iff {offset : Offset} :
    t.isOnDayOf (u.toLocal (.fixed offset)) ↔ t.dayAt offset = u.dayAt offset := isOnDayOf_iff

/-- Days do not go back while time goes on. -/
theorem dayAt_le_dayAt (h : t.instant ≤ u.instant) (offset : Offset) :
    t.dayAt offset ≤ u.dayAt offset := by
  have hseconds := seconds_le_of_instant_le h
  unfold dayAt
  omega

/-- The same date in local time is the same number of the local day, leap seconds or not. It does
not matter in which offset the earlier timestamp is written, and what comes between two timestamps
of one day is of that day, too. -/
theorem isOnDayOf_iff_floor (offset : Offset) (created now : Timestamp) :
    (created.isOnDayOf (now.toLocal (.fixed offset)) ↔
      (created.seconds + 60 * offset.minutes).fdiv 86400 =
        (now.seconds + 60 * offset.minutes).fdiv 86400) ∧
    (∀ other : Timestamp, other.instant = created.instant →
      other.isOnDayOf (now.toLocal (.fixed offset)) =
        created.isOnDayOf (now.toLocal (.fixed offset))) ∧
    ∀ x : Timestamp, created.instant ≤ x.instant → x.instant ≤ now.instant →
      created.isOnDayOf (now.toLocal (.fixed offset)) →
      created.isOnDayOf (x.toLocal (.fixed offset)) := by
  refine ⟨?_, ?_, ?_⟩
  · rw [isOnDayOf_fixed_iff, dayAt_eq_fdiv, dayAt_eq_fdiv]
  · intro other hsame
    have hseconds := seconds_eq_of_instant_eq hsame
    rw [Bool.eq_iff_iff, isOnDayOf_fixed_iff, isOnDayOf_fixed_iff]
    unfold dayAt
    rw [hseconds]
  · intro x hfrom hto hday
    have hfrom := dayAt_le_dayAt hfrom offset
    have hto := dayAt_le_dayAt hto offset
    rw [isOnDayOf_fixed_iff] at hday ⊢
    omega

/-- In the leap second at the end of 2016, where it is already the next year an hour further
east. -/
def leapSecond : Timestamp where
  seconds := 1483228799
  nanos := 1500000000
  offset := .utc
  nanos_lt := by decide

/-- As many seconds later and a nanosecond. -/
def afterLeapSecond (seconds : Int) : Timestamp where
  seconds := 1483228799 + seconds
  nanos := 1
  offset := .utc
  nanos_lt := by decide

/-- An hour east. -/
def eastern : Offset := ⟨60, by decide, by decide⟩

theorem isOnDayOf_iff_floor_leapSecond :
    leapSecond.instant ≤ (afterLeapSecond 1).instant ∧
      (afterLeapSecond 1).instant ≤ (afterLeapSecond 82800).instant ∧
      leapSecond.isOnDayOf ((afterLeapSecond 82800).toLocal (.fixed eastern)) ∧
      leapSecond.isOnDayOf ((afterLeapSecond 1).toLocal (.fixed eastern)) ∧
      leapSecond.date ≠ (afterLeapSecond 1).date := by
  have hfrom : leapSecond.instant ≤ (afterLeapSecond 1).instant := by decide
  have hto : (afterLeapSecond 1).instant ≤ (afterLeapSecond 82800).instant := by decide
  have hmain := isOnDayOf_iff_floor eastern leapSecond (afterLeapSecond 82800)
  have hday : leapSecond.isOnDayOf ((afterLeapSecond 82800).toLocal (.fixed eastern)) :=
    hmain.1.2 (by decide)
  exact ⟨hfrom, hto, hday, hmain.2.2 _ hfrom hto hday, by decide⟩

end ExportLedger.Timestamp
