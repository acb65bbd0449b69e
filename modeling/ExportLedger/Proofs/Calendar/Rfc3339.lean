import ExportLedger.Proofs.Calendar.DayNumber
import ExportLedger.Proofs.Calendar.Strict
/-!
The strict reader takes the text of every timestamp whose year, told in its own offset, has four
digits, and no other text. It takes back the timestamp itself, unless this has a leap second where
no minute ends.
-/
namespace ExportLedger

namespace Timestamp

/-- A leap second comes after second 59. -/
def LeapAtMinuteEnd (t : Timestamp) : Prop := 1000000000 ≤ t.nanos → t.seconds % 60 = 59

instance (t : Timestamp) : Decidable t.LeapAtMinuteEnd := inferInstanceAs (Decidable (_ → _))

/-- What is read for a timestamp: the text tells a leap second after any other second than 59 as
the next second of the minute. -/
def asRead (t : Timestamp) : Timestamp :=
  if t.LeapAtMinuteEnd then t
  else { t with
    seconds := t.seconds + 1
    nanos := t.nanos - 1000000000
    nanos_lt := Nat.lt_of_le_of_lt (Nat.sub_le _ _) t.nanos_lt }

/-- Such times are read back from their own texts. Whatever a clock shows has its leap seconds at
the end of a minute, so a clock can miss this by its year only. -/
structure Writable (t : Timestamp) : Prop where
  year_nonneg : 0 ≤ t.date.year
  year_le : t.date.year ≤ 9999
  leap_at_minute_end : t.LeapAtMinuteEnd

theorem writable_iff {t : Timestamp} :
    t.Writable ↔ 0 ≤ t.date.year ∧ t.date.year ≤ 9999 ∧ t.LeapAtMinuteEnd :=
  ⟨fun h => ⟨h.1, h.2, h.3⟩, fun h => ⟨h.1, h.2.1, h.2.2⟩⟩

instance (t : Timestamp) : Decidable t.Writable := decidable_of_iff _ writable_iff.symm

variable {t : Timestamp}

theorem asRead_eq_self_iff : t.asRead = t ↔ t.LeapAtMinuteEnd := by
  unfold asRead
  split
  · rename_i h
    simp only [h]
  · rename_i h
    constructor
    · intro heq
      have hseconds : t.seconds + 1 = t.seconds := congrArg seconds heq
      omega
    · exact fun hleap => absurd hleap h

theorem leapAtMinuteEnd_asRead (t : Timestamp) : t.asRead.LeapAtMinuteEnd := by
  unfold asRead
  split
  · assumption
  · intro hnanos
    have hlt := t.nanos_lt
    dsimp only at hnanos
    omega

/-- Only the last second of a minute is followed by another minute. -/
theorem localSeconds_asRead (h : ¬t.LeapAtMinuteEnd) :
    t.asRead.localSeconds = t.localSeconds + 1 ∧ t.localSeconds % 60 ≠ 59 := by
  have hseconds : t.seconds % 60 ≠ 59 := fun hlast => h fun _ => hlast
  rw [asRead, if_neg h]
  unfold localSeconds
  constructor
  · dsimp only
    omega
  · omega

theorem date_asRead (t : Timestamp) : t.asRead.date = t.date := by
  by_cases h : t.LeapAtMinuteEnd
  · rw [asRead_eq_self_iff.2 h]
  · obtain ⟨hnext, hlast⟩ := localSeconds_asRead h
    have hday : (t.localSeconds + 1) / 86400 = t.localSeconds / 86400 := by omega
    rw [date, hnext, hday, date]

end Timestamp

namespace Rfc3339

open Decimal (padded value)

theorem isNumber_padded {width n : Nat} (hw : 0 < width) (hn : n < 10 ^ width) :
    IsNumber width n (padded width n) :=
  ⟨Decimal.length_padded hw hn, Decimal.all_isDigit_padded width n, Decimal.value_padded width n⟩

theorem isNumber_pair {n : Nat} (hn : n < 100) : IsNumber 2 n (pair n) :=
  isNumber_padded (by decide) hn

theorem fractionSpelling_padded {width n : Nat} (hw : 0 < width) (hn : n < 10 ^ width) :
    FractionSpelling (n * 10 ^ 9 / 10 ^ width) ('.' :: padded width n) := by
  have h :=
    FractionSpelling.present (Decimal.padded_ne_nil width n) (Decimal.all_isDigit_padded width n)
  rwa [Decimal.value_padded, Decimal.length_padded hw hn] at h

theorem fractionSpelling_fractionText {nanos : Nat} (hn : nanos < 1000000000) :
    FractionSpelling nanos (fractionText nanos) := by
  unfold fractionText
  split
  · rename_i hzero
    rw [hzero]
    exact .absent
  · split
    · have heq : nanos / 1000000 * 10 ^ 9 / 10 ^ 3 = nanos := by omega
      have h :=
        fractionSpelling_padded (show 0 < 3 by decide) (show nanos / 1000000 < 10 ^ 3 by omega)
      rwa [heq] at h
    · split
      · have heq : nanos / 1000 * 10 ^ 9 / 10 ^ 6 = nanos := by omega
        have h :=
          fractionSpelling_padded (show 0 < 6 by decide) (show nanos / 1000 < 10 ^ 6 by omega)
        rwa [heq] at h
      · have heq : nanos * 10 ^ 9 / 10 ^ 9 = nanos := by omega
        have h := fractionSpelling_padded (show 0 < 9 by decide) (show nanos < 10 ^ 9 by omega)
        rwa [heq] at h

theorem offsetSpelling_offsetText (offset : Offset) :
    OffsetSpelling offset.minutes (offsetText offset) := by
  have h0 := offset.gt_neg_day
  have h1 := offset.lt_day
  dsimp only [offsetText]
  generalize offset.minutes = m at h0 h1 ⊢
  have hhours : IsNumber 2 (m.natAbs / 60) (pair (m.natAbs / 60)) := isNumber_pair (by omega)
  have hminutes : IsNumber 2 (m.natAbs % 60) (pair (m.natAbs % 60)) := isNumber_pair (by omega)
  have hlt : m.natAbs % 60 < 60 := Nat.mod_lt _ (by decide)
  split
  · rename_i hzero
    rw [hzero]
    exact .utc (.inl rfl)
  · split
    · have hm : (-1 : Int) * ((m.natAbs / 60 : Nat) * 60 + (m.natAbs % 60 : Nat)) = m := by omega
      have h := OffsetSpelling.signed (show ('-', -1) ∈ offsetSigns by decide) hhours hminutes hlt
      rwa [hm] at h
    · have hm : (1 : Int) * ((m.natAbs / 60 : Nat) * 60 + (m.natAbs % 60 : Nat)) = m := by omega
      have h := OffsetSpelling.signed (show ('+', 1) ∈ offsetSigns by decide) hhours hminutes hlt
      rwa [hm] at h

/-- What the written form of a timestamp says. -/
def reading (t : Timestamp) : Reading where
  date := t.date
  hour := t.secondOfDay / 3600
  minute := t.secondOfDay / 60 % 60
  second := t.secondOfDay % 60 + t.nanos / 1000000000
  nanos := t.nanos % 1000000000
  offsetMinutes := t.offset.minutes

theorem secondOfDay_lt (t : Timestamp) : t.secondOfDay < 86400 := by
  unfold Timestamp.secondOfDay
  omega

/-- Second 60 is written for a leap second only. -/
theorem second_reading {t : Timestamp} (hleap : t.LeapAtMinuteEnd) :
    (reading t).second ≤ 60 ∧ (reading t).second / 60 = t.nanos / 1000000000 := by
  have hn := t.nanos_lt
  unfold Timestamp.LeapAtMinuteEnd at hleap
  have hsecond : (t.secondOfDay % 60 : Nat) = t.seconds % 60 := by
    unfold Timestamp.secondOfDay Timestamp.localSeconds
    omega
  dsimp only [reading]
  omega

theorem bounds_of_isValid {d : Date} (h : d.isValid) :
    1 ≤ d.month ∧ d.month ≤ 12 ∧ 1 ≤ d.day ∧ d.day ≤ 31 := by
  simp only [Date.isValid, Bool.and_eq_true, decide_eq_true_eq] at h
  have : Date.daysInMonth d.year d.month ≤ 31 := by
    unfold Date.daysInMonth
    split
    · split <;> decide
    · split <;> decide
  omega

/-- The year is written with four digits and no sign. -/
theorem spelling_chars {t : Timestamp} (h : t.Writable) : Spelling (reading t) (chars t) := by
  obtain ⟨h0, h1, hleap⟩ := h
  obtain ⟨-, hmonth, -, hday⟩ :=
    bounds_of_isValid (Date.isValid_ofDayNumber (t.localSeconds / 86400))
  rw [← Timestamp.date] at hmonth hday
  have hs := secondOfDay_lt t
  have hsecond : t.secondOfDay % 60 + t.nanos / 1000000000 ≤ 60 := (second_reading hleap).1
  have hyear : Date.yearText t.date.year = padded 4 t.date.year.toNat := if_pos ⟨h0, h1⟩
  have hyearNat : (t.date.year.toNat : Int) = t.date.year := Int.toNat_of_nonneg h0
  have h := Spelling.mk
    (isNumber_padded (show 0 < 4 by decide) (show t.date.year.toNat < 10 ^ 4 by omega))
    (isNumber_pair (show t.date.month < 100 by omega))
    (isNumber_pair (show t.date.day < 100 by omega)) (.inl rfl)
    (isNumber_pair (show t.secondOfDay / 3600 < 100 by omega))
    (isNumber_pair (show t.secondOfDay / 60 % 60 < 100 by omega))
    (isNumber_pair (show t.secondOfDay % 60 + t.nanos / 1000000000 < 100 by omega))
    (fractionSpelling_fractionText (Nat.mod_lt t.nanos (by decide)))
    (offsetSpelling_offsetText t.offset)
  rw [hyearNat] at h
  dsimp only [chars]
  rw [hyear]
  simp only [List.append_assoc, List.cons_append]
  exact h

/-- A year of four digits lies well inside the range of timestamps, a day more or less included. -/
theorem inRange_of_year {d : Date} (hd : d.isValid) (h0 : 0 ≤ d.year) (h1 : d.year ≤ 9999)
    {day : Int} (hlo : d.dayNumber - 1 ≤ day) (hhi : day ≤ d.dayNumber + 1) : inRange day := by
  obtain ⟨hm0, hm1, hd0, hd1⟩ := bounds_of_isValid hd
  have hfirst : (Date.mk yearRange.1 1 1).dayNumber = -96465292 := by decide
  have hlast : (Date.mk yearRange.2 12 31).dayNumber = 95026236 := by decide
  have hbounds : -1000000 ≤ d.dayNumber ∧ d.dayNumber ≤ 10000000 := by
    unfold Date.dayNumber Date.cycleDays Date.epochShift
    dsimp only
    split <;> omega
  simp only [inRange, hfirst, hlast, Bool.and_eq_true, decide_eq_true_eq]
  omega

theorem denotes_reading {t : Timestamp} (h : t.Writable) : (reading t).Denotes t := by
  obtain ⟨h0, h1, hleap⟩ := h
  have hvalid : t.date.isValid := Date.isValid_ofDayNumber _
  have hday : t.date.dayNumber = t.localSeconds / 86400 := Date.dayNumber_ofDayNumber _
  have hs := secondOfDay_lt t
  have hlocal : (t.secondOfDay : Int) = t.localSeconds % 86400 := by
    unfold Timestamp.secondOfDay
    omega
  obtain ⟨hsecond, hextra⟩ := second_reading hleap
  have ho0 := t.offset.gt_neg_day
  have ho1 := t.offset.lt_day
  have hshift : t.localSeconds = t.seconds + 60 * t.offset.minutes := rfl
  refine ⟨hvalid, inRange_of_year hvalid h0 h1 ?_ ?_, ?_, ?_, hsecond, rfl, ?_, ?_,
    inRange_of_year hvalid h0 h1 ?_ ?_⟩
  · dsimp only [reading]
    omega
  · dsimp only [reading]
    omega
  · dsimp only [reading]
    omega
  · dsimp only [reading]
    omega
  · rw [hextra]
    dsimp only [reading]
    omega
  · rw [hextra]
    dsimp only [reading]
    omega
  · rw [hday]
    omega
  · rw [hday]
    omega

theorem strict?_text {t : Timestamp} (h : t.Writable) : strict? (text t) = some t := by
  have hspelling := spelling_chars h
  rw [← String.toList_ofList (l := chars t)] at hspelling
  exact strict?_eq_some_iff.2 ⟨reading t, hspelling, denotes_reading h⟩

/-- The text does not tell in which of the two ways the timestamp counts its seconds. -/
theorem text_asRead (t : Timestamp) : text t.asRead = text t := by
  by_cases h : t.LeapAtMinuteEnd
  · rw [Timestamp.asRead_eq_self_iff.2 h]
  · obtain ⟨hnext, hlast⟩ := Timestamp.localSeconds_asRead h
    have hlt := t.nanos_lt
    have hnanos : t.asRead.nanos = t.nanos - 1000000000 := by rw [Timestamp.asRead, if_neg h]
    have hoffset : t.asRead.offset = t.offset := by rw [Timestamp.asRead, if_neg h]
    have hbillion : 1000000000 ≤ t.nanos := by
      by_contra hless
      exact h fun hmore => absurd hmore hless
    have hsecond : t.asRead.secondOfDay = t.secondOfDay + 1 := by
      unfold Timestamp.secondOfDay
      rw [hnext]
      omega
    have hrest : t.secondOfDay % 60 ≠ 59 := by
      unfold Timestamp.secondOfDay
      omega
    have hhour : (t.secondOfDay + 1) / 3600 = t.secondOfDay / 3600 := by omega
    have hminute : (t.secondOfDay + 1) / 60 % 60 = t.secondOfDay / 60 % 60 := by omega
    have hshown : (t.secondOfDay + 1) % 60 + (t.nanos - 1000000000) / 1000000000 =
        t.secondOfDay % 60 + t.nanos / 1000000000 := by omega
    have hfraction : (t.nanos - 1000000000) % 1000000000 = t.nanos % 1000000000 := by omega
    unfold text chars
    rw [Timestamp.date_asRead, hsecond, hnanos, hoffset]
    dsimp only
    rw [hhour, hminute, hshown, hfraction]

/-- Any other year is written with its sign, which the strict reader does not take. -/
theorem strict?_text_eq_none {t : Timestamp} (h : ¬(0 ≤ t.date.year ∧ t.date.year ≤ 9999)) :
    strict? (text t) = none := by
  have hyear : Date.yearText t.date.year =
      (if t.date.year < 0 then '-' else '+') :: padded 4 t.date.year.natAbs := if_neg h
  have hsign : ¬(if t.date.year < 0 then '-' else '+').isDigit := by
    split <;> decide
  have hread : strictReading? (chars t) = none := by
    unfold strictReading? chars
    simp only [hyear, List.cons_append]
    rw [number?_cons_of_not_isDigit (by decide) 4 hsign]
    rfl
  rw [strict?, text, String.toList_ofList, hread, Option.bind_none]

theorem strict?_text_eq_some_iff {t u : Timestamp} :
    strict? (text t) = some u ↔ u = t.asRead ∧ 0 ≤ t.date.year ∧ t.date.year ≤ 9999 := by
  by_cases h : 0 ≤ t.date.year ∧ t.date.year ≤ 9999
  · have hread : t.asRead.Writable := by
      constructor
      · rw [Timestamp.date_asRead]
        exact h.1
      · rw [Timestamp.date_asRead]
        exact h.2
      · exact Timestamp.leapAtMinuteEnd_asRead t
    rw [← text_asRead, strict?_text hread, Option.some.injEq, eq_comm]
    exact (and_iff_left h).symm
  · rw [strict?_text_eq_none h]
    constructor
    · intro hnone
      contradiction
    · intro hboth
      exact absurd hboth.2 h

end Rfc3339

end ExportLedger
