import ExportLedger.Calendar.Timestamp
/-!
The numbering of days: every number is the number of exactly one date of the calendar.
-/
namespace ExportLedger

namespace Date

/-- The year of a day of the 400-year cycle that starts on 1 March of year 0. -/
def yearOfCycle (dayOfCycle : Int) : Int :=
  (dayOfCycle - dayOfCycle / 1460 + dayOfCycle / 36524 - dayOfCycle / 146096) / 365

/-- Days from 1 March to a day of the cycle. -/
def dayOfYear (dayOfCycle : Int) : Int :=
  let year := yearOfCycle dayOfCycle
  dayOfCycle - (365 * year + year / 4 - year / 100)

/-- Away from the last day of the cycle, the four-year groups of a century start a day late at
most. -/
theorem century_of_yearOfCycle {n : Int} (h0 : 0 ≤ n) (hn : n < 146096) :
    (0 ≤ yearOfCycle n ∧ yearOfCycle n < 400) ∧ yearOfCycle n / 100 = n / 36524 ∧
      yearOfCycle n / 4 ≤ n / 1460 ∧ n / 1460 ≤ yearOfCycle n / 4 + 1 := by
  generalize hy : yearOfCycle n = y
  unfold yearOfCycle at hy
  -- The quotients are linear in the year only within one century.
  have hc : n / 36524 = 0 ∨ n / 36524 = 1 ∨ n / 36524 = 2 ∨ n / 36524 = 3 := by omega
  have hcycle : n / 146096 = 0 := by omega
  have hyear : 0 ≤ y ∧ y < 400 := by
    rcases hc with hc | hc | hc | hc <;> constructor <;> omega
  have hcentury : y / 100 = n / 36524 := by
    rcases hc with hc | hc | hc | hc <;> omega
  have hlow : y / 4 ≤ n / 1460 := by
    rcases hc with hc | hc | hc | hc <;> omega
  have hhigh : n / 1460 ≤ y / 4 + 1 := by
    rcases hc with hc | hc | hc | hc <;> omega
  exact ⟨hyear, hcentury, hlow, hhigh⟩

theorem yearOfCycle_bounds {n : Int} (h0 : 0 ≤ n) (hn : n < cycleDays) :
    (0 ≤ yearOfCycle n ∧ yearOfCycle n < 400) ∧ 0 ≤ dayOfYear n ∧ dayOfYear n ≤ 365 := by
  by_cases hlast : n = 146096
  · subst hlast
    decide
  unfold cycleDays at hn
  obtain ⟨hyear, hcentury, hlow, hhigh⟩ := century_of_yearOfCycle h0 (by omega)
  dsimp only [dayOfYear]
  generalize hy : yearOfCycle n = y at hyear hcentury hlow hhigh ⊢
  unfold yearOfCycle at hy
  exact ⟨hyear, by omega, by omega⟩

/-- Only a year that ends with a leap day has 366 days. -/
theorem isLeapYear_of_dayOfYear {n : Int} (h0 : 0 ≤ n) (hn : n < cycleDays)
    (hd : dayOfYear n = 365) (cycle : Int) : isLeapYear (yearOfCycle n + 1 + 400 * cycle) := by
  by_cases hlast : n = 146096
  · subst hlast
    have : yearOfCycle 146096 = 399 := by decide
    simp only [isLeapYear, this, Bool.and_eq_true, Bool.or_eq_true, beq_iff_eq, bne_iff_ne]
    omega
  unfold cycleDays at hn
  obtain ⟨hyear, hcentury, hlow, hhigh⟩ := century_of_yearOfCycle h0 (by omega)
  dsimp only [dayOfYear] at hd
  generalize hy : yearOfCycle n = y at hyear hcentury hlow hhigh hd ⊢
  unfold yearOfCycle at hy
  have hcycle : n / 146096 = 0 := by omega
  have hlate : n / 1460 = y / 4 + 1 := by omega
  have hrest : y - 4 * (y / 4) = 3 := by omega
  have hfour : (y + 1) % 4 = 0 := by omega
  have hhundred : (y + 1) % 100 ≠ 0 := by omega
  simp only [isLeapYear, Bool.and_eq_true, Bool.or_eq_true, beq_iff_eq, bne_iff_ne]
  omega

/-- Months are counted from March. -/
theorem month_of_dayOfYear {d : Int} (h0 : 0 ≤ d) (hd : d ≤ 365) :
    0 ≤ (5 * d + 2) / 153 ∧ (5 * d + 2) / 153 ≤ 11 ∧
      0 ≤ d - (153 * ((5 * d + 2) / 153) + 2) / 5 := by
  omega

/-- What the calendar computes for a day number. -/
theorem ofDayNumber_eq (n : Int) :
    ofDayNumber n =
      let day := dayOfYear ((n + epochShift) % cycleDays)
      let month := (5 * day + 2) / 153
      let year := yearOfCycle ((n + epochShift) % cycleDays) + (n + epochShift) / cycleDays * 400
      if month < 10 then ⟨year, (month + 3).toNat, (day - (153 * month + 2) / 5 + 1).toNat⟩
      else ⟨year + 1, (month - 9).toNat, (day - (153 * month + 2) / 5 + 1).toNat⟩ := rfl

theorem isValid_ofDayNumber (n : Int) : (ofDayNumber n).isValid := by
  have h0 : 0 ≤ (n + epochShift) % cycleDays := Int.emod_nonneg _ (by decide)
  have hlt : (n + epochShift) % cycleDays < cycleDays := Int.emod_lt_of_pos _ (by decide)
  have hleap := isLeapYear_of_dayOfYear h0 hlt
  obtain ⟨hy, hd0, hd1⟩ := yearOfCycle_bounds h0 hlt
  rw [ofDayNumber_eq]
  generalize yearOfCycle ((n + epochShift) % cycleDays) = year at hleap hy ⊢
  generalize dayOfYear ((n + epochShift) % cycleDays) = day at hleap hd0 hd1 ⊢
  generalize (n + epochShift) / cycleDays = cycle
  obtain ⟨hm0, hm1, hdm⟩ := month_of_dayOfYear hd0 hd1
  generalize hm : (5 * day + 2) / 153 = month at hm0 hm1 hdm
  simp only [isValid, hm]
  split
  · rename_i hlt10
    simp only [daysInMonth, Bool.and_eq_true, decide_eq_true_eq]
    split
    · omega
    · split <;> omega
  · rename_i hge10
    have hcases : month = 10 ∨ month = 11 := by omega
    rcases hcases with rfl | rfl
    · simp [daysInMonth]
      omega
    · simp only [daysInMonth, Bool.and_eq_true, decide_eq_true_eq, Int.reduceSub,
        Int.reduceToNat, if_true]
      by_cases hlast : day = 365
      · have := hleap hlast cycle
        rw [show year + cycle * 400 + 1 = year + 1 + 400 * cycle by omega, this]
        simp only [if_true]
        omega
      · split <;> omega

theorem dayNumber_ofDayNumber (n : Int) : (ofDayNumber n).dayNumber = n := by
  have h0 : 0 ≤ (n + epochShift) % cycleDays := Int.emod_nonneg _ (by decide)
  have hlt : (n + epochShift) % cycleDays < cycleDays := Int.emod_lt_of_pos _ (by decide)
  obtain ⟨hy, hd0, hd1⟩ := yearOfCycle_bounds h0 hlt
  have hday : dayOfYear ((n + epochShift) % cycleDays) = (n + epochShift) % cycleDays -
      (365 * yearOfCycle ((n + epochShift) % cycleDays) +
        yearOfCycle ((n + epochShift) % cycleDays) / 4 -
        yearOfCycle ((n + epochShift) % cycleDays) / 100) := rfl
  have hdecompose := Int.emod_add_mul_ediv (n + epochShift) cycleDays
  rw [ofDayNumber_eq]
  generalize yearOfCycle ((n + epochShift) % cycleDays) = year at hy hday ⊢
  generalize dayOfYear ((n + epochShift) % cycleDays) = day at hday hd0 hd1 ⊢
  generalize (n + epochShift) / cycleDays = cycle at hdecompose ⊢
  generalize (n + epochShift) % cycleDays = rest at hday hdecompose
  obtain ⟨hm0, hm1, hdm⟩ := month_of_dayOfYear hd0 hd1
  generalize hm : (5 * day + 2) / 153 = month at hm0 hm1 hdm
  unfold epochShift cycleDays at hdecompose
  simp only [hm]
  split
  · rename_i hlt10
    have hle : ¬(month + 3).toNat ≤ 2 := by omega
    simp only [dayNumber, if_neg hle, cycleDays, epochShift]
    omega
  · rename_i hge10
    have hle : (month - 9).toNat ≤ 2 := by omega
    simp only [dayNumber, if_pos hle, cycleDays, epochShift]
    omega

theorem ofDayNumber_injective {m n : Int} (h : ofDayNumber m = ofDayNumber n) : m = n := by
  rw [← dayNumber_ofDayNumber m, h, dayNumber_ofDayNumber]

end Date

namespace Timestamp

/-- The number of the day that a clock in the given offset shows. -/
def dayAt (t : Timestamp) (offset : Offset) : Int := (t.seconds + 60 * offset.minutes) / 86400

/-- The number of the day in local time. -/
def dayIn (t : Timestamp) (zone : Zone) : Int := t.dayAt (zone.offsetAt t.seconds)

theorem dayIn_zone (now : LocalTime) : now.dayIn now.zone = now.dayAt now.offset := by
  rw [dayIn, ← now.offset_eq]

theorem isOnDayOf_eq (t : Timestamp) (now : LocalTime) :
    t.isOnDayOf now = (t.dayIn now.zone == now.dayIn now.zone) := by
  have h : (t.inZone now.zone).date = now.date ↔ t.dayIn now.zone = now.dayAt now.offset :=
    ⟨Date.ofDayNumber_injective, congrArg Date.ofDayNumber⟩
  rw [isOnDayOf, Bool.eq_iff_iff, decide_eq_true_iff, beq_iff_eq, h, dayIn_zone]

/-- Noon of a day, in UTC. -/
def noonOf (day : Int) : Timestamp where
  seconds := 86400 * day + 43200
  nanos := 0
  offset := .utc
  nanos_lt := by decide

end Timestamp

def LocalTime.noonOf (day : Int) : LocalTime := (Timestamp.noonOf day).toLocal (.fixed .utc)

end ExportLedger
