import Klik.Lib.PyText

/-!
# The proleptic Gregorian calendar

Days of the calendar carry the proof that they exist.
-/

namespace Klik.Lib

/-- Leap years of the Gregorian calendar. -/
def isLeap (year : Nat) : Bool :=
  year % 4 == 0 && (year % 100 != 0 || year % 400 == 0)

/-- Number of days of a month. -/
def daysInMonth (year month : Nat) : Nat :=
  if month = 2 then if isLeap year then 29 else 28
  else if month = 4 ∨ month = 6 ∨ month = 9 ∨ month = 11 then 30
  else 31

/-- A day of the calendar. -/
structure Date where
  year : Nat
  month : Nat
  day : Nat
  month_pos : 1 ≤ month
  month_le : month ≤ 12
  day_pos : 1 ≤ day
  day_le : day ≤ daysInMonth year month
deriving DecidableEq, Repr

/-- `strftime('%Y%m%d')`. -/
def Date.compact (date : Date) : PyStr :=
  zeroPadded 4 date.year ++ zeroPadded 2 date.month ++ zeroPadded 2 date.day

/-! ## Days in order -/

/-- Number of days of the years before a year, from the year 0 on. -/
def daysBeforeYear (year : Nat) : Nat :=
  365 * year + (year + 3) / 4 - (year + 99) / 100 + (year + 399) / 400

/-- Number of days of the months before a month of a year. -/
def daysBeforeMonth (year month : Nat) : Nat :=
  ((List.range (month - 1)).map fun index => daysInMonth year (index + 1)).sum

/-- Number of days before a day; dates are compared and subtracted by it. -/
def Date.dayNumber (date : Date) : Nat :=
  daysBeforeYear date.year + daysBeforeMonth date.year date.month + (date.day - 1)

theorem daysInMonth_pos (year month : Nat) : 1 ≤ daysInMonth year month := by
  simp only [daysInMonth]
  split
  · split <;> decide
  · split <;> decide

theorem january_le_december : 1 ≤ 12 := by
  decide

theorem june_pos : 1 ≤ 6 := by
  decide

theorem june_le_december : 6 ≤ 12 := by
  decide

/-- The first of June of a year. -/
def Date.firstOfJune (year : Nat) : Date where
  year := year
  month := 6
  day := 1
  month_pos := june_pos
  month_le := june_le_december
  day_pos := Nat.le_refl 1
  day_le := daysInMonth_pos year 6

/-- The following day. -/
def Date.next (date : Date) : Date :=
  if inMonth : date.day < daysInMonth date.year date.month then
    { date with
      day := date.day + 1
      day_pos := Nat.le_add_left 1 _
      day_le := inMonth }
  else if inYear : date.month < 12 then
    { year := date.year
      month := date.month + 1
      day := 1
      month_pos := Nat.le_add_left 1 _
      month_le := inYear
      day_pos := Nat.le_refl 1
      day_le := daysInMonth_pos _ _ }
  else
    { year := date.year + 1
      month := 1
      day := 1
      month_pos := Nat.le_refl 1
      month_le := january_le_december
      day_pos := Nat.le_refl 1
      day_le := daysInMonth_pos _ _ }

/-- The day a number of days later. -/
def Date.addDays (date : Date) : Nat → Date
  | 0 => date
  | days + 1 => (date.addDays days).next

/-- The day a number of months later, the last day of the month where the
month is too short. -/
def Date.addMonths (date : Date) (months : Nat) : Date :=
  let index := date.month - 1 + months
  let year := date.year + index / 12
  let month := index % 12 + 1
  { year := year
    month := month
    day := min date.day (daysInMonth year month)
    month_pos := Nat.le_add_left 1 _
    month_le := Nat.mod_lt _ (by decide)
    day_pos := Nat.le_min.mpr ⟨date.day_pos, daysInMonth_pos _ _⟩
    day_le := Nat.min_le_right _ _ }

@[simp]
theorem Date.addMonths_zero (date : Date) : date.addMonths 0 = date := by
  have month_pos := date.month_pos
  have month_le := date.month_le
  have year : date.year + (date.month - 1 + 0) / 12 = date.year := by omega
  have month : (date.month - 1 + 0) % 12 + 1 = date.month := by omega
  cases date with
  | mk year_ month_ day_ _ _ _ day_le =>
      simp only [Date.addMonths, Date.mk.injEq] at year month ⊢
      refine ⟨year, month, ?_⟩
      rw [year, month]
      exact Nat.min_eq_left day_le

/-- Microseconds of a day. -/
def microsPerDay : Nat := 86400000000

/-- A point in time: a day, and the microseconds since its start. -/
structure DateTime where
  date : Date
  micros : Nat
  micros_lt : micros < microsPerDay
deriving DecidableEq, Repr

/-- Number of microseconds before a point in time; points are compared by
it. -/
def DateTime.instant (time : DateTime) : Nat :=
  time.date.dayNumber * microsPerDay + time.micros

instance hours_neZero : NeZero 24 := ⟨by decide⟩

/-- A full hour of a day. -/
def DateTime.atHour (date : Date) (hour : Fin 24) : DateTime where
  date := date
  micros := hour * 3600000000
  micros_lt := by
    have hour_lt := hour.isLt
    simp only [microsPerDay]
    omega

/-! ## Texts -/

theorem daysInMonth_le (year month : Nat) : daysInMonth year month ≤ 31 := by
  simp only [daysInMonth]
  split
  · split <;> decide
  · split <;> decide

theorem encodable_compact (date : Date) : encodable date.compact = true := by
  simp only [Date.compact, encodable_append, encodable_zeroPadded, Bool.and_self]

/-- Up to the year 9999 the text has eight digits. -/
theorem length_compact {date : Date} (year_le : date.year ≤ 9999) :
    date.compact.length = 8 := by
  have day_le := Nat.le_trans date.day_le (daysInMonth_le date.year date.month)
  have month_le := date.month_le
  have year : (zeroPadded 4 date.year).length = 4 :=
    length_zeroPadded (by decide) (by omega)
  have month : (zeroPadded 2 date.month).length = 2 :=
    length_zeroPadded (by decide) (by omega)
  have day : (zeroPadded 2 date.day).length = 2 :=
    length_zeroPadded (by decide) (by omega)
  simp only [Date.compact, List.length_append, year, month, day]

/-- The text determines the day. -/
theorem compact_injective : Function.Injective Date.compact := by
  intro left right same
  have two : ∀ date : Date,
      (zeroPadded 2 date.month).length = 2 ∧ (zeroPadded 2 date.day).length = 2 := by
    intro date
    have month_le := date.month_le
    have day_le := Nat.le_trans date.day_le (daysInMonth_le date.year date.month)
    exact ⟨length_zeroPadded (by decide) (by omega),
      length_zeroPadded (by decide) (by omega)⟩
  simp only [Date.compact] at same
  have day := List.append_inj' same ((two left).2.trans (two right).2.symm)
  have month := List.append_inj' day.1 ((two left).1.trans (two right).1.symm)
  have sameDay := zeroPadded_injective 2 day.2
  have sameMonth := zeroPadded_injective 2 month.2
  have sameYear := zeroPadded_injective 4 month.1
  cases left
  cases right
  simp_all

end Klik.Lib
