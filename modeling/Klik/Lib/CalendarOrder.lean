import Klik.Lib.Calendar
import Mathlib.Order.Monotone.Basic

/-!
# The order of days

Months are counted from the beginning of the calendar, so that the number of
a day is the number of days before its month and the day within the month.
Later months begin later; days and months which are added to a date therefore
move it forward, also where the day is clamped to the month.
-/

namespace Klik.Lib

/-! ## Days before a year, a month and a day -/

theorem daysBeforeYear_succ (year : Nat) :
    daysBeforeYear (year + 1) = daysBeforeYear year + if isLeap year then 366 else 365 := by
  have fours : (year + 1 + 3) / 4 = (year + 3) / 4 + if year % 4 = 0 then 1 else 0 := by
    split <;> omega
  have hundreds :
      (year + 1 + 99) / 100 = (year + 99) / 100 + if year % 100 = 0 then 1 else 0 := by
    split <;> omega
  have fourHundreds :
      (year + 1 + 399) / 400 = (year + 399) / 400 + if year % 400 = 0 then 1 else 0 := by
    split <;> omega
  have fewer : (year + 99) / 100 ≤ 365 * year := by omega
  have nested : year % 400 = 0 → year % 100 = 0 := by omega
  have nestedFour : year % 100 = 0 → year % 4 = 0 := by omega
  simp only [daysBeforeYear, isLeap, Bool.and_eq_true, Bool.or_eq_true, beq_iff_eq,
    bne_iff_ne, fours, hundreds, fourHundreds]
  generalize (year + 3) / 4 = a, (year + 99) / 100 = b, (year + 399) / 400 = c at *
  by_cases four : year % 4 = 0
  · by_cases hundred : year % 100 = 0
    · by_cases fourHundred : year % 400 = 0
      · rw [if_pos four, if_pos hundred, if_pos fourHundred, if_pos (by simp [*])]
        omega
      · rw [if_pos four, if_pos hundred, if_neg fourHundred, if_neg (by simp [*])]
        omega
    · have notFour : ¬ year % 400 = 0 := fun both => hundred (nested both)
      rw [if_pos four, if_neg hundred, if_neg notFour, if_pos (by simp [*])]
      omega
  · have notHundred : ¬ year % 100 = 0 := fun both => four (nestedFour both)
    have notFour : ¬ year % 400 = 0 := fun both => notHundred (nested both)
    rw [if_neg four, if_neg notHundred, if_neg notFour, if_neg (by simp [*])]
    omega

theorem daysBeforeMonth_succ {year month : Nat} (positive : 1 ≤ month) :
    daysBeforeMonth year (month + 1) =
      daysBeforeMonth year month + daysInMonth year month := by
  obtain ⟨before, rfl⟩ := Nat.exists_eq_add_of_le' positive
  simp only [daysBeforeMonth, Nat.add_sub_cancel, List.range_succ, List.map_append,
    List.map_singleton, List.sum_append, List.sum_singleton]

/-- The twelve months make up the year. -/
theorem daysBeforeMonth_thirteen (year : Nat) :
    daysBeforeMonth year 13 = if isLeap year then 366 else 365 := by
  by_cases leap : isLeap year = true
  · simp [daysBeforeMonth, List.range_succ, daysInMonth, leap]
  · simp [daysBeforeMonth, List.range_succ, daysInMonth, leap]

theorem daysBeforeMonth_december (year : Nat) :
    daysBeforeMonth year 12 + daysInMonth year 12 = if isLeap year then 366 else 365 :=
  (daysBeforeMonth_succ (by omega)).symm.trans (daysBeforeMonth_thirteen year)

/-! ## Months of the calendar -/

/-- Number of months before the one of a date. -/
def Date.monthIndex (date : Date) : Nat :=
  12 * date.year + (date.month - 1)

/-- Length of the month with a number. -/
def monthLength (index : Nat) : Nat :=
  daysInMonth (index / 12) (index % 12 + 1)

/-- Number of days before the month with a number. -/
def daysBeforeIndex (index : Nat) : Nat :=
  daysBeforeYear (index / 12) + daysBeforeMonth (index / 12) (index % 12 + 1)

theorem daysBeforeIndex_succ (index : Nat) :
    daysBeforeIndex (index + 1) = daysBeforeIndex index + monthLength index := by
  simp only [daysBeforeIndex, monthLength]
  by_cases december : index % 12 = 11
  · have year : (index + 1) / 12 = index / 12 + 1 := by omega
    have month : (index + 1) % 12 = 0 := by omega
    have january : daysBeforeMonth (index / 12 + 1) (0 + 1) = 0 := rfl
    have last := daysBeforeMonth_december (index / 12)
    rw [year, month, december, january, daysBeforeYear_succ, ← last]
    show _ + _ + 0 = _ + daysBeforeMonth (index / 12) 12 + daysInMonth (index / 12) 12
    omega
  · have year : (index + 1) / 12 = index / 12 := by omega
    have month : (index + 1) % 12 = index % 12 + 1 := by omega
    rw [year, month, daysBeforeMonth_succ (by omega)]
    omega

/-- Later months begin after the earlier ones have ended. -/
theorem daysBeforeIndex_of_lt {earlier later : Nat} (less : earlier < later) :
    daysBeforeIndex earlier + monthLength earlier ≤ daysBeforeIndex later := by
  rw [← daysBeforeIndex_succ]
  have increasing : Monotone daysBeforeIndex := by
    apply monotone_nat_of_le_succ
    intro index
    rw [daysBeforeIndex_succ]
    exact Nat.le_add_right _ _
  exact increasing less

namespace Date

theorem monthIndex_div (date : Date) : date.monthIndex / 12 = date.year := by
  have month_le := date.month_le
  simp only [monthIndex]
  omega

theorem monthIndex_mod (date : Date) : date.monthIndex % 12 + 1 = date.month := by
  have month_pos := date.month_pos
  have month_le := date.month_le
  simp only [monthIndex]
  omega

theorem dayNumber_eq (date : Date) :
    date.dayNumber = daysBeforeIndex date.monthIndex + (date.day - 1) := by
  simp only [dayNumber, daysBeforeIndex, monthIndex_div, monthIndex_mod]

theorem day_le_monthLength (date : Date) : date.day ≤ monthLength date.monthIndex := by
  simp only [monthLength, monthIndex_div, monthIndex_mod]
  exact date.day_le

/-- A day of an earlier month is earlier. -/
theorem dayNumber_lt_of_monthIndex_lt {earlier later : Date}
    (less : earlier.monthIndex < later.monthIndex) :
    earlier.dayNumber < later.dayNumber := by
  have day_pos := earlier.day_pos
  have day_le := earlier.day_le_monthLength
  have begins := daysBeforeIndex_of_lt less
  rw [dayNumber_eq, dayNumber_eq]
  omega

theorem monthIndex_le_of_dayNumber_le {earlier later : Date}
    (le : earlier.dayNumber ≤ later.dayNumber) :
    earlier.monthIndex ≤ later.monthIndex := by
  by_contra less
  exact absurd (dayNumber_lt_of_monthIndex_lt (not_le.mp less)) (not_lt.mpr le)

theorem year_le_of_dayNumber_le {earlier later : Date}
    (le : earlier.dayNumber ≤ later.dayNumber) : earlier.year ≤ later.year := by
  have index := Nat.div_le_div_right (monthIndex_le_of_dayNumber_le le) (c := 12)
  rw [monthIndex_div, monthIndex_div] at index
  exact index

theorem dayNumber_next (date : Date) : date.next.dayNumber = date.dayNumber + 1 := by
  have month_pos := date.month_pos
  have day_pos := date.day_pos
  have day_le := date.day_le
  simp only [next]
  split
  · simp only [dayNumber]
    omega
  · split
    · simp only [dayNumber, daysBeforeMonth_succ month_pos]
      omega
    · have december : date.month = 12 := by
        have month_le := date.month_le
        omega
      have last := daysBeforeMonth_december date.year
      have january : daysBeforeMonth (date.year + 1) 1 = 0 := rfl
      simp only [dayNumber, daysBeforeYear_succ, january, december] at day_le ⊢
      rw [← last]
      rename_i full _
      rw [december] at full
      omega

@[simp]
theorem dayNumber_addDays (date : Date) (days : Nat) :
    (date.addDays days).dayNumber = date.dayNumber + days := by
  induction days with
  | zero => rfl
  | succ days induction =>
      simp only [addDays, dayNumber_next, induction]
      omega

theorem monthIndex_addMonths (date : Date) (months : Nat) :
    (date.addMonths months).monthIndex = date.monthIndex + months := by
  simp only [monthIndex, addMonths]
  omega

/-- Adding more months gives a later day. -/
theorem addMonths_strictMono (date : Date) :
    StrictMono fun months => (date.addMonths months).dayNumber := by
  intro fewer more less
  apply dayNumber_lt_of_monthIndex_lt
  rw [monthIndex_addMonths, monthIndex_addMonths]
  omega

theorem addDays_strictMono (date : Date) :
    StrictMono fun days => (date.addDays days).dayNumber := by
  intro fewer more less
  simp only [dayNumber_addDays]
  omega

end Date

/-! ## Points in time -/

/-- Points on an earlier day are earlier. -/
theorem DateTime.instant_lt_of_date {earlier later : DateTime}
    (less : earlier.date.dayNumber < later.date.dayNumber) :
    earlier.instant < later.instant := by
  have micros := earlier.micros_lt
  have days : (earlier.date.dayNumber + 1) * microsPerDay ≤
      later.date.dayNumber * microsPerDay :=
    Nat.mul_le_mul_right _ less
  rw [Nat.add_mul] at days
  simp only [instant]
  omega

theorem DateTime.date_le_of_instant {earlier later : DateTime}
    (le : earlier.instant ≤ later.instant) :
    earlier.date.dayNumber ≤ later.date.dayNumber := by
  by_contra less
  exact absurd (instant_lt_of_date (not_le.mp less)) (not_lt.mpr le)

end Klik.Lib
