import Klik.Lib.Calendar

/-!
# The calendar of recurring transfers

`slot_at`, `first_run_at` and `compute_next_run_at`.  All slots are counted
from the start date.  What `dateutil` computes is a parameter; a date beyond
the last year which a `date` can hold raises, and has no value here.
-/

namespace Klik.Recurring

open Klik.Lib

inductive RecurringCycle where
  | daily
  | weekly
  | monthly
deriving DecidableEq, Repr

/-- The uses of `dateutil.relativedelta`. -/
structure Dateutil where
  /-- `date + relativedelta(months=n)`. -/
  plusMonths : Date → Nat → Option Date
  /-- `years * 12 + months` of `relativedelta(later, earlier)`. -/
  monthsBetween : Date → Date → Int

/-- `dateutil` and the setting `RECURRING_EXECUTION_HOUR_UTC`. -/
structure ScheduleEnv where
  dateutil : Dateutil
  executionHour : Fin 24

/-- A `date` holds years up to `MAXYEAR`. -/
def representable (date : Date) : Option Date :=
  if date.year ≤ 9999 then some date else none

variable (env : ScheduleEnv)

/-- `datetime.combine(date, _execution_time())`. -/
def atExecutionTime (date : Date) : DateTime :=
  .atHour date env.executionHour

/-- `slot_at`: the n-th slot. -/
def slotAt (startDate : Date) (cycle : RecurringCycle) (n : Nat) : Option DateTime :=
  let slotDate :=
    match cycle with
    | .daily => representable (startDate.addDays n)
    | .weekly => representable (startDate.addDays (7 * n))
    | .monthly => env.dateutil.plusMonths startDate n
  slotDate.map (atExecutionTime env)

/-- `first_run_at`. -/
def firstRunAt (startDate : Date) : DateTime :=
  atExecutionTime env startDate

/-- The number of the slot from which `compute_next_run_at` looks on. -/
def lowerEstimate (startDate : Date) (cycle : RecurringCycle) (after : DateTime) : Nat :=
  if after.date.dayNumber < startDate.dayNumber then 0
  else
    let deltaDays := after.date.dayNumber - startDate.dayNumber
    match cycle with
    | .daily => deltaDays
    | .weekly => deltaDays / 7
    | .monthly => (env.dateutil.monthsBetween after.date startDate).toNat

/-- The loop of `compute_next_run_at`, for a number of turns. -/
def nextSlotFrom (startDate : Date) (cycle : RecurringCycle) (after : DateTime) :
    Nat → Nat → Option DateTime
  | 0, _ => none
  | turns + 1, n =>
      match slotAt env startDate cycle n with
      | none => none
      | some slot =>
          if slot.instant ≤ after.instant then
            nextSlotFrom startDate cycle after turns (n + 1)
          else some slot

/-- `compute_next_run_at`.  Every slot is at least a day later than the one
before it, so that the loop takes fewer turns than there are days up to
`after`. -/
def computeNextRunAt
    (startDate : Date) (cycle : RecurringCycle) (after : DateTime) : Option DateTime :=
  nextSlotFrom env startDate cycle after (after.date.dayNumber + 2)
    (lowerEstimate env startDate cycle after)

/-- A point in time at which a run is planned. -/
def IsSlot (startDate : Date) (cycle : RecurringCycle) (time : DateTime) : Prop :=
  ∃ n, slotAt env startDate cycle n = some time

theorem nextSlotFrom_some
    {startDate : Date} {cycle : RecurringCycle} {after next : DateTime}
    {turns n : Nat}
    (found : nextSlotFrom env startDate cycle after turns n = some next) :
    IsSlot env startDate cycle next ∧ after.instant < next.instant := by
  induction turns generalizing n with
  | zero => cases found
  | succ turns induction =>
      simp only [nextSlotFrom] at found
      cases slot : slotAt env startDate cycle n with
      | none => simp [slot] at found
      | some time =>
          simp only [slot] at found
          split at found
          · exact induction found
          · rename_i later
            cases found
            exact ⟨⟨n, slot⟩, Nat.lt_of_not_le later⟩

/-- The result is a slot which lies strictly later. -/
theorem computeNextRunAt_some
    {startDate : Date} {cycle : RecurringCycle} {after next : DateTime}
    (found : computeNextRunAt env startDate cycle after = some next) :
    IsSlot env startDate cycle next ∧ after.instant < next.instant :=
  nextSlotFrom_some env found

/-! ## The documented `dateutil` -/

/-- Months are added with the day clamped to the month. -/
structure Dateutil.AddsMonths (dateutil : Dateutil) : Prop where
  plusMonths_eq : ∀ (date : Date) (months : Nat), date.year ≤ 9999 →
    dateutil.plusMonths date months = representable (date.addMonths months)

/-- The first run is the slot number zero. -/
theorem slotAt_zero
    {env : ScheduleEnv} (adds : env.dateutil.AddsMonths)
    {startDate : Date} (representable_ : startDate.year ≤ 9999)
    (cycle : RecurringCycle) :
    slotAt env startDate cycle 0 = some (firstRunAt env startDate) := by
  cases cycle with
  | daily => simp [slotAt, firstRunAt, Date.addDays, representable, representable_]
  | weekly => simp [slotAt, firstRunAt, Date.addDays, representable, representable_]
  | monthly =>
      simp only [slotAt, firstRunAt, adds.plusMonths_eq startDate 0 representable_,
        Date.addMonths_zero, representable, representable_, if_true, Option.map_some]

/-- `relativedelta` as it is documented: months are added with the day
clamped to the month, and the difference is the largest number of months
which can be added to the earlier date. -/
def dateutil : Dateutil where
  plusMonths date months := representable (date.addMonths months)
  monthsBetween later earlier :=
    let months : Int :=
      (later.year * 12 + later.month : Nat) - (earlier.year * 12 + earlier.month : Nat)
    if later.dayNumber < (earlier.addMonths months.toNat).dayNumber then months - 1
    else months

theorem addsMonths_dateutil : dateutil.AddsMonths :=
  ⟨fun _ _ _ => rfl⟩

/-- Runs at eight o'clock. -/
def eightOClock : ScheduleEnv := ⟨dateutil, 8⟩

/-- A day of the year 2026. -/
def day2026 (month day : Nat)
    (month_pos : 1 ≤ month) (month_le : month ≤ 12)
    (day_pos : 1 ≤ day) (day_le : day ≤ daysInMonth 2026 month) : Date :=
  ⟨2026, month, day, month_pos, month_le, day_pos, day_le⟩

/-- From the end of January the next run is at the end of February. -/
example :
    computeNextRunAt eightOClock
        (day2026 1 31 (by decide) (by decide) (by decide) (by decide)) .monthly
        (.atHour (day2026 1 31 (by decide) (by decide) (by decide) (by decide)) 8) =
      some (.atHour (day2026 2 28 (by decide) (by decide) (by decide) (by decide)) 8) := by
  decide +kernel

end Klik.Recurring
