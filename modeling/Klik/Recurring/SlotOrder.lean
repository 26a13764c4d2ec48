import Klik.Lib.CalendarOrder
import Klik.Recurring.Schedule
import Mathlib.Data.Nat.Find
import Mathlib.Order.WellFounded

/-!
# The order of the slots

On a calendar without a last year the slots of a mandate are strictly
increasing days, also where a monthly slot is clamped to the end of its month.
`compute_next_run_at` looks for the first slot after a point in time from an
estimated number on.  All slots before the estimate lie on earlier days than
that point, so that the search finds the least one.
-/

namespace Klik.Recurring

open Klik.Lib

/-- The difference in months is the largest number of months which can be
added to the earlier date. -/
structure Dateutil.LargestMonths (dateutil : Dateutil) : Prop where
  largest : ∀ later earlier : Date, earlier.dayNumber ≤ later.dayNumber →
    ∃ months : Nat, dateutil.monthsBetween later earlier = months ∧
      (earlier.addMonths months).dayNumber ≤ later.dayNumber ∧
      ∀ more, (earlier.addMonths more).dayNumber ≤ later.dayNumber → more ≤ months

theorem largestMonths_dateutil : dateutil.LargestMonths := by
  constructor
  intro later earlier le
  have index := Date.monthIndex_le_of_dayNumber_le le
  have earlierPos := earlier.month_pos
  have laterPos := later.month_pos
  have difference : ((later.year * 12 + later.month : Nat) : Int) -
      (earlier.year * 12 + earlier.month : Nat) =
        (later.monthIndex - earlier.monthIndex : Nat) := by
    simp only [Date.monthIndex] at index ⊢
    omega
  have bounded : ∀ more, (earlier.addMonths more).dayNumber ≤ later.dayNumber →
      more ≤ later.monthIndex - earlier.monthIndex := by
    intro more reached
    have month := Date.monthIndex_le_of_dayNumber_le reached
    rw [Date.monthIndex_addMonths] at month
    omega
  show ∃ months : Nat, (if later.dayNumber <
      (earlier.addMonths (Int.toNat _)).dayNumber then _ else _) = _ ∧ _
  rw [difference, Int.toNat_natCast]
  generalize months : later.monthIndex - earlier.monthIndex = full at bounded
  split
  · rename_i passed
    cases full with
    | zero =>
        rw [Date.addMonths_zero] at passed
        exact absurd le (not_le.mpr passed)
    | succ before =>
        refine ⟨before, by omega, ?_, ?_⟩
        · apply le_of_lt
          apply Date.dayNumber_lt_of_monthIndex_lt
          rw [Date.monthIndex_addMonths]
          omega
        · intro more reached
          have atMost := bounded more reached
          have different : more ≠ before + 1 := by
            rintro rfl
            exact absurd reached (not_le.mpr passed)
          omega
  · rename_i within
    exact ⟨full, rfl, not_lt.mp within, bounded⟩

/-! ## Slots on a calendar without a last year -/

/-- The day of the n-th slot. -/
def slotDate (startDate : Date) (cycle : RecurringCycle) (n : Nat) : Date :=
  match cycle with
  | .daily => startDate.addDays n
  | .weekly => startDate.addDays (7 * n)
  | .monthly => startDate.addMonths n

theorem slotDate_strictMono (startDate : Date) (cycle : RecurringCycle) :
    StrictMono fun n => (slotDate startDate cycle n).dayNumber := by
  cases cycle with
  | daily => exact startDate.addDays_strictMono
  | weekly =>
      intro first second less
      simp only [slotDate, Date.dayNumber_addDays]
      omega
  | monthly => exact startDate.addMonths_strictMono

/-- There is at most one slot a day. -/
theorem le_slotDate (startDate : Date) (cycle : RecurringCycle) (n : Nat) :
    n ≤ (slotDate startDate cycle n).dayNumber :=
  (slotDate_strictMono startDate cycle).le_apply

section Env

variable {env : ScheduleEnv} {startDate : Date} {cycle : RecurringCycle}

/-- Slots are the representable ones of these days. -/
theorem slotAt_eq (adds : env.dateutil.AddsMonths) (startLe : startDate.year ≤ 9999)
    (n : Nat) :
    slotAt env startDate cycle n =
      (representable (slotDate startDate cycle n)).map (atExecutionTime env) := by
  cases cycle with
  | daily => rfl
  | weekly => rfl
  | monthly =>
      simp only [slotAt, slotDate]
      rw [adds.plusMonths_eq startDate n startLe]

theorem slotAt_eq_some (adds : env.dateutil.AddsMonths) (startLe : startDate.year ≤ 9999)
    {n : Nat} {slot : DateTime} :
    slotAt env startDate cycle n = some slot ↔
      (slotDate startDate cycle n).year ≤ 9999 ∧
        slot = atExecutionTime env (slotDate startDate cycle n) := by
  rw [slotAt_eq adds startLe]
  by_cases within : (slotDate startDate cycle n).year ≤ 9999
  · simp [representable, within, eq_comm]
  · simp [representable, within]

/-- Before a slot within the calendar there are only such slots. -/
theorem slotAt_of_le (adds : env.dateutil.AddsMonths) (startLe : startDate.year ≤ 9999)
    {m n : Nat} {slot : DateTime} (le : m ≤ n)
    (found : slotAt env startDate cycle n = some slot) :
    slotAt env startDate cycle m =
      some (atExecutionTime env (slotDate startDate cycle m)) := by
  rw [slotAt_eq_some adds startLe] at found ⊢
  have earlier := (slotDate_strictMono startDate cycle).monotone le
  exact ⟨le_trans (Date.year_le_of_dayNumber_le earlier) found.1, rfl⟩

theorem atExecutionTime_lt {first second : Date}
    (less : first.dayNumber < second.dayNumber) :
    (atExecutionTime env first).instant < (atExecutionTime env second).instant :=
  DateTime.instant_lt_of_date less

/-- Slots are strictly increasing. -/
theorem slotAt_strictMono (adds : env.dateutil.AddsMonths)
    (startLe : startDate.year ≤ 9999) {m n : Nat} {first second : DateTime} (less : m < n)
    (firstSlot : slotAt env startDate cycle m = some first)
    (secondSlot : slotAt env startDate cycle n = some second) :
    first.instant < second.instant := by
  rcases (slotAt_eq_some adds startLe).mp firstSlot with ⟨_, rfl⟩
  rcases (slotAt_eq_some adds startLe).mp secondSlot with ⟨_, rfl⟩
  exact atExecutionTime_lt (slotDate_strictMono startDate cycle less)

/-! ## The estimate -/

/-- Before the estimated number the slots lie on days before `after`. -/
theorem slotDate_lt_of_lowerEstimate (largest : env.dateutil.LargestMonths)
    {after : DateTime} {n : Nat} (less : n < lowerEstimate env startDate cycle after) :
    (slotDate startDate cycle n).dayNumber < after.date.dayNumber := by
  simp only [lowerEstimate] at less
  split at less
  · cases less
  · rename_i started
    cases cycle with
    | daily =>
        simp only [slotDate, Date.dayNumber_addDays] at less ⊢
        omega
    | weekly =>
        simp only [slotDate, Date.dayNumber_addDays] at less ⊢
        omega
    | monthly =>
        rcases largest.largest after.date startDate (not_lt.mp started)
          with ⟨months, between, reached, _⟩
        simp only [between, Int.toNat_natCast] at less
        exact lt_of_lt_of_le (startDate.addMonths_strictMono less) reached

/-! ## The search -/

/-- The slot `next` has the number `n` and is the first one after a point in
time. -/
structure LeastLater (env : ScheduleEnv) (startDate : Date) (cycle : RecurringCycle)
    (after : DateTime) (n : Nat) (next : DateTime) : Prop where
  slot : slotAt env startDate cycle n = some next
  later : after.instant < next.instant
  least : ∀ m < n, ∃ earlier, slotAt env startDate cycle m = some earlier ∧
    earlier.instant ≤ after.instant

/-- If there is a later slot there is a first one. -/
theorem exists_leastLater (adds : env.dateutil.AddsMonths)
    (startLe : startDate.year ≤ 9999) {after later : DateTime} {n : Nat}
    (slot : slotAt env startDate cycle n = some later)
    (isLater : after.instant < later.instant) :
    ∃ least next, LeastLater env startDate cycle after least next := by
  have exists_later : ∃ m, ∃ time, slotAt env startDate cycle m = some time ∧
      after.instant < time.instant := ⟨n, later, slot, isLater⟩
  classical
  rcases Nat.find_spec exists_later with ⟨next, found, nextLater⟩
  refine ⟨Nat.find exists_later, next, found, nextLater, ?_⟩
  intro m less
  have earlier := slotAt_of_le adds startLe less.le found
  refine ⟨_, earlier, ?_⟩
  by_contra passed
  exact Nat.find_min exists_later less ⟨_, earlier, not_le.mp passed⟩

/-- The first later slot is not before the estimate. -/
theorem LeastLater.lowerEstimate_le (adds : env.dateutil.AddsMonths)
    (largest : env.dateutil.LargestMonths) (startLe : startDate.year ≤ 9999)
    {after next : DateTime} {n : Nat}
    (first : LeastLater env startDate cycle after n next) :
    lowerEstimate env startDate cycle after ≤ n := by
  by_contra overshoots
  have earlier := slotDate_lt_of_lowerEstimate largest (not_le.mp overshoots)
  rcases (slotAt_eq_some adds startLe).mp first.slot with ⟨_, rfl⟩
  have passed : (atExecutionTime env (slotDate startDate cycle n)).instant < after.instant :=
    DateTime.instant_lt_of_date earlier
  exact absurd first.later (not_lt.mpr passed.le)

/-- The first later slot comes within as many turns as there are days. -/
theorem LeastLater.le_dayNumber (adds : env.dateutil.AddsMonths)
    (startLe : startDate.year ≤ 9999) {after next : DateTime} {n : Nat}
    (first : LeastLater env startDate cycle after n next) :
    n ≤ after.date.dayNumber + 1 := by
  cases n with
  | zero => exact Nat.zero_le _
  | succ before =>
      rcases first.least before (Nat.lt_succ_self before) with ⟨earlier, slot, passed⟩
      rcases (slotAt_eq_some adds startLe).mp slot with ⟨_, rfl⟩
      have days := DateTime.date_le_of_instant passed
      exact Nat.succ_le_succ (le_trans (le_slotDate startDate cycle before) days)

/-- The loop finds the first later slot from any number up to it on. -/
theorem nextSlotFrom_of_leastLater
    {after next : DateTime} {n least turns : Nat}
    (first : LeastLater env startDate cycle after least next)
    (from_le : n ≤ least) (enough : least < n + turns) :
    nextSlotFrom env startDate cycle after turns n = some next := by
  induction turns generalizing n with
  | zero => omega
  | succ turns induction =>
      simp only [nextSlotFrom]
      rcases Nat.lt_or_eq_of_le from_le with less | rfl
      · rcases first.least n less with ⟨earlier, slot, passed⟩
        simp only [slot, passed, if_true]
        exact induction less (by omega)
      · simp only [first.slot, not_le.mpr first.later, if_false]

theorem computeNextRunAt_of_leastLater (adds : env.dateutil.AddsMonths)
    (largest : env.dateutil.LargestMonths) (startLe : startDate.year ≤ 9999)
    {after next : DateTime} {n : Nat}
    (first : LeastLater env startDate cycle after n next) :
    computeNextRunAt env startDate cycle after = some next := by
  have days := first.le_dayNumber adds startLe
  apply nextSlotFrom_of_leastLater first
  · exact first.lowerEstimate_le adds largest startLe
  · omega

/-- After a slot the first later one is the next. -/
theorem leastLater_succ (adds : env.dateutil.AddsMonths)
    (startLe : startDate.year ≤ 9999) {n : Nat} {slot next : DateTime}
    (here : slotAt env startDate cycle n = some slot)
    (there : slotAt env startDate cycle (n + 1) = some next) :
    LeastLater env startDate cycle slot (n + 1) next := by
  refine ⟨there, slotAt_strictMono adds startLe (Nat.lt_succ_self n) here there, ?_⟩
  intro m less
  have earlier := slotAt_of_le adds startLe less.le there
  refine ⟨_, earlier, ?_⟩
  rcases Nat.lt_or_eq_of_le (Nat.le_of_lt_succ less) with before | rfl
  · exact (slotAt_strictMono adds startLe before earlier here).le
  · rw [Option.some.inj (earlier.symm.trans here)]

/-! ## Iterating from the first run -/

/-- The planned time after a number of runs, each of which has put the mandate
forward with `compute_next_run_at`. -/
def nextRunAfter (env : ScheduleEnv) (startDate : Date) (cycle : RecurringCycle) :
    Nat → Option DateTime
  | 0 => some (firstRunAt env startDate)
  | runs + 1 =>
      (nextRunAfter env startDate cycle runs).bind (computeNextRunAt env startDate cycle)

/-- After the last slot of the calendar there is no next one. -/
theorem computeNextRunAt_last (adds : env.dateutil.AddsMonths)
    (startLe : startDate.year ≤ 9999) {n : Nat} {slot : DateTime}
    (here : slotAt env startDate cycle n = some slot)
    (last : slotAt env startDate cycle (n + 1) = none) :
    computeNextRunAt env startDate cycle slot = none := by
  by_contra found
  rcases Option.ne_none_iff_exists'.mp found with ⟨next, found⟩
  rcases computeNextRunAt_some env found with ⟨⟨m, there⟩, later⟩
  rcases Nat.lt_or_ge n m with less | le
  · have between := slotAt_of_le adds startLe less there
    rw [last] at between
    cases between
  · rcases Nat.lt_or_eq_of_le le with before | rfl
    · exact absurd later
        (not_lt.mpr (slotAt_strictMono adds startLe before there here).le)
    · rw [Option.some.inj (there.symm.trans here)] at later
      exact absurd later (lt_irrefl _)

/-- From a slot the search leads to the next slot only. -/
theorem slotAt_succ_of_computeNextRunAt (adds : env.dateutil.AddsMonths)
    (largest : env.dateutil.LargestMonths) (startLe : startDate.year ≤ 9999) {n : Nat}
    {slot next : DateTime} (here : slotAt env startDate cycle n = some slot)
    (found : computeNextRunAt env startDate cycle slot = some next) :
    slotAt env startDate cycle (n + 1) = some next := by
  cases there : slotAt env startDate cycle (n + 1) with
  | none =>
      rw [computeNextRunAt_last adds startLe here there] at found
      cases found
  | some following =>
      rw [← found]
      exact (computeNextRunAt_of_leastLater adds largest startLe
        (leastLater_succ adds startLe here there)).symm

theorem nextRunAfter_eq (adds : env.dateutil.AddsMonths)
    (largest : env.dateutil.LargestMonths) (startLe : startDate.year ≤ 9999) (n : Nat) :
    nextRunAfter env startDate cycle n = slotAt env startDate cycle n := by
  induction n with
  | zero => exact (slotAt_zero adds startLe cycle).symm
  | succ n induction =>
      rw [nextRunAfter, induction]
      cases here : slotAt env startDate cycle n with
      | none =>
          cases there : slotAt env startDate cycle (n + 1) with
          | none => rfl
          | some next =>
              rw [slotAt_of_le adds startLe (Nat.le_succ n) there] at here
              cases here
      | some slot =>
          cases there : slotAt env startDate cycle (n + 1) with
          | none => exact computeNextRunAt_last adds startLe here there
          | some next =>
              exact computeNextRunAt_of_leastLater adds largest startLe
                (leastLater_succ adds startLe here there)

/-- `compute_next_run_at` returns the first slot after a point in time if the
calendar has one, and otherwise nothing; from a slot it leads to the next one,
and from the first run on it goes through all slots in their order. -/
theorem computeNextRunAt_least (adds : env.dateutil.AddsMonths)
    (largest : env.dateutil.LargestMonths) (startLe : startDate.year ≤ 9999) :
    (∀ after n later, slotAt env startDate cycle n = some later →
      after.instant < later.instant →
        ∃ least next, computeNextRunAt env startDate cycle after = some next ∧
          LeastLater env startDate cycle after least next) ∧
    (∀ after next, computeNextRunAt env startDate cycle after = some next →
      ∃ n, LeastLater env startDate cycle after n next) ∧
    (∀ n slot next, slotAt env startDate cycle n = some slot →
      slotAt env startDate cycle (n + 1) = some next →
        computeNextRunAt env startDate cycle slot = some next) ∧
    (∀ n, nextRunAfter env startDate cycle n = slotAt env startDate cycle n) ∧
    ∀ m n first second, m < n → slotAt env startDate cycle m = some first →
      slotAt env startDate cycle n = some second → first.instant < second.instant := by
  have search : ∀ after n later, slotAt env startDate cycle n = some later →
      after.instant < later.instant →
        ∃ least next, computeNextRunAt env startDate cycle after = some next ∧
          LeastLater env startDate cycle after least next := by
    intro after n later slot isLater
    rcases exists_leastLater adds startLe slot isLater with ⟨least, next, first⟩
    exact ⟨least, next, computeNextRunAt_of_leastLater adds largest startLe first, first⟩
  refine ⟨search, ?_, ?_, ?_, ?_⟩
  · intro after next found
    rcases computeNextRunAt_some env found with ⟨⟨n, slot⟩, later⟩
    rcases search after n next slot later with ⟨least, other, again, first⟩
    rw [found] at again
    cases again
    exact ⟨least, first⟩
  · intro n slot next here there
    exact computeNextRunAt_of_leastLater adds largest startLe
      (leastLater_succ adds startLe here there)
  · exact nextRunAfter_eq adds largest startLe
  · intro m n first second less firstSlot secondSlot
    exact slotAt_strictMono adds startLe less firstSlot secondSlot

/-- Monthly runs from the end of January on. -/
theorem computeNextRunAt_least_monthly :
    nextRunAfter eightOClock
        (day2026 1 31 (by decide) (by decide) (by decide) (by decide)) .monthly 2 =
      slotAt eightOClock
        (day2026 1 31 (by decide) (by decide) (by decide) (by decide)) .monthly 2 :=
  (computeNextRunAt_least addsMonths_dateutil largestMonths_dateutil
    (by decide)).2.2.2.1 2

end Env

end Klik.Recurring
