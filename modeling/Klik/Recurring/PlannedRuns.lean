import Klik.Recurring.SlotOrder
import Klik.Recurring.SlotsOnce
import Mathlib.Data.Finset.Card

/-!
# The number of planned runs

`estimate_total_runs` counts the slots up to the end date by a formula.  A
mandate which is neither stopped nor resumed claims its slots one by one from
the first one on, and is completed only when the next one lies after the end
date, so that by then it has executed just these slots.
-/

namespace Klik.Recurring

open Klik.Banks
open Klik.Common
open Klik.Lib

/-- `estimate_total_runs`. -/
def estimateTotalRuns (env : ScheduleEnv) (startDate : Date) (endDate : Option Date)
    (cycle : RecurringCycle) : Int :=
  match endDate with
  | none => 0
  | some endDate =>
      if endDate.dayNumber < startDate.dayNumber then 0
      else
        let deltaDays := endDate.dayNumber - startDate.dayNumber
        match cycle with
        | .daily => deltaDays + 1
        | .weekly => (deltaDays / 7 : Nat) + 1
        | .monthly => env.dateutil.monthsBetween endDate startDate + 1

/-! ## The formula -/

section Formula

variable {env : ScheduleEnv} {startDate endDate : Date} {cycle : RecurringCycle}

/-- The estimate is above the numbers of the slots up to the end date, and
only above these. -/
theorem lt_estimateTotalRuns (largest : env.dateutil.LargestMonths)
    (ordered : startDate.dayNumber ≤ endDate.dayNumber) (n : Nat) :
    (n : Int) < estimateTotalRuns env startDate (some endDate) cycle ↔
      (slotDate startDate cycle n).dayNumber ≤ endDate.dayNumber := by
  simp only [estimateTotalRuns, not_lt.mpr ordered, if_false]
  cases cycle with
  | daily =>
      simp only [slotDate, Date.dayNumber_addDays]
      omega
  | weekly =>
      simp only [slotDate, Date.dayNumber_addDays]
      omega
  | monthly =>
      rcases largest.largest endDate startDate ordered with ⟨months, between, reached, most⟩
      simp only [slotDate, between]
      constructor
      · intro less
        have le : n ≤ months := by omega
        exact le_trans (startDate.addMonths_strictMono.monotone le) reached
      · intro within
        have le := most n within
        omega

/-- The slots up to the end date. -/
def SlotUpTo (env : ScheduleEnv) (startDate endDate : Date) (cycle : RecurringCycle)
    (n : Nat) : Prop :=
  ∃ slot, slotAt env startDate cycle n = some slot ∧
    slot.date.dayNumber ≤ endDate.dayNumber

theorem slotUpTo_iff (adds : env.dateutil.AddsMonths)
    (largest : env.dateutil.LargestMonths)
    (ordered : startDate.dayNumber ≤ endDate.dayNumber) (endLe : endDate.year ≤ 9999)
    (n : Nat) :
    SlotUpTo env startDate endDate cycle n ↔
      (n : Int) < estimateTotalRuns env startDate (some endDate) cycle := by
  have startLe := le_trans (Date.year_le_of_dayNumber_le ordered) endLe
  rw [lt_estimateTotalRuns largest ordered]
  constructor
  · rintro ⟨slot, found, within⟩
    rcases (slotAt_eq_some adds startLe).mp found with ⟨_, rfl⟩
    exact within
  · intro within
    have year := le_trans (Date.year_le_of_dayNumber_le within) endLe
    exact ⟨_, (slotAt_eq_some adds startLe).mpr ⟨year, rfl⟩, within⟩

/-- The first slot is always counted. -/
theorem estimateTotalRuns_pos (largest : env.dateutil.LargestMonths)
    (ordered : startDate.dayNumber ≤ endDate.dayNumber) :
    0 < estimateTotalRuns env startDate (some endDate) cycle := by
  have first : (slotDate startDate cycle 0).dayNumber ≤ endDate.dayNumber := by
    cases cycle with
    | daily => exact ordered
    | weekly => exact ordered
    | monthly =>
        simp only [slotDate, Date.addMonths_zero]
        exact ordered
  exact (lt_estimateTotalRuns largest ordered 0).mpr first

/-- A number of slots which are all in time, with the next one not in time, is
the estimate. -/
theorem eq_estimateTotalRuns (adds : env.dateutil.AddsMonths)
    (largest : env.dateutil.LargestMonths)
    (ordered : startDate.dayNumber ≤ endDate.dayNumber) (endLe : endDate.year ≤ 9999)
    {count : Nat}
    (inTime : ∀ n < count, SlotUpTo env startDate endDate cycle n)
    (late : ¬ SlotUpTo env startDate endDate cycle count) :
    (count : Int) = estimateTotalRuns env startDate (some endDate) cycle := by
  have iff : ∀ n, SlotUpTo env startDate endDate cycle n ↔
      (n : Int) < estimateTotalRuns env startDate (some endDate) cycle :=
    slotUpTo_iff adds largest ordered endLe
  have positive : 0 < estimateTotalRuns env startDate (some endDate) cycle :=
    estimateTotalRuns_pos largest ordered
  apply le_antisymm
  · by_contra less
    have last := (iff (estimateTotalRuns env startDate (some endDate) cycle).toNat).mp
      (inTime _ (by omega))
    omega
  · rw [iff] at late
    exact not_lt.mp late

end Formula

/-! ## Runs of a mandate which is not stopped -/

/-- A mandate with the given dates as it is created, without executions. -/
structure MandateState.IsPlanned (env : RecurringEnv) (first last : Date)
    (cycle : RecurringCycle) (state : MandateState) : Prop where
  status : state.db.mandate.status = .active
  startDate : state.db.mandate.startDate = first
  endDate : state.db.mandate.endDate = some last
  cycle_eq : state.db.mandate.cycle = cycle
  nextRunAt : state.db.mandate.nextRunAt = firstRunAt env.schedule first
  executions : state.db.executions = []

/-- The steps of the tasks and requests on such a mandate. -/
def plannedSystem (env : RecurringEnv) (first last : Date)
    (cycle : RecurringCycle) : TransitionSystem MandateState MandateAction where
  Init := MandateState.IsPlanned env first last cycle
  Step := (mandateSystem env).Step

/-- The mandate is neither paused nor cancelled. -/
def goesOn (state : MandateState) (_action : MandateAction) : Bool :=
  state.db.mandate.status = .active || state.db.mandate.status = .completed

/-- A plan has claimed the slots from the first one on, none of them after the
end date. -/
structure Plan.Consecutive (env : ScheduleEnv) (plan : Plan) : Prop where
  next : slotAt env plan.startDate plan.cycle plan.claimed.length = some plan.next
  inTime : ∀ endDate, plan.endDate = some endDate → ∀ n < plan.claimed.length,
    SlotUpTo env plan.startDate endDate plan.cycle n

/-- The dates of a mandate never change. -/
theorem Plan.Advance.dates
    {env : ScheduleEnv} {plan after : Plan} (advance : plan.Advance env after) :
    after.startDate = plan.startDate ∧ after.endDate = plan.endDate ∧
      after.cycle = plan.cycle := by
  cases advance with
  | same => exact ⟨rfl, rfl, rfl⟩
  | claim next inTime computed => exact ⟨rfl, rfl, rfl⟩

/-- A claim takes the next slot and puts the mandate forward by one. -/
theorem Plan.Consecutive.advance
    {env : ScheduleEnv} (adds : env.dateutil.AddsMonths)
    (largest : env.dateutil.LargestMonths) {plan after : Plan}
    (startLe : plan.startDate.year ≤ 9999)
    (consecutive : plan.Consecutive env) (advance : plan.Advance env after) :
    after.Consecutive env := by
  cases advance with
  | same => exact consecutive
  | claim next inTime computed =>
      constructor
      · show slotAt env plan.startDate plan.cycle (plan.claimed ++ [plan.next]).length =
          some next
        rw [List.length_append, List.length_singleton]
        exact slotAt_succ_of_computeNextRunAt adds largest startLe consecutive.next computed
      · intro endDate ends n less
        simp only [List.length_append, List.length_singleton] at less
        rcases Nat.lt_or_eq_of_le (Nat.le_of_lt_succ less) with earlier | rfl
        · exact consecutive.inTime endDate ends n earlier
        · exact ⟨plan.next, consecutive.next, inTime endDate ends⟩

/-- Only a mandate whose next slot lies after its end date is completed. -/
theorem completed_of_step
    {env : RecurringEnv} {state after : MandateState} {action : MandateAction}
    (held : state.db.mandate.status = .completed → state.db.mandate.isOver = true)
    (move : (mandateSystem env).Step state action after) :
    after.db.mandate.status = .completed → after.db.mandate.isOver = true := by
  cases effect_of_step env move with
  | idle becomes =>
      rw [becomes.mandate]
      exact held
  | snapshot execution recipient member becomes =>
      rw [becomes.mandate]
      exact held
  | skipped inactive becomes =>
      rw [becomes.mandate]
      exact held
  | ended active isOver becomes =>
      rw [becomes.mandate]
      exact fun _ => isOver
  | claimed executionId next active inTime fresh computed becomes =>
      rw [becomes.mandate]
      intro completed
      have status : state.db.mandate.status = .completed := completed
      rw [active] at status
      cases status
  | succeeded index now refused attempt rtpReference raw time execution going stage
      found parsed storable carried becomes =>
      rw [becomes.mandate]
      simp only [RecurringTransfer.afterSuccess]
      split
      · rename_i passed
        exact fun _ => passed.2
      · exact held
  | failed index now refused attempt reason execution going stage found carried
      becomes =>
      rw [becomes.mandate]
      simp only [RecurringTransfer.afterFailure]
      split
      · exact held
      · split
        · intro completed
          cases completed
        · split
          · intro completed
            cases completed
          · exact held
  | paused request active becomes =>
      rw [becomes.mandate]
      intro completed
      cases completed
  | resumed request next allowed paused computed becomes =>
      rw [becomes.mandate]
      intro completed
      cases completed
  | cancelled request going becomes =>
      rw [becomes.mandate]
      intro completed
      cases completed

/-- A mandate with the given dates whose runs are consecutive, and which is
completed only after its end date. -/
structure OnPlan (env : ScheduleEnv) (first last : Date) (cycle : RecurringCycle)
    (state : MandateState) : Prop where
  ids : (state.db.executions.map RecurringExecution.id).Nodup
  startDate : state.db.plan.startDate = first
  endDate : state.db.plan.endDate = some last
  cycle_eq : state.db.plan.cycle = cycle
  consecutive : state.db.plan.Consecutive env
  completed : state.db.mandate.status = .completed → state.db.mandate.isOver = true

section Runs

variable {env : RecurringEnv} {first last : Date} {cycle : RecurringCycle}

theorem onPlan_of_isPlanned (adds : env.schedule.dateutil.AddsMonths)
    (startLe : first.year ≤ 9999) {state : MandateState}
    (planned : state.IsPlanned env first last cycle) :
    OnPlan env.schedule first last cycle state := by
  have noRuns : state.db.plan.claimed = [] := by
    simp only [RecurringDb.plan, planned.executions, List.map_nil]
  constructor
  · rw [planned.executions]
    exact List.nodup_nil
  · exact planned.startDate
  · exact planned.endDate
  · exact planned.cycle_eq
  · constructor
    · rw [noRuns]
      show slotAt _ state.db.mandate.startDate _ 0 = some state.db.mandate.nextRunAt
      rw [planned.nextRunAt, planned.startDate]
      exact slotAt_zero adds startLe _
    · rw [noRuns]
      intro endDate _ n less
      cases less
  · rw [planned.status]
    intro completed
    cases completed

/-- A step of a mandate which goes on keeps to the plan. -/
theorem OnPlan.step (adds : env.schedule.dateutil.AddsMonths)
    (largest : env.schedule.dateutil.LargestMonths) (startLe : first.year ≤ 9999)
    {state after : MandateState} {action : MandateAction}
    (onPlan : OnPlan env.schedule first last cycle state)
    (going : goesOn state action = true)
    (move : (mandateSystem env).Step state action after) :
    OnPlan env.schedule first last cycle after := by
  rcases plan_advance_of_step env onPlan.ids move with
    advance | ⟨request, next, _, _, paused, _⟩
  · rcases advance.dates with ⟨startDate, endDate, cycle_eq⟩
    constructor
    · exact (executions_of_step env move).nodup onPlan.ids
    · exact startDate.trans onPlan.startDate
    · exact endDate.trans onPlan.endDate
    · exact cycle_eq.trans onPlan.cycle_eq
    · apply onPlan.consecutive.advance adds largest _ advance
      rw [onPlan.startDate]
      exact startLe
    · exact completed_of_step onPlan.completed move
  · simp [goesOn, paused] at going

/-- A completed mandate has claimed exactly the slots up to its end date. -/
theorem OnPlan.length_of_completed (adds : env.schedule.dateutil.AddsMonths)
    (largest : env.schedule.dateutil.LargestMonths)
    (ordered : first.dayNumber ≤ last.dayNumber) (endLe : last.year ≤ 9999)
    {state : MandateState} (onPlan : OnPlan env.schedule first last cycle state)
    (completed : state.db.mandate.status = .completed) :
    (state.db.executions.length : Int) =
      estimateTotalRuns env.schedule first (some last) cycle := by
  have consecutive := onPlan.consecutive
  have length : state.db.plan.claimed.length = state.db.executions.length := by
    simp only [RecurringDb.plan, List.length_map]
  have next := consecutive.next
  have inTime := consecutive.inTime last onPlan.endDate
  rw [onPlan.startDate, onPlan.cycle_eq, length] at next inTime
  apply eq_estimateTotalRuns adds largest ordered endLe inTime
  rintro ⟨slot, found, within⟩
  rw [next] at found
  cases found
  have isOver := onPlan.completed completed
  have ends : state.db.mandate.endDate = some last := onPlan.endDate
  simp only [RecurringTransfer.isOver, ends, decide_eq_true_eq] at isOver
  exact absurd within (not_le.mpr isOver)

/-- The estimate is the number of slots up to the end date, and the number of
the executions of every mandate with these dates which is neither paused nor
cancelled until it is completed. -/
theorem estimateTotalRuns_eq_executions (adds : env.schedule.dateutil.AddsMonths)
    (largest : env.schedule.dateutil.LargestMonths)
    (ordered : first.dayNumber ≤ last.dayNumber) (endLe : last.year ≤ 9999) :
    (∃ slots : Finset Nat,
      (∀ n, n ∈ slots ↔ SlotUpTo env.schedule first last cycle n) ∧
      (slots.card : Int) = estimateTotalRuns env.schedule first (some last) cycle) ∧
    ∀ state, ((plannedSystem env first last cycle).guarded
        fun source action => goesOn source action = true).Reachable state →
      state.db.mandate.status = .completed →
        (state.db.executions.length : Int) =
          estimateTotalRuns env.schedule first (some last) cycle := by
  have startLe := le_trans (Date.year_le_of_dayNumber_le ordered) endLe
  constructor
  · have positive : 0 < estimateTotalRuns env.schedule first (some last) cycle :=
      estimateTotalRuns_pos largest ordered
    refine ⟨Finset.range (estimateTotalRuns env.schedule first (some last) cycle).toNat,
      ?_, ?_⟩
    · intro n
      rw [Finset.mem_range, slotUpTo_iff adds largest ordered endLe]
      omega
    · rw [Finset.card_range]
      omega
  · intro state reached completed
    have onPlan : OnPlan env.schedule first last cycle state := by
      apply reached.invariant
      · intro start planned
        exact onPlan_of_isPlanned adds startLe planned
      · intro source action target _ held move
        exact held.step adds largest startLe move.1 move.2
    exact onPlan.length_of_completed adds largest ordered endLe completed

end Runs

/-! ## Two daily runs -/

/-- The second and the third of June. -/
def secondOfJune : Date :=
  firstOfJune.next

def thirdOfJune : Date :=
  secondOfJune.next

/-- The daily mandate from the first to the second of June. -/
def twoDayMandate : MandateState :=
  { newMandate with
    db := { newMandate.db with
      mandate := { newMandate.db.mandate with endDate := some secondOfJune } } }

/-- Both runs are claimed a day late, and a last claim completes the mandate. -/
def claimedLate : List MandateAction :=
  [.tick (.atHour thirdOfJune 9),
    .startRun (.atHour thirdOfJune 9) 1 false,
    .startRun (.atHour thirdOfJune 9) 2 false,
    .startRun (.atHour thirdOfJune 9) 3 false]

theorem estimateTotalRuns_eq_executions_late :
    ∃ state : MandateState, state.db.mandate.status = .completed ∧
      (state.db.executions.length : Int) =
        estimateTotalRuns eightOClock firstOfJune (some secondOfJune) .daily := by
  have completed : (TransitionSystem.runLabels
      (TransitionSystem.guardStep (mandateStep documentedEnv) goesOn) twoDayMandate
      claimedLate).map (fun state => state.db.mandate.status) = some .completed := by
    decide +kernel
  rcases Option.map_eq_some_iff.mp completed with ⟨state, run, status⟩
  have planned : MandateState.IsPlanned documentedEnv firstOfJune secondOfJune .daily
      twoDayMandate := ⟨rfl, rfl, rfl, rfl, rfl, rfl⟩
  have path : ((plannedSystem documentedEnv firstOfJune secondOfJune .daily).guarded
      fun source action => goesOn source action = true).Path twoDayMandate claimedLate
      state :=
    TransitionSystem.guarded_path_of_runLabels run
  have counted := (@estimateTotalRuns_eq_executions documentedEnv firstOfJune
    secondOfJune .daily addsMonths_dateutil largestMonths_dateutil
    (by decide) (by decide)).2 state (path.reachable (.init planned)) status
  exact ⟨state, status, counted⟩

end Klik.Recurring
