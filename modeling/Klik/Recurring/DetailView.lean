import Klik.Recurring.ExecutionsView
import Klik.Recurring.PlannedRuns

/-!
# The summary of a mandate

`RecurringDetailView.get`: the columns of a mandate, with the number of its
planned runs and of those which have ended, which a second query counts.  A
mandate which is paused and resumed leaves slots out, and never runs in a slot
which is not planned.
-/

namespace Klik.Recurring

open Klik.Banks
open Klik.Common
open Klik.Lib

/-! ## The view -/

structure ExecutionsSummary where
  scheduled : Int
  succeeded : Nat
  failed : Nat
deriving DecidableEq, Repr

/-- The fields of `RecurringDetailResponseSerializer`, without the time of the
creation. -/
structure DetailResponse where
  recurringTransferId : Uuid
  status : RecurringTransferStatus
  payerUserId : PyStr
  recipientPhone : PyStr
  amount : Decimal
  currency : Currency
  zone : Zone
  cycle : RecurringCycle
  startDate : Date
  endDate : Option Date
  nextRunAt : DateTime
  lastRunAt : Option DateTime
  failedRunsCount : Nat
  executionsSummary : ExecutionsSummary
deriving DecidableEq, Repr

/-- `Count('id', filter=Q(status=...))`. -/
def countStatus (status : RecurringExecutionStatus) (executions : List RecurringExecution) : Nat :=
  executions.countP fun execution => execution.status = status

def detailResponse (env : ScheduleEnv) (mandate : RecurringTransfer)
    (executions : List RecurringExecution) : DetailResponse where
  recurringTransferId := mandate.id
  status := mandate.status
  payerUserId := mandate.payerUserId
  recipientPhone := mandate.recipientPhone
  amount := mandate.amount
  currency := mandate.currency
  zone := mandate.zone
  cycle := mandate.cycle
  startDate := mandate.startDate
  endDate := mandate.endDate
  nextRunAt := mandate.nextRunAt
  lastRunAt := mandate.lastRunAt
  failedRunsCount := mandate.failedRunsCount
  executionsSummary :=
    { scheduled := estimateTotalRuns env mandate.startDate mandate.endDate mandate.cycle
      succeeded := countStatus .success executions
      failed := countStatus .failed executions }

/-- `RecurringDetailView.get`, with the row of the first query and the rows of
the second one. -/
def detailView (env : ScheduleEnv) (bank : Bank) (recurringTransferId : Uuid)
    (mandate : RecurringTransfer) (executions : List RecurringExecution) :
    Except RecurringError DetailResponse :=
  match checkBank bank with
  | .error error => .error error
  | .ok () =>
      if mandate.id ≠ recurringTransferId then
        .error (.api recurringNotFoundError)
      else if mandate.payerBank.id ≠ bank.id then
        .error (.api recurringNotFoundError)
      else .ok (detailResponse env mandate executions)

/-- Only the owner sees a mandate. -/
theorem detailView_ok
    {env : ScheduleEnv} {bank : Bank} {recurringTransferId : Uuid} {mandate : RecurringTransfer}
    {executions : List RecurringExecution} {response : DetailResponse}
    (answered : detailView env bank recurringTransferId mandate executions = .ok response) :
    mandate.payerBank.id = bank.id ∧ detailResponse env mandate executions = response := by
  simp only [detailView] at answered
  split at answered
  · cases answered
  · split at answered
    · cases answered
    · split at answered
      · cases answered
      · rename_i owner
        cases answered
        exact ⟨not_not.mp owner, rfl⟩

theorem countStatus_add_le (executions : List RecurringExecution) :
    countStatus .success executions + countStatus .failed executions ≤ executions.length := by
  induction executions with
  | nil => exact Nat.le_refl 0
  | cons execution rest ih =>
      simp only [countStatus, List.countP_cons, List.length_cons] at ih ⊢
      cases status : execution.status <;> simp <;> omega

/-! ## The slots of the runs -/

/-- A plan ends after its start, and each of its runs is one of its slots. -/
structure Plan.Sound (env : ScheduleEnv) (plan : Plan) : Prop where
  startLe : plan.startDate.year ≤ 9999
  ordered : ∀ endDate, plan.endDate = some endDate →
    plan.startDate.dayNumber ≤ endDate.dayNumber
  slots : ∀ time ∈ plan.claimed, IsSlot env plan.startDate plan.cycle time

section Slots

variable {env : ScheduleEnv} {plan after : Plan}

theorem Plan.Sound.step
    (sound : plan.Sound env) (orderly : plan.Orderly env) (step : plan.Step env after) :
    after.Sound env := by
  cases step with
  | same => exact sound
  | claim next inTime computed =>
      refine ⟨sound.startLe, sound.ordered, ?_⟩
      intro time member
      rcases List.mem_append.mp member with old | new
      · exact sound.slots time old
      · rw [List.mem_singleton.mp new]
        exact orderly.slot
  | resume now next late computed => exact ⟨sound.startLe, sound.ordered, sound.slots⟩

/-- A plan has no more runs than slots up to its end. -/
theorem Plan.Sound.length_le
    (adds : env.dateutil.AddsMonths) (largest : env.dateutil.LargestMonths)
    (sound : plan.Sound env) (orderly : plan.Orderly env)
    {endDate : Date} (ends : plan.endDate = some endDate) :
    (plan.claimed.length : Int) ≤
      estimateTotalRuns env plan.startDate (some endDate) plan.cycle := by
  have ordered := sound.ordered endDate ends
  have positive := @estimateTotalRuns_pos env plan.startDate endDate plan.cycle largest ordered
  obtain ⟨planned, planned_eq⟩ :
      ∃ planned : Nat, estimateTotalRuns env plan.startDate (some endDate) plan.cycle = planned :=
    ⟨_, (Int.toNat_of_nonneg positive.le).symm⟩
  -- The runs are at different times, all of them among the first slots.
  have among : plan.claimed ⊆
      (List.range planned).filterMap (slotAt env plan.startDate plan.cycle) := by
    intro time member
    rcases sound.slots time member with ⟨n, slot⟩
    have within := orderly.inTime time member endDate ends
    rcases (slotAt_eq_some adds sound.startLe).mp slot with ⟨_, rfl⟩
    have less : (n : Int) < planned :=
      planned_eq ▸ (lt_estimateTotalRuns largest ordered n).mpr within
    exact List.mem_filterMap.mpr ⟨n, List.mem_range.mpr (Int.ofNat_lt.mp less), slot⟩
  have distinct : plan.claimed.Nodup := orderly.distinct.of_map _
  have fewer := (distinct.subperm among).length_le
  have most := List.length_filterMap_le (slotAt env plan.startDate plan.cycle)
    (List.range planned)
  rw [List.length_range] at most
  rw [planned_eq]
  exact Int.ofNat_le.mpr (fewer.trans most)

theorem Plan.Step.dates (step : plan.Step env after) :
    after.startDate = plan.startDate ∧ after.endDate = plan.endDate ∧
      after.cycle = plan.cycle := by
  cases step with
  | same => exact ⟨rfl, rfl, rfl⟩
  | claim next inTime computed => exact ⟨rfl, rfl, rfl⟩
  | resume now next late computed => exact ⟨rfl, rfl, rfl⟩

end Slots

variable {env : RecurringEnv} {state after : MandateState}

theorem sound_of_reachable
    (adds : env.schedule.dateutil.AddsMonths)
    (reached : ((mandateSystem env).guarded ResumesLate).Reachable state) :
    state.db.plan.Sound env.schedule := by
  apply reached.invariant
  · intro start isStart
    constructor
    · exact isStart.mandate.startDate_le
    · intro endDate ends
      exact (isStart.mandate.endDate_later endDate ends).le
    · intro time member
      simp only [RecurringDb.plan, isStart.executions, List.map_nil] at member
      cases member
  · intro source action target sourceReached sound move
    apply sound.step (orderly_of_reachable env adds sourceReached)
    exact plan_of_step env (nodup_executions env sourceReached.of_guarded) move.1 move.2

/-- The dates of a mandate stay over a run. -/
theorem dates_of_path
    (reached : ((mandateSystem env).guarded ResumesLate).Reachable state)
    {actions : List MandateAction}
    (path : ((mandateSystem env).guarded ResumesLate).Path state actions after) :
    after.db.plan.startDate = state.db.plan.startDate ∧
      after.db.plan.endDate = state.db.plan.endDate ∧
        after.db.plan.cycle = state.db.plan.cycle := by
  apply path.preserves fun between =>
    between.db.plan.startDate = state.db.plan.startDate ∧
      between.db.plan.endDate = state.db.plan.endDate ∧
        between.db.plan.cycle = state.db.plan.cycle
  · rintro source action target sourceReached ⟨startDate, endDate, cycle⟩ move
    have step := plan_of_step env (nodup_executions env sourceReached.of_guarded) move.1 move.2
    rcases step.dates with ⟨startStays, endStays, cycleStays⟩
    exact ⟨startStays.trans startDate, endStays.trans endDate, cycleStays.trans cycle⟩
  · exact reached
  · exact ⟨rfl, rfl, rfl⟩

/-- In every run in which mandates are resumed late enough, and whatever happens
between the two queries, the summary of a mandate with an end date never counts
more runs than it says are scheduled, nor are there any others. -/
theorem summary_within_plan
    (adds : env.schedule.dateutil.AddsMonths) (largest : env.schedule.dateutil.LargestMonths)
    (state after : MandateState)
    (reached : ((mandateSystem env).guarded ResumesLate).Reachable state)
    (actions : List MandateAction)
    (path : ((mandateSystem env).guarded ResumesLate).Path state actions after)
    (bank : Bank) (recurringTransferId : Uuid) (response : DetailResponse)
    (answered : detailView env.schedule bank recurringTransferId state.db.mandate
      after.db.executions = .ok response)
    (endDate : Date) (ends : response.endDate = some endDate) :
    response.executionsSummary.succeeded + response.executionsSummary.failed ≤
        after.db.executions.length ∧
      (after.db.executions.length : Int) ≤ response.executionsSummary.scheduled := by
  rcases detailView_ok answered with ⟨_, rfl⟩
  rcases dates_of_path reached path with ⟨startStays, endStays, cycleStays⟩
  have planEnds : state.db.plan.endDate = some endDate := ends
  have later := path.reachable reached
  have within := (sound_of_reachable adds later).length_le adds largest
    (orderly_of_reachable env adds later) (endStays.trans planEnds)
  constructor
  · exact countStatus_add_le after.db.executions
  · rw [startStays, cycleStays, ← planEnds] at within
    simp only [RecurringDb.plan, List.length_map] at within
    exact within

theorem isStart_twoDayMandate : twoDayMandate.IsStart documentedEnv where
  mandate :=
    { status := rfl
      startDate_le := by decide
      nextRunAt := rfl
      failedRunsCount := rfl
      pausedAt := rfl
      cancelledAt := rfl
      endDate_later := by
        intro endDate ends
        cases ends
        decide }
  executions := rfl
  attempts := rfl
  outbox := rfl
  sent := rfl
  finalized := rfl

/-- The mandate is read before its first run, and the runs are counted after it
was claimed. -/
theorem summary_within_plan_claimFirst :
    ∃ (after : MandateState) (response : DetailResponse),
      detailView eightOClock (polishBank 1) 1 twoDayMandate.db.mandate after.db.executions =
          .ok response ∧
        response.executionsSummary = ⟨2, 0, 0⟩ ∧ after.db.executions.length = 1 ∧
        (after.db.executions.length : Int) ≤ response.executionsSummary.scheduled := by
  have told : (TransitionSystem.runLabels (mandateStep documentedEnv) twoDayMandate
      (claimFirst 1)).map (fun state =>
        (state.db.executions.length,
          (detailView eightOClock (polishBank 1) 1 twoDayMandate.db.mandate
            state.db.executions).toOption.map fun response =>
              (response.endDate, response.executionsSummary))) =
      some (1, some (some secondOfJune, ⟨2, 0, 0⟩)) := by
    decide +kernel
  rcases Option.map_eq_some_iff.mp told with ⟨after, run, shown⟩
  rcases Prod.mk.inj shown with ⟨length, summary⟩
  have run : (mandateSystem documentedEnv).Path twoDayMandate (claimFirst 1) after :=
    TransitionSystem.path_of_runLabels run
  have path : ((mandateSystem documentedEnv).guarded ResumesLate).Path twoDayMandate
      (claimFirst 1) after := by
    apply run.to_guarded
    intro action member _
    simp only [claimFirst, List.mem_cons, List.not_mem_nil, or_false] at member
    rcases member with rfl | rfl
    · trivial
    · trivial
  cases answered : detailView eightOClock (polishBank 1) 1 twoDayMandate.db.mandate
      after.db.executions with
  | error error =>
      rw [answered] at summary
      cases summary
  | ok response =>
      rw [answered] at summary
      rcases Prod.mk.inj (Option.some.inj summary) with ⟨ends, counts⟩
      exact ⟨after, response, answered, counts, length,
        (@summary_within_plan documentedEnv addsMonths_dateutil largestMonths_dateutil
          twoDayMandate after (.init isStart_twoDayMandate) (claimFirst 1) path (polishBank 1) 1
          response answered secondOfJune ends).2⟩

end Klik.Recurring
