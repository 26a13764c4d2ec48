import Klik.Recurring.MandateSystem

/-!
# No slot is executed twice

The plan of a mandate is what its schedule depends on: the dates, the next
run, and the times of the claimed runs.  A claim moves the next run behind
the claimed one; a resumed mandate goes on with the first slot after a
reading of the clock.  The plan stays orderly as long as no mandate is
resumed with a reading from before one of its runs.
-/

namespace Klik.Recurring

open Klik.Banks
open Klik.Common
open Klik.Lib

/-! ## Plans -/

/-- The schedule of a mandate, with the times of its runs in order. -/
structure Plan where
  startDate : Date
  cycle : RecurringCycle
  endDate : Option Date
  next : DateTime
  claimed : List DateTime

namespace Plan

/-- How a plan goes on. -/
inductive Step (env : ScheduleEnv) (plan : Plan) : Plan → Prop where
  | same : Step env plan plan
  | claim (next : DateTime)
      (inTime : ∀ endDate, plan.endDate = some endDate →
        plan.next.date.dayNumber ≤ endDate.dayNumber)
      (computed : computeNextRunAt env plan.startDate plan.cycle plan.next = some next) :
      Step env plan
        { plan with
          next := next
          claimed := plan.claimed ++ [plan.next] }
  | resume (now next : DateTime)
      (late : ∀ time ∈ plan.claimed, time.instant ≤ now.instant)
      (computed : computeNextRunAt env plan.startDate plan.cycle now = some next) :
      Step env plan { plan with next := next }

/-- How a plan goes on while the mandate is not resumed. -/
inductive Advance (env : ScheduleEnv) (plan : Plan) : Plan → Prop where
  | same : Advance env plan plan
  | claim (next : DateTime)
      (inTime : ∀ endDate, plan.endDate = some endDate →
        plan.next.date.dayNumber ≤ endDate.dayNumber)
      (computed : computeNextRunAt env plan.startDate plan.cycle plan.next = some next) :
      Advance env plan
        { plan with
          next := next
          claimed := plan.claimed ++ [plan.next] }

theorem Advance.step
    {env : ScheduleEnv} {plan after : Plan} (advance : plan.Advance env after) :
    plan.Step env after := by
  cases advance with
  | same => exact .same
  | claim next inTime computed => exact .claim next inTime computed

/-- The next run is a slot behind all runs, which lie at different times up to
the end date. -/
structure Orderly (env : ScheduleEnv) (plan : Plan) : Prop where
  slot : IsSlot env plan.startDate plan.cycle plan.next
  distinct : (plan.claimed.map DateTime.instant).Nodup
  earlier : ∀ time ∈ plan.claimed, time.instant < plan.next.instant
  inTime : ∀ time ∈ plan.claimed, ∀ endDate, plan.endDate = some endDate →
    time.date.dayNumber ≤ endDate.dayNumber

theorem Orderly.step
    {env : ScheduleEnv} {plan after : Plan}
    (orderly : plan.Orderly env) (step : plan.Step env after) :
    after.Orderly env := by
  cases step with
  | same => exact orderly
  | claim next inTime computed =>
      have found := computeNextRunAt_some env computed
      constructor
      · exact found.1
      · rw [List.map_append, List.map_singleton]
        apply List.Nodup.append orderly.distinct (List.nodup_singleton _)
        intro instant member single
        rcases List.mem_map.mp member with ⟨time, timeMember, rfl⟩
        have before := orderly.earlier time timeMember
        rw [List.mem_singleton.mp single] at before
        exact Nat.lt_irrefl _ before
      · intro time member
        rcases List.mem_append.mp member with old | new
        · exact Nat.lt_trans (orderly.earlier time old) found.2
        · rw [List.mem_singleton.mp new]
          exact found.2
      · intro time member
        rcases List.mem_append.mp member with old | new
        · exact orderly.inTime time old
        · rw [List.mem_singleton.mp new]
          exact inTime
  | resume now next late computed =>
      have found := computeNextRunAt_some env computed
      constructor
      · exact found.1
      · exact orderly.distinct
      · intro time member
        exact Nat.lt_of_le_of_lt (late time member) found.2
      · exact orderly.inTime

end Plan

/-! ## The plan of a mandate -/

def RecurringDb.plan (db : RecurringDb) : Plan where
  startDate := db.mandate.startDate
  cycle := db.mandate.cycle
  endDate := db.mandate.endDate
  next := db.mandate.nextRunAt
  claimed := db.executions.map RecurringExecution.scheduledFor

/-- A mandate is resumed only by a request which has read the clock after the
time of every run so far. -/
def ResumesLate (state : MandateState) (action : MandateAction) : Prop :=
  match action with
  | .resume request =>
      request.Allowed state.db.mandate → state.db.mandate.status = .paused →
        ∀ execution ∈ state.db.executions,
          execution.scheduledFor.instant ≤ request.now.instant
  | _ => True

theorem RecurringTransfer.inTime_of_isOver
    {mandate : RecurringTransfer} (inTime : mandate.isOver = false) :
    ∀ endDate, mandate.endDate = some endDate →
      mandate.nextRunAt.date.dayNumber ≤ endDate.dayNumber := by
  intro endDate ends
  simpa [RecurringTransfer.isOver, ends] using inTime

/-- A finalised run leaves the schedule of the mandate alone. -/
theorem plan_afterSuccess
    (now : DateTime) (executionId : Uuid) (mandate : RecurringTransfer)
    (executions : List RecurringExecution) :
    RecurringDb.plan ⟨(mandate.afterSuccess now executionId).1, executions⟩ =
      RecurringDb.plan ⟨mandate, executions⟩ := by
  simp only [RecurringTransfer.afterSuccess]
  split
  · rfl
  · rfl

theorem plan_afterFailure
    (threshold : Int) (now : DateTime) (reason : ExecutionFailureReason)
    (mandate : RecurringTransfer) (executions : List RecurringExecution) :
    RecurringDb.plan ⟨(mandate.afterFailure threshold now reason).1, executions⟩ =
      RecurringDb.plan ⟨mandate, executions⟩ := by
  simp only [RecurringTransfer.afterFailure]
  split
  · rfl
  · split
    · rfl
    · split
      · rfl
      · rfl

/-- Changing an execution without its time leaves the plan alone. -/
theorem plan_saveRow
    {db : RecurringDb} (ids : (db.executions.map RecurringExecution.id).Nodup)
    {execution : RecurringExecution} (row : RecurringExecution)
    (member : execution ∈ db.executions)
    (sameId : row.id = execution.id)
    (sameTime : row.scheduledFor = execution.scheduledFor) :
    RecurringDb.plan
        ⟨db.mandate, saveRow RecurringExecution.id row db.executions⟩ = db.plan := by
  simp only [RecurringDb.plan,
    map_saveRow RecurringExecution.scheduledFor ids member sameId sameTime]

variable (env : RecurringEnv)

/-- A step advances the plan or resumes the mandate. -/
theorem plan_advance_of_step
    {state after : MandateState} {action : MandateAction}
    (ids : (state.db.executions.map RecurringExecution.id).Nodup)
    (move : (mandateSystem env).Step state action after) :
    state.db.plan.Advance env.schedule after.db.plan ∨
      ∃ request next, action = .resume request ∧
        request.Allowed state.db.mandate ∧ state.db.mandate.status = .paused ∧
        computeNextRunAt env.schedule state.db.mandate.startDate state.db.mandate.cycle
          request.now = some next ∧
        after.db.plan = { state.db.plan with next := next } := by
  have rows : ∀ {mandate executions ended finalized},
      Becomes state after mandate executions ended finalized →
        after.db.plan = RecurringDb.plan ⟨mandate, executions⟩ := by
    intro mandate executions ended finalized becomes
    simp only [RecurringDb.plan, becomes.mandate, becomes.executions]
  cases effect_of_step env move with
  | idle becomes =>
      rw [rows becomes]
      exact Or.inl .same
  | snapshot execution recipient member becomes =>
      rw [rows becomes,
        plan_saveRow ids (execution.withSnapshot recipient) member rfl rfl]
      exact Or.inl .same
  | skipped inactive becomes =>
      rw [rows becomes]
      simp only [RecurringDb.plan, map_skipScheduled RecurringExecution.scheduledFor
        (fun _ _ => rfl)]
      exact Or.inl .same
  | ended active isOver becomes =>
      rw [rows becomes]
      exact Or.inl .same
  | claimed executionId next active inTime fresh computed becomes =>
      rw [rows becomes]
      simp only [RecurringDb.plan, List.map_append, List.map_singleton]
      exact Or.inl (.claim next (RecurringTransfer.inTime_of_isOver inTime) computed)
  | succeeded index now refused attempt rtpReference raw time execution going stage
      found parsed storable carried becomes =>
      rw [rows becomes, plan_afterSuccess,
        plan_saveRow ids (execution.succeeded time rtpReference)
          (mem_of_rowAt found).1 rfl rfl]
      exact Or.inl .same
  | failed index now refused attempt reason execution going stage found carried
      becomes =>
      rw [rows becomes, plan_afterFailure,
        plan_saveRow ids (execution.failedWith reason) (mem_of_rowAt found).1 rfl rfl]
      exact Or.inl .same
  | paused request active becomes =>
      rw [rows becomes]
      exact Or.inl .same
  | resumed request next allowed paused computed becomes =>
      exact Or.inr ⟨request, next, rfl, allowed, paused, computed, rows becomes⟩
  | cancelled request going becomes =>
      rw [rows becomes]
      exact Or.inl .same

/-- Every guarded step is a step of the plan. -/
theorem plan_of_step
    {state after : MandateState} {action : MandateAction}
    (ids : (state.db.executions.map RecurringExecution.id).Nodup)
    (guard : ResumesLate state action)
    (move : (mandateSystem env).Step state action after) :
    state.db.plan.Step env.schedule after.db.plan := by
  rcases plan_advance_of_step env ids move with
    advance | ⟨request, next, rfl, allowed, paused, computed, plan_eq⟩
  · exact advance.step
  · rw [plan_eq]
    refine .resume request.now next ?_ computed
    intro time member
    rcases List.mem_map.mp member with ⟨execution, executionMember, rfl⟩
    exact guard allowed paused execution executionMember

/-- No two executions are for one time, the next run is a slot behind all of
them, and none lies after the end date. -/
structure SlotsExecutedOnce (state : MandateState) : Prop where
  distinct :
    (state.db.executions.map fun execution => execution.scheduledFor.instant).Nodup
  slot : IsSlot env.schedule state.db.mandate.startDate state.db.mandate.cycle
    state.db.mandate.nextRunAt
  earlier : ∀ execution ∈ state.db.executions,
    execution.scheduledFor.instant < state.db.mandate.nextRunAt.instant
  inTime : ∀ execution ∈ state.db.executions,
    ∀ endDate, state.db.mandate.endDate = some endDate →
      execution.scheduledFor.date.dayNumber ≤ endDate.dayNumber

/-- While mandates are resumed late enough, their plans stay orderly. -/
theorem orderly_of_reachable
    (adds : env.schedule.dateutil.AddsMonths) {state : MandateState}
    (reached : ((mandateSystem env).guarded ResumesLate).Reachable state) :
    state.db.plan.Orderly env.schedule := by
  apply reached.invariant
  · intro start isStart
    have noRuns : start.db.plan.claimed = [] := by
      simp only [RecurringDb.plan, isStart.executions, List.map_nil]
    constructor
    · refine ⟨0, ?_⟩
      simp only [RecurringDb.plan, isStart.mandate.nextRunAt]
      exact slotAt_zero adds isStart.mandate.startDate_le _
    · rw [noRuns]
      exact List.nodup_nil
    · rw [noRuns]
      intro time member
      cases member
    · rw [noRuns]
      intro time member
      cases member
  · intro source action target sourceReached held move
    exact held.step
      (plan_of_step env (nodup_executions env sourceReached.of_guarded) move.1 move.2)

/-- While mandates are resumed late enough, no slot is executed twice. -/
theorem slots_executed_once
    (adds : env.schedule.dateutil.AddsMonths)
    (state : MandateState)
    (reached : ((mandateSystem env).guarded ResumesLate).Reachable state) :
    SlotsExecutedOnce env state := by
  have orderly := orderly_of_reachable env adds reached
  constructor
  · have distinct := orderly.distinct
    simp only [RecurringDb.plan, List.map_map] at distinct
    exact distinct
  · exact orderly.slot
  · intro execution member
    exact orderly.earlier _ (List.mem_map_of_mem member)
  · intro execution member
    exact orderly.inTime _ (List.mem_map_of_mem member)

/-! ## A request which waits for the lock -/

/-- The documented libraries, and pausing after three failures. -/
def documentedEnv : RecurringEnv where
  schedule := eightOClock
  runtime := .ascii
  parseDatetime := fun _ => .none
  threshold := 3

/-- The first of June. -/
def firstOfJune : Date :=
  day2026 6 1 (by decide) (by decide) Nat.one_pos (by decide)

/-- A daily mandate from the first of June, seen an hour before its first
run. -/
def newMandate : MandateState where
  clock := .atHour firstOfJune 7
  db :=
    { mandate :=
        { id := 1
          payerBank := polishBank 1
          payerUserId := py "client"
          recipientPhone := py "+48501234567"
          amount := 50
          currency := .PLN
          zone := .PL
          cycle := .daily
          startDate := firstOfJune
          endDate := none
          nextRunAt := .atHour firstOfJune 8
          lastRunAt := none
          lastExecution := none
          status := .active
          failedRunsCount := 0
          mandateSignedAt := .atHour firstOfJune 7
          pausedAt := none
          cancelledAt := none }
      executions := [] }
  attempts := []
  outbox := []
  sent := []
  finalized := []

theorem isStart_newMandate : newMandate.IsStart documentedEnv where
  mandate :=
    { status := rfl
      startDate_le := by decide
      nextRunAt := rfl
      failedRunsCount := rfl
      pausedAt := rfl
      cancelledAt := rfl
      endDate_later := by
        intro endDate ends
        cases ends }
  executions := rfl
  attempts := rfl
  outbox := rfl
  sent := rfl
  finalized := rfl

/-- A request of the payer's bank which has read the clock at a full hour. -/
def requestAt (hour : Fin 24) : MandateRequest := ⟨polishBank 1, .atHour firstOfJune hour, false⟩

/-- The claim of the first run is delivered at eight o'clock. -/
def claimFirst (executionId : Uuid) : List MandateAction :=
  [.tick (.atHour firstOfJune 8),
    .startRun (.atHour firstOfJune 8) executionId false]

/-- The first run is claimed in a run without a resumed mandate. -/
theorem slots_executed_once_claimFirst :
    ∃ state, TransitionSystem.runLabels (mandateStep documentedEnv) newMandate
        (claimFirst 1) = some state ∧
      state.db.executions.length = 1 ∧ SlotsExecutedOnce documentedEnv state := by
  have claimed : (TransitionSystem.runLabels (mandateStep documentedEnv) newMandate
      (claimFirst 1)).map (fun state => state.db.executions.length) = some 1 := by
    decide +kernel
  rcases Option.map_eq_some_iff.mp claimed with ⟨state, run, length⟩
  refine ⟨state, run, length, ?_⟩
  apply slots_executed_once documentedEnv addsMonths_dateutil state
  have path : (mandateSystem documentedEnv).Path newMandate (claimFirst 1) state :=
    TransitionSystem.path_of_runLabels run
  apply (path.to_guarded ?_).reachable (.init isStart_newMandate)
  intro action member _
  simp only [claimFirst, List.mem_cons, List.not_mem_nil, or_false] at member
  rcases member with rfl | rfl
  · trivial
  · trivial

/-- The mandate is paused after its first run, and resumed by a request which
has read the clock before that run. -/
def resumedEarly : List MandateAction :=
  claimFirst 1 ++
    [.pause (requestAt 8), .resume (requestAt 7),
      .startRun (.atHour firstOfJune 8) 2 false]

/-- The first slot is executed a second time. -/
theorem slot_executed_twice :
    ¬ ∀ state, (mandateSystem documentedEnv).Reachable state →
        SlotsExecutedOnce documentedEnv state := by
  intro once
  have twice : (TransitionSystem.runLabels (mandateStep documentedEnv) newMandate
      resumedEarly).map (fun state => decide (state.db.executions.map fun execution =>
        execution.scheduledFor.instant).Nodup) = some false := by
    decide +kernel
  rcases Option.map_eq_some_iff.mp twice with ⟨state, run, repeated⟩
  have distinct := (once state
    (TransitionSystem.reachable_of_runLabels isStart_newMandate run)).distinct
  exact absurd distinct (by simpa using repeated)

end Klik.Recurring
