import Klik.Recurring.SlotsOnce

/-!
# The states of a mandate

Claims, finalisations and requests change the row of the mandate in few ways.
Each of them keeps the counter of failed runs, the timestamps and the
end-of-life notifications in agreement with the status.
-/

namespace Klik.Recurring

open Klik.Banks
open Klik.Common
open Klik.Lib

/-! ## Consistent rows -/

/-- The end-of-life notifications which fit a status. -/
def EndsAs (reasons : List EndReason) : RecurringTransferStatus → Prop
  | .active => reasons = []
  | .paused => reasons = []
  | .completed => reasons = [.endDateReached]
  | .cancelled => ∃ reason, reason ≠ .endDateReached ∧ reasons = [reason]

/-- The columns of a mandate agree with its status and with the notifications
queued so far. -/
structure RecurringTransfer.Consistent
    (threshold : Int) (reasons : List EndReason) (mandate : RecurringTransfer) :
    Prop where
  below : mandate.status = .active → (mandate.failedRunsCount : Int) < threshold
  pausedAt : mandate.status = .paused → mandate.pausedAt.isSome
  cancelledAt : mandate.cancelledAt.isSome ↔ mandate.status = .cancelled
  isOver : mandate.status = .completed → mandate.isOver = true
  ended : EndsAs reasons mandate.status

namespace RecurringTransfer.Consistent

variable {threshold : Int} {reasons : List EndReason} {mandate : RecurringTransfer}

/-- No notification is queued before the mandate ends. -/
theorem reasons_eq_nil
    (consistent : mandate.Consistent threshold reasons)
    (going : mandate.status.isTerminal = false) : reasons = [] := by
  have ended := consistent.ended
  cases status : mandate.status with
  | active =>
      rw [status] at ended
      exact ended
  | paused =>
      rw [status] at ended
      exact ended
  | cancelled =>
      rw [status] at going
      cases going
  | completed =>
      rw [status] at going
      cases going

theorem not_cancelled
    (consistent : mandate.Consistent threshold reasons)
    (going : mandate.status.isTerminal = false) : mandate.cancelledAt = none := by
  have unset : ¬ mandate.cancelledAt.isSome := by
    intro isSet
    rw [consistent.cancelledAt.mp isSet] at going
    cases going
  simpa using unset

/-- A change which leaves an active mandate active. -/
theorem still_active
    (consistent : mandate.Consistent threshold reasons)
    (active : mandate.status = .active) {changed : RecurringTransfer}
    (status : changed.status = mandate.status)
    (cancelledAt : changed.cancelledAt = mandate.cancelledAt)
    (below : (changed.failedRunsCount : Int) < threshold) :
    changed.Consistent threshold reasons := by
  have stays := status.trans active
  constructor
  · intro _
    exact below
  · intro paused
    rw [stays] at paused
    cases paused
  · rw [cancelledAt, status]
    exact consistent.cancelledAt
  · intro completed
    rw [stays] at completed
    cases completed
  · rw [status]
    exact consistent.ended

theorem completed
    (consistent : mandate.Consistent threshold reasons)
    (active : mandate.status = .active) (isOver : mandate.isOver = true) :
    mandate.completed.Consistent threshold (reasons ++ [.endDateReached]) := by
  have going : mandate.status.isTerminal = false := by
    rw [active]
    rfl
  constructor
  · intro impossible
    cases impossible
  · intro impossible
    cases impossible
  · simp [RecurringTransfer.completed, consistent.not_cancelled going]
  · intro _
    exact isOver
  · rw [consistent.reasons_eq_nil going]
    rfl

/-- A change which pauses an active mandate. -/
theorem to_paused
    (consistent : mandate.Consistent threshold reasons)
    (active : mandate.status = .active) {changed : RecurringTransfer}
    (status : changed.status = .paused)
    (pausedAt : changed.pausedAt.isSome)
    (cancelledAt : changed.cancelledAt = mandate.cancelledAt) :
    changed.Consistent threshold reasons := by
  have going : mandate.status.isTerminal = false := by
    rw [active]
    rfl
  constructor
  · rw [status]
    intro impossible
    cases impossible
  · intro _
    exact pausedAt
  · rw [cancelledAt, consistent.not_cancelled going, status]
    decide
  · rw [status]
    intro impossible
    cases impossible
  · rw [status]
    exact consistent.reasons_eq_nil going

/-- A change which cancels a mandate which has not ended. -/
theorem to_cancelled
    (consistent : mandate.Consistent threshold reasons)
    (going : mandate.status.isTerminal = false) {changed : RecurringTransfer}
    (status : changed.status = .cancelled)
    (cancelledAt : changed.cancelledAt.isSome)
    {reason : EndReason} (different : reason ≠ .endDateReached) :
    changed.Consistent threshold (reasons ++ [reason]) := by
  constructor
  · rw [status]
    intro impossible
    cases impossible
  · rw [status]
    intro impossible
    cases impossible
  · rw [status]
    simpa using cancelledAt
  · rw [status]
    intro impossible
    cases impossible
  · rw [status, consistent.reasons_eq_nil going]
    exact ⟨reason, different, rfl⟩

theorem resumedTo
    (consistent : mandate.Consistent threshold reasons)
    (paused : mandate.status = .paused) (threshold_pos : 1 ≤ threshold)
    (next : DateTime) :
    (mandate.resumedTo next).Consistent threshold reasons := by
  have going : mandate.status.isTerminal = false := by
    rw [paused]
    rfl
  constructor
  · intro _
    simp only [RecurringTransfer.resumedTo]
    omega
  · intro impossible
    cases impossible
  · simp [RecurringTransfer.resumedTo, consistent.not_cancelled going]
  · intro impossible
    cases impossible
  · exact consistent.reasons_eq_nil going

/-- Counting a run of a mandate which is not active changes nothing that its
status depends on. -/
theorem counted
    (consistent : mandate.Consistent threshold reasons)
    (inactive : mandate.status ≠ .active) {changed : RecurringTransfer}
    (status : changed.status = mandate.status)
    (pausedAt : changed.pausedAt = mandate.pausedAt)
    (cancelledAt : changed.cancelledAt = mandate.cancelledAt)
    (isOver : changed.isOver = mandate.isOver) :
    changed.Consistent threshold reasons := by
  constructor
  · intro active
    exact absurd (status.symm.trans active) inactive
  · rw [status, pausedAt]
    exact consistent.pausedAt
  · rw [status, cancelledAt]
    exact consistent.cancelledAt
  · rw [status, isOver]
    exact consistent.isOver
  · rw [status]
    exact consistent.ended

theorem afterSuccess
    (consistent : mandate.Consistent threshold reasons)
    (threshold_pos : 1 ≤ threshold) (now : DateTime) (executionId : Uuid) :
    (mandate.afterSuccess now executionId).1.Consistent threshold
      (reasons ++ endReasons (mandate.afterSuccess now executionId).2) := by
  have none_left : (0 : Int) < threshold := by omega
  simp only [RecurringTransfer.afterSuccess]
  by_cases active : mandate.status = .active
  · have counted : { mandate with
        lastRunAt := some now
        lastExecution := some executionId
        failedRunsCount := 0 }.Consistent threshold reasons :=
      consistent.still_active active rfl rfl none_left
    by_cases isOver : mandate.isOver = true
    · rw [if_pos ⟨active, isOver⟩]
      exact counted.completed active isOver
    · rw [if_neg fun both => isOver both.2, endReasons, List.filterMap_nil,
        List.append_nil]
      exact counted
  · rw [if_neg fun both => active both.1, endReasons, List.filterMap_nil,
      List.append_nil]
    exact consistent.counted active rfl rfl rfl rfl

theorem afterFailure
    (consistent : mandate.Consistent threshold reasons)
    (now : DateTime) (reason : ExecutionFailureReason) :
    (mandate.afterFailure threshold now reason).1.Consistent threshold
      (reasons ++ endReasons (mandate.afterFailure threshold now reason).2) := by
  simp only [RecurringTransfer.afterFailure]
  by_cases active : mandate.status = .active
  · have going : mandate.status.isTerminal = false := by
      rw [active]
      rfl
    rw [if_neg (not_not.mpr active)]
    cases ending : reason.cancelling with
    | some ended =>
        have different : ended ≠ .endDateReached := by
          cases reason <;> cases ending <;> decide
        simp only
        exact consistent.to_cancelled going rfl rfl different
    | none =>
        simp only
        split
        · rw [endReasons, List.filterMap_cons_none rfl, List.filterMap_nil,
            List.append_nil]
          exact consistent.to_paused active rfl rfl rfl
        · rename_i short
          rw [endReasons, List.filterMap_nil, List.append_nil]
          exact consistent.still_active active rfl rfl
            (Int.lt_of_not_ge fun reached => short (Or.inr reached))
  · rw [if_pos active, endReasons, List.filterMap_nil, List.append_nil]
    exact consistent.counted active rfl rfl rfl rfl

end RecurringTransfer.Consistent

/-! ## Runs -/

variable (env : RecurringEnv)

/-- Every step keeps the row of the mandate consistent. -/
theorem consistent_step
    (threshold_pos : 1 ≤ env.threshold)
    {state after : MandateState} {action : MandateAction}
    (consistent :
      state.db.mandate.Consistent env.threshold (endReasons state.outbox))
    (move : (mandateSystem env).Step state action after) :
    after.db.mandate.Consistent env.threshold (endReasons after.outbox) := by
  cases effect_of_step env move with
  | idle becomes =>
      rw [becomes.mandate, becomes.ended, List.append_nil]
      exact consistent
  | snapshot execution recipient member becomes =>
      rw [becomes.mandate, becomes.ended, List.append_nil]
      exact consistent
  | skipped inactive becomes =>
      rw [becomes.mandate, becomes.ended, List.append_nil]
      exact consistent
  | ended active isOver becomes =>
      rw [becomes.mandate, becomes.ended]
      exact consistent.completed active isOver
  | claimed executionId next active inTime fresh computed becomes =>
      rw [becomes.mandate, becomes.ended, List.append_nil]
      exact consistent.still_active active rfl rfl (consistent.below active)
  | succeeded index now refused attempt rtpReference raw time execution going stage
      found parsed storable carried becomes =>
      rw [becomes.mandate, becomes.ended]
      exact consistent.afterSuccess threshold_pos now attempt.executionId
  | failed index now refused attempt reason execution going stage found carried
      becomes =>
      rw [becomes.mandate, becomes.ended]
      exact consistent.afterFailure now reason
  | paused request active becomes =>
      rw [becomes.mandate, becomes.ended, List.append_nil]
      exact consistent.to_paused active rfl rfl rfl
  | resumed request next allowed paused computed becomes =>
      rw [becomes.mandate, becomes.ended, List.append_nil]
      exact consistent.resumedTo paused threshold_pos next
  | cancelled request going becomes =>
      rw [becomes.mandate, becomes.ended]
      exact consistent.to_cancelled going rfl rfl (by decide)

theorem consistent_of_reachable
    (threshold_pos : 1 ≤ env.threshold)
    {state : MandateState} (reached : (mandateSystem env).Reachable state) :
    state.db.mandate.Consistent env.threshold (endReasons state.outbox) := by
  apply reached.invariant
  · intro start isStart
    have new := isStart.mandate
    constructor
    · intro _
      rw [new.failedRunsCount]
      exact threshold_pos
    · intro paused
      rw [new.status] at paused
      cases paused
    · rw [new.cancelledAt, new.status]
      decide
    · intro completed
      rw [new.status] at completed
      cases completed
    · rw [new.status, isStart.outbox]
      rfl
  · intro source action target _ consistent move
    exact consistent_step env threshold_pos consistent move

/-- A finalisation leaves the status of a mandate which has ended. -/
theorem status_afterSuccess
    {mandate : RecurringTransfer} (ended : mandate.status.isTerminal = true)
    (now : DateTime) (executionId : Uuid) :
    (mandate.afterSuccess now executionId).1.status = mandate.status := by
  have inactive : mandate.status ≠ .active := by
    intro active
    rw [active] at ended
    cases ended
  simp only [RecurringTransfer.afterSuccess]
  rw [if_neg fun both => inactive both.1]

theorem status_afterFailure
    {mandate : RecurringTransfer} (ended : mandate.status.isTerminal = true)
    (threshold : Int) (now : DateTime) (reason : ExecutionFailureReason) :
    (mandate.afterFailure threshold now reason).1.status = mandate.status := by
  have inactive : mandate.status ≠ .active := by
    intro active
    rw [active] at ended
    cases ended
  simp only [RecurringTransfer.afterFailure]
  rw [if_pos inactive]

/-- No step changes the status of a mandate which has ended. -/
theorem terminal_step
    {state after : MandateState} {action : MandateAction}
    (ended : state.db.mandate.status.isTerminal = true)
    (move : (mandateSystem env).Step state action after) :
    after.db.mandate.status = state.db.mandate.status := by
  have impossible : ∀ {status : RecurringTransferStatus},
      state.db.mandate.status = status → status.isTerminal = true := by
    rintro status rfl
    exact ended
  cases effect_of_step env move with
  | idle becomes => rw [becomes.mandate]
  | snapshot execution recipient member becomes => rw [becomes.mandate]
  | skipped inactive becomes => rw [becomes.mandate]
  | ended active isOver becomes => cases impossible active
  | claimed executionId next active inTime fresh computed becomes =>
      cases impossible active
  | succeeded index now refused attempt rtpReference raw time execution going stage
      found parsed storable carried becomes =>
      rw [becomes.mandate, status_afterSuccess ended]
  | failed index now refused attempt reason execution going stage found carried
      becomes =>
      rw [becomes.mandate, status_afterFailure ended]
  | paused request active becomes => cases impossible active
  | resumed request next allowed paused computed becomes => cases impossible paused
  | cancelled request going becomes =>
      rw [ended] at going
      cases going

/-- The columns of a mandate and its end-of-life notifications agree with its
status. -/
structure MandateConsistent (state : MandateState) : Prop where
  below_threshold : state.db.mandate.status = .active →
    (state.db.mandate.failedRunsCount : Int) < env.threshold
  pausedAt_set : state.db.mandate.status = .paused →
    state.db.mandate.pausedAt.isSome
  cancelledAt_iff : state.db.mandate.cancelledAt.isSome ↔
    state.db.mandate.status = .cancelled
  completed_over : state.db.mandate.status = .completed →
    ∃ endDate, state.db.mandate.endDate = some endDate ∧
      endDate.dayNumber < state.db.mandate.nextRunAt.date.dayNumber
  ended_once : (endReasons state.outbox).length ≤ 1
  ended_completed : .endDateReached ∈ endReasons state.outbox ↔
    state.db.mandate.status = .completed

theorem MandateConsistent.of_consistent
    {state : MandateState}
    (consistent :
      state.db.mandate.Consistent env.threshold (endReasons state.outbox)) :
    MandateConsistent env state := by
  have ended := consistent.ended
  constructor
  · exact consistent.below
  · exact consistent.pausedAt
  · exact consistent.cancelledAt
  · intro completed
    have isOver := consistent.isOver completed
    simp only [RecurringTransfer.isOver] at isOver
    split at isOver
    · cases isOver
    · rename_i endDate ends
      exact ⟨endDate, ends, by simpa using isOver⟩
  · cases status : state.db.mandate.status <;> rw [status] at ended
    · rw [ended]
      decide
    · rw [ended]
      decide
    · rcases ended with ⟨reason, _, reasons⟩
      rw [reasons]
      exact Nat.le_refl 1
    · rw [ended]
      decide
  · cases status : state.db.mandate.status <;> rw [status] at ended
    · rw [ended]
      decide
    · rw [ended]
      decide
    · rcases ended with ⟨reason, different, reasons⟩
      rw [reasons]
      simpa using different.symm
    · rw [ended]
      decide

/-- Every reachable mandate is consistent, and stays as it has ended. -/
theorem mandate_state_machine
    (threshold_pos : 1 ≤ env.threshold)
    (state : MandateState) (reached : (mandateSystem env).Reachable state) :
    MandateConsistent env state ∧
      ∀ (actions : List MandateAction) (after : MandateState),
        (mandateSystem env).Path state actions after →
          state.db.mandate.status.isTerminal = true →
            after.db.mandate.status = state.db.mandate.status := by
  constructor
  · exact .of_consistent env (consistent_of_reachable env threshold_pos reached)
  · intro actions after path ended
    refine path.preserves (fun later =>
      later.db.mandate.status = state.db.mandate.status) ?_ reached rfl
    intro source action target _ same move
    have stillEnded : source.db.mandate.status.isTerminal = true := by
      rw [same]
      exact ended
    exact (terminal_step env stillEnded move).trans same

/-- The mandate is paused after its first run and cancelled. -/
theorem mandate_state_machine_cancelled :
    ∃ state, TransitionSystem.runLabels (mandateStep documentedEnv) newMandate
        (claimFirst 1 ++ [.pause (requestAt 8), .cancel (requestAt 8)]) = some state ∧
      state.db.mandate.status = .cancelled ∧ MandateConsistent documentedEnv state ∧
        ∀ after, mandateStep documentedEnv state (.resume (requestAt 8)) = some after →
          after.db.mandate.status = .cancelled := by
  have cancelled : (TransitionSystem.runLabels (mandateStep documentedEnv) newMandate
      (claimFirst 1 ++ [.pause (requestAt 8), .cancel (requestAt 8)])).map
        (fun state => state.db.mandate.status) = some .cancelled := by
    decide +kernel
  rcases Option.map_eq_some_iff.mp cancelled with ⟨state, run, status⟩
  have reached : (mandateSystem documentedEnv).Reachable state :=
    TransitionSystem.reachable_of_runLabels isStart_newMandate run
  have machine := mandate_state_machine documentedEnv (by decide) state reached
  refine ⟨state, run, status, machine.1, ?_⟩
  intro after move
  have path : (mandateSystem documentedEnv).Path state _ after :=
    .step (.refl state) move
  rw [← status]
  exact machine.2 _ after path (by rw [status]; rfl)

end Klik.Recurring
