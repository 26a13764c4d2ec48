import Klik.Recurring.Tasks
import Klik.Recurring.Views

/-!
# One mandate under concurrent tasks and requests

The state machine of a mandate with its executions.  Each block under the
lock of the mandate is one step; the stages of an attempt are steps of their
own.  The broker may deliver an invocation of the task at any time and any
number of times, with the key of an execution or without.  A task or request
has read the clock some time before its block, so that its reading is at most
the present time.
-/

namespace Klik.Recurring

open Klik.Banks
open Klik.Common
open Klik.Lib

/-! ## States -/

/-- What an attempt does next. -/
inductive AttemptStage where
  | lookingUp
  | calling (recipient : Option Recipient)
  | finalizing (finalizer : Finalizer)

/-- An attempt of an execution: how many retries came before it, and the
status of the mandate when it started. -/
structure Attempt where
  executionId : Uuid
  retries : Nat
  startedUnder : RecurringTransferStatus
  stage : AttemptStage

/-- An `/execute` request to the bank. -/
structure ExecuteRequest where
  url : PyStr
  recurringTransferId : Uuid
  executionId : Uuid
  payerUserId : PyStr
  amount : Decimal
  currency : Currency
  scheduledFor : DateTime
  mandateSignedAt : DateTime
  recipient : Option Recipient
deriving DecidableEq, Repr

/-- A finalisation which was carried out. -/
structure Finalization where
  executionId : Uuid
  failed : Bool
deriving DecidableEq, Repr

/-- The clock, the tables, the attempts under way, and what has happened:
every queued task, every request to the bank with the status of the mandate
when its attempt started, and every finalisation. -/
structure MandateState where
  clock : DateTime
  db : RecurringDb
  attempts : List Attempt
  outbox : List RecurringTask
  sent : List (RecurringTransferStatus × ExecuteRequest)
  finalized : List Finalization

inductive MandateAction where
  | tick (clock : DateTime)
  | dispatch (now : DateTime)
  /-- `execute_recurring_run` without an execution. -/
  | startRun (now : DateTime) (executionId : Uuid) (refused : Bool)
  /-- `execute_recurring_run` of an execution. -/
  | startRetry (executionId : Uuid) (retries : Nat)
  | lookUp (index : Nat) (alias_ : Option Recipient)
  | callBank (index : Nat) (answer : BankAnswer)
  | finalize (index : Nat) (now : DateTime) (refused : Bool)
  | pause (request : MandateRequest)
  | resume (request : MandateRequest)
  | cancel (request : MandateRequest)

/-! ## Steps -/

variable (env : RecurringEnv)

/-- The state after a block. -/
def MandateState.withBlock {Result : Type}
    (outcome : Outcome Result) (state : MandateState) : MandateState :=
  { state with
    db := outcome.db
    outbox := state.outbox ++ outcome.queued }

/-- The state after a tick of the dispatch. -/
def MandateState.dispatched (now : DateTime) (state : MandateState) : MandateState :=
  if state.db.mandate.isDue now then
    { state with
      outbox := state.outbox ++ [.executeRecurringRun state.db.mandate.id] }
  else state

/-- The state after a claim: the attempt which has claimed a run looks the
recipient up next. -/
def MandateState.runStarted
    (now : DateTime) (executionId : Uuid) (refused : Bool) (state : MandateState) :
    MandateState :=
  let outcome := claimExecution env.schedule now executionId refused state.db
  { state.withBlock outcome with
    attempts := state.attempts ++
      match outcome.result with
      | .ok (some execution) => [⟨execution.id, 0, .active, .lookingUp⟩]
      | _ => [] }

/-- The state after the reading step of a retry. -/
def MandateState.retryStarted
    (executionId : Uuid) (retries : Nat) (state : MandateState) : MandateState :=
  match rowAt RecurringExecution.id state.db.executions executionId with
  | none => state
  | some execution =>
      if execution.status ≠ .executing then state
      else
        { state with
          attempts := state.attempts ++
            [⟨executionId, retries, state.db.mandate.status,
              .calling execution.lookupResponseSnapshot⟩] }

/-- The execution with the snapshot of its lookup. -/
def RecurringExecution.withSnapshot
    (recipient : Recipient) (execution : RecurringExecution) : RecurringExecution :=
  { execution with lookupResponseSnapshot := some recipient }

/-- Save the snapshot of an execution. -/
def RecurringDb.saveSnapshot
    (executionId : Uuid) (recipient : Recipient) (db : RecurringDb) : RecurringDb :=
  match rowAt RecurringExecution.id db.executions executionId with
  | none => db
  | some execution =>
      { db with
        executions :=
          saveRow RecurringExecution.id (execution.withSnapshot recipient)
            db.executions }

/-- The state after `_lookup_recipient` of an attempt. -/
def MandateState.lookedUp
    (index : Nat) (attempt : Attempt) (alias_ : Option Recipient)
    (state : MandateState) : MandateState :=
  match alias_ with
  | none =>
      { state with
        attempts := state.attempts.set index
          { attempt with stage := .finalizing (.failure .recipientAliasGone) } }
  | some recipient =>
      { state with
        db := state.db.saveSnapshot attempt.executionId recipient
        attempts := state.attempts.set index
          { attempt with stage := .calling (some recipient) } }

/-- The request of an attempt. -/
def executeRequest
    (webhookBase : PyStr) (mandate : RecurringTransfer)
    (execution : RecurringExecution) (recipient : Option Recipient) :
    ExecuteRequest where
  url := webhookBase ++ py "/execute"
  recurringTransferId := mandate.id
  executionId := execution.id
  payerUserId := mandate.payerUserId
  amount := mandate.amount
  currency := mandate.currency
  scheduledFor := execution.scheduledFor
  mandateSignedAt := mandate.mandateSignedAt
  recipient := recipient

/-- The state after `_call_bank_and_finalize` up to the finaliser.  A retry is
left to the broker, and an exception ends the attempt. -/
def MandateState.bankCalled
    (index : Nat) (attempt : Attempt) (recipient : Option Recipient)
    (answer : BankAnswer) (state : MandateState) : MandateState :=
  match state.db.mandate.effectiveWebhookUrl with
  | none =>
      { state with
        attempts := state.attempts.set index
          { attempt with stage := .finalizing (.failure .networkTimeout) } }
  | some webhookBase =>
      let requests :=
        (rowAt RecurringExecution.id state.db.executions attempt.executionId).toList.map
          fun execution =>
            (attempt.startedUnder,
              executeRequest webhookBase state.db.mandate execution recipient)
      { state with
        sent := state.sent ++ requests
        attempts :=
          match afterCall env.runtime attempt.retries answer with
          | .finalize finalizer =>
              state.attempts.set index { attempt with stage := .finalizing finalizer }
          | .retry => state.attempts.eraseIdx index
          | .raises _ => state.attempts.eraseIdx index }

/-- The finalisation which a block has carried out. -/
def finalizationOf (finalizer : Finalizer) (outcome : Outcome RecurringExecution) :
    List Finalization :=
  match outcome.result, finalizer with
  | .error _, _ => []
  | .ok execution, .success _ _ => [⟨execution.id, false⟩]
  | .ok execution, .failure _ => [⟨execution.id, true⟩]

/-- The state after an attempt has finalised its execution. -/
def MandateState.finalizedBy
    (index : Nat) (attempt : Attempt) (finalizer : Finalizer) (now : DateTime)
    (refused : Bool) (state : MandateState) : MandateState :=
  let outcome := finalize env now attempt.executionId finalizer refused state.db
  { state.withBlock outcome with
    attempts := state.attempts.eraseIdx index
    finalized := state.finalized ++ finalizationOf finalizer outcome }

/-- Whether the clock was at the reading before. -/
def MandateState.hasRead (state : MandateState) (now : DateTime) : Bool :=
  now.instant ≤ state.clock.instant

/-- One step, where it is possible. -/
def mandateStep (state : MandateState) : MandateAction → Option MandateState
  | .tick clock =>
      if state.hasRead clock then none else some { state with clock := clock }
  | .dispatch now => if state.hasRead now then some (state.dispatched now) else none
  | .startRun now executionId refused =>
      if state.hasRead now then some (state.runStarted env now executionId refused)
      else none
  | .startRetry executionId retries => some (state.retryStarted executionId retries)
  | .lookUp index alias_ =>
      match state.attempts[index]? with
      | some attempt =>
          match attempt.stage with
          | .lookingUp => some (state.lookedUp index attempt alias_)
          | _ => none
      | none => none
  | .callBank index answer =>
      match state.attempts[index]? with
      | some attempt =>
          match attempt.stage with
          | .calling recipient =>
              some (state.bankCalled env index attempt recipient answer)
          | _ => none
      | none => none
  | .finalize index now refused =>
      match state.attempts[index]? with
      | some attempt =>
          match attempt.stage with
          | .finalizing finalizer =>
              if state.hasRead now then
                some (state.finalizedBy env index attempt finalizer now refused)
              else none
          | _ => none
      | none => none
  | .pause request =>
      if state.hasRead request.now then
        some (state.withBlock (Recurring.pause request state.db))
      else none
  | .resume request =>
      if state.hasRead request.now then
        some (state.withBlock (Recurring.resume env.schedule request state.db))
      else none
  | .cancel request =>
      if state.hasRead request.now then
        some (state.withBlock (Recurring.cancel request state.db))
      else none

/-- A mandate as `RecurringCreateView` creates it. -/
structure RecurringTransfer.IsNew
    (env : ScheduleEnv) (mandate : RecurringTransfer) : Prop where
  status : mandate.status = .active
  startDate_le : mandate.startDate.year ≤ 9999
  nextRunAt : mandate.nextRunAt = firstRunAt env mandate.startDate
  failedRunsCount : mandate.failedRunsCount = 0
  pausedAt : mandate.pausedAt = none
  cancelledAt : mandate.cancelledAt = none
  endDate_later : ∀ endDate, mandate.endDate = some endDate →
    mandate.startDate.dayNumber < endDate.dayNumber

/-- A new mandate without executions. -/
structure MandateState.IsStart
    (env : RecurringEnv) (state : MandateState) : Prop where
  mandate : state.db.mandate.IsNew env.schedule
  executions : state.db.executions = []
  attempts : state.attempts = []
  outbox : state.outbox = []
  sent : state.sent = []
  finalized : state.finalized = []

def mandateSystem : TransitionSystem MandateState MandateAction :=
  .ofStep (MandateState.IsStart env) (mandateStep env)

/-! ## What one step does -/

/-- The reasons of the end-of-life notifications, in order. -/
def endReasons (outbox : List RecurringTask) : List EndReason :=
  outbox.filterMap RecurringTask.endReason

@[simp]
theorem endReasons_append (before after : List RecurringTask) :
    endReasons (before ++ after) = endReasons before ++ endReasons after := by
  simp [endReasons]

/-- The rows after a step, with the end-of-life notifications which it queues
and the finalisations which it carries out. -/
structure Becomes
    (state after : MandateState) (mandate : RecurringTransfer)
    (executions : List RecurringExecution) (ended : List EndReason)
    (finalized : List Finalization) : Prop where
  mandate : after.db.mandate = mandate
  executions : after.db.executions = executions
  ended : endReasons after.outbox = endReasons state.outbox ++ ended
  finalized : after.finalized = state.finalized ++ finalized

/-- A step which changes neither row nor history. -/
theorem Becomes.of_same
    {state after : MandateState}
    (db : after.db = state.db)
    (ended : endReasons after.outbox = endReasons state.outbox)
    (finalized : after.finalized = state.finalized) :
    Becomes state after state.db.mandate state.db.executions [] [] := by
  constructor
  · rw [db]
  · rw [db]
  · rw [ended, List.append_nil]
  · rw [finalized, List.append_nil]

/-- The effect of a step. -/
inductive MandateEffect (state : MandateState) : MandateAction → MandateState → Prop where
  | idle {action : MandateAction} {after : MandateState}
      (becomes : Becomes state after state.db.mandate state.db.executions [] []) :
      MandateEffect state action after
  | snapshot {action : MandateAction} {after : MandateState}
      (execution : RecurringExecution) (recipient : Recipient)
      (member : execution ∈ state.db.executions)
      (becomes : Becomes state after state.db.mandate
        (saveRow RecurringExecution.id (execution.withSnapshot recipient)
          state.db.executions) [] []) :
      MandateEffect state action after
  | skipped {action : MandateAction} {after : MandateState}
      (inactive : state.db.mandate.status ≠ .active)
      (becomes : Becomes state after state.db.mandate
        (skipScheduled state.db.executions) [] []) :
      MandateEffect state action after
  | ended {action : MandateAction} {after : MandateState}
      (active : state.db.mandate.status = .active)
      (isOver : state.db.mandate.isOver = true)
      (becomes : Becomes state after state.db.mandate.completed
        state.db.executions [.endDateReached] []) :
      MandateEffect state action after
  | claimed {action : MandateAction} {after : MandateState}
      (executionId : Uuid) (next : DateTime)
      (active : state.db.mandate.status = .active)
      (inTime : state.db.mandate.isOver = false)
      (fresh : ∀ old ∈ state.db.executions, old.id ≠ executionId)
      (computed : computeNextRunAt env.schedule state.db.mandate.startDate
        state.db.mandate.cycle state.db.mandate.nextRunAt = some next)
      (becomes : Becomes state after (state.db.mandate.advancedTo next)
        (state.db.executions ++ [state.db.mandate.newExecution executionId]) [] []) :
      MandateEffect state action after
  | succeeded {after : MandateState} (index : Nat) (now : DateTime) (refused : Bool)
      (attempt : Attempt) (rtpReference : PyStr) (raw : PyValue) (time : DateTime)
      (execution : RecurringExecution)
      (going : state.attempts[index]? = some attempt)
      (stage : attempt.stage = .finalizing (.success rtpReference raw))
      (found : rowAt RecurringExecution.id state.db.executions attempt.executionId =
        some execution)
      (parsed : executedAt env.parseDatetime now raw = .ok time)
      (storable : storableReference rtpReference = true)
      (carried : refused = false)
      (becomes : Becomes state after
        (state.db.mandate.afterSuccess now attempt.executionId).1
        (saveRow RecurringExecution.id (execution.succeeded time rtpReference)
          state.db.executions)
        (endReasons (state.db.mandate.afterSuccess now attempt.executionId).2)
        [⟨attempt.executionId, false⟩]) :
      MandateEffect state (.finalize index now refused) after
  | failed {after : MandateState} (index : Nat) (now : DateTime) (refused : Bool)
      (attempt : Attempt) (reason : ExecutionFailureReason)
      (execution : RecurringExecution)
      (going : state.attempts[index]? = some attempt)
      (stage : attempt.stage = .finalizing (.failure reason))
      (found : rowAt RecurringExecution.id state.db.executions attempt.executionId =
        some execution)
      (carried : refused = false)
      (becomes : Becomes state after
        (state.db.mandate.afterFailure env.threshold now reason).1
        (saveRow RecurringExecution.id (execution.failedWith reason)
          state.db.executions)
        (endReasons (state.db.mandate.afterFailure env.threshold now reason).2)
        [⟨attempt.executionId, true⟩]) :
      MandateEffect state (.finalize index now refused) after
  | paused {after : MandateState} (request : MandateRequest)
      (active : state.db.mandate.status = .active)
      (becomes : Becomes state after (state.db.mandate.pausedNow request.now)
        state.db.executions [] []) :
      MandateEffect state (.pause request) after
  | resumed {after : MandateState} (request : MandateRequest) (next : DateTime)
      (allowed : request.Allowed state.db.mandate)
      (paused : state.db.mandate.status = .paused)
      (computed : computeNextRunAt env.schedule state.db.mandate.startDate
        state.db.mandate.cycle request.now = some next)
      (becomes : Becomes state after (state.db.mandate.resumedTo next)
        state.db.executions [] []) :
      MandateEffect state (.resume request) after
  | cancelled {after : MandateState} (request : MandateRequest)
      (going : state.db.mandate.status.isTerminal = false)
      (becomes : Becomes state after (state.db.mandate.cancelledNow request.now)
        state.db.executions [.userRequest] []) :
      MandateEffect state (.cancel request) after

/-- A block which is carried out, seen from the state. -/
theorem Becomes.of_block
    {Result : Type} (state after : MandateState) (outcome : Outcome Result)
    (finalized : List Finalization)
    (db : after.db = outcome.db)
    (outbox : after.outbox = state.outbox ++ outcome.queued)
    (history : after.finalized = state.finalized ++ finalized) :
    Becomes state after outcome.db.mandate outcome.db.executions
      (endReasons outcome.queued) finalized := by
  constructor
  · rw [db]
  · rw [db]
  · rw [outbox, endReasons_append]
  · exact history

theorem effect_runStarted
    (now : DateTime) (executionId : Uuid) (refused : Bool) (state : MandateState)
    (action : MandateAction) :
    MandateEffect env state action (state.runStarted env now executionId refused) := by
  have block := Becomes.of_block state (state.runStarted env now executionId refused)
    (claimExecution env.schedule now executionId refused state.db) []
    rfl rfl (List.append_nil _).symm
  have claims := claims_claimExecution env.schedule now executionId refused state.db
  revert block claims
  generalize claimExecution env.schedule now executionId refused state.db = outcome
  intro block claims
  cases claims with
  | raised error => exact .idle block
  | skipped inactive => exact .skipped inactive block
  | early before => exact .idle block
  | ended active isOver => exact .ended active isOver block
  | claimed next active due inTime fresh computed =>
      exact .claimed executionId next active inTime fresh computed block

theorem effect_lookedUp
    (index : Nat) (attempt : Attempt) (alias_ : Option Recipient)
    (state : MandateState) (action : MandateAction) :
    MandateEffect env state action (state.lookedUp index attempt alias_) := by
  cases alias_ with
  | none => exact .idle (.of_same rfl rfl rfl)
  | some recipient =>
      simp only [MandateState.lookedUp, RecurringDb.saveSnapshot]
      cases found :
          rowAt RecurringExecution.id state.db.executions attempt.executionId with
      | none => exact .idle (.of_same rfl rfl rfl)
      | some execution =>
          refine .snapshot execution recipient (mem_of_rowAt found).1 ?_
          exact ⟨rfl, rfl, (List.append_nil _).symm, (List.append_nil _).symm⟩

theorem effect_finalizedBy
    {state : MandateState} {index : Nat} {attempt : Attempt} {finalizer : Finalizer}
    (now : DateTime) (refused : Bool)
    (going : state.attempts[index]? = some attempt)
    (stage : attempt.stage = .finalizing finalizer) :
    MandateEffect env state (.finalize index now refused)
      (state.finalizedBy env index attempt finalizer now refused) := by
  have block := Becomes.of_block state
    (state.finalizedBy env index attempt finalizer now refused)
    (finalize env now attempt.executionId finalizer refused state.db)
    (finalizationOf finalizer
      (finalize env now attempt.executionId finalizer refused state.db)) rfl rfl rfl
  have finalizes :=
    finalizes_finalize env now attempt.executionId finalizer refused state.db
  revert block finalizes
  generalize finalize env now attempt.executionId finalizer refused state.db = outcome
  intro block finalizes
  cases finalizes with
  | raised finalizer error => exact .idle block
  | success rtpReference raw execution time found parsed storable carried =>
      have atId : execution.id = attempt.executionId := (mem_of_rowAt found).2
      refine .succeeded index now refused attempt rtpReference raw time execution
        going stage found parsed storable carried ?_
      rw [← atId] at block ⊢
      exact block
  | failure reason execution found carried =>
      have atId : execution.id = attempt.executionId := (mem_of_rowAt found).2
      refine .failed index now refused attempt reason execution going stage found
        carried ?_
      rw [← atId]
      exact block

/-- A request of the bank, seen from the state. -/
theorem Becomes.of_request
    (state : MandateState) (outcome : Outcome RecurringTransfer) :
    Becomes state (state.withBlock outcome) outcome.db.mandate outcome.db.executions
      (endReasons outcome.queued) [] :=
  .of_block state _ outcome [] rfl rfl (List.append_nil _).symm

/-- The effect of every step. -/
theorem effect_of_step
    {state after : MandateState} {action : MandateAction}
    (move : (mandateSystem env).Step state action after) :
    MandateEffect env state action after := by
  simp only [mandateSystem, TransitionSystem.ofStep] at move
  cases action with
  | tick clock =>
      simp only [mandateStep] at move
      split at move
      · cases move
      · cases move
        exact .idle (.of_same rfl rfl rfl)
  | dispatch now =>
      simp only [mandateStep] at move
      split at move
      · cases move
        simp only [MandateState.dispatched]
        split
        · exact .idle (.of_same rfl (by simp [endReasons, RecurringTask.endReason]) rfl)
        · exact .idle (.of_same rfl rfl rfl)
      · cases move
  | startRun now executionId refused =>
      simp only [mandateStep] at move
      split at move
      · cases move
        exact effect_runStarted env now executionId refused state _
      · cases move
  | startRetry executionId retries =>
      cases move
      simp only [MandateState.retryStarted]
      split
      · exact .idle (.of_same rfl rfl rfl)
      · split
        · exact .idle (.of_same rfl rfl rfl)
        · exact .idle (.of_same rfl rfl rfl)
  | lookUp index alias_ =>
      simp only [mandateStep] at move
      split at move
      · split at move
        · cases move
          exact effect_lookedUp env index _ alias_ state _
        · cases move
      · cases move
  | callBank index answer =>
      simp only [mandateStep] at move
      split at move
      · split at move
        · cases move
          simp only [MandateState.bankCalled]
          split
          · exact .idle (.of_same rfl rfl rfl)
          · exact .idle (.of_same rfl rfl rfl)
        · cases move
      · cases move
  | finalize index now refused =>
      simp only [mandateStep] at move
      split at move
      · rename_i attempt going
        split at move
        · rename_i finalizer stage
          split at move
          · cases move
            exact effect_finalizedBy env now refused going stage
          · cases move
        · cases move
      · cases move
  | pause request =>
      simp only [mandateStep] at move
      split at move
      · cases move
        have block := Becomes.of_request state (Recurring.pause request state.db)
        rcases pause_cases request state.db with ⟨error, raised⟩ | ⟨active, carried⟩
        · rw [raised] at block ⊢
          exact .idle block
        · rw [carried] at block ⊢
          exact .paused request active block
      · cases move
  | resume request =>
      simp only [mandateStep] at move
      split at move
      · cases move
        have block :=
          Becomes.of_request state (Recurring.resume env.schedule request state.db)
        rcases resume_cases env.schedule request state.db with
          ⟨error, raised⟩ | ⟨next, allowed, paused, computed, carried⟩
        · rw [raised] at block ⊢
          exact .idle block
        · rw [carried] at block ⊢
          exact .resumed request next allowed paused computed block
      · cases move
  | cancel request =>
      simp only [mandateStep] at move
      split at move
      · cases move
        have block := Becomes.of_request state (Recurring.cancel request state.db)
        rcases cancel_cases request state.db with ⟨error, raised⟩ | ⟨going, carried⟩
        · rw [raised] at block ⊢
          exact .idle block
        · rw [carried] at block ⊢
          exact .cancelled request going block
      · cases move

/-- Where the executions after a step come from. -/
inductive ExecutionsChange (before : List RecurringExecution) :
    List RecurringExecution → Prop where
  | same : ExecutionsChange before before
  | skipped : ExecutionsChange before (skipScheduled before)
  | claimed (execution : RecurringExecution)
      (fresh : ∀ old ∈ before, old.id ≠ execution.id) :
      ExecutionsChange before (before ++ [execution])
  | changed (old row : RecurringExecution)
      (member : old ∈ before)
      (sameId : row.id = old.id)
      (sameTime : row.scheduledFor = old.scheduledFor) :
      ExecutionsChange before (saveRow RecurringExecution.id row before)

theorem executions_of_step
    {state after : MandateState} {action : MandateAction}
    (move : (mandateSystem env).Step state action after) :
    ExecutionsChange state.db.executions after.db.executions := by
  cases effect_of_step env move with
  | idle becomes =>
      rw [becomes.executions]
      exact .same
  | snapshot execution recipient member becomes =>
      rw [becomes.executions]
      exact .changed execution _ member rfl rfl
  | skipped inactive becomes =>
      rw [becomes.executions]
      exact .skipped
  | ended active isOver becomes =>
      rw [becomes.executions]
      exact .same
  | claimed executionId next active inTime fresh computed becomes =>
      rw [becomes.executions]
      exact .claimed _ fresh
  | succeeded index now refused attempt rtpReference raw time execution going stage
      found parsed storable carried becomes =>
      rw [becomes.executions]
      exact .changed execution _ (mem_of_rowAt found).1 rfl rfl
  | failed index now refused attempt reason execution going stage found carried
      becomes =>
      rw [becomes.executions]
      exact .changed execution _ (mem_of_rowAt found).1 rfl rfl
  | paused request active becomes =>
      rw [becomes.executions]
      exact .same
  | resumed request next allowed paused computed becomes =>
      rw [becomes.executions]
      exact .same
  | cancelled request going becomes =>
      rw [becomes.executions]
      exact .same

/-- Skipping keeps every column but the status. -/
theorem map_skipScheduled
    {Column : Type} (column : RecurringExecution → Column)
    (kept : ∀ execution status, column { execution with status := status } =
      column execution)
    (executions : List RecurringExecution) :
    (skipScheduled executions).map column = executions.map column := by
  simp only [skipScheduled, List.map_map]
  apply List.map_congr_left
  intro execution _
  simp only [Function.comp_apply]
  split
  · exact kept execution .skipped
  · rfl

/-- The keys of the executions stay distinct. -/
theorem ExecutionsChange.nodup
    {before after : List RecurringExecution}
    (change : ExecutionsChange before after)
    (ids : (before.map RecurringExecution.id).Nodup) :
    (after.map RecurringExecution.id).Nodup := by
  cases change with
  | same => exact ids
  | skipped =>
      rw [map_skipScheduled _ fun _ _ => rfl]
      exact ids
  | claimed execution fresh =>
      rw [List.map_append, List.map_singleton]
      apply List.Nodup.append ids (List.nodup_singleton _)
      intro shared member single
      rcases List.mem_map.mp member with ⟨old, oldMember, rfl⟩
      exact fresh old oldMember (List.mem_singleton.mp single)
  | changed old row member sameId sameTime =>
      rw [keys_saveRow]
      exact ids

/-- No execution is deleted. -/
theorem ExecutionsChange.mem_ids
    {before after : List RecurringExecution}
    (change : ExecutionsChange before after) {executionId : Uuid}
    (member : executionId ∈ before.map RecurringExecution.id) :
    executionId ∈ after.map RecurringExecution.id := by
  cases change with
  | same => exact member
  | skipped =>
      rw [map_skipScheduled _ fun _ _ => rfl]
      exact member
  | claimed execution fresh =>
      rw [List.map_append]
      exact List.mem_append_left _ member
  | changed old row oldMember sameId sameTime =>
      rw [keys_saveRow]
      exact member

theorem nodup_executions
    {state : MandateState} (reached : (mandateSystem env).Reachable state) :
    (state.db.executions.map RecurringExecution.id).Nodup := by
  apply reached.invariant
  · intro start isStart
    rw [isStart.executions]
    exact List.nodup_nil
  · intro source action target _ ids move
    exact (executions_of_step env move).nodup ids

end Klik.Recurring
