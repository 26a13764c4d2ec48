import Klik.Lib.PyValue
import Klik.Recurring.Models

/-!
# The tasks of a mandate

`dispatch_due_recurring_transfers` and the stages of `execute_recurring_run`:
the claim of a run, the lookup of the recipient, the call of the bank, and
the two ways to finalise an execution.  A block carries its own reading of
the clock, which may be older than the lock it waits for.
-/

namespace Klik.Recurring

open Klik.Banks
open Klik.Common
open Klik.Lib

/-- What `parse_datetime` makes of a text; it raises a `ValueError` for a text
of the right form with a field out of range. -/
inductive ParsedDateTime where
  | parsed (time : DateTime)
  | none
  | raises

/-- The settings and the libraries which the tasks use. -/
structure RecurringEnv where
  schedule : ScheduleEnv
  runtime : PyRuntime
  parseDatetime : PyStr → ParsedDateTime
  /-- `RECURRING_AUTO_PAUSE_FAILURE_THRESHOLD`. -/
  threshold : Int

/-! ## Dispatch -/

/-- The filter of the selection of `dispatch_due_recurring_transfers`. -/
def RecurringTransfer.isDue (now : DateTime) (mandate : RecurringTransfer) : Bool :=
  mandate.status = .active && mandate.nextRunAt.instant ≤ now.instant

/-! ## Claiming a run -/

/-- `_claim_execution` skips what hangs when the mandate is not active. -/
def skipScheduled (executions : List RecurringExecution) : List RecurringExecution :=
  executions.map fun execution =>
    if execution.status = .scheduled then { execution with status := .skipped }
    else execution

/-- The execution of a claimed run. -/
def RecurringTransfer.newExecution
    (executionId : Uuid) (mandate : RecurringTransfer) : RecurringExecution where
  id := executionId
  recurringTransfer := mandate.id
  scheduledFor := mandate.nextRunAt
  executedAt := none
  status := .executing
  rtpReference := []
  failureReason := none
  lookupResponseSnapshot := none

/-- The block of `_claim_execution`: the new execution, or none. -/
def claimBlock
    (env : ScheduleEnv) (now : DateTime) (executionId : Uuid) (refused : Bool)
    (db : RecurringDb) : Outcome (Option RecurringExecution) :=
  let mandate := db.mandate
  if refused then .raise (.database .operational) db
  else if mandate.status ≠ .active then
    ⟨.ok none, { db with executions := skipScheduled db.executions }, []⟩
  else if now.instant < mandate.nextRunAt.instant then ⟨.ok none, db, []⟩
  else if mandate.isOver then
    ⟨.ok none, { db with mandate := mandate.completed },
      [.notifyCancelled mandate.id .endDateReached]⟩
  else if db.executions.any (fun old => old.id = executionId) then
    .raise (.database (.integrity "recurring_recurringexecution_pkey")) db
  else
    match computeNextRunAt env mandate.startDate mandate.cycle mandate.nextRunAt with
    | none => .raise .overflow db
    | some next =>
        let execution := mandate.newExecution executionId
        ⟨.ok (some execution),
          { mandate := mandate.advancedTo next
            executions := db.executions ++ [execution] }, []⟩

/-- `_claim_execution`. -/
def claimExecution
    (env : ScheduleEnv) (now : DateTime) (executionId : Uuid) (refused : Bool)
    (db : RecurringDb) : Outcome (Option RecurringExecution) :=
  atomic db (claimBlock env now executionId refused db)

/-! ## Calling the bank -/

/-- How the call of the bank ends: the body of a response which
`raise_for_status` lets through, or an exception. -/
inductive BankAnswer where
  | json (body : PyValue)
  | failed

/-- What the `try` block of `_call_bank_and_finalize` makes of it. -/
inductive CallResult where
  | executed (data : List (PyStr × PyValue))
  | rejected (data : List (PyStr × PyValue))
  | failed

def readAnswer : BankAnswer → CallResult
  | .json (.dict data) =>
      match PyValue.lookup data (py "status") with
      | some (.str status) =>
          if status = py "EXECUTED" then .executed data
          else if status = py "REJECTED" then .rejected data
          else .failed
      | _ => .failed
  | _ => .failed

/-- `ALLOWED_REJECT_REASONS`. -/
def allowedRejectReason (text : PyStr) : Option ExecutionFailureReason :=
  if text = py "INSUFFICIENT_FUNDS" then some .insufficientFunds
  else if text = py "MANDATE_REVOKED_LOCALLY" then some .mandateRevokedLocally
  else if text = py "ACCOUNT_CLOSED" then some .accountClosed
  else if text = py "AML_BLOCK" then some .amlBlock
  else if text = py "OTHER" then some .other
  else none

/-- The reason of a rejection: looking a list or a dictionary up in a set
raises. -/
def rejectReason (value : PyValue) : Except RecurringError ExecutionFailureReason :=
  match value with
  | .str text => .ok ((allowedRejectReason text).getD .other)
  | .list _ => .error .typeError
  | .dict _ => .error .typeError
  | _ => .ok .other

/-- A call of `_finalize_success` or `_finalize_failure`. -/
inductive Finalizer where
  | success (rtpReference : PyStr) (executedAtRaw : PyValue)
  | failure (reason : ExecutionFailureReason)

/-- `max_retries` of the task. -/
def maxRetries : Nat := 3

/-- How an attempt goes on after the call. -/
inductive Continuation where
  | finalize (finalizer : Finalizer)
  | retry
  | raises (error : RecurringError)

/-- `_call_bank_and_finalize` after the call, in the attempt after a number of
retries. -/
def afterCall (runtime : PyRuntime) (retries : Nat) (answer : BankAnswer) :
    Continuation :=
  match readAnswer answer with
  | .failed =>
      if maxRetries ≤ retries then .finalize (.failure .networkTimeout) else .retry
  | .executed data =>
      .finalize (.success
        (((PyValue.getD data (py "rtp_reference") .none).orElse (.str [])).text runtime)
        (PyValue.getD data (py "executed_at") .none))
  | .rejected data =>
      match rejectReason (PyValue.getD data (py "reject_reason") .none) with
      | .ok reason => .finalize (.failure reason)
      | .error error => .raises error

/-! ## Finalising -/

/-- `(parse_datetime(raw) if raw else None) or now`. -/
def executedAt
    (parseDatetime : PyStr → ParsedDateTime) (now : DateTime) (raw : PyValue) :
    Except RecurringError DateTime :=
  if raw.truthy = false then .ok now
  else
    match raw with
    | .str text =>
        match parseDatetime text with
        | .parsed time => .ok time
        | .none => .ok now
        | .raises => .error .valueError
    | _ => .error .typeError

/-- The execution which the bank has carried out; the column cuts spaces which
do not fit off. -/
def RecurringExecution.succeeded
    (executedAt : DateTime) (rtpReference : PyStr) (execution : RecurringExecution) :
    RecurringExecution :=
  { execution with
    status := .success
    executedAt := some executedAt
    rtpReference := rtpReference.take 200 }

/-- The execution which has failed. -/
def RecurringExecution.failedWith
    (reason : ExecutionFailureReason) (execution : RecurringExecution) :
    RecurringExecution :=
  { execution with
    status := .failed
    failureReason := some reason }

/-- Whether the reference fits its column. -/
def storableReference (rtpReference : PyStr) : Bool :=
  fitsColumn 200 rtpReference

/-- The block of `_finalize_success`. -/
def successBlock
    (now executedAt : DateTime) (executionId : Uuid) (rtpReference : PyStr)
    (refused : Bool) (db : RecurringDb) : Outcome RecurringExecution :=
  match rowAt RecurringExecution.id db.executions executionId with
  | none => .raise .doesNotExist db
  | some execution =>
      if storableReference rtpReference = false then
        .raise (.database (.invalidText "rtp_reference")) db
      else if refused then .raise (.database .operational) db
      else
        let done := execution.succeeded executedAt rtpReference
        let mandate := db.mandate.afterSuccess now executionId
        ⟨.ok done,
          { mandate := mandate.1
            executions := saveRow RecurringExecution.id done db.executions }, mandate.2⟩

/-- The block of `_finalize_failure`. -/
def failureBlock
    (threshold : Int) (now : DateTime) (executionId : Uuid)
    (reason : ExecutionFailureReason) (refused : Bool) (db : RecurringDb) :
    Outcome RecurringExecution :=
  match rowAt RecurringExecution.id db.executions executionId with
  | none => .raise .doesNotExist db
  | some execution =>
      if refused then .raise (.database .operational) db
      else
        let done := execution.failedWith reason
        let mandate := db.mandate.afterFailure threshold now reason
        ⟨.ok done,
          { mandate := mandate.1
            executions := saveRow RecurringExecution.id done db.executions }, mandate.2⟩

/-- `_finalize_success` and `_finalize_failure`: what their blocks queue is
queued after the commit. -/
def finalize
    (env : RecurringEnv) (now : DateTime) (executionId : Uuid)
    (finalizer : Finalizer) (refused : Bool) (db : RecurringDb) :
    Outcome RecurringExecution :=
  match finalizer with
  | .success rtpReference raw =>
      match executedAt env.parseDatetime now raw with
      | .error error => .raise error db
      | .ok time => successBlock now time executionId rtpReference refused db
  | .failure reason => failureBlock env.threshold now executionId reason refused db

/-! ## What the blocks can do -/

/-- Everything a claim can do. -/
inductive Claims (env : ScheduleEnv) (now : DateTime) (executionId : Uuid)
    (db : RecurringDb) : Outcome (Option RecurringExecution) → Prop where
  | raised (error : RecurringError) :
      Claims env now executionId db (.raise error db)
  | skipped (inactive : db.mandate.status ≠ .active) :
      Claims env now executionId db
        ⟨.ok none, { db with executions := skipScheduled db.executions }, []⟩
  | early (before : now.instant < db.mandate.nextRunAt.instant) :
      Claims env now executionId db ⟨.ok none, db, []⟩
  | ended (active : db.mandate.status = .active)
      (isOver : db.mandate.isOver = true) :
      Claims env now executionId db
        ⟨.ok none, { db with mandate := db.mandate.completed },
          [.notifyCancelled db.mandate.id .endDateReached]⟩
  | claimed (next : DateTime)
      (active : db.mandate.status = .active)
      (due : db.mandate.nextRunAt.instant ≤ now.instant)
      (inTime : db.mandate.isOver = false)
      (fresh : ∀ old ∈ db.executions, old.id ≠ executionId)
      (computed : computeNextRunAt env db.mandate.startDate db.mandate.cycle
        db.mandate.nextRunAt = some next) :
      Claims env now executionId db
        ⟨.ok (some (db.mandate.newExecution executionId)),
          { mandate := db.mandate.advancedTo next
            executions := db.executions ++ [db.mandate.newExecution executionId] }, []⟩

theorem claims_claimExecution
    (env : ScheduleEnv) (now : DateTime) (executionId : Uuid) (refused : Bool)
    (db : RecurringDb) :
    Claims env now executionId db (claimExecution env now executionId refused db) := by
  simp only [claimExecution, claimBlock]
  split
  · exact .raised _
  · split
    · rename_i inactive
      exact .skipped inactive
    · rename_i active
      split
      · rename_i before
        exact .early before
      · rename_i due
        split
        · rename_i isOver
          exact .ended (not_not.mp active) isOver
        · rename_i inTime
          split
          · exact .raised _
          · rename_i fresh
            split
            · exact .raised _
            · rename_i next computed
              exact .claimed next (not_not.mp active) (Nat.le_of_not_lt due)
                (by simpa using inTime) (by simpa using fresh) computed

/-- Everything a finaliser can do: it raises and changes nothing, or it
overwrites the execution whatever its status is. -/
inductive Finalizes (env : RecurringEnv) (now : DateTime) (executionId : Uuid)
    (refused : Bool) (db : RecurringDb) : Finalizer → Outcome RecurringExecution → Prop where
  | raised (finalizer : Finalizer) (error : RecurringError) :
      Finalizes env now executionId refused db finalizer (.raise error db)
  | success (rtpReference : PyStr) (raw : PyValue)
      (execution : RecurringExecution) (time : DateTime)
      (found : rowAt RecurringExecution.id db.executions executionId = some execution)
      (parsed : executedAt env.parseDatetime now raw = .ok time)
      (storable : storableReference rtpReference = true)
      (carried : refused = false) :
      Finalizes env now executionId refused db (.success rtpReference raw)
        ⟨.ok (execution.succeeded time rtpReference),
          { mandate := (db.mandate.afterSuccess now executionId).1
            executions := saveRow RecurringExecution.id
              (execution.succeeded time rtpReference) db.executions },
          (db.mandate.afterSuccess now executionId).2⟩
  | failure (reason : ExecutionFailureReason) (execution : RecurringExecution)
      (found : rowAt RecurringExecution.id db.executions executionId = some execution)
      (carried : refused = false) :
      Finalizes env now executionId refused db (.failure reason)
        ⟨.ok (execution.failedWith reason),
          { mandate := (db.mandate.afterFailure env.threshold now reason).1
            executions := saveRow RecurringExecution.id
              (execution.failedWith reason) db.executions },
          (db.mandate.afterFailure env.threshold now reason).2⟩

theorem finalizes_finalize
    (env : RecurringEnv) (now : DateTime) (executionId : Uuid)
    (finalizer : Finalizer) (refused : Bool) (db : RecurringDb) :
    Finalizes env now executionId refused db finalizer
      (finalize env now executionId finalizer refused db) := by
  cases finalizer with
  | success rtpReference raw =>
      simp only [finalize]
      cases parsed : executedAt env.parseDatetime now raw with
      | error error => exact .raised _ error
      | ok time =>
          simp only [successBlock]
          cases found : rowAt RecurringExecution.id db.executions executionId with
          | none => exact .raised _ _
          | some execution =>
              simp only
              split
              · exact .raised _ _
              · rename_i storable
                cases refused with
                | true => exact .raised _ _
                | false =>
                    exact .success rtpReference raw execution time found parsed
                      (by simpa using storable) rfl
  | failure reason =>
      simp only [finalize, failureBlock]
      cases found : rowAt RecurringExecution.id db.executions executionId with
      | none => exact .raised _ _
      | some execution =>
          simp only
          cases refused with
          | true => exact .raised _ _
          | false => exact .failure reason execution found rfl

end Klik.Recurring
