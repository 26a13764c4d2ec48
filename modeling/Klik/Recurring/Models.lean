import Klik.Banks.Models
import Klik.Common.Exceptions
import Klik.Lib.AtomicBlock
import Klik.Lib.RowTable
import Klik.Recurring.Schedule

/-!
# Mandates and executions

The rows of a recurring transfer (a mandate) and of its executions, the
errors of the recurring endpoints and tasks, and the tasks which they queue.
-/

namespace Klik.Recurring

open Klik.Banks
open Klik.Common
open Klik.Lib

inductive RecurringTransferStatus where
  | active
  | paused
  | cancelled
  | completed
deriving DecidableEq, Repr

/-- `RECURRING_TERMINAL_STATUSES`. -/
def RecurringTransferStatus.isTerminal : RecurringTransferStatus → Bool
  | .cancelled | .completed => true
  | .active | .paused => false

inductive RecurringExecutionStatus where
  | scheduled
  | executing
  | success
  | failed
  | skipped
deriving DecidableEq, Repr

inductive ExecutionFailureReason where
  | insufficientFunds
  | mandateRevokedLocally
  | accountClosed
  | amlBlock
  | recipientAliasGone
  | networkTimeout
  | other
deriving DecidableEq, Repr

/-- A mandate. -/
structure RecurringTransfer where
  id : Uuid
  payerBank : Bank
  payerUserId : PyStr
  recipientPhone : PyStr
  amount : Decimal
  currency : Currency
  zone : Zone
  cycle : RecurringCycle
  startDate : Date
  endDate : Option Date
  nextRunAt : DateTime
  lastRunAt : Option DateTime
  lastExecution : Option Uuid
  status : RecurringTransferStatus
  failedRunsCount : Nat
  mandateSignedAt : DateTime
  pausedAt : Option DateTime
  cancelledAt : Option DateTime
deriving DecidableEq, Repr

/-- The alias of the recipient as a lookup has returned it;
`accountIdentifier` is the text of the JSON value. -/
structure Recipient where
  phone : PyStr
  bankId : Uuid
  bankCode : PyStr
  accountIdentifier : PyStr
deriving DecidableEq, Repr

/-- One run of a mandate.  `failureReason` is none where the column is
blank. -/
structure RecurringExecution where
  id : Uuid
  recurringTransfer : Uuid
  scheduledFor : DateTime
  executedAt : Option DateTime
  status : RecurringExecutionStatus
  rtpReference : PyStr
  failureReason : Option ExecutionFailureReason
  lookupResponseSnapshot : Option Recipient
deriving DecidableEq, Repr

/-- A mandate and its executions, in the order of insertion. -/
structure RecurringDb where
  mandate : RecurringTransfer
  executions : List RecurringExecution
deriving DecidableEq, Repr

/-- `str.rstrip('/')`. -/
def rstripSlash (text : PyStr) : PyStr :=
  (text.reverse.dropWhile fun point => point == 47).reverse

/-- `get_effective_webhook_url`. -/
def RecurringTransfer.effectiveWebhookUrl (mandate : RecurringTransfer) :
    Option PyStr :=
  if mandate.payerBank.recurringWebhookUrl ≠ [] then
    some (rstripSlash mandate.payerBank.recurringWebhookUrl)
  else if mandate.payerBank.webhookUrl ≠ [] then
    some (rstripSlash mandate.payerBank.webhookUrl ++ py "/recurring")
  else none

/-- Whether the next slot lies after the end date. -/
def RecurringTransfer.isOver (mandate : RecurringTransfer) : Bool :=
  match mandate.endDate with
  | none => false
  | some endDate => endDate.dayNumber < mandate.nextRunAt.date.dayNumber

/-! ## Errors and tasks -/

/-- An exception which leaves an endpoint or a task. -/
inductive RecurringError where
  | api (error : KlikAPIException)
  | database (error : DatabaseError)
  | doesNotExist
  /-- A date which cannot be represented. -/
  | overflow
  | typeError
  | valueError
deriving DecidableEq, Repr

def recurringNotEnabledError : KlikAPIException where
  statusCode := 403
  code := "403_RECURRING_NOT_ENABLED"
  detail := "Bank nie ma aktywowanego modułu Recurring."

def recurringNotActiveError : KlikAPIException where
  statusCode := 409
  code := "409_RECURRING_NOT_ACTIVE"
  detail := "Operacja możliwa tylko dla zlecenia w stanie ACTIVE."

def recurringNotPausedError : KlikAPIException where
  statusCode := 409
  code := "409_RECURRING_NOT_PAUSED"
  detail := "Operacja resume możliwa tylko dla zlecenia w stanie PAUSED."

def recurringTerminatedError : KlikAPIException where
  statusCode := 409
  code := "409_RECURRING_TERMINATED"
  detail := "Zlecenie jest w stanie terminalnym (CANCELLED/COMPLETED)."

/-- Why a mandate has ended. -/
inductive EndReason where
  | userRequest
  | mandateRevokedLocally
  | accountClosed
  | endDateReached
deriving DecidableEq, Repr

/-- A queued task. -/
inductive RecurringTask where
  | executeRecurringRun (mandateId : Uuid)
  | notifyCancelled (mandateId : Uuid) (reason : EndReason)
  | notifyAutoPaused (mandateId : Uuid) (reason : ExecutionFailureReason)
deriving DecidableEq, Repr

/-- The reason of an end-of-life notification. -/
def RecurringTask.endReason : RecurringTask → Option EndReason
  | .notifyCancelled _ reason => some reason
  | .executeRecurringRun _ => none
  | .notifyAutoPaused _ _ => none

/-- How a block of a recurring endpoint or task ends. -/
abbrev Outcome (Result : Type) :=
  Lib.Outcome RecurringError RecurringDb RecurringTask Result

/-! ## Changes of the mandate -/

/-- The next run is planned. -/
def RecurringTransfer.advancedTo (next : DateTime) (mandate : RecurringTransfer) :
    RecurringTransfer :=
  { mandate with nextRunAt := next }

def RecurringTransfer.completed (mandate : RecurringTransfer) : RecurringTransfer :=
  { mandate with status := .completed }

def RecurringTransfer.pausedNow (now : DateTime) (mandate : RecurringTransfer) :
    RecurringTransfer :=
  { mandate with
    status := .paused
    pausedAt := some now }

def RecurringTransfer.cancelledNow (now : DateTime) (mandate : RecurringTransfer) :
    RecurringTransfer :=
  { mandate with
    status := .cancelled
    cancelledAt := some now }

def RecurringTransfer.resumedTo (next : DateTime) (mandate : RecurringTransfer) :
    RecurringTransfer :=
  { mandate with
    status := .active
    nextRunAt := next
    failedRunsCount := 0
    pausedAt := none }

/-- What a successful run does to the mandate: the row, and the reason if this
ends it. -/
def RecurringTransfer.afterSuccess
    (now : DateTime) (executionId : Uuid) (mandate : RecurringTransfer) :
    RecurringTransfer × List RecurringTask :=
  let counted :=
    { mandate with
      lastRunAt := some now
      lastExecution := some executionId
      failedRunsCount := 0 }
  if mandate.status = .active ∧ mandate.isOver = true then
    (counted.completed, [.notifyCancelled mandate.id .endDateReached])
  else (counted, [])

/-- The reasons of `CANCELLING_REASONS`. -/
def ExecutionFailureReason.cancelling : ExecutionFailureReason → Option EndReason
  | .mandateRevokedLocally => some .mandateRevokedLocally
  | .accountClosed => some .accountClosed
  | _ => none

/-- What a failed run does to the mandate, with the tasks to queue. -/
def RecurringTransfer.afterFailure
    (threshold : Int) (now : DateTime) (reason : ExecutionFailureReason)
    (mandate : RecurringTransfer) : RecurringTransfer × List RecurringTask :=
  let counted := { mandate with failedRunsCount := mandate.failedRunsCount + 1 }
  if mandate.status ≠ .active then (counted, [])
  else
    match reason.cancelling with
    | some ended => (counted.cancelledNow now, [.notifyCancelled mandate.id ended])
    | none =>
        if reason = .amlBlock ∨ threshold ≤ counted.failedRunsCount then
          (counted.pausedNow now, [.notifyAutoPaused mandate.id reason])
        else (counted, [])

end Klik.Recurring
