import Klik.BankIO.Cheques
import Klik.Lib.RememberedReplies
import Klik.Recurring.MandateSystem

/-!
# Mandates at the bundled bank

The bank keeps a copy of each mandate which it has registered at KLIK, and
its answer to every run which KLIK has asked it to execute.  A run asked for
again gets the answer of the first time.  Amounts are in cents.
-/

namespace Klik.BankIO

open Klik.Common
open Klik.Lib
open Klik.Recurring

/-- An entry of `local_mandates`. -/
structure LocalMandate where
  userId : PyStr
  status : PyStr
  revokedLocally : Bool
  lastRunStatus : Option PyStr
  lastRunDetail : Option PyStr
deriving DecidableEq, Repr

/-- Why the bank rejects a run. -/
inductive RunRejection where
  | mandateRevokedLocally
  | accountClosed
  | insufficientFunds
deriving DecidableEq, Repr

/-- The value of `reject_reason`. -/
def RunRejection.text : RunRejection → PyStr
  | .mandateRevokedLocally => py "MANDATE_REVOKED_LOCALLY"
  | .accountClosed => py "ACCOUNT_CLOSED"
  | .insufficientFunds => py "INSUFFICIENT_FUNDS"

/-- The dictionary which `webhook_recurring_execute` returns. -/
inductive ExecuteResponse where
  | executed (rtpReference executedAt : PyStr)
  | rejected (reason : RunRejection)
deriving DecidableEq, Repr

/-- The variables `clients`, with the balance of each client,
`local_mandates` and `executed_runs`. -/
structure MandateBank where
  clients : InsertionDict PyStr Int
  localMandates : InsertionDict Uuid LocalMandate
  executedRuns : InsertionDict Uuid ExecuteResponse
deriving DecidableEq, Repr

/-- What `webhook_recurring_execute` reads of its payload; the amount is none
where `float` raises. -/
structure RecurringExecuteWebhookIn where
  recurringTransferId : Uuid
  executionId : Uuid
  payerUserId : Option PyStr
  amount : Option Int
deriving DecidableEq, Repr

/-! ## Execution of a run -/

/-- `(mandate or {}).get("user_id") or payload.payer_user_id`. -/
def mandateUser (mandate : Option LocalMandate) (payerUserId : Option PyStr) : Option PyStr :=
  match mandate with
  | none => payerUserId
  | some mandate => if mandate.userId ≠ [] then some mandate.userId else payerUserId

/-- `clients.get(user_id) if user_id else None`, with its key. -/
def clientOf (clients : InsertionDict PyStr Int) : Option PyStr → Option (PyStr × Int)
  | none => none
  | some userId =>
      if userId = [] then none else (clients.get? userId).map fun balance => (userId, balance)

/-- The classification of a run: whom it debits and how much, or why it is
rejected. -/
def classifyRun (payload : RecurringExecuteWebhookIn) (bank : MandateBank) :
    Except RunRejection (PyStr × Int) :=
  let mandate := bank.localMandates.get? payload.recurringTransferId
  let amount := payload.amount.getD 0
  if mandate.any LocalMandate.revokedLocally then .error .mandateRevokedLocally
  else
    match clientOf bank.clients (mandateUser mandate payload.payerUserId) with
    | none => .error .accountClosed
    | some (userId, balance) =>
        if balance < amount then .error .insufficientFunds else .ok (userId, amount)

/-- The random part of a reference, and the time of a run as texts. -/
structure RunStamp where
  hex : PyStr
  executedAt : PyStr
deriving DecidableEq, Repr

/-- The response to a new run. -/
def newResponse (bankZone : PyStr) (stamp : RunStamp) :
    Except RunRejection (PyStr × Int) → ExecuteResponse
  | .error reason => .rejected reason
  | .ok _ => .executed (py "RTP-" ++ bankZone ++ py "-" ++ stamp.hex) stamp.executedAt

/-- The clients after a new run. -/
def newClients (clients : InsertionDict PyStr Int) :
    Except RunRejection (PyStr × Int) → InsertionDict PyStr Int
  | .error _ => clients
  | .ok (userId, amount) => credit userId (-amount) clients

/-- `response["status"]`. -/
def ExecuteResponse.status : ExecuteResponse → PyStr
  | .executed _ _ => py "EXECUTED"
  | .rejected _ => py "REJECTED"

/-- `response.get("reject_reason") or response.get("rtp_reference")`. -/
def ExecuteResponse.detail : ExecuteResponse → PyStr
  | .executed rtpReference _ => rtpReference
  | .rejected reason => reason.text

/-- An entry of `local_mandates` is changed, if it is there. -/
def updateMandate (change : LocalMandate → LocalMandate) (mandateId : Uuid)
    (mandates : InsertionDict Uuid LocalMandate) : InsertionDict Uuid LocalMandate :=
  match mandates.get? mandateId with
  | none => mandates
  | some mandate => mandates.set mandateId (change mandate)

def LocalMandate.ran (response : ExecuteResponse) (mandate : LocalMandate) : LocalMandate :=
  { mandate with
    lastRunStatus := some response.status
    lastRunDetail := some response.detail }

/-- The response, and the bank after it. -/
def webhookRecurringExecute (bankZone : PyStr) (stamp : RunStamp)
    (payload : RecurringExecuteWebhookIn) (bank : MandateBank) :
    ExecuteResponse × MandateBank :=
  match bank.executedRuns.get? payload.executionId with
  | some response => (response, bank)
  | none =>
      let classified := classifyRun payload bank
      let response := newResponse bankZone stamp classified
      (response,
        { clients := newClients bank.clients classified
          localMandates := updateMandate (LocalMandate.ran response)
            payload.recurringTransferId bank.localMandates
          executedRuns := bank.executedRuns.set payload.executionId response })

/-- The body of the response as KLIK decodes it. -/
def ExecuteResponse.body : ExecuteResponse → PyValue
  | .executed rtpReference executedAt =>
      .dict [(py "status", .str (py "EXECUTED")), (py "rtp_reference", .str rtpReference),
        (py "executed_at", .str executedAt)]
  | .rejected reason =>
      .dict [(py "status", .str (py "REJECTED")), (py "reject_reason", .str reason.text)]

/-- An amount in cents. -/
def cents (amount : Decimal) : Int := (amount * 100).floor

/-- The request of KLIK as the bank receives it; one without recipient is
refused, since the field takes an object only. -/
def receivedRequest (request : ExecuteRequest) : Option RecurringExecuteWebhookIn :=
  request.recipient.map fun _ =>
    { recurringTransferId := request.recurringTransferId
      executionId := request.executionId
      payerUserId := some request.payerUserId
      amount := some (cents request.amount) }

/-! ## The other handlers -/

/-- `api_create_recurring` from the reply of KLIK on. -/
def apiCreateRecurringRecord (mandateId : Uuid) (userId status : PyStr) (bank : MandateBank) :
    MandateBank :=
  { bank with
    localMandates := bank.localMandates.set mandateId
      { userId := userId
        status := status
        revokedLocally := false
        lastRunStatus := none
        lastRunDetail := none } }

/-- An entry of `local_mandates` gets another status. -/
def MandateBank.markMandate (mandateId : Uuid) (status : PyStr) (bank : MandateBank) :
    MandateBank :=
  { bank with
    localMandates :=
      updateMandate (fun mandate => { mandate with status := status }) mandateId
        bank.localMandates }

def webhookRecurringAutoPaused (mandateId : Uuid) (bank : MandateBank) : MandateBank :=
  bank.markMandate mandateId (py "PAUSED")

/-- The status after the end of a mandate. -/
def endStatus : EndReason → PyStr
  | .endDateReached => py "COMPLETED"
  | .userRequest | .mandateRevokedLocally | .accountClosed => py "CANCELLED"

def webhookRecurringCancelled (mandateId : Uuid) (reason : EndReason) (bank : MandateBank) :
    MandateBank :=
  bank.markMandate mandateId (endStatus reason)

/-- `_recurring_lifecycle` and `api_recurring_detail` from the reply of KLIK
on. -/
def recurringLifecycleRecord (mandateId : Uuid) (status : PyStr) (bank : MandateBank) :
    MandateBank :=
  bank.markMandate mandateId status

/-- `api_recurring_resume` after its lifecycle call. -/
def apiRecurringResumeRecord (mandateId : Uuid) (bank : MandateBank) : MandateBank :=
  { bank with
    localMandates :=
      updateMandate (fun mandate => { mandate with revokedLocally := false }) mandateId
        bank.localMandates }

def recurringNotFound : HTTPException where
  statusCode := 404
  code := py "RECURRING_NOT_FOUND"
  message := py "Zlecenie nie istnieje lokalnie."

def apiRecurringRevokeLocally (mandateId : Uuid) (bank : MandateBank) :
    Except HTTPException MandateBank :=
  match bank.localMandates.get? mandateId with
  | none => .error recurringNotFound
  | some _ =>
      .ok { bank with
        localMandates :=
          updateMandate (fun mandate => { mandate with revokedLocally := true }) mandateId
            bank.localMandates }

end Klik.BankIO
