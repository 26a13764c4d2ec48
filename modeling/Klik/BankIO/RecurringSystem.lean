import Klik.BankIO.Mandates

/-!
# Runs of KLIK at the bundled bank

The mandates which a bank has at KLIK, each with its tasks and requests in any
interleaving, and the bank itself.  A request of KLIK is handled and answered,
or its reply is lost; what was sent may be delivered late, and again.  All
executions are rows of one table, so that a new one gets a key which no
mandate uses.  The mandates are all which are created in the run: before it is
registered, nothing happens to one.  What the other handlers of the bank do to
a balance is a move.
-/

namespace Klik.BankIO

open Klik.Common
open Klik.Lib
open Klik.Recurring

/-- What a run has taken from a client. -/
structure Debit where
  executionId : Uuid
  mandateId : Uuid
  userId : PyStr
  amount : Int
deriving DecidableEq, Repr

/-- The balances at the start, the mandates at KLIK, the bank, and what has
happened: every reply to a run, every debit, and every other change of a
balance. -/
structure RecurringState where
  opening : InsertionDict PyStr Int
  mandates : List MandateState
  bank : MandateBank
  replies : List (Uuid × ExecuteResponse)
  debits : List Debit
  moves : List (PyStr × Int)

inductive RecurringAction where
  | klik (index : Nat) (action : MandateAction)
  /-- An attempt calls the bank and gets its answer. -/
  | exchange (index attempt : Nat) (stamp : RunStamp)
  /-- A request which was sent reaches the bank, and the reply is lost. -/
  | deliver (index sent : Nat) (stamp : RunStamp)
  /-- `api_create_recurring` has got the reply of KLIK. -/
  | record (index : Nat) (status : PyStr)
  | autoPaused (mandateId : Uuid)
  | cancelled (mandateId : Uuid) (reason : EndReason)
  | lifecycle (mandateId : Uuid) (status : PyStr)
  | resumed (mandateId : Uuid)
  | revokeLocally (mandateId : Uuid)
  | move (userId : PyStr) (amount : Int)

/-! ## Steps -/

/-- The debit which a request brings about. -/
def runDebit (payload : RecurringExecuteWebhookIn) (bank : MandateBank) : Option Debit :=
  match bank.executedRuns.get? payload.executionId with
  | some _ => none
  | none =>
      match classifyRun payload bank with
      | .error _ => none
      | .ok (userId, amount) =>
          some ⟨payload.executionId, payload.recurringTransferId, userId, amount⟩

/-- The request which an attempt is about to send. -/
def pendingRequest (attempt : Nat) (mandate : MandateState) : Option ExecuteRequest :=
  match mandate.attempts[attempt]? with
  | none => none
  | some attempt =>
      match attempt.stage with
      | .calling recipient =>
          match mandate.db.mandate.effectiveWebhookUrl with
          | none => none
          | some webhookBase =>
              (rowAt RecurringExecution.id mandate.db.executions attempt.executionId).map
                fun execution =>
                  executeRequest webhookBase mandate.db.mandate execution recipient
      | _ => none

/-- What KLIK does on its own: an answer of the bank is an exchange, and a new
execution has a new key. -/
def RecurringState.allows (state : RecurringState) : MandateAction → Bool
  | .callBank _ (.json _) => false
  | .startRun _ executionId _ =>
      state.mandates.all fun mandate =>
        mandate.db.executions.all fun execution => execution.id ≠ executionId
  | _ => true

def RecurringState.putMandate (index : Nat) (mandate : MandateState) (state : RecurringState) :
    RecurringState :=
  { state with mandates := state.mandates.set index mandate }

def RecurringState.withLocal (localMandates : InsertionDict Uuid LocalMandate)
    (state : RecurringState) : RecurringState :=
  { state with bank := { state.bank with localMandates := localMandates } }

variable (env : RecurringEnv) (bankZone : PyStr)

/-- The bank has handled a request. -/
def RecurringState.received (stamp : RunStamp) (payload : RecurringExecuteWebhookIn)
    (state : RecurringState) : RecurringState :=
  let handled := webhookRecurringExecute bankZone stamp payload state.bank
  { state with
    bank := handled.2
    replies := state.replies ++ [(payload.executionId, handled.1)]
    debits := state.debits ++ (runDebit payload state.bank).toList }

def RecurringState.klik (index : Nat) (action : MandateAction) (state : RecurringState) :
    Option RecurringState :=
  match state.mandates[index]? with
  | none => none
  | some mandate =>
      if state.allows action then
        (mandateStep env mandate action).map fun next => state.putMandate index next
      else none

def RecurringState.exchange (index attempt : Nat) (stamp : RunStamp) (state : RecurringState) :
    Option RecurringState :=
  match state.mandates[index]? with
  | none => none
  | some mandate =>
      match (pendingRequest attempt mandate).bind receivedRequest with
      | none => none
      | some payload =>
          let response := (webhookRecurringExecute bankZone stamp payload state.bank).1
          (mandateStep env mandate (.callBank attempt (.json response.body))).map fun next =>
            (state.received bankZone stamp payload).putMandate index next

def RecurringState.deliver (index sent : Nat) (stamp : RunStamp) (state : RecurringState) :
    Option RecurringState :=
  match state.mandates[index]? with
  | none => none
  | some mandate =>
      match mandate.sent[sent]? with
      | none => none
      | some call =>
          (receivedRequest call.2).map fun payload => state.received bankZone stamp payload

def RecurringState.record (index : Nat) (status : PyStr) (state : RecurringState) :
    Option RecurringState :=
  state.mandates[index]?.map fun mandate =>
    { state with
      bank := apiCreateRecurringRecord mandate.db.mandate.id mandate.db.mandate.payerUserId
        status state.bank }

def RecurringState.revokeLocally (mandateId : Uuid) (state : RecurringState) : RecurringState :=
  match apiRecurringRevokeLocally mandateId state.bank with
  | .error _ => state
  | .ok bank => { state with bank := bank }

def RecurringState.move (userId : PyStr) (amount : Int) (state : RecurringState) :
    RecurringState :=
  { state with
    bank := { state.bank with clients := credit userId amount state.bank.clients }
    moves := state.moves ++ [(userId, amount)] }

/-- One step, where it is possible. -/
def recurringStep (state : RecurringState) : RecurringAction → Option RecurringState
  | .klik index action => state.klik env index action
  | .exchange index attempt stamp => state.exchange env bankZone index attempt stamp
  | .deliver index sent stamp => state.deliver bankZone index sent stamp
  | .record index status => state.record index status
  | .autoPaused mandateId =>
      some { state with bank := webhookRecurringAutoPaused mandateId state.bank }
  | .cancelled mandateId reason =>
      some { state with bank := webhookRecurringCancelled mandateId reason state.bank }
  | .lifecycle mandateId status =>
      some { state with bank := recurringLifecycleRecord mandateId status state.bank }
  | .resumed mandateId =>
      some { state with bank := apiRecurringResumeRecord mandateId state.bank }
  | .revokeLocally mandateId => some (state.revokeLocally mandateId)
  | .move userId amount => some (state.move userId amount)

/-- New mandates, and a bank which knows nothing of them. -/
structure RecurringState.IsStart (state : RecurringState) : Prop where
  mandates : ∀ mandate ∈ state.mandates, mandate.IsStart env
  ids : (state.mandates.map fun mandate => mandate.db.mandate.id).Nodup
  clients : state.bank.clients = state.opening
  localMandates : state.bank.localMandates = []
  executedRuns : state.bank.executedRuns = []
  replies : state.replies = []
  debits : state.debits = []
  moves : state.moves = []

def recurringSystem : TransitionSystem RecurringState RecurringAction :=
  .ofStep (RecurringState.IsStart env) (recurringStep env bankZone)

/-! ## What a step can do -/

/-- What one step does, told once for all invariants. -/
inductive RecurringMove (state : RecurringState) : RecurringAction → RecurringState → Prop where
  | same {action : RecurringAction} : RecurringMove state action state
  | klik {index : Nat} {action : MandateAction} {mandate next : MandateState}
      (going : state.mandates[index]? = some mandate)
      (allowed : state.allows action = true)
      (step : (mandateSystem env).Step mandate action next) :
      RecurringMove state (.klik index action) (state.putMandate index next)
  | exchanged {index attempt : Nat} {stamp : RunStamp} {mandate next : MandateState}
      {request : ExecuteRequest} {payload : RecurringExecuteWebhookIn}
      (going : state.mandates[index]? = some mandate)
      (pending : pendingRequest attempt mandate = some request)
      (received : receivedRequest request = some payload)
      (step : (mandateSystem env).Step mandate
        (.callBank attempt
          (.json (webhookRecurringExecute bankZone stamp payload state.bank).1.body)) next) :
      RecurringMove state (.exchange index attempt stamp)
        ((state.received bankZone stamp payload).putMandate index next)
  | delivered {index sent : Nat} {stamp : RunStamp} {mandate : MandateState}
      {call : RecurringTransferStatus × ExecuteRequest} {payload : RecurringExecuteWebhookIn}
      (going : state.mandates[index]? = some mandate)
      (member : call ∈ mandate.sent)
      (received : receivedRequest call.2 = some payload) :
      RecurringMove state (.deliver index sent stamp) (state.received bankZone stamp payload)
  | recorded {index : Nat} {status : PyStr} {mandate : MandateState}
      (going : state.mandates[index]? = some mandate) :
      RecurringMove state (.record index status)
        { state with
          bank := apiCreateRecurringRecord mandate.db.mandate.id
            mandate.db.mandate.payerUserId status state.bank }
  | updated {action : RecurringAction} (mandateId : Uuid) (change : LocalMandate → LocalMandate)
      (user : ∀ entry, (change entry).userId = entry.userId)
      (revoked : ∀ entry, entry.revokedLocally = true →
        (change entry).revokedLocally = true ∨ action = .resumed mandateId) :
      RecurringMove state action
        (state.withLocal (updateMandate change mandateId state.bank.localMandates))
  | moved {userId : PyStr} {amount : Int} :
      RecurringMove state (.move userId amount) (state.move userId amount)

/-- A status which is overwritten. -/
theorem RecurringMove.marked (state : RecurringState) (action : RecurringAction)
    (mandateId : Uuid) (status : PyStr) :
    RecurringMove env bankZone state action
      { state with bank := state.bank.markMandate mandateId status } :=
  .updated mandateId (fun entry => { entry with status := status }) (fun _ => rfl)
    fun _ revoked => .inl revoked

theorem recurringMove_of_step
    {state after : RecurringState} {action : RecurringAction}
    (move : (recurringSystem env bankZone).Step state action after) :
    RecurringMove env bankZone state action after := by
  simp only [recurringSystem, TransitionSystem.ofStep] at move
  cases action with
  | klik index action =>
      simp only [recurringStep, RecurringState.klik] at move
      split at move
      · cases move
      · rename_i mandate going
        split at move
        · rename_i allowed
          rcases Option.map_eq_some_iff.mp move with ⟨next, step, rfl⟩
          exact .klik going allowed step
        · cases move
  | exchange index attempt stamp =>
      simp only [recurringStep, RecurringState.exchange] at move
      split at move
      · cases move
      · rename_i mandate going
        split at move
        · cases move
        · rename_i payload accepted
          rcases Option.bind_eq_some_iff.mp accepted with ⟨request, pending, received⟩
          rcases Option.map_eq_some_iff.mp move with ⟨next, step, rfl⟩
          exact .exchanged going pending received step
  | deliver index sent stamp =>
      simp only [recurringStep, RecurringState.deliver] at move
      split at move
      · cases move
      · rename_i mandate going
        split at move
        · cases move
        · rename_i call found
          rcases Option.map_eq_some_iff.mp move with ⟨payload, received, rfl⟩
          exact .delivered going (List.mem_of_getElem? found) received
  | record index status =>
      rcases Option.map_eq_some_iff.mp move with ⟨mandate, going, rfl⟩
      exact .recorded going
  | autoPaused mandateId =>
      cases move
      exact .marked env bankZone state _ mandateId _
  | cancelled mandateId reason =>
      cases move
      exact .marked env bankZone state _ mandateId _
  | lifecycle mandateId status =>
      cases move
      exact .marked env bankZone state _ mandateId _
  | resumed mandateId =>
      cases move
      exact .updated mandateId (fun entry => { entry with revokedLocally := false })
        (fun _ => rfl) fun _ _ => .inr rfl
  | revokeLocally mandateId =>
      cases move
      simp only [RecurringState.revokeLocally, apiRecurringRevokeLocally]
      split
      · exact .same
      · rename_i bank found
        split at found
        · cases found
        · cases found
          exact .updated mandateId (fun entry => { entry with revokedLocally := true })
            (fun _ => rfl) fun _ _ => .inl rfl
  | move userId amount =>
      cases move
      exact .moved

end Klik.BankIO
