import Klik.BankIO.Authorizations
import Klik.Codes.PaymentRow

/-!
# Payments between KLIK and the bundled bank

The payments which KLIK asks the bank for, with their tasks, and the bank.
While a handler of the bank waits for `/payments/confirm`, no other handler
runs, but KLIK goes on and the thread which removes expired authorizations
does too.  A request may be handled and answered, or the bank gives it up: then
it is lost, or KLIK handles it later.  A webhook which was sent may be delivered
late, and again.  What the other handlers of the bank do to a balance is a
move.
-/

namespace Klik.BankIO

open Klik.Codes
open Klik.Common
open Klik.Ledger
open Klik.Lib

/-! ## Replies of KLIK -/

/-- How KLIK replies to a request. -/
inductive ConfirmReply where
  | ok
  /-- The block has raised. -/
  | raised
  /-- The block has committed, and caching the status has raised. -/
  | cacheFailed
deriving DecidableEq, Repr

/-- The reply of `PaymentConfirmView.post`.  Where a payment is already
decided, the status is not cached again. -/
def confirmReply (request : ConfirmRequest) (cached : Bool) (db : PaymentDb) : ConfirmReply :=
  match confirm request db with
  | .error _ => .raised
  | .ok _ => if db.row.status = .pending ∧ cached = false then .cacheFailed else .ok

/-! ## States and actions -/

/-- The balances at the start, the payments at KLIK with the webhooks sent for
them, the bank, what its thread has yet to remove, the handler which waits
with the reply when it is there, and the requests which were given up.  What
has happened is kept beside: the payments whose handler got no answer to its
decision, the webhooks which were handled, the debits, and the other moves. -/
structure AuthorizationState where
  opening : InsertionDict PyStr Int
  payments : List PaymentState
  webhooks : List AuthorizePayload
  bank : AuthorizationBank
  expired : List Uuid
  call : Option (ConfirmCall × Option ConfirmReply)
  late : List ConfirmCall
  unanswered : List Uuid
  delivered : List Uuid
  debits : List AuthorizedDebit
  moves : List (PyStr × Int)

inductive AuthorizationAction where
  | klik (index : Nat) (action : PaymentAction)
  | webhook (place : Nat) (readings : Nat → Instant)
  | generateCode (userId code : PyStr) (now expiresIn : Instant)
  | accept (transactionId : Uuid) (pin : PyStr) (now : Instant)
  | reject (transactionId : Uuid) (reason : PyStr) (now : Instant)
  | handle (index : Nat) (request : ConfirmRequest) (cached : Bool)
  | handleLate (place index : Nat) (request : ConfirmRequest)
  | finish
  | giveUp
  | janitorReads (now : Instant)
  | janitorRemoves
  | move (userId : PyStr) (amount : Int)

/-! ## Steps -/

/-- The body which the reading step of an attempt is going to send. -/
def sentWebhook (createdAt : Uuid → Instant) (payment : PaymentState) :
    PaymentAction → List AuthorizePayload
  | .start =>
      match startAttempt payment.db.row with
      | some ⟨held, .calling⟩ => [authorizePayload (createdAt held.id) held]
      | _ => []
  | _ => []

/-- The body as the bank receives it. -/
def receivedWebhook (payload : AuthorizePayload) : AuthorizeWebhookIn where
  transactionId := payload.transactionId
  amount := some (cents payload.amount)
  expiryTime := some payload.expiryTime
  userId := some payload.userId

variable (bankId : Uuid) (createdAt : Uuid → Instant)

/-- The decisions of the bank reach KLIK through its handlers only. -/
def ownConfirm : PaymentAction → Bool
  | .confirm request => request.bankId = bankId
  | _ => false

/-- The request of a call, as KLIK handles it. -/
def ConfirmCall.sentAs (call : ConfirmCall) (request : ConfirmRequest) : Prop :=
  request.bankId = bankId ∧ request.transactionId = call.transactionId ∧
    request.decision = call.decision

instance (call : ConfirmCall) (request : ConfirmRequest) :
    Decidable (call.sentAs bankId request) :=
  inferInstanceAs (Decidable (_ ∧ _ ∧ _))

namespace AuthorizationState

def klik (index : Nat) (action : PaymentAction) (state : AuthorizationState) :
    Option AuthorizationState :=
  match state.payments[index]? with
  | none => none
  | some payment =>
      if ownConfirm bankId action then none
      else
        (paymentStep payment action).map fun next =>
          { state with
            payments := state.payments.set index next
            webhooks := state.webhooks ++ sentWebhook createdAt payment action }

def webhook (place : Nat) (readings : Nat → Instant) (state : AuthorizationState) :
    Option AuthorizationState :=
  match state.call, state.webhooks[place]? with
  | none, some payload =>
      some { state with
        bank := webhookAuthorize readings (receivedWebhook payload) state.bank
        delivered := state.delivered ++ [payload.transactionId] }
  | _, _ => none

/-- A handler has pruned, and goes on to ask KLIK or raises. -/
def asks (now : Instant) (handler : AuthorizationBank → Except HTTPException ConfirmCall)
    (state : AuthorizationState) : Option AuthorizationState :=
  match state.call with
  | some _ => none
  | none =>
      let pruned := state.bank.pruneExpired now
      match handler pruned with
      | .error _ => some { state with bank := pruned }
      | .ok call => some { state with bank := pruned, call := some (call, none) }

def handle (index : Nat) (request : ConfirmRequest) (cached : Bool)
    (state : AuthorizationState) : Option AuthorizationState :=
  match state.call, state.payments[index]? with
  | some (call, none), some payment =>
      if call.sentAs bankId request ∧ payment.db.row.id = call.transactionId then
        some { state with
          payments := state.payments.set index (payment.confirmed request)
          call := some (call, some (confirmReply request cached payment.db)) }
      else none
  | _, _ => none

def handleLate (place index : Nat) (request : ConfirmRequest) (state : AuthorizationState) :
    Option AuthorizationState :=
  match state.late[place]?, state.payments[index]? with
  | some call, some payment =>
      if call.sentAs bankId request ∧ payment.db.row.id = call.transactionId then
        some { state with
          payments := state.payments.set index (payment.confirmed request)
          late := state.late.eraseIdx place }
      else none
  | _, _ => none

/-- The handler which waits has got its reply. -/
def finish (state : AuthorizationState) : Option AuthorizationState :=
  match state.call with
  | some (call, some .ok) =>
      some { state with
        bank := state.bank.confirmed call
        call := none
        debits := state.debits ++ call.debit.toList }
  | some (_, some .raised) => some { state with call := none }
  | some (call, some .cacheFailed) =>
      some { state with
        call := none
        unanswered := state.unanswered ++ [call.transactionId] }
  | _ => none

/-- The handler which waits raises without a reply. -/
def giveUp (state : AuthorizationState) : Option AuthorizationState :=
  match state.call with
  | none => none
  | some (call, reply) =>
      some { state with
        call := none
        late := if reply = none then state.late ++ [call] else state.late
        unanswered := state.unanswered ++ [call.transactionId] }

end AuthorizationState

/-- One step, where it is possible. -/
def authorizationStep (state : AuthorizationState) :
    AuthorizationAction → Option AuthorizationState
  | .klik index action => state.klik bankId createdAt index action
  | .webhook place readings => state.webhook place readings
  | .generateCode userId code now expiresIn =>
      if state.call.isSome then none
      else some { state with
        bank := apiGenerateCodeRecord userId code now expiresIn state.bank }
  | .accept transactionId pin now => state.asks now (apiAccept transactionId pin)
  | .reject transactionId reason now => state.asks now (apiReject transactionId reason)
  | .handle index request cached => state.handle bankId index request cached
  | .handleLate place index request => state.handleLate bankId place index request
  | .finish => state.finish
  | .giveUp => state.giveUp
  | .janitorReads now =>
      some { state with
        bank := state.bank.pruneCodes now
        expired := state.expired ++ state.bank.expired now }
  | .janitorRemoves =>
      match state.expired with
      | [] => none
      | transactionId :: rest =>
          some { state with
            bank := state.bank.remove transactionId
            expired := rest }
  | .move userId amount =>
      if state.call.isSome then none
      else some { state with
        bank := { state.bank with clients := credit userId amount state.bank.clients }
        moves := state.moves ++ [(userId, amount)] }

/-- New payments of the bank, and a bank which knows nothing of them. -/
structure AuthorizationState.IsStart (state : AuthorizationState) : Prop where
  payments : ∀ payment ∈ state.payments, paymentSystem.Init payment ∧
    payment.db.row.senderBank.id = bankId ∧
    payment.db.row.completedAt = none ∧ payment.db.row.rejectedAt = none
  ids : (state.payments.map fun payment => payment.db.row.id).Nodup
  webhooks : state.webhooks = []
  clients : state.bank.clients = state.opening
  pendingAuthorizations : state.bank.pendingAuthorizations = []
  call : state.call = none
  late : state.late = []
  unanswered : state.unanswered = []
  delivered : state.delivered = []
  debits : state.debits = []
  moves : state.moves = []

def authorizationSystem : TransitionSystem AuthorizationState AuthorizationAction :=
  .ofStep (AuthorizationState.IsStart bankId) (authorizationStep bankId createdAt)

/-! ## What a step can do -/

/-- Authorizations may be gone; the accounts are what they were. -/
structure AuthorizationBank.Pruned (before after : AuthorizationBank) : Prop where
  clients : after.clients = before.clients
  pins : after.pins = before.pins
  kept : ∀ transactionId pending,
    after.pendingAuthorizations.get? transactionId = some pending →
      before.pendingAuthorizations.get? transactionId = some pending

theorem AuthorizationBank.pruned_pruneExpired (now : Instant) (bank : AuthorizationBank) :
    AuthorizationBank.Pruned bank (bank.pruneExpired now) :=
  ⟨pruneExpired_clients, pruneExpired_pins, fun _ _ found => get?_of_pruneExpired found⟩

/-- What a handler is going to ask KLIK. -/
inductive CallSent (bank : AuthorizationBank) (call : ConfirmCall) : Prop where
  | accept (transactionId : Uuid) (pin : PyStr) (accepts : Accepts bank transactionId pin call)
  | reject (pending : PendingAuthorization)
      (found : bank.pendingAuthorizations.get? call.transactionId = some pending)
      (declines : call.decision ≠ .accepted) (noDebit : call.debit = none)

/-- What one step does, told once for all invariants. -/
inductive AuthorizationMove (state : AuthorizationState) :
    AuthorizationAction → AuthorizationState → Prop where
  | klik {index : Nat} {action : PaymentAction} {payment next : PaymentState}
      (going : state.payments[index]? = some payment)
      (foreign : ownConfirm bankId action = false)
      (step : paymentSystem.Step payment action next) :
      AuthorizationMove state (.klik index action)
        { state with
          payments := state.payments.set index next
          webhooks := state.webhooks ++ sentWebhook createdAt payment action }
  | delivered {place : Nat} {readings : Nat → Instant} {payload : AuthorizePayload}
      (idle : state.call = none) (sent : payload ∈ state.webhooks) :
      AuthorizationMove state (.webhook place readings)
        { state with
          bank := webhookAuthorize readings (receivedWebhook payload) state.bank
          delivered := state.delivered ++ [payload.transactionId] }
  | pruned {bank : AuthorizationBank} {expired : List Uuid} {label : AuthorizationAction}
      (less : AuthorizationBank.Pruned state.bank bank) :
      AuthorizationMove state label { state with bank := bank, expired := expired }
  | asked {bank : AuthorizationBank} {call : ConfirmCall} {label : AuthorizationAction}
      (idle : state.call = none) (less : AuthorizationBank.Pruned state.bank bank)
      (sent : CallSent bank call) :
      AuthorizationMove state label { state with bank := bank, call := some (call, none) }
  | handled {index : Nat} {request : ConfirmRequest} {cached : Bool} {call : ConfirmCall}
      {payment : PaymentState}
      (waiting : state.call = some (call, none))
      (going : state.payments[index]? = some payment)
      (sent : call.sentAs bankId request) (sameId : payment.db.row.id = call.transactionId) :
      AuthorizationMove state (.handle index request cached)
        { state with
          payments := state.payments.set index (payment.confirmed request)
          call := some (call, some (confirmReply request cached payment.db)) }
  | handledLate {place index : Nat} {request : ConfirmRequest} {call : ConfirmCall}
      {payment : PaymentState}
      (member : call ∈ state.late) (going : state.payments[index]? = some payment)
      (sent : call.sentAs bankId request) (sameId : payment.db.row.id = call.transactionId) :
      AuthorizationMove state (.handleLate place index request)
        { state with
          payments := state.payments.set index (payment.confirmed request)
          late := state.late.eraseIdx place }
  | finished {call : ConfirmCall} (answered : state.call = some (call, some .ok)) :
      AuthorizationMove state .finish
        { state with
          bank := state.bank.confirmed call
          call := none
          debits := state.debits ++ call.debit.toList }
  | raised {call : ConfirmCall} (answered : state.call = some (call, some .raised)) :
      AuthorizationMove state .finish { state with call := none }
  | ended {call : ConfirmCall} {reply : Option ConfirmReply} {late : List ConfirmCall}
      {label : AuthorizationAction} (waiting : state.call = some (call, reply))
      (given : ∀ old ∈ late, old ∈ state.late ∨ old = call) :
      AuthorizationMove state label
        { state with
          call := none
          late := late
          unanswered := state.unanswered ++ [call.transactionId] }
  | moved {userId : PyStr} {amount : Int} (idle : state.call = none) :
      AuthorizationMove state (.move userId amount)
        { state with
          bank := { state.bank with clients := credit userId amount state.bank.clients }
          moves := state.moves ++ [(userId, amount)] }

variable {state after : AuthorizationState} {label : AuthorizationAction}

/-- A handler which asks. -/
theorem authorizationMove_of_asks
    {now : Instant} {handler : AuthorizationBank → Except HTTPException ConfirmCall}
    (sends : ∀ bank call, handler bank = .ok call → CallSent bank call)
    (move : state.asks now handler = some after) :
    AuthorizationMove bankId createdAt state label after := by
  simp only [AuthorizationState.asks] at move
  split at move
  · cases move
  · rename_i idle
    have less := AuthorizationBank.pruned_pruneExpired now state.bank
    split at move
    · cases move
      exact .pruned less
    · rename_i call asked
      cases move
      exact .asked idle less (sends _ _ asked)

theorem authorizationMove_of_step
    (move : (authorizationSystem bankId createdAt).Step state label after) :
    AuthorizationMove bankId createdAt state label after := by
  simp only [authorizationSystem, TransitionSystem.ofStep] at move
  cases label with
  | klik index action =>
      simp only [authorizationStep, AuthorizationState.klik] at move
      split at move
      · cases move
      · rename_i payment going
        split at move
        · cases move
        · rename_i foreign
          rcases Option.map_eq_some_iff.mp move with ⟨next, step, rfl⟩
          exact .klik going (Bool.not_eq_true _ ▸ foreign) (step_of_paymentStep step)
  | webhook place readings =>
      simp only [authorizationStep, AuthorizationState.webhook] at move
      split at move
      · rename_i payload idle found
        cases move
        exact .delivered idle (List.mem_of_getElem? found)
      · cases move
  | generateCode userId code now expiresIn =>
      simp only [authorizationStep] at move
      split at move
      · cases move
      · cases move
        exact .pruned ⟨rfl, rfl, fun _ _ found => found⟩
  | accept transactionId pin now =>
      apply authorizationMove_of_asks bankId createdAt _ move
      intro bank call sent
      exact .accept transactionId pin (apiAccept_ok sent)
  | reject transactionId reason now =>
      apply authorizationMove_of_asks bankId createdAt _ move
      intro bank call sent
      rcases apiReject_ok sent with ⟨sameId, declines, noDebit, pending, found⟩
      exact .reject pending (sameId ▸ found) declines noDebit
  | handle index request cached =>
      simp only [authorizationStep, AuthorizationState.handle] at move
      split at move
      · rename_i call payment waiting going
        split at move
        · rename_i sent
          cases move
          exact .handled waiting going sent.1 sent.2
        · cases move
      · cases move
  | handleLate place index request =>
      simp only [authorizationStep, AuthorizationState.handleLate] at move
      split at move
      · rename_i call payment waiting going
        split at move
        · rename_i sent
          cases move
          exact .handledLate (List.mem_of_getElem? waiting) going sent.1 sent.2
        · cases move
      · cases move
  | finish =>
      simp only [authorizationStep, AuthorizationState.finish] at move
      split at move
      · rename_i call answered
        cases move
        exact .finished answered
      · rename_i call answered
        cases move
        exact .raised answered
      · rename_i call answered
        cases move
        exact .ended answered fun _ member => .inl member
      · cases move
  | giveUp =>
      simp only [authorizationStep, AuthorizationState.giveUp] at move
      split at move
      · cases move
      · rename_i call reply waiting
        cases move
        apply AuthorizationMove.ended waiting
        intro old member
        split at member
        · rcases List.mem_append.mp member with earlier | last
          · exact .inl earlier
          · exact .inr (List.mem_singleton.mp last)
        · exact .inl member
  | janitorReads now =>
      cases move
      exact .pruned ⟨rfl, rfl, fun _ _ found => found⟩
  | janitorRemoves =>
      simp only [authorizationStep] at move
      split at move
      · cases move
      · rename_i transactionId rest listed
        cases move
        refine .pruned ⟨rfl, rfl, ?_⟩
        intro other pending found
        rw [get?_remove] at found
        split at found
        · cases found
        · exact found
  | move userId amount =>
      simp only [authorizationStep] at move
      split at move
      · cases move
      · rename_i idle
        cases move
        exact .moved (by simpa using idle)

end Klik.BankIO
