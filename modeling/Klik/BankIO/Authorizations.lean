import Klik.BankIO.Mandates
import Klik.Codes.PaymentDeadline

/-!
# Authorizations at the bundled bank

A webhook of KLIK asks the bank for a payment, an operator accepts it with the
PIN of the client or rejects it, and the bank tells KLIK.  Handlers run one
after another, also while they wait for KLIK; a thread removes what has
expired at any time.  A handler which asks KLIK is given up to its request and
from the reply on.  Amounts are in cents.
-/

namespace Klik.BankIO

open Klik.Codes
open Klik.Common
open Klik.Lib

/-- An entry of `_code_queue`. -/
structure QueuedCode where
  userId : PyStr
  code : PyStr
  expiresAt : Instant
deriving DecidableEq, Repr

/-- What the handlers read of an entry of `pending_authorizations`; the amount
is none where `float` raises. -/
structure PendingAuthorization where
  amount : Option Int
  expiryTime : Instant
  userId : Option PyStr
deriving DecidableEq, Repr

/-- The variables `clients`, with the balance and the PIN of each client,
`_code_queue` and `pending_authorizations`. -/
structure AuthorizationBank where
  clients : InsertionDict PyStr Int
  pins : InsertionDict PyStr PyStr
  codeQueue : List QueuedCode
  pendingAuthorizations : InsertionDict Uuid PendingAuthorization
deriving DecidableEq, Repr

/-- `CODE_TTL_SECONDS` in microseconds. -/
def codeTtl : Instant := 120 * 1000000

/-! ## Expiry -/

/-- The first part of `_prune_expired`: codes are removed, and the expired
authorizations are listed. -/
def AuthorizationBank.pruneCodes (now : Instant) (bank : AuthorizationBank) :
    AuthorizationBank :=
  { bank with codeQueue := bank.codeQueue.filter fun code => now < code.expiresAt }

def AuthorizationBank.expired (now : Instant) (bank : AuthorizationBank) : List Uuid :=
  (bank.pendingAuthorizations.filter fun entry => entry.2.expiryTime ≤ now).map Prod.fst

/-- The body of its loop: what was listed is removed, whatever it is by now. -/
def AuthorizationBank.remove (transactionId : Uuid) (bank : AuthorizationBank) :
    AuthorizationBank :=
  { bank with pendingAuthorizations := bank.pendingAuthorizations.pop transactionId }

/-- `_prune_expired`, called by a handler. -/
def AuthorizationBank.pruneExpired (now : Instant) (bank : AuthorizationBank) :
    AuthorizationBank :=
  (bank.expired now).foldl (fun bank transactionId => bank.remove transactionId)
    (bank.pruneCodes now)

/-! ## `webhook_authorize` and `api_generate_code` -/

/-- `AuthorizeWebhookIn`: the expiry is none where `_parse_iso` finds none. -/
structure AuthorizeWebhookIn where
  transactionId : Uuid
  amount : Option Int
  expiryTime : Option Instant
  userId : Option PyStr
deriving DecidableEq, Repr

/-- The loop over `_code_queue`: the user of the first code which has not
expired, and the queue without the codes it has passed.  Each turn reads the
clock. -/
def takeCode (readings : Nat → Instant) : List QueuedCode → Option PyStr × List QueuedCode
  | [] => (none, [])
  | candidate :: rest =>
      if readings 0 < candidate.expiresAt then (some candidate.userId, rest)
      else takeCode (fun turn => readings (turn + 1)) rest

/-- The user of the payload, or else of a queued code. -/
def authorizedUser (readings : Nat → Instant) (userId : Option PyStr)
    (queue : List QueuedCode) : Option PyStr × List QueuedCode :=
  match userId with
  | some (point :: rest) => (some (point :: rest), queue)
  | _ => takeCode readings queue

def webhookAuthorize (readings : Nat → Instant) (payload : AuthorizeWebhookIn)
    (bank : AuthorizationBank) : AuthorizationBank :=
  let pruned := bank.pruneExpired (readings 0)
  let expiry := payload.expiryTime.getD (readings 1 + codeTtl)
  let user := authorizedUser (fun turn => readings (turn + 2)) payload.userId pruned.codeQueue
  { pruned with
    codeQueue := user.2
    pendingAuthorizations :=
      pruned.pendingAuthorizations.set payload.transactionId
        { amount := payload.amount
          expiryTime := expiry
          userId := user.1 } }

/-- `api_generate_code` from the reply of KLIK on. -/
def apiGenerateCodeRecord (userId code : PyStr) (now expiresIn : Instant)
    (bank : AuthorizationBank) : AuthorizationBank :=
  { bank with codeQueue := bank.codeQueue ++ [⟨userId, code, now + expiresIn⟩] }

/-! ## `api_accept` and `api_reject` -/

/-- A debit which a handler is going to make, with the PIN it was given. -/
structure AuthorizedDebit where
  transactionId : Uuid
  userId : PyStr
  amount : Int
  pin : PyStr
deriving DecidableEq, Repr

/-- What a handler holds while it waits for `/payments/confirm`. -/
structure ConfirmCall where
  transactionId : Uuid
  decision : Decision
  debit : Option AuthorizedDebit
deriving DecidableEq, Repr

def pendingNotFound : HTTPException where
  statusCode := 404
  code := py "PENDING_NOT_FOUND"
  message := py "Brak takiej autoryzacji."

def pendingMayHaveExpired : HTTPException where
  statusCode := 404
  code := py "PENDING_NOT_FOUND"
  message := py "Brak takiej autoryzacji (mogła wygasnąć)."

def wrongPin : HTTPException where
  statusCode := 422
  code := py "WRONG_PIN"
  message := py "Błędny PIN."

/-- `api_accept` up to its request, after `_prune_expired`. -/
def apiAccept (transactionId : Uuid) (pin : PyStr) (bank : AuthorizationBank) :
    Except HTTPException ConfirmCall :=
  match bank.pendingAuthorizations.get? transactionId with
  | none => .error pendingNotFound
  | some pending =>
      let amount := pending.amount.getD 0
      match clientOf bank.clients pending.userId with
      | none =>
          .ok
            { transactionId := transactionId
              decision := .accepted
              debit := none }
      | some (userId, balance) =>
          if pin ≠ bank.pins.getD userId (py "1234") then .error wrongPin
          else if balance < amount then
            .ok
              { transactionId := transactionId
                decision := .rejected .insufficientFunds
                debit := none }
          else
            .ok
              { transactionId := transactionId
                decision := .accepted
                debit := some ⟨transactionId, userId, amount, pin⟩ }

/-- The value of a reason. -/
def rejectReasonText : RejectReason → PyStr
  | .insufficientFunds => py "INSUFFICIENT_FUNDS"
  | .userDeclined => py "USER_DECLINED"
  | .pinFailed => py "PIN_FAILED"
  | .amlBlock => py "AML_BLOCK"
  | .other => py "OTHER"

/-- `REJECT_REASONS`. -/
def rejectReasons : List RejectReason :=
  [.insufficientFunds, .userDeclined, .pinFailed, .amlBlock, .other]

/-- The reason which is sent for the one an operator has given. -/
def rejectReasonSent (reason : PyStr) : RejectReason :=
  (rejectReasons.find? fun known => rejectReasonText known = reason).getD .other

/-- `api_reject` up to its request, after `_prune_expired`. -/
def apiReject (transactionId : Uuid) (reason : PyStr) (bank : AuthorizationBank) :
    Except HTTPException ConfirmCall :=
  match bank.pendingAuthorizations.get? transactionId with
  | none => .error pendingMayHaveExpired
  | some _ =>
      .ok
        { transactionId := transactionId
          decision := .rejected (rejectReasonSent reason)
          debit := none }

/-- Either handler from the reply of KLIK on. -/
def AuthorizationBank.confirmed (call : ConfirmCall) (bank : AuthorizationBank) :
    AuthorizationBank :=
  { bank with
    pendingAuthorizations := bank.pendingAuthorizations.pop call.transactionId
    clients :=
      match call.debit with
      | none => bank.clients
      | some debit => credit debit.userId (-debit.amount) bank.clients }

/-! ## What the handlers do -/

variable {bank : AuthorizationBank} {now : Instant} {transactionId : Uuid}

theorem get?_remove {other : Uuid} :
    (bank.remove transactionId).pendingAuthorizations.get? other =
      if transactionId = other then none else bank.pendingAuthorizations.get? other :=
  InsertionDict.get?_pop _ _ _

/-- Removing authorizations leaves the others and the accounts. -/
theorem remove_all (gone : List Uuid) (bank : AuthorizationBank) :
    let after := gone.foldl (fun bank transactionId => bank.remove transactionId) bank
    after.clients = bank.clients ∧ after.pins = bank.pins ∧
      ∀ {transactionId : Uuid} {pending : PendingAuthorization},
        after.pendingAuthorizations.get? transactionId = some pending →
          bank.pendingAuthorizations.get? transactionId = some pending := by
  induction gone generalizing bank with
  | nil => exact ⟨rfl, rfl, fun found => found⟩
  | cons first rest induction =>
      rcases induction (bank.remove first) with ⟨clients, pins, kept⟩
      refine ⟨clients, pins, ?_⟩
      intro transactionId pending found
      have before := kept found
      rw [get?_remove] at before
      split at before
      · cases before
      · exact before

theorem pruneExpired_clients : (bank.pruneExpired now).clients = bank.clients :=
  (remove_all (bank.expired now) (bank.pruneCodes now)).1

theorem pruneExpired_pins : (bank.pruneExpired now).pins = bank.pins :=
  (remove_all (bank.expired now) (bank.pruneCodes now)).2.1

theorem get?_of_pruneExpired {pending : PendingAuthorization}
    (found : (bank.pruneExpired now).pendingAuthorizations.get? transactionId =
      some pending) :
    bank.pendingAuthorizations.get? transactionId = some pending :=
  (remove_all (bank.expired now) (bank.pruneCodes now)).2.2 found

theorem get?_webhookAuthorize
    {readings : Nat → Instant} {payload : AuthorizeWebhookIn} {pending : PendingAuthorization}
    (found : (webhookAuthorize readings payload bank).pendingAuthorizations.get? transactionId =
      some pending) :
    transactionId = payload.transactionId ∧ pending.amount = payload.amount ∧
        (∀ userId, payload.userId = some userId → userId ≠ [] → pending.userId = some userId) ∨
      bank.pendingAuthorizations.get? transactionId = some pending := by
  simp only [webhookAuthorize, InsertionDict.get?_set] at found
  split at found
  · rename_i same
    left
    cases found
    refine ⟨same.symm, rfl, ?_⟩
    intro userId given nonempty
    cases userId with
    | nil => exact absurd rfl nonempty
    | cons point rest => simp only [given, authorizedUser]
  · exact .inr (get?_of_pruneExpired found)

/-- What an acceptance which is sent has found. -/
structure Accepts (bank : AuthorizationBank) (transactionId : Uuid) (pin : PyStr)
    (call : ConfirmCall) : Prop where
  sameId : call.transactionId = transactionId
  pending : ∃ pending, bank.pendingAuthorizations.get? transactionId = some pending ∧
    match clientOf bank.clients pending.userId with
    | none => call.decision = .accepted ∧ call.debit = none
    | some (userId, balance) =>
        pin = bank.pins.getD userId (py "1234") ∧
          (balance < pending.amount.getD 0 ∧
              call.decision = .rejected .insufficientFunds ∧ call.debit = none ∨
            pending.amount.getD 0 ≤ balance ∧ call.decision = .accepted ∧
              call.debit = some ⟨transactionId, userId, pending.amount.getD 0, pin⟩)

theorem apiAccept_ok {pin : PyStr} {call : ConfirmCall}
    (sent : apiAccept transactionId pin bank = .ok call) :
    Accepts bank transactionId pin call := by
  simp only [apiAccept] at sent
  split at sent
  · cases sent
  · rename_i pending found
    cases client : clientOf bank.clients pending.userId with
    | none =>
        rw [client] at sent
        cases sent
        refine ⟨rfl, pending, found, ?_⟩
        simp only [client, and_self]
    | some account =>
        rcases account with ⟨userId, balance⟩
        simp only [client] at sent
        split at sent
        · cases sent
        · rename_i samePin
          have given := not_not.mp samePin
          split at sent
          · rename_i short
            cases sent
            refine ⟨rfl, pending, found, ?_⟩
            rw [client]
            exact ⟨given, .inl ⟨short, rfl, rfl⟩⟩
          · rename_i enough
            cases sent
            refine ⟨rfl, pending, found, ?_⟩
            rw [client]
            exact ⟨given, .inr ⟨Int.not_lt.mp enough, rfl, rfl⟩⟩

theorem apiReject_ok {reason : PyStr} {call : ConfirmCall}
    (sent : apiReject transactionId reason bank = .ok call) :
    call.transactionId = transactionId ∧ call.decision ≠ .accepted ∧ call.debit = none ∧
      ∃ pending, bank.pendingAuthorizations.get? transactionId = some pending := by
  simp only [apiReject] at sent
  split at sent
  · cases sent
  · rename_i pending found
    cases sent
    refine ⟨rfl, ?_, rfl, pending, found⟩
    intro same
    cases same

end Klik.BankIO
