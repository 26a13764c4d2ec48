import Klik.Cheques.Notices
import Klik.Lib.DictTotals
import Klik.Lib.InFlight

/-!
# Cheques of the bundled bank

The bank takes the amount of a cheque from the balance of its client when it
has issued the cheque at KLIK, and gives it back when a webhook says that KLIK
has released the cheque.  Both handlers which ask KLIK read their checks
before the request and write after its reply, and hold the lock for either
part only.  Amounts are in cents.
-/

namespace Klik.BankIO

open Klik.Cheques
open Klik.Common
open Klik.Lib

/-- An entry of `issued_cheques`. -/
structure IssuedCheque where
  userId : PyStr
  amount : Int
  status : ChequeStatus
deriving DecidableEq, Repr

/-- The variables `clients`, with the balance of each client, and
`issued_cheques`. -/
structure BankState where
  clients : InsertionDict PyStr Int
  issuedCheques : InsertionDict Uuid IssuedCheque
deriving DecidableEq, Repr

/-- `HTTPException` with the code and the message of its detail. -/
structure HTTPException where
  statusCode : Nat
  code : PyStr
  message : PyStr
deriving DecidableEq, Repr

/-- The status as the bank writes it. -/
def statusText : ChequeStatus → PyStr
  | .active => py "ACTIVE"
  | .redeemed => py "REDEEMED"
  | .cancelled => py "CANCELLED"
  | .expired => py "EXPIRED"

def clientNotFound (userId : PyStr) : HTTPException where
  statusCode := 404
  code := py "CLIENT_NOT_FOUND"
  message := py "Brak klienta " ++ userId

def insufficientFunds : HTTPException where
  statusCode := 422
  code := py "INSUFFICIENT_FUNDS"
  message := py "Niewystarczające saldo."

def chequeNotFound : HTTPException where
  statusCode := 404
  code := py "CHEQUE_NOT_FOUND"
  message := py "Czek nie istnieje."

def chequeNotActive (status : ChequeStatus) : HTTPException where
  statusCode := 409
  code := py "CHEQUE_NOT_ACTIVE"
  message := py "Czek jest w stanie " ++ statusText status ++ py "."

/-- `clients[user_id]["balance"] += amount` of a client who is there. -/
def credit (userId : PyStr) (amount : Int) (clients : InsertionDict PyStr Int) :
    InsertionDict PyStr Int :=
  match clients.get? userId with
  | none => clients
  | some balance => clients.set userId (balance + amount)

/-- The clients with which the module starts. -/
def clients : InsertionDict PyStr Int :=
  [(py "user-1", 500000), (py "user-2", 150000), (py "user-3", 8000)]

/-! ## `api_issue_cheque` -/

/-- Up to the request to KLIK. -/
def apiIssueChequeChecks (userId : PyStr) (amount : Int) (bank : BankState) :
    Except HTTPException Unit :=
  match bank.clients.get? userId with
  | none => .error (clientNotFound userId)
  | some balance => if balance < amount then .error insufficientFunds else .ok ()

/-- From the reply of KLIK on. -/
def apiIssueChequeRecord (userId : PyStr) (amount : Int) (chequeId : Uuid)
    (bank : BankState) : BankState where
  clients := credit userId (-amount) bank.clients
  issuedCheques := bank.issuedCheques.set chequeId
    { userId := userId
      amount := amount
      status := .active }

/-! ## `api_cancel_cheque` -/

/-- Up to the request to KLIK. -/
def apiCancelChequeChecks (chequeId : Uuid) (bank : BankState) : Except HTTPException Unit :=
  match bank.issuedCheques.get? chequeId with
  | none => .error chequeNotFound
  | some cheque =>
      if cheque.status ≠ .active then .error (chequeNotActive cheque.status) else .ok ()

/-- The entry with another status. -/
def BankState.mark (chequeId : Uuid) (status : ChequeStatus) (bank : BankState) : BankState :=
  match bank.issuedCheques.get? chequeId with
  | none => bank
  | some cheque =>
      { bank with
        issuedCheques := bank.issuedCheques.set chequeId { cheque with status := status } }

/-- From the reply of KLIK on.  The status is overwritten whatever it is by
now, and the balance is left to the webhook. -/
def apiCancelChequeRecord (chequeId : Uuid) (bank : BankState) : BankState :=
  bank.mark chequeId .cancelled

/-! ## Webhooks -/

def webhookChequeRedeemed (chequeId : Uuid) (bank : BankState) : BankState :=
  bank.mark chequeId .redeemed

/-- `cheque.get("user_id") or payload.user_id`. -/
def chequeUser (cheque : IssuedCheque) (payloadUserId : Option PyStr) : Option PyStr :=
  if cheque.userId ≠ [] then some cheque.userId else payloadUserId

/-- What `webhook_cheque_released` gives back, and to whom. -/
def releaseRefund (chequeId : Uuid) (payloadUserId : Option PyStr) (bank : BankState) :
    Option (PyStr × Int) :=
  match bank.issuedCheques.get? chequeId with
  | none => none
  | some cheque =>
      if cheque.status = .active then
        match chequeUser cheque payloadUserId with
        | none => none
        | some userId =>
            if userId ≠ [] ∧ (bank.clients.get? userId).isSome then
              some (userId, cheque.amount)
            else none
      else none

def webhookChequeReleased (chequeId : Uuid) (reason : ReleaseReason)
    (payloadUserId : Option PyStr) (bank : BankState) : BankState :=
  match bank.issuedCheques.get? chequeId with
  | none => bank
  | some cheque =>
      if cheque.status = .active then
        let marked := bank.mark chequeId reason.status
        match releaseRefund chequeId payloadUserId bank with
        | none => marked
        | some (userId, amount) => { marked with clients := credit userId amount bank.clients }
      else bank

/-- The handler of a notification. -/
def BankState.receive (notice : ChequeNotification) (payloadUserId : Option PyStr)
    (bank : BankState) : BankState :=
  match notice with
  | .redeemed chequeId => webhookChequeRedeemed chequeId bank
  | .released chequeId reason => webhookChequeReleased chequeId reason payloadUserId bank

/-! ## What the handlers do -/

theorem get?_credit (userId : PyStr) (amount : Int) (clients : InsertionDict PyStr Int)
    (other : PyStr) :
    (credit userId amount clients).get? other =
      (clients.get? other).map fun balance =>
        if userId = other then balance + amount else balance := by
  simp only [credit]
  by_cases same : userId = other
  · subst same
    cases found : clients.get? userId with
    | none => simp [found]
    | some balance => simp [InsertionDict.get?_set]
  · cases found : clients.get? userId with
    | none => simp [same]
    | some balance => simp [InsertionDict.get?_set, same]

theorem mark_of_get?
    {bank : BankState} {chequeId : Uuid} {cheque : IssuedCheque}
    (found : bank.issuedCheques.get? chequeId = some cheque) (status : ChequeStatus) :
    bank.mark chequeId status =
      { bank with
        issuedCheques := bank.issuedCheques.set chequeId { cheque with status := status } } := by
  simp only [BankState.mark, found]

theorem mark_of_absent
    {bank : BankState} {chequeId : Uuid}
    (absent : bank.issuedCheques.get? chequeId = none) (status : ChequeStatus) :
    bank.mark chequeId status = bank := by
  simp only [BankState.mark, absent]

/-- Marking an entry with its own status changes nothing. -/
theorem mark_of_same
    {bank : BankState} {chequeId : Uuid} {status : ChequeStatus}
    (same : ∀ cheque, bank.issuedCheques.get? chequeId = some cheque → cheque.status = status) :
    bank.mark chequeId status = bank := by
  cases found : bank.issuedCheques.get? chequeId with
  | none => exact mark_of_absent found status
  | some cheque =>
      rw [mark_of_get? found, ← same cheque found, InsertionDict.set_of_get? found]

/-- Marking touches the status of one entry only. -/
theorem get?_mark
    (bank : BankState) (chequeId : Uuid) (status : ChequeStatus) (other : Uuid) :
    (bank.mark chequeId status).issuedCheques.get? other =
      (bank.issuedCheques.get? other).map fun cheque =>
        if chequeId = other then { cheque with status := status } else cheque := by
  cases found : bank.issuedCheques.get? chequeId with
  | none =>
      rw [mark_of_absent found]
      by_cases same : chequeId = other
      · rw [← same, found, Option.map_none]
      · simp [same]
  | some cheque =>
      rw [mark_of_get? found]
      by_cases same : chequeId = other
      · subst same
        simp [InsertionDict.get?_set, found]
      · simp [InsertionDict.get?_set, same]

/-- The first release of an active cheque of a client of the bank. -/
theorem webhookChequeReleased_of_active
    {bank : BankState} {chequeId : Uuid} {cheque : IssuedCheque}
    (found : bank.issuedCheques.get? chequeId = some cheque) (active : cheque.status = .active)
    (named : cheque.userId ≠ []) (known : (bank.clients.get? cheque.userId).isSome)
    (reason : ReleaseReason) (payloadUserId : Option PyStr) :
    releaseRefund chequeId payloadUserId bank = some (cheque.userId, cheque.amount) ∧
      webhookChequeReleased chequeId reason payloadUserId bank =
        { clients := credit cheque.userId cheque.amount bank.clients
          issuedCheques := bank.issuedCheques.set chequeId
            { cheque with status := reason.status } } := by
  have refund : releaseRefund chequeId payloadUserId bank =
      some (cheque.userId, cheque.amount) := by
    simp only [releaseRefund, found, if_pos active, chequeUser, if_pos named,
      if_pos (And.intro named known)]
  constructor
  · exact refund
  · simp only [webhookChequeReleased, found, if_pos active, refund, mark_of_get? found]

/-- A release of a cheque which is not active, or not known, does nothing. -/
theorem webhookChequeReleased_of_inactive
    {bank : BankState} {chequeId : Uuid}
    (inactive : ∀ cheque, bank.issuedCheques.get? chequeId = some cheque →
      cheque.status ≠ .active)
    (reason : ReleaseReason) (payloadUserId : Option PyStr) :
    releaseRefund chequeId payloadUserId bank = none ∧
      webhookChequeReleased chequeId reason payloadUserId bank = bank := by
  cases found : bank.issuedCheques.get? chequeId with
  | none => simp only [releaseRefund, webhookChequeReleased, found, and_self]
  | some cheque =>
      have ended : ¬ cheque.status = .active := inactive cheque found
      simp only [releaseRefund, webhookChequeReleased, found, if_neg ended, and_self]

end Klik.BankIO
