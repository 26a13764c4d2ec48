import Klik.Cheques.Models

/-!
# The cheque endpoints

`ChequeIssueView.post`, `ChequeRedeemView.post` and `ChequeCancelView.post`.
A request carries what it has read before its first statement, the reading of
the clock among it: a request may wait for a lock long after it has read the
clock.  Which statement the server refuses, if any, is part of the request.
-/

namespace Klik.Cheques

open Klik.Agents
open Klik.Banks
open Klik.Codes
open Klik.Common
open Klik.Ledger
open Klik.Lib

/-! ## POST /cheques/issue -/

/-- `CHEQUE_TTL_MIN_SECONDS`. -/
def chequeTtlMinSeconds : Nat := 3600

/-- `CHEQUE_TTL_MAX_SECONDS`. -/
def chequeTtlMaxSeconds : Nat := 259200

/-- The validated data of `ChequeIssueRequestSerializer`. -/
@[ext]
structure IssueData where
  userId : PyStr
  amount : Decimal
  currency : String
  zone : Zone
  ttlSeconds : Nat
  amount_min : 1 / 100 ≤ amount
  amount_fits : fitsDecimalField 12 2 amount = true
  ttl_min : chequeTtlMinSeconds ≤ ttlSeconds
  ttl_max : ttlSeconds ≤ chequeTtlMaxSeconds
deriving Repr

instance : DecidableEq IssueData := fun _ _ =>
  decidable_of_iff _ IssueData.ext_iff.symm

structure IssueRequest where
  bank : Bank
  data : IssueData
  idempotencyKey : PyStr
  now : Instant
deriving DecidableEq, Repr

/-- `_check_bank`. -/
def checkBank (bank : Bank) : Except ChequeError Unit :=
  if bank.active = false then .error (.api bankInactiveError)
  else if bank.chequesEnabled = false then .error (.api chequesNotEnabledError)
  else .ok ()

/-- The checks of an issue request before it reads the clock. -/
def IssueRequest.check (request : IssueRequest) : Except ChequeError Unit :=
  match checkBank request.bank with
  | .error error => .error error
  | .ok () =>
      let zone := request.bank.zone
      let expected := (zoneCurrency zone).value
      if request.data.zone ≠ zone then
        .error (.api (zoneMismatchError
          s!"Strefa {request.data.zone.value} ≠ strefa banku {zone.value}."))
      else if request.data.currency ≠ expected then
        .error (.api (currencyMismatchError
          (s!"Waluta {request.data.currency} nie pasuje do strefy {zone.value} " ++
            s!"(oczekiwano {expected}).")))
      else .ok ()

/-- The fields of `ChequeIssueResponseSerializer`. -/
structure IssueResponse where
  chequeId : Uuid
  code : PyStr
  amount : Decimal
  currency : Currency
  expiresAt : Instant
  issuedAt : Instant
deriving DecidableEq, Repr

def issueResponse (cheque : Cheque) : IssueResponse where
  chequeId := cheque.id
  code := cheque.code
  amount := cheque.amount
  currency := cheque.currency
  expiresAt := cheque.expiresAt
  issuedAt := cheque.issuedAt

/-- The cheque which the bank has issued under the key; the newest is the
first. -/
def issuedUnder (bankId : Uuid) (key : PyStr) (cheques : List Cheque) :
    Option Cheque :=
  cheques.reverse.find? fun cheque =>
    cheque.idempotencyKey = key && cheque.issuerBank.id = bankId

/-- An issue request which draws its code: the last draw, and how many draws
the loop has left. -/
structure Issuing where
  request : IssueRequest
  code : PyStr
  left : Nat
deriving DecidableEq, Repr

/-- The request up to its loop: it answers with the cheque of an earlier
request, or goes on to draw. -/
def startIssue (request : IssueRequest) (cheques : List Cheque) :
    Except ChequeError (IssueResponse ⊕ Issuing) :=
  match request.check with
  | .error error => .error error
  | .ok () =>
      match issuedUnder request.bank.id request.idempotencyKey cheques with
      | some existing => .ok (.inl (issueResponse existing))
      | none => .ok (.inr ⟨request, [], 10⟩)

/-- What the generator can draw: nine digits. -/
def isChequeCode (code : PyStr) : Bool :=
  code.length = 9 && code.all fun point => 48 ≤ point && point ≤ 57

/-- Whether an active cheque has the code. -/
def codeInUse (code : PyStr) (cheques : List Cheque) : Bool :=
  cheques.any fun cheque => cheque.code = code && cheque.status = .active

/-- One turn of the loop: it ends with a code which no active cheque has, or
after the last turn. -/
def Issuing.draw (code : PyStr) (cheques : List Cheque) (issuing : Issuing) :
    Issuing :=
  { issuing with
    code := code
    left := if codeInUse code cheques then issuing.left - 1 else 0 }

/-- The row which the request inserts. -/
def Issuing.cheque (chequeId : Uuid) (issuing : Issuing) : Cheque where
  id := chequeId
  code := issuing.code
  issuerBank := issuing.request.bank
  issuerUserId := issuing.request.data.userId
  amount := issuing.request.data.amount
  currency := zoneCurrency issuing.request.bank.zone
  zone := issuing.request.data.zone
  status := .active
  issuedAt := issuing.request.now
  expiresAt := issuing.request.now + issuing.request.data.ttlSeconds * 1000000
  redeemedAt := none
  cancelledAt := none
  expiredAt := none
  transaction := none
  idempotencyKey := issuing.request.idempotencyKey

/-- `Cheque.objects.create`. -/
def createCheque (chequeId : Uuid) (refused : Bool) (issuing : Issuing)
    (cheques : List Cheque) : Except ChequeError (List Cheque) :=
  if 64 < issuing.request.idempotencyKey.length then
    .error (.database (.invalidText "idempotency_key"))
  else if cheques.any (fun cheque => cheque.id = chequeId) then
    .error (.database (.integrity "cheques_cheque_pkey"))
  else if refused then .error (.database .operational)
  else .ok (cheques ++ [issuing.cheque chequeId])

/-! ## POST /cheques/redeem -/

/-- A redeem request.  `seen` are the cheques which the snapshot of its first
statement holds: one which is inserted while the statement waits for a lock
is not among them.  `merchants` are the active ones. -/
structure RedeemRequest where
  agent : Agent
  chequeCode : PyStr
  merchantId : Uuid
  idempotencyKey : PyStr
  merchants : List Merchant
  now : Instant
  splitAt : Instant
  agreements : List MSCAgreement
  seen : List Uuid
  transactionId : Uuid
  refused : Option ChequeStatement
deriving DecidableEq, Repr

/-- The error for a code which no active cheque has: it depends on the newest
cheque with the code. -/
def missingChequeError (code : PyStr) (cheques : List Cheque) : ChequeError :=
  match cheques.reverse.find? fun cheque => cheque.code = code with
  | none => .api chequeNotFoundError
  | some historical =>
      match historical.status with
      | .redeemed => .api chequeAlreadyRedeemedError
      | .cancelled => .api chequeAlreadyCancelledError
      | .expired => .api chequeExpiredError
      | .active => .api chequeNotFoundError

/-- `select_for_update().get(code=..., status=ACTIVE)`; the filter holds of
the rows as they are once the lock is obtained. -/
def lockActive (code : PyStr) (seen : List Uuid) (cheques : List Cheque) :
    Except ChequeError Cheque :=
  match cheques.filter fun cheque =>
      cheque.code = code && cheque.status = .active && seen.contains cheque.id with
  | [] => .error (missingChequeError code cheques)
  | [cheque] => .ok cheque
  | _ => .error .multipleObjectsReturned

/-- The payment of a redeemed cheque. -/
def RedeemRequest.transaction
    (merchant : Merchant) (cheque : Cheque) (split : Split)
    (request : RedeemRequest) : Transaction where
  id := request.transactionId
  senderBank := cheque.issuerBank
  agent := request.agent
  merchant := merchant
  codeSnapshot := cheque.code
  userId := []
  amountGross := cheque.amount
  klikFee := some split.klikFee
  agentFee := some split.agentFee
  merchantNet := some split.merchantNet
  currency := cheque.currency
  zone := cheque.zone
  isOnUs := cheque.issuerBank.id = merchant.settlementBank.id
  status := .completed
  rejectReason := none
  idempotencyKey := request.idempotencyKey
  authorizedAt := some request.now
  completedAt := some request.now
  rejectedAt := none

/-- `Transaction.objects.create` in a cheque endpoint. -/
def createTransaction (tx : Transaction) (transactions : List Transaction) :
    Except ChequeError (List Transaction) :=
  match tx.create transactions with
  | .error (.validation error) => .error (.validation error)
  | .error (.database error) => .error (.database error)
  | .ok after => .ok after

/-- What a redeemed cheque leaves for the steps after the block. -/
structure Redemption where
  cheque : Cheque
  transaction : Transaction
deriving DecidableEq, Repr

/-- The block of `ChequeRedeemView.post`, up to its commit. -/
def redeemBlock (request : RedeemRequest) (merchant : Merchant) (db : ChequeDb) :
    Outcome Redemption :=
  match lockActive request.chequeCode request.seen db.cheques with
  | .error error => .raise error db
  | .ok cheque =>
      if cheque.expiresAt ≤ request.now then
        if request.refused = some .saveCheque then
          .raise (.database .operational) db
        else
          { result := .error (.api chequeExpiredError)
            db := { db with
              cheques :=
                saveRow Cheque.id (cheque.expiredAtTime request.now) db.cheques }
            queued := [.released cheque.id .expired] }
      else if cheque.zone ≠ request.agent.zone then
        .raise (.api (zoneMismatchError
          (s!"Strefa czeku ({cheque.zone.value}) ≠ strefa agenta " ++
            s!"({request.agent.zone.value})."))) db
      else
        match calculateSplit request.agreements request.agent cheque.amount
            request.splitAt with
        | .error _ => .raise (.api noActiveMSCError) db
        | .ok split =>
            let tx := request.transaction merchant cheque split
            match createTransaction tx db.transactions with
            | .error error => .raise error db
            | .ok transactions =>
                if request.refused.isSome then .raise (.database .operational) db
                else
                  let spent := cheque.redeemedWith request.now tx.id
                  { result := .ok ⟨spent, tx⟩
                    db := { db with
                      cheques := saveRow Cheque.id spent db.cheques
                      transactions := transactions }
                    queued := [] }

/-- `ChequeRedeemView.post` up to the end of its block. -/
def redeem (request : RedeemRequest) (db : ChequeDb) : Outcome Redemption :=
  match request.merchants.find? fun merchant => merchant.id = request.merchantId with
  | none => .raise (.api merchantNotFoundError) db
  | some merchant =>
      if merchant.zone ≠ request.agent.zone then
        .raise (.api (zoneMismatchError
          (s!"Strefa merchanta ({merchant.zone.value}) ≠ strefa agenta " ++
            s!"({request.agent.zone.value})."))) db
      else atomic db (redeemBlock request merchant db)

/-- Booking a redeemed cheque after the block: an error is logged and
swallowed. -/
def bookRedemption (banks : List Bank) (refused : Bool) (redemption : Redemption)
    (entries : List LedgerEntry) : List LedgerEntry :=
  if refused then entries
  else
    match recordC2bTransaction banks redemption.transaction entries with
    | .error _ => entries
    | .ok result => result.2

/-! ## POST /cheques/cancel -/

structure CancelRequest where
  bank : Bank
  chequeId : Uuid
  now : Instant
  refused : Option ChequeStatement
deriving DecidableEq, Repr

/-- The block of `ChequeCancelView.post`. -/
def cancelBlock (request : CancelRequest) (db : ChequeDb) : Outcome Cheque :=
  match rowAt Cheque.id db.cheques request.chequeId with
  | none => .raise (.api chequeNotFoundError) db
  | some cheque =>
      if cheque.issuerBank.id ≠ request.bank.id then
        .raise (.api insufficientPermissionsError) db
      else
        match cheque.status with
        | .redeemed => .raise (.api chequeAlreadyRedeemedError) db
        | .cancelled => .raise (.api chequeAlreadyCancelledError) db
        | .expired => .raise (.api chequeNotActiveError) db
        | .active =>
            if request.refused.isSome then .raise (.database .operational) db
            else
              let cancelled := cheque.cancelledAtTime request.now
              { result := .ok cancelled
                db := { db with cheques := saveRow Cheque.id cancelled db.cheques }
                queued := [] }

/-- `ChequeCancelView.post`: the notification is queued after the block. -/
def cancel (request : CancelRequest) (db : ChequeDb) : Outcome Cheque :=
  match checkBank request.bank with
  | .error error => .raise error db
  | .ok () =>
      let outcome := atomic db (cancelBlock request db)
      match outcome.result with
      | .error _ => outcome
      | .ok cheque =>
          { outcome with
            queued := outcome.queued ++ [.released cheque.id .cancelled] }

/-! ## What the endpoints can do -/

theorem lockActive_ok
    {code : PyStr} {seen : List Uuid} {cheques : List Cheque} {cheque : Cheque}
    (locked : lockActive code seen cheques = .ok cheque) :
    cheque ∈ cheques ∧ cheque.code = code ∧ cheque.status = .active := by
  simp only [lockActive] at locked
  split at locked
  · cases locked
  · rename_i found matching
    cases locked
    have member : cheque ∈ cheques.filter fun cheque =>
        cheque.code = code && cheque.status = .active && seen.contains cheque.id := by
      rw [matching]
      exact List.mem_singleton_self cheque
    have selected := List.mem_filter.mp member
    simp only [Bool.and_eq_true, decide_eq_true_eq] at selected
    exact ⟨selected.1, selected.2.1.1, selected.2.1.2⟩
  · cases locked

/-- A payment is inserted under a new key. -/
theorem createTransaction_ok
    {tx : Transaction} {transactions after : List Transaction}
    (created : createTransaction tx transactions = .ok after) :
    after = transactions ++ [tx] ∧ (∀ old ∈ transactions, old.id ≠ tx.id) ∧
      tx.fullClean = .ok () := by
  simp only [createTransaction] at created
  split at created
  · cases created
  · cases created
  · rename_i inserted
    cases created
    rcases Transaction.create_eq_ok.mp inserted with ⟨creatable, rfl⟩
    exact ⟨rfl, creatable.fresh, creatable.clean⟩

/-- A cheque is inserted under a new key. -/
theorem createCheque_ok
    {chequeId : Uuid} {refused : Bool} {issuing : Issuing}
    {cheques after : List Cheque}
    (created : createCheque chequeId refused issuing cheques = .ok after) :
    after = cheques ++ [issuing.cheque chequeId] ∧
      ∀ old ∈ cheques, old.id ≠ chequeId := by
  simp only [createCheque] at created
  split at created
  · cases created
  · split at created
    · cases created
    · rename_i fresh
      split at created
      · cases created
      · cases created
        exact ⟨rfl, by simpa using fresh⟩

/-- A redeemed cheque: the row and the payment which were written. -/
structure Redeems
    (request : RedeemRequest) (before : ChequeDb) (cheque : Cheque)
    (tx : Transaction) : Prop where
  member : cheque ∈ before.cheques
  code : cheque.code = request.chequeCode
  active : cheque.status = .active
  early : request.now < cheque.expiresAt
  fresh : ∀ old ∈ before.transactions, old.id ≠ tx.id
  completed : tx.status = .completed
  amount : tx.amountGross = cheque.amount
  clean : tx.fullClean = .ok ()

/-- The block ends well only when it spends one cheque. -/
theorem redeemBlock_ok
    {request : RedeemRequest} {merchant : Merchant} {db : ChequeDb}
    {redemption : Redemption}
    (returned : (redeemBlock request merchant db).result = .ok redemption) :
    ∃ cheque tx, Redeems request db cheque tx ∧
      redeemBlock request merchant db =
        { result := .ok ⟨cheque.redeemedWith request.now tx.id, tx⟩
          db := { db with
            cheques :=
              saveRow Cheque.id (cheque.redeemedWith request.now tx.id) db.cheques
            transactions := db.transactions ++ [tx] }
          queued := [] } := by
  simp only [redeemBlock] at returned ⊢
  cases locked : lockActive request.chequeCode request.seen db.cheques with
  | error error => simp [locked, Outcome.raise] at returned
  | ok cheque =>
      have row := lockActive_ok locked
      simp only [locked] at returned ⊢
      by_cases overdue : cheque.expiresAt ≤ request.now
      · rw [if_pos overdue] at returned
        split at returned
        · cases returned
        · cases returned
      · rw [if_neg overdue] at returned ⊢
        split at returned
        · cases returned
        · rename_i sameZone
          rw [if_neg sameZone]
          cases computed : calculateSplit request.agreements request.agent cheque.amount
              request.splitAt with
          | error error => simp [computed, Outcome.raise] at returned
          | ok split =>
              simp only [computed] at returned ⊢
              cases created : createTransaction
                  (request.transaction merchant cheque split) db.transactions with
              | error error => simp [created, Outcome.raise] at returned
              | ok transactions =>
                  have inserted := createTransaction_ok created
                  simp only [created] at returned ⊢
                  split at returned
                  · cases returned
                  · rename_i carried
                    rw [if_neg carried, inserted.1]
                    exact ⟨cheque, request.transaction merchant cheque split,
                      ⟨row.1, row.2.1, row.2.2, Int.lt_of_not_ge overdue,
                        inserted.2.1, rfl, rfl, inserted.2.2⟩, rfl⟩

/-- Either a redeem request changes no table, or it spends one cheque. -/
theorem redeem_cases (request : RedeemRequest) (db : ChequeDb) :
    (∃ error, (redeem request db).result = .error error ∧
        (redeem request db).db = db) ∨
      ∃ cheque tx, Redeems request db cheque tx ∧
        redeem request db =
          { result := .ok ⟨cheque.redeemedWith request.now tx.id, tx⟩
            db := { db with
              cheques :=
                saveRow Cheque.id (cheque.redeemedWith request.now tx.id) db.cheques
              transactions := db.transactions ++ [tx] }
            queued := [] } := by
  simp only [redeem]
  split
  · left
    exact ⟨_, rfl, rfl⟩
  · rename_i merchant found
    split
    · left
      exact ⟨_, rfl, rfl⟩
    · cases raised : (redeemBlock request merchant db).result with
      | error error =>
          left
          exact ⟨error, by rw [result_atomic, raised], atomic_of_error raised⟩
      | ok redemption =>
          right
          rw [atomic_of_ok raised]
          exact redeemBlock_ok raised

/-- Either the block of a cancel request raises at once, or it cancels one
cheque of the bank. -/
theorem cancelBlock_cases (request : CancelRequest) (db : ChequeDb) :
    (∃ error, cancelBlock request db = .raise error db) ∨
      ∃ cheque ∈ db.cheques, cheque.status = .active ∧
        cheque.issuerBank.id = request.bank.id ∧
        cancelBlock request db =
          { result := .ok (cheque.cancelledAtTime request.now)
            db := { db with
              cheques :=
                saveRow Cheque.id (cheque.cancelledAtTime request.now) db.cheques }
            queued := [] } := by
  simp only [cancelBlock]
  cases found : rowAt Cheque.id db.cheques request.chequeId with
  | none => exact Or.inl ⟨_, rfl⟩
  | some cheque =>
      simp only
      split
      · exact Or.inl ⟨_, rfl⟩
      · rename_i issuer
        cases status : cheque.status with
        | redeemed => exact Or.inl ⟨_, rfl⟩
        | cancelled => exact Or.inl ⟨_, rfl⟩
        | expired => exact Or.inl ⟨_, rfl⟩
        | active =>
            simp only
            split
            · exact Or.inl ⟨_, rfl⟩
            · right
              exact ⟨cheque, (mem_of_rowAt found).1, status, not_not.mp issuer, rfl⟩

/-- Either a cancel request changes no table and queues nothing, or it cancels
one cheque of the bank. -/
theorem cancel_cases (request : CancelRequest) (db : ChequeDb) :
    (∃ error, cancel request db = .raise error db) ∨
      ∃ cheque ∈ db.cheques, cheque.status = .active ∧
        cheque.issuerBank.id = request.bank.id ∧
        cancel request db =
          { result := .ok (cheque.cancelledAtTime request.now)
            db := { db with
              cheques :=
                saveRow Cheque.id (cheque.cancelledAtTime request.now) db.cheques }
            queued := [.released cheque.id .cancelled] } := by
  simp only [cancel]
  split
  · exact Or.inl ⟨_, rfl⟩
  · rcases cancelBlock_cases request db with
      ⟨error, raised⟩ | ⟨cheque, member, active, issuer, carried⟩
    · left
      rw [raised]
      exact ⟨error, rfl⟩
    · right
      refine ⟨cheque, member, active, issuer, ?_⟩
      rw [carried]
      rfl

end Klik.Cheques
