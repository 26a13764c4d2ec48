import Klik.Codes.CodeLifecycle
import Klik.Codes.Models

/-!
# Initiating a payment

`PaymentInitiateView.post`: an agent starts a payment with the code of a
client.  The code is marked as used by one script in Redis, and the payment is
inserted by one statement afterwards; nothing gives the code back.
-/

namespace Klik.Codes

open Klik.Agents
open Klik.Banks
open Klik.Common
open Klik.Lib

/-! ## Requests -/

/-- The validated data of `PaymentInitiateRequestSerializer`. -/
structure InitiateData where
  code : PyStr
  amount : Decimal
  currency : String
  merchantId : Uuid
  code_length : code.length = 6
  amount_min : 1 / 100 ≤ amount
  amount_fits : fitsDecimalField 12 2 amount = true
deriving DecidableEq, Repr

/-- A request with what it reads: the active merchants and the banks, the key
and the time of the payment it may create, and whether the server refuses the
insertion. -/
structure InitiateRequest where
  agent : Agent
  data : InitiateData
  idempotencyKey : PyStr
  merchants : List Merchant
  banks : List Bank
  transactionId : Uuid
  createdAt : Instant
  refused : Bool
deriving DecidableEq, Repr

/-- An exception which leaves the view. -/
inductive InitiateError where
  | api (error : KlikAPIException)
  | validation (error : ValidationError)
  | database (error : DatabaseError)
  /-- Redis refuses a command. -/
  | redis
deriving DecidableEq, Repr

/-- The fields of `PaymentInitiateResponseSerializer`. -/
structure InitiateResponse where
  transactionId : Uuid
  status : TransactionStatus
  statusUrl : PyStr
  expiresAt : Instant
deriving DecidableEq, Repr

/-! ## Before the code is marked -/

/-- The checks of the currency and the merchant. -/
def InitiateRequest.check (request : InitiateRequest) : Except InitiateError Merchant :=
  let zone := request.agent.zone
  let expected := (zoneCurrency zone).value
  if request.data.currency ≠ expected then
    .error (.api (currencyMismatchError
      (s!"Strefa agenta ({zone.value}) wymaga waluty {expected}, " ++
        s!"otrzymano {request.data.currency}.")))
  else
    match request.merchants.find? fun merchant =>
        merchant.id = request.data.merchantId with
    | none => .error (.api merchantNotFoundError)
    | some merchant =>
        if merchant.zone ≠ zone then
          .error (.api (zoneMismatchError
            (s!"Strefa merchanta ({merchant.zone.value}) ≠ strefa agenta " ++
              s!"({zone.value}).")))
        else .ok merchant

/-- What the view makes of an error of `mark_used`. -/
def markError : CodeError → InitiateError
  | .notFound => .api codeExpiredError
  | .alreadyUsed => .api codeAlreadyUsedError
  | .generationFailed => .redis
  | .response => .redis

/-- The view up to the marking of the code: the merchant and the record. -/
def InitiateRequest.mark (now : Nat) (store : CodeStore) (request : InitiateRequest) :
    Except InitiateError (Merchant × CodePayload) × CodeStore :=
  match request.check with
  | .error error => (.error error, store)
  | .ok merchant =>
      match markUsed now request.data.code store with
      | (.error error, after) => (.error (markError error), after)
      | (.ok payload, after) => (.ok (merchant, payload), after)

/-! ## After the code is marked -/

/-- The payment which the request creates. -/
def InitiateRequest.transaction
    (merchant : Merchant) (senderBank : Bank) (payload : CodePayload)
    (request : InitiateRequest) : Transaction where
  id := request.transactionId
  senderBank := senderBank
  agent := request.agent
  merchant := merchant
  codeSnapshot := request.data.code
  userId := payload.userId
  amountGross := request.data.amount
  klikFee := none
  agentFee := none
  merchantNet := none
  currency := zoneCurrency request.agent.zone
  zone := request.agent.zone
  isOnUs := senderBank.id = merchant.settlementBank.id
  status := .pending
  rejectReason := none
  idempotencyKey := request.idempotencyKey
  authorizedAt := none
  completedAt := none
  rejectedAt := none

/-- The response to a created payment; it expires in 120 seconds. -/
def initiateResponse (createdAt : Instant) (tx : Transaction) : InitiateResponse where
  transactionId := tx.id
  status := tx.status
  statusUrl := py "/api/v1/payments/status/" ++ uuidText tx.id
  expiresAt := createdAt + 120 * 1000000

/-- How the view ends: its response or error, the table of payments, and the
payments to authorise. -/
structure Initiated where
  result : Except InitiateError InitiateResponse
  transactions : List Transaction
  queued : List Uuid

/-- The view after the marking of the code. -/
def InitiateRequest.create
    (merchant : Merchant) (payload : CodePayload) (transactions : List Transaction)
    (request : InitiateRequest) : Initiated :=
  let zone := request.agent.zone
  if payload.zone ≠ zone then
    ⟨.error (.api (zoneMismatchError
      s!"Strefa kodu ({payload.zone.value}) ≠ strefa agenta ({zone.value}).")),
      transactions, []⟩
  else
    match getBank request.banks payload.bankId with
    | none => ⟨.error (.api transactionNotFoundError), transactions, []⟩
    | some senderBank =>
        let tx := request.transaction merchant senderBank payload
        match tx.create transactions with
        | .error (.validation error) => ⟨.error (.validation error), transactions, []⟩
        | .error (.database error) => ⟨.error (.database error), transactions, []⟩
        | .ok after =>
            if request.refused then
              ⟨.error (.database .operational), transactions, []⟩
            else ⟨.ok (initiateResponse request.createdAt tx), after, [tx.id]⟩

/-- `PaymentInitiateView.post`, where the code is marked at a time and the
payment is inserted into a table. -/
def initiate (now : Nat) (store : CodeStore) (transactions : List Transaction)
    (request : InitiateRequest) : Initiated × CodeStore :=
  match request.mark now store with
  | (.error error, after) => (⟨.error error, transactions, []⟩, after)
  | (.ok (merchant, payload), after) =>
      (request.create merchant payload transactions, after)

/-! ## When a payment is created -/

/-- Whether the payment of a marked code is created: the code is for the zone
of the agent, its bank exists, and the database takes the row. -/
def InitiateRequest.Creates
    (merchant : Merchant) (payload : CodePayload) (transactions : List Transaction)
    (request : InitiateRequest) : Prop :=
  payload.zone = request.agent.zone ∧
    ∃ senderBank, getBank request.banks payload.bankId = some senderBank ∧
      (request.transaction merchant senderBank payload).Creatable transactions ∧
      request.refused = false

/-- The view creates the payment, or it raises and changes no table. -/
theorem InitiateRequest.create_cases
    (merchant : Merchant) (payload : CodePayload) (transactions : List Transaction)
    (request : InitiateRequest) :
    (∃ senderBank, getBank request.banks payload.bankId = some senderBank ∧
        request.Creates merchant payload transactions ∧
        request.create merchant payload transactions =
          ⟨.ok (initiateResponse request.createdAt
              (request.transaction merchant senderBank payload)),
            transactions ++ [request.transaction merchant senderBank payload],
            [request.transactionId]⟩) ∨
      (∃ error, ¬ request.Creates merchant payload transactions ∧
        request.create merchant payload transactions =
          ⟨.error error, transactions, []⟩) := by
  simp only [InitiateRequest.create]
  by_cases zone : payload.zone = request.agent.zone
  · rw [if_neg (not_not.mpr zone)]
    cases bank : getBank request.banks payload.bankId with
    | none =>
        right
        refine ⟨_, ?_, rfl⟩
        rintro ⟨_, senderBank, found, _⟩
        rw [bank] at found
        cases found
    | some senderBank =>
        have same : ∀ other, getBank request.banks payload.bankId = some other →
            other = senderBank := by
          intro other found
          exact (Option.some.inj (bank.symm.trans found)).symm
        simp only
        cases created :
            (request.transaction merchant senderBank payload).create transactions with
        | error error =>
            have uncreatable : ¬ request.Creates merchant payload transactions := by
              rintro ⟨_, other, found, creatable, _⟩
              cases same other found
              rw [Transaction.create_eq_ok.mpr ⟨creatable, rfl⟩] at created
              cases created
            right
            cases error with
            | validation error => exact ⟨_, uncreatable, rfl⟩
            | database error => exact ⟨_, uncreatable, rfl⟩
        | ok after =>
            rcases Transaction.create_eq_ok.mp created with ⟨creatable, rfl⟩
            cases refused : request.refused with
            | true =>
                right
                refine ⟨_, ?_, rfl⟩
                rintro ⟨_, _, _, _, carried⟩
                rw [refused] at carried
                cases carried
            | false =>
                left
                exact ⟨senderBank, rfl, ⟨zone, senderBank, bank, creatable, refused⟩, rfl⟩
  · right
    rw [if_pos zone]
    exact ⟨_, fun creates => zone creates.1, rfl⟩

/-! ## One request -/

/-- A request which ends in an error leaves the record of the code and the
payments as they are, and has nothing authorised. -/
def KeepsCode (now : Nat) (store : CodeStore) (transactions : List Transaction)
    (request : InitiateRequest) : Prop :=
  ∀ error, (initiate now store transactions request).1.result = .error error →
    (initiate now store transactions request).2 (codeKey request.data.code) =
        store (codeKey request.data.code) ∧
      (initiate now store transactions request).1.transactions = transactions ∧
      (initiate now store transactions request).1.queued = []

/-- A request burns the code if it passes the first checks with a code which
is still active, and its payment is not created. -/
def BurnsCode (now : Nat) (store : CodeStore) (transactions : List Transaction)
    (request : InitiateRequest) : Prop :=
  ∃ merchant payload, request.check = .ok merchant ∧
    store.get now (codeKey request.data.code) = some payload ∧
    payload.status = .active ∧
    ¬ request.Creates merchant payload.used transactions

theorem keepsCode_iff
    (now : Nat) (store : CodeStore) (transactions : List Transaction)
    (request : InitiateRequest) :
    KeepsCode now store transactions request ↔
      ¬ BurnsCode now store transactions request := by
  simp only [KeepsCode, BurnsCode, initiate, InitiateRequest.mark]
  cases checked : request.check with
  | error error =>
      simp
  | ok merchant =>
      simp only
      rcases markUsed_cases now request.data.code store with
        ⟨payload, after, marked, marks⟩ | ⟨error, _, raised, inactive⟩
      · rw [marked]
        simp only
        rcases request.create_cases merchant payload.used transactions with
          ⟨senderBank, _, creates, created⟩ | ⟨error, uncreated, raised⟩
        · rw [created]
          constructor
          · rintro _ ⟨_, other, same, seen, _, uncreated⟩
            cases same
            cases marks.seen.symm.trans seen
            exact uncreated creates
          · intro _ error impossible
            cases impossible
        · rw [raised]
          constructor
          · intro keeps _
            have kept := (keeps error rfl).1
            have stored := marks.stored
            rw [ExpiringStore.get_congr kept, marks.seen] at stored
            have active := marks.active
            rw [Option.some.inj stored] at active
            cases active
          · intro notBurnt
            exact absurd ⟨merchant, payload, rfl, marks.seen, marks.active, uncreated⟩
              notBurnt
      · rw [raised]
        constructor
        · rintro _ ⟨_, payload, _, seen, active, _⟩
          exact inactive payload seen active
        · intro _ _ _
          exact ⟨rfl, rfl, rfl⟩

end Klik.Codes
