import Klik.Agents.AgentService
import Klik.Common.Exceptions
import Klik.Lib.AtomicBlock

/-!
# Payment transactions

The row of a payment with the parties it refers to, and the checks which
`save` runs before every write.
-/

namespace Klik.Codes

open Klik.Agents
open Klik.Banks
open Klik.Common
open Klik.Lib

inductive TransactionStatus where
  | pending
  | authorized
  | completed
  | rejected
  | timeout
deriving DecidableEq, Repr

inductive RejectReason where
  | insufficientFunds
  | userDeclined
  | pinFailed
  | amlBlock
  | other
deriving DecidableEq, Repr

/-- A payment.  `rejectReason` is none where the column is blank. -/
structure Transaction where
  id : Uuid
  senderBank : Bank
  agent : Agent
  merchant : Merchant
  codeSnapshot : PyStr
  userId : PyStr
  amountGross : Decimal
  klikFee : Option Decimal
  agentFee : Option Decimal
  merchantNet : Option Decimal
  currency : Currency
  zone : Zone
  isOnUs : Bool
  status : TransactionStatus
  rejectReason : Option RejectReason
  idempotencyKey : PyStr
  authorizedAt : Option Instant
  completedAt : Option Instant
  rejectedAt : Option Instant
deriving DecidableEq, Repr

/-- The validators of a required text column. -/
def cleanText (field : String) (maxLength : Nat) (text : PyStr) :
    Except ValidationError Unit :=
  if text = [] then .error ⟨field, "blank"⟩
  else if maxLength < text.length then .error ⟨field, "max_length"⟩
  else .ok ()

/-- The validators of the money columns. -/
def Transaction.cleanMoney (tx : Transaction) : Except ValidationError Unit :=
  if fitsDecimalField 12 2 tx.amountGross = false then
    .error ⟨"amount_gross", "max_digits"⟩
  else if tx.klikFee.any (fun fee => !fitsDecimalField 12 2 fee) then
    .error ⟨"klik_fee", "max_digits"⟩
  else if tx.agentFee.any (fun fee => !fitsDecimalField 12 2 fee) then
    .error ⟨"agent_fee", "max_digits"⟩
  else if tx.merchantNet.any (fun net => !fitsDecimalField 12 2 net) then
    .error ⟨"merchant_net", "max_digits"⟩
  else .ok ()

/-- `clean_fields`: the first column which fails raises. -/
def Transaction.cleanFields (tx : Transaction) : Except ValidationError Unit :=
  match cleanText "code_snapshot" 9 tx.codeSnapshot with
  | .error error => .error error
  | .ok () =>
      if 255 < tx.userId.length then .error ⟨"user_id", "max_length"⟩
      else
        match tx.cleanMoney with
        | .error error => .error error
        | .ok () => cleanText "idempotency_key" 100 tx.idempotencyKey

/-- `Transaction.clean`: the first check which fails raises. -/
def Transaction.clean (tx : Transaction) : Except ValidationError Unit :=
  if tx.currency ≠ zoneCurrency tx.zone then
    .error ⟨"currency",
      s!"Strefa {tx.zone.value} wymaga waluty {(zoneCurrency tx.zone).value}, " ++
        s!"otrzymano {tx.currency.value}."⟩
  else if tx.zone ≠ tx.senderBank.zone then
    .error ⟨"zone",
      s!"Strefa transakcji ({tx.zone.value}) ≠ strefa sender_bank " ++
        s!"({tx.senderBank.zone.value})."⟩
  else if tx.zone ≠ tx.agent.zone then
    .error ⟨"zone",
      s!"Strefa transakcji ({tx.zone.value}) ≠ strefa agent " ++
        s!"({tx.agent.zone.value})."⟩
  else if tx.zone ≠ tx.merchant.zone then
    .error ⟨"zone",
      s!"Strefa transakcji ({tx.zone.value}) ≠ strefa merchant " ++
        s!"({tx.merchant.zone.value})."⟩
  else if tx.status = .completed ∧
      (tx.merchantNet = none ∨ tx.klikFee = none ∨ tx.agentFee = none) then
    .error ⟨"__all__",
      "Transakcja COMPLETED wymaga wypełnionych klik_fee, agent_fee, merchant_net."⟩
  else if tx.status = .rejected ∧ tx.rejectReason = none then
    .error ⟨"reject_reason", "Transakcja REJECTED wymaga reject_reason."⟩
  else .ok ()

/-- `full_clean`, which `save` runs before it writes. -/
def Transaction.fullClean (tx : Transaction) : Except ValidationError Unit :=
  match tx.cleanFields with
  | .error error => .error error
  | .ok () =>
      match tx.clean with
      | .error error => .error error
      | .ok () =>
          if tx.amountGross ≤ 0 then
            .error ⟨"__all__", "tx_amount_gross_positive"⟩
          else .ok ()

/-- What a payment which passes `full_clean` satisfies. -/
structure Transaction.Clean (tx : Transaction) : Prop where
  klikFee_fits : ∀ fee, tx.klikFee = some fee → fitsDecimalField 12 2 fee = true
  agentFee_fits : ∀ fee, tx.agentFee = some fee → fitsDecimalField 12 2 fee = true
  merchantNet_fits : ∀ net, tx.merchantNet = some net → fitsDecimalField 12 2 net = true
  currency_eq : tx.currency = zoneCurrency tx.zone
  sender_zone : tx.senderBank.zone = tx.zone
  agent_zone : tx.agent.zone = tx.zone
  merchant_zone : tx.merchant.zone = tx.zone
  key_nonempty : tx.idempotencyKey ≠ []
  key_length : tx.idempotencyKey.length ≤ 100

/-- A text which passes its validators is not blank and not too long. -/
theorem cleanText_eq_ok
    {field : String} {maxLength : Nat} {text : PyStr} :
    cleanText field maxLength text = .ok () ↔
      text ≠ [] ∧ text.length ≤ maxLength := by
  simp only [cleanText, check_eq_ok, not_lt, ne_eq, and_true]

theorem Transaction.cleanMoney_ok
    {tx : Transaction} (checked : tx.cleanMoney = .ok ()) :
    (∀ fee, tx.klikFee = some fee → fitsDecimalField 12 2 fee = true) ∧
      (∀ fee, tx.agentFee = some fee → fitsDecimalField 12 2 fee = true) ∧
      (∀ net, tx.merchantNet = some net → fitsDecimalField 12 2 net = true) := by
  simp only [cleanMoney, check_eq_ok] at checked
  rcases checked with ⟨_, klik, agent, net, _⟩
  refine ⟨?_, ?_, ?_⟩
  · intro fee present
    simpa [present] using klik
  · intro fee present
    simpa [present] using agent
  · intro amount present
    simpa [present] using net

/-- Every column passes its own validators. -/
theorem Transaction.cleanFields_eq_ok
    {tx : Transaction} :
    tx.cleanFields = .ok () ↔
      cleanText "code_snapshot" 9 tx.codeSnapshot = .ok () ∧
        tx.userId.length ≤ 255 ∧ tx.cleanMoney = .ok () ∧
        cleanText "idempotency_key" 100 tx.idempotencyKey = .ok () := by
  simp only [cleanFields]
  cases cleanText "code_snapshot" 9 tx.codeSnapshot with
  | error error => simp
  | ok code =>
      cases tx.cleanMoney with
      | error error => simp [check_eq_ok]
      | ok money => simp [check_eq_ok]

theorem Transaction.cleanFields_ok
    {tx : Transaction} (checked : tx.cleanFields = .ok ()) :
    tx.cleanMoney = .ok () ∧
      cleanText "idempotency_key" 100 tx.idempotencyKey = .ok () := by
  rcases cleanFields_eq_ok.mp checked with ⟨_, _, money, key⟩
  exact ⟨money, key⟩

theorem Transaction.clean_ok
    {tx : Transaction} (checked : tx.clean = .ok ()) :
    tx.currency = zoneCurrency tx.zone ∧ tx.senderBank.zone = tx.zone ∧
      tx.agent.zone = tx.zone ∧ tx.merchant.zone = tx.zone := by
  simp only [clean, check_eq_ok, ne_eq, not_not] at checked
  rcases checked with ⟨currency, sender, agent, merchant, _⟩
  exact ⟨currency, sender.symm, agent.symm, merchant.symm⟩

theorem Transaction.fullClean_ok
    {tx : Transaction} (checked : tx.fullClean = .ok ()) :
    tx.cleanFields = .ok () ∧ tx.clean = .ok () := by
  simp only [fullClean] at checked
  split at checked
  · cases checked
  · rename_i fields
    split at checked
    · cases checked
    · rename_i cross
      exact ⟨fields, cross⟩

/-- A payment which passes has a positive amount. -/
theorem Transaction.fullClean_positive
    {tx : Transaction} (checked : tx.fullClean = .ok ()) : ¬ tx.amountGross ≤ 0 := by
  simp only [fullClean] at checked
  split at checked
  · cases checked
  · split at checked
    · cases checked
    · rw [check_eq_ok] at checked
      exact checked.1

theorem Transaction.clean_of_fullClean
    {tx : Transaction} (checked : tx.fullClean = .ok ()) : tx.Clean := by
  rcases fullClean_ok checked with ⟨fields, cross⟩
  have columns := cleanFields_ok fields
  have amounts := cleanMoney_ok columns.1
  have key := cleanText_eq_ok.mp columns.2
  have parties := clean_ok cross
  exact ⟨amounts.1, amounts.2.1, amounts.2.2, parties.1, parties.2.1,
    parties.2.2.1, parties.2.2.2, key.1, key.2⟩

/-- A completed payment which passes has its fees. -/
theorem Transaction.amounts_of_fullClean
    {tx : Transaction} (checked : tx.fullClean = .ok ())
    (completed : tx.status = .completed) :
    ∃ merchantNet klikFee agentFee, tx.merchantNet = some merchantNet ∧
      tx.klikFee = some klikFee ∧ tx.agentFee = some agentFee := by
  have cross := (fullClean_ok checked).2
  simp only [clean, check_eq_ok, completed, true_and, not_or] at cross
  rcases cross with ⟨_, _, _, _, ⟨hasNet, hasKlik, hasAgent⟩, _⟩
  rcases Option.ne_none_iff_exists'.mp hasNet with ⟨merchantNet, net⟩
  rcases Option.ne_none_iff_exists'.mp hasKlik with ⟨klikFee, klik⟩
  rcases Option.ne_none_iff_exists'.mp hasAgent with ⟨agentFee, agent⟩
  exact ⟨merchantNet, klikFee, agentFee, net, klik, agent⟩

/-! ## Inserting a payment -/

/-- An exception of `Transaction.objects.create`. -/
inductive CreateError where
  | validation (error : ValidationError)
  | database (error : DatabaseError)
deriving DecidableEq, Repr

/-- `Transaction.objects.create`: validation, with the constraints of the
table, and the insertion. -/
def Transaction.create (tx : Transaction) (transactions : List Transaction) :
    Except CreateError (List Transaction) :=
  match tx.fullClean with
  | .error error => .error (.validation error)
  | .ok () =>
      if transactions.any (fun old =>
          old.agent.id = tx.agent.id && old.idempotencyKey = tx.idempotencyKey) then
        .error (.validation ⟨"__all__", "tx_unique_agent_idempotency"⟩)
      else if transactions.any (fun old => old.id = tx.id) then
        .error (.database (.integrity "codes_transaction_pkey"))
      else if encodable tx.userId = false then
        .error (.database (.invalidText "user_id"))
      else if encodable tx.idempotencyKey = false then
        .error (.database (.invalidText "idempotency_key"))
      else .ok (transactions ++ [tx])

/-- What the database asks of a new payment. -/
structure Transaction.Creatable (tx : Transaction) (transactions : List Transaction) :
    Prop where
  clean : tx.fullClean = .ok ()
  unique : ∀ old ∈ transactions, old.agent.id = tx.agent.id →
    old.idempotencyKey ≠ tx.idempotencyKey
  fresh : ∀ old ∈ transactions, old.id ≠ tx.id
  userId : encodable tx.userId = true
  key : encodable tx.idempotencyKey = true

theorem Transaction.create_eq_ok
    {tx : Transaction} {transactions after : List Transaction} :
    tx.create transactions = .ok after ↔
      tx.Creatable transactions ∧ after = transactions ++ [tx] := by
  have unique : transactions.any (fun old =>
      old.agent.id = tx.agent.id && old.idempotencyKey = tx.idempotencyKey) = true ↔
        ¬ ∀ old ∈ transactions, old.agent.id = tx.agent.id →
          old.idempotencyKey ≠ tx.idempotencyKey := by
    simp
  have fresh : transactions.any (fun old => old.id = tx.id) = true ↔
      ¬ ∀ old ∈ transactions, old.id ≠ tx.id := by
    simp
  simp only [create]
  constructor
  · intro created
    split at created
    · cases created
    · rename_i clean
      simp only [check_eq_ok, unique, fresh, not_not, Bool.not_eq_false,
        Except.ok.injEq] at created
      rcases created with ⟨isUnique, isFresh, userId, key, inserted⟩
      exact ⟨⟨clean, isUnique, isFresh, userId, key⟩, inserted.symm⟩
  · rintro ⟨creatable, rfl⟩
    simp only [creatable.clean, check_eq_ok, unique, fresh, not_not, Bool.not_eq_false,
      and_true]
    exact ⟨creatable.unique, creatable.fresh, creatable.userId, creatable.key⟩

/-- A completed payment without fees between two banks. -/
def polishPayment (key : PyStr) (payer payee : Uuid) (amount : Decimal) :
    Transaction where
  id := 0
  senderBank := polishBank payer
  agent := ⟨0, polishBank payer, .PL⟩
  merchant := ⟨0, polishBank payee, .PL⟩
  codeSnapshot := py "123456"
  userId := []
  amountGross := amount
  klikFee := some 0
  agentFee := some 0
  merchantNet := some amount
  currency := .PLN
  zone := .PL
  isOnUs := payer = payee
  status := .completed
  rejectReason := none
  idempotencyKey := key
  authorizedAt := none
  completedAt := none
  rejectedAt := none

end Klik.Codes
