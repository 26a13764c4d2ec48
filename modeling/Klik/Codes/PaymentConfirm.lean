import Klik.Ledger.Recording

/-!
# Confirming a payment

`PaymentConfirmView.post`: the sender's bank accepts or rejects a payment.
The block runs in one database transaction under the lock of the row, so it
either returns the new row and the new table of entries or raises and changes
nothing.  Which statement of the block the server refuses, if any, is part of
the request.
-/

namespace Klik.Codes

open Klik.Agents
open Klik.Banks
open Klik.Common
open Klik.Ledger
open Klik.Lib

/-! ## Requests and responses -/

/-- The decision of a validated request: a rejection has a reason, an
acceptance has none. -/
inductive Decision where
  | accepted
  | rejected (reason : RejectReason)
deriving DecidableEq, Repr

/-- The status which a decision leads to. -/
def Decision.status : Decision → TransactionStatus
  | .accepted => .completed
  | .rejected _ => .rejected

/-- The statements of the block which write. -/
inductive WriteStatement where
  | saveTransaction
  | recordEntries
  | commit
deriving DecidableEq, Repr

/-- A request with what its block reads besides the row: the two readings of
the clock, the agreements and the banks. -/
structure ConfirmRequest where
  bankId : Uuid
  transactionId : Uuid
  decision : Decision
  splitAt : Instant
  now : Instant
  agreements : List MSCAgreement
  banks : List Bank
  refused : Option WriteStatement
deriving DecidableEq, Repr

/-- The fields of `PaymentConfirmResponseSerializer`. -/
structure ConfirmResponse where
  transactionId : Uuid
  status : TransactionStatus
  amountGross : Decimal
  klikFee : Option Decimal
  agentFee : Option Decimal
  merchantNet : Option Decimal
  currency : Currency
  rejectReason : Option RejectReason
  completedAt : Option Instant
deriving DecidableEq, Repr

/-- An exception which leaves the block. -/
inductive ConfirmError where
  | api (error : KlikAPIException)
  | validation (error : ValidationError)
  | ledger (error : LedgerError)
  | database (error : DatabaseError)
deriving DecidableEq, Repr

/-- The row of the payment and the entries of the ledger. -/
structure PaymentDb where
  row : Transaction
  entries : List LedgerEntry
deriving DecidableEq, Repr

/-- `_build_confirm_response`. -/
def buildConfirmResponse (tx : Transaction) : ConfirmResponse where
  transactionId := tx.id
  status := tx.status
  amountGross := tx.amountGross
  klikFee := tx.klikFee
  agentFee := tx.agentFee
  merchantNet := tx.merchantNet
  currency := tx.currency
  rejectReason := tx.rejectReason
  completedAt := tx.completedAt

/-! ## The block -/

/-- `Transaction.save` of all columns. -/
def saveTransaction (request : ConfirmRequest) (tx : Transaction) :
    Except ConfirmError Unit :=
  match tx.fullClean with
  | .error error => .error (.validation error)
  | .ok () =>
      if request.refused = some .saveTransaction then
        .error (.database .operational)
      else .ok ()

/-- The row with the fees of a split, completed. -/
def Transaction.completedWith
    (split : Split) (now : Instant) (tx : Transaction) : Transaction :=
  { tx with
    klikFee := some split.klikFee
    agentFee := some split.agentFee
    merchantNet := some split.merchantNet
    status := .completed
    authorizedAt := some now
    completedAt := some now }

/-- The row rejected for a reason. -/
def Transaction.rejectedWith
    (reason : RejectReason) (now : Instant) (tx : Transaction) : Transaction :=
  { tx with
    status := .rejected
    rejectReason := some reason
    rejectedAt := some now }

/-- `_process_accepted`. -/
def processAccepted (request : ConfirmRequest) (db : PaymentDb) :
    Except ConfirmError PaymentDb :=
  match calculateSplit request.agreements db.row.agent db.row.amountGross
      request.splitAt with
  | .error _ => .error (.api noActiveMSCError)
  | .ok split =>
      let tx := db.row.completedWith split request.now
      match saveTransaction request tx with
      | .error error => .error error
      | .ok () =>
          if request.refused = some .recordEntries then
            .error (.ledger (.database .operational))
          else
            match recordC2bTransaction request.banks tx db.entries with
            | .error error => .error (.ledger error)
            | .ok (_, entries) => .ok ⟨tx, entries⟩

/-- `_process_rejected`. -/
def processRejected
    (request : ConfirmRequest) (reason : RejectReason) (db : PaymentDb) :
    Except ConfirmError PaymentDb :=
  let tx := db.row.rejectedWith reason request.now
  match saveTransaction request tx with
  | .error error => .error error
  | .ok () => .ok ⟨tx, db.entries⟩

/-- The branch of the block on a pending row, with the commit. -/
def processDecision (request : ConfirmRequest) (db : PaymentDb) :
    Except ConfirmError PaymentDb :=
  let processed :=
    match request.decision with
    | .accepted => processAccepted request db
    | .rejected reason => processRejected request reason db
  match processed with
  | .error error => .error error
  | .ok after =>
      if request.refused = some .commit then .error (.database .operational)
      else .ok after

/-- The block of `PaymentConfirmView.post`: the response, and the row and the
entries it commits. -/
def confirm (request : ConfirmRequest) (db : PaymentDb) :
    Except ConfirmError (ConfirmResponse × PaymentDb) :=
  if db.row.id ≠ request.transactionId then
    .error (.api transactionNotFoundError)
  else if db.row.senderBank.id ≠ request.bankId then
    .error (.api transactionNotFoundError)
  else
    match db.row.status with
    | .completed | .rejected =>
        if request.decision.status = db.row.status then
          .ok (buildConfirmResponse db.row, db)
        else .error (.api confirmDecisionConflictError)
    | .timeout | .authorized => .error (.api transactionAlreadyClosedError)
    | .pending =>
        match processDecision request db with
        | .error error => .error error
        | .ok after => .ok (buildConfirmResponse after.row, after)

/-- The tables after a request; an exception rolls back. -/
def afterConfirm (request : ConfirmRequest) (db : PaymentDb) : PaymentDb :=
  match confirm request db with
  | .error _ => db
  | .ok (_, after) => after

/-! ## What the block can do -/

/-- The effect of the first request which is processed without raising. -/
inductive Processed (request : ConfirmRequest) (before after : PaymentDb) : Prop where
  | accepted (split : Split) (returned : List LedgerEntry)
      (decision : request.decision = .accepted)
      (computed : calculateSplit request.agreements before.row.agent
        before.row.amountGross request.splitAt = .ok split)
      (row_eq : after.row = before.row.completedWith split request.now)
      (recorded : recordC2bTransaction request.banks after.row before.entries =
        .ok (returned, after.entries))
  | rejected (reason : RejectReason)
      (decision : request.decision = .rejected reason)
      (row_eq : after.row = before.row.rejectedWith reason request.now)
      (entries_eq : after.entries = before.entries)

theorem processDecision_processed
    {request : ConfirmRequest} {before after : PaymentDb}
    (processed : processDecision request before = .ok after) :
    Processed request before after := by
  simp only [processDecision] at processed
  cases decision : request.decision with
  | accepted =>
      simp only [decision, processAccepted] at processed
      cases computed : calculateSplit request.agreements before.row.agent
          before.row.amountGross request.splitAt with
      | error error => simp [computed] at processed
      | ok split =>
          simp only [computed] at processed
          cases saved : saveTransaction request
              (before.row.completedWith split request.now) with
          | error error => simp [saved] at processed
          | ok done =>
              simp only [saved] at processed
              by_cases refused : request.refused = some .recordEntries
              · simp [refused] at processed
              · simp only [refused, if_false] at processed
                cases recorded : recordC2bTransaction request.banks
                    (before.row.completedWith split request.now) before.entries with
                | error error => simp [recorded] at processed
                | ok result =>
                    simp only [recorded] at processed
                    split at processed
                    · cases processed
                    · cases processed
                      exact .accepted split result.1 decision computed rfl recorded
  | rejected reason =>
      simp only [decision, processRejected] at processed
      cases saved : saveTransaction request
          (before.row.rejectedWith reason request.now) with
      | error error => simp [saved] at processed
      | ok done =>
          simp only [saved] at processed
          split at processed
          · cases processed
          · cases processed
            exact .rejected reason decision rfl rfl

theorem Processed.status
    {request : ConfirmRequest} {before after : PaymentDb}
    (processed : Processed request before after) :
    after.row.status = request.decision.status := by
  cases processed with
  | accepted split returned decision computed row_eq recorded =>
      rw [row_eq, decision]
      rfl
  | rejected reason decision row_eq entries_eq =>
      rw [row_eq, decision]
      rfl

/-- The parties and the key of a payment never change. -/
theorem Processed.keeps
    {request : ConfirmRequest} {before after : PaymentDb}
    (processed : Processed request before after) :
    after.row.id = before.row.id ∧
      after.row.senderBank = before.row.senderBank ∧
      after.row.idempotencyKey = before.row.idempotencyKey := by
  cases processed with
  | accepted split returned decision computed row_eq recorded =>
      rw [row_eq]
      exact ⟨rfl, rfl, rfl⟩
  | rejected reason decision row_eq entries_eq =>
      rw [row_eq]
      exact ⟨rfl, rfl, rfl⟩

/-- Everything a request which does not raise can do: answer again, or
process a pending payment. -/
theorem confirm_ok
    {request : ConfirmRequest} {before after : PaymentDb}
    {response : ConfirmResponse}
    (confirmed : confirm request before = .ok (response, after)) :
    request.transactionId = before.row.id ∧
      request.bankId = before.row.senderBank.id ∧
      response = buildConfirmResponse after.row ∧
      request.decision.status = after.row.status ∧
      (after = before ∨
        before.row.status = .pending ∧ Processed request before after) := by
  simp only [confirm] at confirmed
  split at confirmed
  · cases confirmed
  · rename_i sameId
    split at confirmed
    · cases confirmed
    · rename_i sameBank
      have party : request.transactionId = before.row.id ∧
          request.bankId = before.row.senderBank.id :=
        ⟨(not_not.mp sameId).symm, (not_not.mp sameBank).symm⟩
      refine ⟨party.1, party.2, ?_⟩
      have replay : (if request.decision.status = before.row.status then
          (.ok (buildConfirmResponse before.row, before) :
            Except ConfirmError (ConfirmResponse × PaymentDb))
        else .error (.api confirmDecisionConflictError)) = .ok (response, after) →
          response = buildConfirmResponse after.row ∧
            request.decision.status = after.row.status ∧
            (after = before ∨
              before.row.status = .pending ∧ Processed request before after) := by
        intro answered
        split at answered
        · rename_i same
          cases answered
          exact ⟨rfl, same, Or.inl rfl⟩
        · cases answered
      cases status : before.row.status with
      | completed =>
          rw [status] at confirmed replay
          exact replay confirmed
      | rejected =>
          rw [status] at confirmed replay
          exact replay confirmed
      | timeout => simp [status] at confirmed
      | authorized => simp [status] at confirmed
      | pending =>
          simp only [status] at confirmed
          cases processed : processDecision request before with
          | error error => simp [processed] at confirmed
          | ok changed =>
              simp only [processed] at confirmed
              cases confirmed
              have effect := processDecision_processed processed
              exact ⟨rfl, effect.status.symm, Or.inr ⟨rfl, effect⟩⟩

/-- A request of a bank which is not the sender's is not found. -/
theorem confirm_of_other_bank
    {request : ConfirmRequest} {db : PaymentDb}
    (other : request.bankId ≠ db.row.senderBank.id) :
    confirm request db = .error (.api transactionNotFoundError) := by
  simp only [confirm]
  split
  · rfl
  · rw [if_pos fun same => other same.symm]

/-- Once a decision was taken, requests are only answered. -/
theorem confirm_of_decided
    {request : ConfirmRequest} {db : PaymentDb}
    (sameId : request.transactionId = db.row.id)
    (sender : request.bankId = db.row.senderBank.id)
    (decided : db.row.status = .completed ∨ db.row.status = .rejected) :
    confirm request db =
      if request.decision.status = db.row.status then
        .ok (buildConfirmResponse db.row, db)
      else .error (.api confirmDecisionConflictError) := by
  simp only [confirm]
  rw [if_neg (by simp [sameId]), if_neg (by simp [sender])]
  rcases decided with status | status
  · simp only [status]
  · simp only [status]

/-! ## A pending payment -/

/-- A payment of 100 from bank 1 to bank 2 through an agent of bank 3. -/
def pendingPayment : Transaction where
  id := 7
  senderBank := polishBank 1
  agent := ⟨5, polishBank 3, .PL⟩
  merchant := ⟨6, polishBank 2, .PL⟩
  codeSnapshot := py "123456"
  userId := []
  amountGross := 100
  klikFee := none
  agentFee := none
  merchantNet := none
  currency := .PLN
  zone := .PL
  isOnUs := false
  status := .pending
  rejectReason := none
  idempotencyKey := py "order-1"
  authorizedAt := none
  completedAt := none
  rejectedAt := none

/-- A request of bank 1 at an instant when an agreement of one percent for
each side is in force. -/
def confirmRequest (decision : Decision) (now : Instant) : ConfirmRequest where
  bankId := 1
  transactionId := 7
  decision := decision
  splitAt := now
  now := now
  agreements := [⟨1, 5, 1, 1, 0, none⟩]
  banks := []
  refused := none

end Klik.Codes
