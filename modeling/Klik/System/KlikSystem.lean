import Klik.Cheques.ChequeZones
import Klik.Codes.PaymentZones
import Klik.Ledger.SessionZones
import Klik.Recurring.SnapshotZones

/-!
# The whole system

All tables together, with the requests and tasks which are under way.  A call
of an endpoint whose block is not cut elsewhere is one step; cheques,
settlement tasks and mandates take the steps of their own systems, on their
part of the tables.
-/

namespace Klik.System

open Klik.Aliases
open Klik.Banks
open Klik.Cheques
open Klik.Codes
open Klik.Common
open Klik.Ledger
open Klik.Lib
open Klik.Recurring

/-! ## States -/

/-- A mandate with the key of the request which created it, and its
executions and attempts. -/
structure Mandate where
  idempotencyKey : PyStr
  state : MandateState

/-- The row of a mandate. -/
def Mandate.row (mandate : Mandate) : MandateRow :=
  ⟨mandate.idempotencyKey, mandate.state.db.mandate⟩

/-- A mandate which was just created. -/
def Mandate.created (now : DateTime) (row : MandateRow) : Mandate where
  idempotencyKey := row.idempotencyKey
  state :=
    { clock := now
      db := ⟨row.mandate, []⟩
      attempts := []
      outbox := []
      sent := []
      finalized := [] }

structure KlikState where
  transactions : List Transaction
  entries : List LedgerEntry
  cheques : List Cheque
  issuing : List Issuing
  redemptions : List Redemption
  expiring : List ExpireRun
  outbox : List ChequeNotification
  sessions : List SettlementSession
  transfers : List SettlementTransfer
  tasks : List SettlementStage
  inputs : List NettingInput
  aliases : List Alias
  mandates : List Mandate

/-- What the cheque endpoints and their task see. -/
def KlikState.chequeState (state : KlikState) : ChequeState where
  db := ⟨state.cheques, state.transactions, state.entries⟩
  issuing := state.issuing
  redemptions := state.redemptions
  expiring := state.expiring
  outbox := state.outbox

def KlikState.withCheques (state : KlikState) (after : ChequeState) : KlikState :=
  { state with
    transactions := after.db.transactions
    entries := after.db.entries
    cheques := after.db.cheques
    issuing := after.issuing
    redemptions := after.redemptions
    expiring := after.expiring
    outbox := after.outbox }

/-- What the settlement tasks see. -/
def KlikState.settlementState (state : KlikState) : SettlementState where
  db := ⟨state.entries, state.sessions, state.transfers⟩
  tasks := state.tasks
  inputs := state.inputs

def KlikState.withSettlement (state : KlikState) (after : SettlementState) : KlikState :=
  { state with
    entries := after.db.entries
    sessions := after.db.sessions
    transfers := after.db.transfers
    tasks := after.tasks
    inputs := after.inputs }

/-! ## Steps -/

inductive KlikAction where
  /-- The record of the code may be anything. -/
  | initiate (now : Nat) (store : CodeStore) (request : InitiateRequest)
  | confirm (request : ConfirmRequest)
  | cheque (action : ChequeAction)
  /-- The daily accrual, with the counters which it finds. -/
  | accrue (banks : List Bank) (day : Date) (scanned : List Uuid)
      (counters : LookupCounters)
  | settle (action : SettlementAction)
  | register (request : RegisterRequest)
  | unregister (bank : Bank) (phone : PyStr)
  | createMandate (request : CreateRequest)
  | recurring (place : Nat) (action : MandateAction)

/-- The state after the block of `PaymentConfirmView.post`. -/
def KlikState.confirmed (request : ConfirmRequest) (state : KlikState) : KlikState :=
  match rowAt Transaction.id state.transactions request.transactionId with
  | none => state
  | some row =>
      let after := afterConfirm request ⟨row, state.entries⟩
      { state with
        transactions := saveRow Transaction.id after.row state.transactions
        entries := after.entries }

/-- The state after a run of the accrual, which is rolled back where it
raises. -/
def KlikState.accrued
    (banks : List Bank) (day : Date) (scanned : List Uuid) (counters : LookupCounters)
    (state : KlikState) : KlikState :=
  match recordP2pLookupFees banks day scanned counters state.entries with
  | .error _ => state
  | .ok run => { state with entries := run.entries }

/-- The state after a call on the register of aliases. -/
def KlikState.withAliases
    (result : Except AliasError (List Alias)) (state : KlikState) : KlikState :=
  match result with
  | .error _ => state
  | .ok aliases => { state with aliases := aliases }

/-- The state after `RecurringCreateView.post`. -/
def KlikState.mandateCreated
    (env : RecurringEnv) (request : CreateRequest) (state : KlikState) : KlikState :=
  match Recurring.create env request state.aliases (state.mandates.map Mandate.row) with
  | .ok (_, some row) =>
      { state with mandates := state.mandates ++ [.created request.now row] }
  | _ => state

/-- The lookup of an action finds what is registered. -/
def withLookup (found : Option Recipient) : MandateAction → MandateAction
  | .lookUp index _ => .lookUp index found
  | action => action

/-- A step of the mandate at a place. -/
def KlikState.mandateStepped
    (env : RecurringEnv) (place : Nat) (action : MandateAction) (state : KlikState) :
    Option KlikState :=
  match state.mandates[place]? with
  | none => none
  | some mandate =>
      let found := lookupRecipient mandate.state.db.mandate.recipientPhone state.aliases
      match mandateStep env mandate.state (withLookup found action) with
      | none => none
      | some after =>
          some { state with
            mandates := state.mandates.set place { mandate with state := after } }

/-- One step, where it is possible. -/
def klikStep (env : RecurringEnv) (state : KlikState) : KlikAction → Option KlikState
  | .initiate now store request =>
      some { state with
        transactions := (initiate now store state.transactions request).1.transactions }
  | .confirm request => some (state.confirmed request)
  | .cheque action => (chequeStep state.chequeState action).map state.withCheques
  | .accrue banks day scanned counters =>
      some (state.accrued banks day scanned counters)
  | .settle action =>
      (settlementStep env.runtime state.settlementState action).map state.withSettlement
  | .register request =>
      some (state.withAliases (register env.runtime request state.aliases))
  | .unregister bank phone =>
      some (state.withAliases (unregister bank phone state.aliases))
  | .createMandate request => some (state.mandateCreated env request)
  | .recurring place action => state.mandateStepped env place action

/-- Before any call. -/
def KlikState.empty : KlikState where
  transactions := []
  entries := []
  cheques := []
  issuing := []
  redemptions := []
  expiring := []
  outbox := []
  sessions := []
  transfers := []
  tasks := []
  inputs := []
  aliases := []
  mandates := []

/-- The rows of banks, agents and merchants which an action reads are stored
ones, and a settlement task books nothing. -/
def KlikAction.Stored (zoneOf : Uuid → Zone) : KlikAction → Prop
  | .initiate _ _ request => request.Stored zoneOf
  | .confirm request => ∀ bank ∈ request.banks, bank.Zoned zoneOf
  | .cheque action => action.Stored zoneOf
  | .accrue banks _ _ _ => ∀ bank ∈ banks, bank.Zoned zoneOf
  | .settle action => ∀ drafts, action ≠ .book drafts
  | .register request => request.bank.Zoned zoneOf
  | .unregister bank _ => bank.Zoned zoneOf
  | .createMandate request => request.bank.Zoned zoneOf
  | .recurring _ _ => True

/-- The system over banks whose zones do not change. -/
def klikSystem (env : RecurringEnv) (zoneOf : Uuid → Zone) :
    TransitionSystem KlikState KlikAction :=
  (TransitionSystem.ofStep (· = KlikState.empty) (klikStep env)).guarded
    fun _ action => action.Stored zoneOf

end Klik.System
