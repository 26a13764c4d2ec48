import Klik.Codes.CodesPaid
import Klik.Recurring.SlotsOnce
import Klik.System.KlikSystem

/-!
# Zones stay apart

Every producer of rows keeps to one zone: payments and aliases by the checks
of their models, entries by theirs and by the payments they book, transfers by
the entries which a netting has read, and mandates by the number of the
recipient.  The tables of the whole system keep to the zones in every run.
-/

namespace Klik.System

open Klik.Aliases
open Klik.Banks
open Klik.Cheques
open Klik.Codes
open Klik.Common
open Klik.Ledger
open Klik.Lib
open Klik.Recurring

/-! ## The invariant -/

/-- The parts of the system keep to the zones; the settlement tasks and each
mandate are in a state which they reach on their own. -/
structure KlikZones (env : RecurringEnv) (zoneOf : Uuid → Zone) (state : KlikState) :
    Prop where
  cheques : ChequeZones zoneOf state.chequeState
  settlement : SessionZones zoneOf state.settlementState
  settling : (settlementSystem env.runtime).Reachable state.settlementState
  aliases : ∀ row ∈ state.aliases, row.InZone zoneOf
  mandates : ∀ mandate ∈ state.mandates, mandate.state.db.InZone zoneOf
  running : ∀ mandate ∈ state.mandates, (mandateSystem env).Reachable mandate.state

section Steps

variable {env : RecurringEnv} {zoneOf : Uuid → Zone} {state : KlikState}

theorem KlikZones.start : KlikZones env zoneOf KlikState.empty where
  cheques :=
    ⟨fun _ member => absurd member List.not_mem_nil,
      fun _ member => absurd member List.not_mem_nil,
      fun _ member => absurd member List.not_mem_nil,
      fun _ member => absurd member List.not_mem_nil⟩
  settlement :=
    ⟨fun _ member => absurd member List.not_mem_nil,
      fun _ member => absurd member List.not_mem_nil,
      fun _ member => absurd member List.not_mem_nil⟩
  settling := .init ⟨rfl, rfl, rfl, rfl, fun _ member => absurd member List.not_mem_nil⟩
  aliases _ member := absurd member List.not_mem_nil
  mandates _ member := absurd member List.not_mem_nil
  running _ member := absurd member List.not_mem_nil

/-- Entries which another operation has booked are a step of the settlement
system. -/
theorem KlikZones.settled_of_books
    (zones : KlikZones env zoneOf state) {entries : List LedgerEntry}
    (books : BooksInZone zoneOf state.entries entries) :
    SessionZones zoneOf { state with entries := entries }.settlementState ∧
      (settlementSystem env.runtime).Reachable
        { state with entries := entries }.settlementState := by
  rcases books with ⟨drafts, bookable, rfl⟩
  have valid : createEntries drafts = .ok (drafts.map EntryDraft.row) :=
    createEntries_of_valid fun draft member => (bookable draft member).valid
  constructor
  · apply zones.settlement.booked
    · rw [List.forall_mem_map]
      exact fun _ _ => rfl
    · rw [List.forall_mem_map]
      exact fun draft member => (bookable draft member).inZone
  · have move : (settlementSystem env.runtime).Step state.settlementState (.book drafts)
        (state.settlementState.booked drafts) := rfl
    simp only [SettlementState.booked, valid] at move
    exact zones.settling.step move

/-- Payments are written and entries are booked. -/
theorem KlikZones.written
    (zones : KlikZones env zoneOf state)
    {transactions : List Transaction} (inZone : ∀ tx ∈ transactions, tx.InZone zoneOf)
    {entries : List LedgerEntry} (books : BooksInZone zoneOf state.entries entries) :
    KlikZones env zoneOf
      { state with transactions := transactions, entries := entries } where
  cheques :=
    ⟨inZone, zones.cheques.cheques, zones.cheques.issuing, zones.cheques.redemptions⟩
  settlement := (zones.settled_of_books books).1
  settling := (zones.settled_of_books books).2
  aliases := zones.aliases
  mandates := zones.mandates
  running := zones.running

theorem KlikZones.confirmed
    (zones : KlikZones env zoneOf state) {request : ConfirmRequest}
    (stored : ∀ bank ∈ request.banks, bank.Zoned zoneOf) :
    KlikZones env zoneOf (state.confirmed request) := by
  simp only [KlikState.confirmed]
  split
  · exact zones
  · rename_i row found
    have own : (⟨row, state.entries⟩ : PaymentDb).row.InZone zoneOf :=
      zones.cheques.transactions row (mem_of_rowAt found).1
    rcases inZone_afterConfirm stored own with ⟨after, books⟩
    apply zones.written _ books
    intro tx member
    rcases mem_saveRow member with rfl | ⟨old, _⟩
    · exact after
    · exact zones.cheques.transactions tx old

theorem KlikZones.accrued
    (zones : KlikZones env zoneOf state) {banks : List Bank}
    (stored : ∀ bank ∈ banks, bank.Zoned zoneOf)
    (day : Date) (scanned : List Uuid) (counters : LookupCounters) :
    KlikZones env zoneOf (state.accrued banks day scanned counters) := by
  simp only [KlikState.accrued]
  split
  · exact zones
  · rename_i run accrued
    exact zones.written zones.cheques.transactions
      (booksInZone_recordP2pLookupFees stored accrued)

/-- A step of the cheques. -/
theorem KlikZones.chequeStepped
    (zones : KlikZones env zoneOf state) {action : ChequeAction}
    (stored : action.Stored zoneOf) {after : ChequeState}
    (moved : chequeStep state.chequeState action = some after) :
    KlikZones env zoneOf (state.withCheques after) := by
  rcases zones.cheques.step stored moved with ⟨cheques, books⟩
  rcases zones.settled_of_books books with ⟨settlement, settling⟩
  exact ⟨cheques, settlement, settling, zones.aliases, zones.mandates, zones.running⟩

/-- A step of a settlement task. -/
theorem KlikZones.settlementStepped
    (zones : KlikZones env zoneOf state) {action : SettlementAction}
    (other : ∀ drafts, action ≠ .book drafts) {after : SettlementState}
    (moved : settlementStep env.runtime state.settlementState action = some after) :
    KlikZones env zoneOf (state.withSettlement after) where
  cheques :=
    ⟨zones.cheques.transactions, zones.cheques.cheques, zones.cheques.issuing,
      zones.cheques.redemptions⟩
  settlement := by
    apply zones.settlement.step (.of_reachable zones.settling)
      (settlementMove_of_step moved)
    intro drafts same
    exact absurd same (other drafts)
  settling := zones.settling.step moved
  aliases := zones.aliases
  mandates := zones.mandates
  running := zones.running

theorem KlikZones.withAliases
    (zones : KlikZones env zoneOf state) {result : Except AliasError (List Alias)}
    (inZone : ∀ aliases, result = .ok aliases → ∀ row ∈ aliases, row.InZone zoneOf) :
    KlikZones env zoneOf (state.withAliases result) := by
  cases result with
  | error error => exact zones
  | ok aliases =>
      exact ⟨zones.cheques, zones.settlement, zones.settling, inZone aliases rfl,
        zones.mandates, zones.running⟩

/-- A mandate is created in the zone of its number. -/
theorem KlikZones.mandateCreated
    (zones : KlikZones env zoneOf state) {request : CreateRequest}
    (bank : request.bank.Zoned zoneOf) :
    KlikZones env zoneOf (state.mandateCreated env request) := by
  simp only [KlikState.mandateCreated]
  split
  · rename_i response row created
    have creates := (create_ok created).2
    refine ⟨zones.cheques, zones.settlement, zones.settling, zones.aliases, ?_, ?_⟩
    · intro mandate member
      rcases List.mem_append.mp member with old | new
      · exact zones.mandates mandate old
      · rw [List.mem_singleton.mp new]
        exact creates.inZone bank zones.aliases
    · intro mandate member
      rcases List.mem_append.mp member with old | new
      · exact zones.running mandate old
      · rw [List.mem_singleton.mp new]
        exact .init ⟨creates.new, rfl, rfl, rfl, rfl, rfl⟩
  · exact zones

/-- The lookup of a mandate finds a bank of its zone. -/
theorem KlikZones.lookup
    (zones : KlikZones env zoneOf state) {mandate : Mandate}
    (member : mandate ∈ state.mandates) {action : MandateAction} :
    ∀ index recipient,
      withLookup (lookupRecipient mandate.state.db.mandate.recipientPhone state.aliases)
        action = .lookUp index (some recipient) →
      zoneOf recipient.bankId = mandate.state.db.mandate.zone := by
  intro index recipient same
  have own := (zones.mandates mandate member).mandate.recipient
  cases action with
  | lookUp place guess =>
      simp only [withLookup, MandateAction.lookUp.injEq] at same
      exact zone_lookupRecipient own zones.aliases same.2
  | _ => cases same

theorem KlikZones.mandateStepped
    (zones : KlikZones env zoneOf state) {place : Nat} {action : MandateAction}
    {after : KlikState} (moved : state.mandateStepped env place action = some after) :
    KlikZones env zoneOf after := by
  simp only [KlikState.mandateStepped] at moved
  split at moved
  · cases moved
  · rename_i mandate going
    have member := List.mem_of_getElem? going
    split at moved
    · cases moved
    · rename_i next stepped
      cases moved
      have inZone : next.db.InZone zoneOf :=
        (zones.mandates mandate member).step (zones.lookup member) stepped
      have reached : (mandateSystem env).Reachable next :=
        (zones.running mandate member).step stepped
      refine ⟨zones.cheques, zones.settlement, zones.settling, zones.aliases, ?_, ?_⟩
      · intro other listed
        rcases List.mem_or_eq_of_mem_set listed with old | rfl
        · exact zones.mandates other old
        · exact inZone
      · intro other listed
        rcases List.mem_or_eq_of_mem_set listed with old | rfl
        · exact zones.running other old
        · exact reached

/-- Every step keeps the parts of the system to the zones. -/
theorem KlikZones.step
    (zones : KlikZones env zoneOf state) {action : KlikAction} {after : KlikState}
    (stored : action.Stored zoneOf) (moved : klikStep env state action = some after) :
    KlikZones env zoneOf after := by
  cases action with
  | initiate now store request =>
      cases moved
      apply zones.written _ (.refl state.entries)
      exact inZone_initiate stored now store zones.cheques.transactions
  | confirm request =>
      cases moved
      exact zones.confirmed stored
  | cheque action =>
      rcases Option.map_eq_some_iff.mp moved with ⟨next, stepped, rfl⟩
      exact zones.chequeStepped stored stepped
  | accrue banks day scanned counters =>
      cases moved
      exact zones.accrued stored day scanned counters
  | settle action =>
      rcases Option.map_eq_some_iff.mp moved with ⟨next, stepped, rfl⟩
      exact zones.settlementStepped stored stepped
  | register request =>
      cases moved
      apply zones.withAliases
      exact fun aliases registered => inZone_register stored zones.aliases registered
  | unregister bank phone =>
      cases moved
      apply zones.withAliases
      exact fun aliases removed => inZone_unregister zones.aliases removed
  | createMandate request =>
      cases moved
      exact zones.mandateCreated stored
  | recurring place action => exact zones.mandateStepped moved

theorem KlikZones.of_reachable
    (reached : (klikSystem env zoneOf).Reachable state) : KlikZones env zoneOf state := by
  apply reached.invariant
  · rintro _ rfl
    exact .start
  · intro source action target _ zones moved
    exact zones.step moved.1 moved.2

end Steps

/-! ## The tables -/

/-- No row of the tables is in two zones. -/
structure ZonesApart (zoneOf : Uuid → Zone) (state : KlikState) : Prop where
  transactions : ∀ tx ∈ state.transactions,
    zoneOf tx.senderBank.id = tx.zone ∧
      zoneOf tx.merchant.settlementBank.id = tx.zone ∧
      zoneOf tx.agent.settlementBank.id = tx.zone ∧
      tx.currency = zoneCurrency tx.zone
  entries : ∀ entry ∈ state.entries,
    zoneOf entry.fromBankId = entry.zone ∧ zoneOf entry.toBankId = entry.zone ∧
      entry.currency = zoneCurrency entry.zone ∧
      ∀ sessionId, entry.session = some sessionId →
        ∃ session, rowAt SettlementSession.id state.sessions sessionId = some session ∧
          session.zone = entry.zone
  transfers : ∀ transfer ∈ state.transfers, ∃ session,
    rowAt SettlementSession.id state.sessions transfer.session = some session ∧
      zoneOf transfer.fromBankId = session.zone ∧
      zoneOf transfer.toBankId = session.zone ∧
      transfer.currency = zoneCurrency session.zone
  aliases : ∀ row ∈ state.aliases,
    row.zone = zoneOf row.bank.id ∧ resolveZoneFromPhone row.phone = some row.zone
  snapshots : ∀ mandate ∈ state.mandates, ∀ execution ∈ mandate.state.db.executions,
    ∀ recipient, execution.lookupResponseSnapshot = some recipient →
      zoneOf recipient.bankId = mandate.state.db.mandate.zone

/-- In every state which any calls and tasks reach, zones are apart. -/
theorem zones_stay_apart
    (env : RecurringEnv) (zoneOf : Uuid → Zone) {state : KlikState}
    (reached : (klikSystem env zoneOf).Reachable state) :
    ZonesApart zoneOf state := by
  have zones := KlikZones.of_reachable reached
  have ids := (SessionsOwned.of_reachable zones.settling).nodup
  constructor
  · intro tx member
    have inZone := zones.cheques.transactions tx member
    exact ⟨inZone.senderBank.symm.trans inZone.sender_zone,
      inZone.merchant.bank.symm.trans (inZone.merchant.zone.trans inZone.merchant_zone),
      inZone.agent.bank.symm.trans (inZone.agent.zone.trans inZone.agent_zone),
      inZone.currency⟩
  · intro entry member
    rcases zones.settlement.entries entry member with ⟨inZone, fits⟩
    refine ⟨inZone.fromBank, inZone.toBank, inZone.currency, ?_⟩
    intro sessionId held
    exact (fits sessionId held).rowAt ids
  · intro transfer member
    rcases zones.settlement.transfers transfer member with ⟨zone, here, inZone⟩
    rcases here.rowAt ids with ⟨session, found, rfl⟩
    exact ⟨session, found, inZone.fromBank, inZone.toBank, inZone.currency⟩
  · intro row member
    have inZone := zones.aliases row member
    exact ⟨inZone.bank.symm, inZone.phone⟩
  · intro mandate member execution listed
    exact (zones.mandates mandate member).snapshots execution listed

/-! ## A recipient who moves -/

/-- The first ten banks are Polish, the others European. -/
def tenPolishBanks (bank : Uuid) : Zone :=
  if bank < 10 then .PL else .EU

theorem zoned_polishBank {bank : Uuid} (polish : bank < 10) :
    (polishBank bank).Zoned tenPolishBanks :=
  (if_pos polish).symm

/-- A bank registers a number. -/
def registerAt (bank : Uuid) : RegisterRequest where
  bank := polishBank bank
  phone := py "+48501234567"
  accountIdentifier := .dict [(py "type", .str (py "iban")),
    (py "value", .str (py "PL61109010140000071219812874"))]
  zone := .PL
  aliasId := bank
  refused := false

/-- Bank 1 asks for a daily mandate to the number. -/
def createRequest : CreateRequest where
  bank := polishBank 1
  data :=
    { payerUserId := py "client"
      recipientPhone := py "+48501234567"
      amount := 50
      currency := "PLN"
      zone := "PL"
      cycle := "DAILY"
      startDate := firstOfJune
      endDate := none
      mandateSignedAt := .atHour firstOfJune 6
      phone_length := by decide
      amount_fits := by decide +kernel
      startDate_le := by decide }
  idempotencyKey := py "mandate"
  now := .atHour firstOfJune 7
  mandateId := 1
  refused := false

/-- Redis with the code 123456 of a client of bank 1. -/
def oneCode : CodeStore :=
  ExpiringStore.empty.set (codeKey (py "123456"))
    ⟨1, py "client", .PL, .active, py "now"⟩ none

/-- The recipient of a mandate is registered by another bank between two runs,
and a payment is settled. -/
def movedRecipient : List KlikAction :=
  let advance := KlikAction.settle (.advance 0 ⟨0, .raised⟩)
  let reach row := KlikAction.settle (.reach 0 row)
  let run day executionId := KlikAction.recurring 0 (.startRun (.atHour day 8) executionId false)
  [.register (registerAt 2), .createMandate createRequest,
    .recurring 0 (.tick (.atHour firstOfJune 8)), run firstOfJune 100,
    .recurring 0 (.lookUp 0 none),
    .unregister (polishBank 2) (py "+48501234567"), .register (registerAt 3),
    .recurring 0 (.tick (.atHour firstOfJune.next 8)), run firstOfJune.next 101,
    .recurring 0 (.lookUp 1 none),
    .initiate 0 oneCode polishRequest, .confirm (confirmRequest .accepted 1),
    .settle (.call (py "PL")), advance, advance, advance, reach 0, reach 1, reach 2,
    advance, advance, advance]

theorem run_movedRecipient :
    (TransitionSystem.runLabels (klikStep documentedEnv) .empty movedRecipient).map
        (fun state =>
          (state.mandates.flatMap fun mandate =>
              mandate.state.db.executions.map fun execution =>
                execution.lookupResponseSnapshot.map Recipient.bankId,
            state.transfers.map SettlementTransfer.parties)) =
      some ([some 2, some 3], [(0, 1, 2, .PLN), (0, 1, 3, .PLN)]) := by
  decide +kernel

theorem stored_movedRecipient :
    ∀ action ∈ movedRecipient, action.Stored tenPolishBanks := by
  have one : (polishBank 1).Zoned tenPolishBanks := zoned_polishBank (by decide)
  have two : (polishBank 2).Zoned tenPolishBanks := zoned_polishBank (by decide)
  have three : (polishBank 3).Zoned tenPolishBanks := zoned_polishBank (by decide)
  have stored : polishRequest.Stored tenPolishBanks := by
    constructor
    · exact ⟨three, rfl⟩
    · show ∀ merchant ∈ [_], _
      rw [List.forall_mem_singleton]
      exact ⟨two, rfl⟩
    · show ∀ bank ∈ [_, _, _], _
      simp only [List.forall_mem_cons]
      exact ⟨one, two, three, fun _ member => absurd member List.not_mem_nil⟩
  intro action member
  cases action with
  | initiate now store request =>
      simp [movedRecipient] at member
      rw [member.2.2]
      exact stored
  | confirm request =>
      simp [movedRecipient] at member
      rw [member]
      exact fun _ member => absurd member List.not_mem_nil
  | settle action =>
      rintro drafts rfl
      simp [movedRecipient] at member
  | register request =>
      simp [movedRecipient] at member
      rcases member with rfl | rfl
      · exact two
      · exact three
  | unregister bank phone =>
      simp [movedRecipient] at member
      rw [member.1]
      exact two
  | createMandate request =>
      simp [movedRecipient] at member
      rw [member]
      exact one
  | recurring place action => trivial
  | cheque action => simp [movedRecipient] at member
  | accrue banks day scanned counters => simp [movedRecipient] at member

/-- The second snapshot names another bank of the zone. -/
theorem zones_stay_apart_movedRecipient :
    ∃ state, TransitionSystem.runLabels (klikStep documentedEnv) .empty movedRecipient =
        some state ∧
      (state.mandates.flatMap fun mandate =>
        mandate.state.db.executions.map fun execution =>
          execution.lookupResponseSnapshot.map Recipient.bankId) = [some 2, some 3] ∧
      state.transfers.map SettlementTransfer.parties =
        [(0, 1, 2, .PLN), (0, 1, 3, .PLN)] ∧
      ZonesApart tenPolishBanks state := by
  rcases Option.map_eq_some_iff.mp run_movedRecipient with ⟨state, run, results⟩
  simp only [Prod.mk.injEq] at results
  refine ⟨state, run, results.1, results.2, ?_⟩
  have path : (TransitionSystem.ofStep (· = KlikState.empty) (klikStep documentedEnv)).Path
      .empty movedRecipient state := TransitionSystem.path_of_runLabels run
  apply zones_stay_apart documentedEnv tenPolishBanks
  apply (path.to_guarded ?_).reachable (.init rfl)
  exact fun action member _ => stored_movedRecipient action member

end Klik.System
