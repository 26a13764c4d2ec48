import Klik.Codes.Models

/-!
# Ledger entries, settlement sessions and settlement transfers

The three tables of the ledger with the constraints which guard their rows.
A draft is the object which a service passes to `LedgerEntry.objects.create`:
it still has the banks themselves, since validation looks at their zones.
-/

namespace Klik.Ledger

open Klik.Banks
open Klik.Codes
open Klik.Common
open Klik.Lib

inductive BeneficiaryType where
  | bank
  | klik
  | agent
deriving DecidableEq, Repr

inductive LedgerEntryType where
  | merchantNet
  | klikFeeC2b
  | agentFee
  | bankToBank
  | p2pLookupFee
deriving DecidableEq, Repr

inductive SettlementSessionStatus where
  | opened
  | netting
  | settling
  | completed
  | failed
deriving DecidableEq, Repr

inductive SettlementTransferStatus where
  | pending
  | dispatched
  | completed
  | failed
deriving DecidableEq, Repr

/-- `ACTIVE_SESSION_STATUSES`. -/
def SettlementSessionStatus.isActive : SettlementSessionStatus → Bool
  | .opened | .netting | .settling => true
  | .completed | .failed => false

/-- A settlement window of one zone. -/
structure SettlementSession where
  id : Uuid
  zone : Zone
  startedAt : Instant
  endedAt : Option Instant
  status : SettlementSessionStatus
  totalEntriesCount : Nat
  totalVolume : Decimal
deriving DecidableEq, Repr

/-- A booked claim: `fromBankId` owes `amount`, paid out at `toBankId`. -/
structure LedgerEntry where
  fromBankId : Uuid
  toBankId : Uuid
  beneficiaryType : BeneficiaryType
  beneficiaryRef : Option Uuid
  amount : Decimal
  currency : Currency
  zone : Zone
  entryType : LedgerEntryType
  sourceRef : PyStr
  session : Option Uuid
  settled : Bool
  settledAt : Option Instant
deriving DecidableEq, Repr

/-- One RTGS transfer of a session. -/
structure SettlementTransfer where
  id : Uuid
  session : Uuid
  fromBankId : Uuid
  toBankId : Uuid
  amount : Decimal
  currency : Currency
  status : SettlementTransferStatus
  rtgsReference : PyStr
  failureReason : PyStr
  completedAt : Option Instant
deriving DecidableEq, Repr

/-- The tables of the ledger, each in the order of insertion. -/
structure LedgerDb where
  entries : List LedgerEntry
  sessions : List SettlementSession
  transfers : List SettlementTransfer
deriving DecidableEq, Repr

/-- Exceptions which the ledger services raise. -/
inductive LedgerError where
  | transactionNotCompleted (transactionId : Uuid) (status : TransactionStatus)
  | feesNotCalculated (transactionId : Uuid)
  | activeSessionExists (zone : Zone) (existingSessionId : Uuid)
  | invalidSessionState (sessionId : Uuid)
      (current : SettlementSessionStatus)
      (expected : List SettlementSessionStatus)
  | validation (error : ValidationError)
  | database (error : DatabaseError)
deriving DecidableEq, Repr

/-! ## Creating entries -/

/-- Keyword arguments of `LedgerEntry.objects.create`. -/
structure EntryDraft where
  fromBank : Bank
  toBank : Bank
  beneficiaryType : BeneficiaryType
  beneficiaryRef : Option Uuid
  amount : Decimal
  currency : Currency
  zone : Zone
  entryType : LedgerEntryType
  sourceRef : PyStr
deriving DecidableEq, Repr

/-- The row which a draft becomes. -/
def EntryDraft.row (draft : EntryDraft) : LedgerEntry where
  fromBankId := draft.fromBank.id
  toBankId := draft.toBank.id
  beneficiaryType := draft.beneficiaryType
  beneficiaryRef := draft.beneficiaryRef
  amount := draft.amount
  currency := draft.currency
  zone := draft.zone
  entryType := draft.entryType
  sourceRef := draft.sourceRef
  session := none
  settled := false
  settledAt := none

/-- `full_clean` of an entry: validators of the columns, `clean`, and the
check constraints. -/
def EntryDraft.fullClean (draft : EntryDraft) : Except ValidationError Unit :=
  if fitsDecimalField 12 2 draft.amount = false then
    .error ⟨"amount", "max_digits"⟩
  else if draft.sourceRef = [] then
    .error ⟨"source_ref", "blank"⟩
  else if 100 < draft.sourceRef.length then
    .error ⟨"source_ref", "max_length"⟩
  else if draft.currency ≠ zoneCurrency draft.zone then
    .error ⟨"currency",
      s!"Strefa {draft.zone.value} wymaga waluty " ++
        s!"{(zoneCurrency draft.zone).value}, otrzymano {draft.currency.value}."⟩
  else if draft.fromBank.zone ≠ draft.zone then
    .error ⟨"from_bank",
      s!"from_bank.zone ({draft.fromBank.zone.value}) ≠ " ++
        s!"entry.zone ({draft.zone.value})."⟩
  else if draft.toBank.zone ≠ draft.zone then
    .error ⟨"to_bank",
      s!"to_bank.zone ({draft.toBank.zone.value}) ≠ " ++
        s!"entry.zone ({draft.zone.value})."⟩
  else if draft.amount ≤ 0 then
    .error ⟨"__all__", "ledger_amount_positive"⟩
  else if (draft.beneficiaryType = .klik) ≠ (draft.beneficiaryRef = none) then
    .error ⟨"__all__", "ledger_beneficiary_consistency"⟩
  else .ok ()

/-- `LedgerEntry.objects.create`. -/
def EntryDraft.create (draft : EntryDraft) : Except LedgerError LedgerEntry :=
  match draft.fullClean with
  | .error error => .error (.validation error)
  | .ok () =>
      if encodable draft.sourceRef then .ok draft.row
      else .error (.database (.invalidText "source_ref"))

/-- Entries created one after the other; the first failure raises. -/
def createEntries : List EntryDraft → Except LedgerError (List LedgerEntry)
  | [] => .ok []
  | draft :: drafts =>
      match draft.create with
      | .error error => .error error
      | .ok entry =>
          match createEntries drafts with
          | .error error => .error error
          | .ok entries => .ok (entry :: entries)

/-- What makes a draft acceptable. -/
structure EntryDraft.Valid (draft : EntryDraft) : Prop where
  amount_fits : fitsDecimalField 12 2 draft.amount = true
  amount_pos : 0 < draft.amount
  ref_nonempty : draft.sourceRef ≠ []
  ref_length : draft.sourceRef.length ≤ 100
  ref_encodable : encodable draft.sourceRef = true
  currency_eq : draft.currency = zoneCurrency draft.zone
  from_zone : draft.fromBank.zone = draft.zone
  to_zone : draft.toBank.zone = draft.zone
  beneficiary : draft.beneficiaryType = .klik ↔ draft.beneficiaryRef = none

/-- A draft is valid if it passes its checks and can be encoded. -/
theorem EntryDraft.valid_iff
    {draft : EntryDraft} :
    draft.Valid ↔ draft.fullClean = .ok () ∧ encodable draft.sourceRef = true := by
  simp only [fullClean, check_eq_ok, Bool.not_eq_false, not_lt, ne_eq, not_not, not_le,
    eq_iff_iff, and_true]
  constructor
  · intro valid
    exact ⟨⟨valid.amount_fits, valid.ref_nonempty, valid.ref_length, valid.currency_eq,
      valid.from_zone, valid.to_zone, valid.amount_pos, valid.beneficiary⟩,
      valid.ref_encodable⟩
  · rintro ⟨⟨fits, nonempty, short, currency, fromZone, toZone, positive, beneficiary⟩,
      encoded⟩
    exact ⟨fits, positive, nonempty, short, encoded, currency, fromZone, toZone, beneficiary⟩

/-- Valid drafts become their rows, and no others do. -/
theorem EntryDraft.create_eq_ok
    {draft : EntryDraft} {entry : LedgerEntry} :
    draft.create = .ok entry ↔ draft.Valid ∧ entry = draft.row := by
  rw [valid_iff]
  simp only [create]
  cases draft.fullClean with
  | error error => simp
  | ok done =>
      by_cases encoded : encodable draft.sourceRef = true
      · simp [encoded, eq_comm]
      · simp [encoded]

theorem EntryDraft.create_of_valid
    {draft : EntryDraft} (valid : draft.Valid) : draft.create = .ok draft.row :=
  create_eq_ok.mpr ⟨valid, rfl⟩

theorem EntryDraft.create_ok
    {draft : EntryDraft} {entry : LedgerEntry} (created : draft.create = .ok entry) :
    entry = draft.row ∧ 0 < draft.amount := by
  rcases create_eq_ok.mp created with ⟨valid, row⟩
  exact ⟨row, valid.amount_pos⟩

/-- Entries are created where every draft is valid, and are the rows of the
drafts. -/
theorem createEntries_eq_ok
    {drafts : List EntryDraft} {entries : List LedgerEntry} :
    createEntries drafts = .ok entries ↔
      (∀ draft ∈ drafts, draft.Valid) ∧ entries = drafts.map EntryDraft.row := by
  induction drafts generalizing entries with
  | nil => simp [createEntries, eq_comm]
  | cons draft drafts induction =>
      simp only [createEntries, List.forall_mem_cons, List.map_cons]
      constructor
      · intro created
        split at created
        · cases created
        · rename_i entry first
          split at created
          · cases created
          · rename_i rest others
            cases created
            rcases EntryDraft.create_eq_ok.mp first with ⟨valid, rfl⟩
            rcases induction.mp others with ⟨rest, rfl⟩
            exact ⟨⟨valid, rest⟩, rfl⟩
      · rintro ⟨⟨valid, rest⟩, rfl⟩
        simp only [EntryDraft.create_of_valid valid, induction.mpr ⟨rest, rfl⟩]

/-- Created entries are the rows of their drafts. -/
theorem createEntries_ok
    {drafts : List EntryDraft} {entries : List LedgerEntry}
    (created : createEntries drafts = .ok entries) :
    entries = drafts.map EntryDraft.row ∧ ∀ entry ∈ entries, 0 < entry.amount := by
  rcases createEntries_eq_ok.mp created with ⟨valid, rows⟩
  refine ⟨rows, ?_⟩
  rw [rows, List.forall_mem_map]
  intro draft member
  exact (valid draft member).amount_pos

theorem valid_of_createEntries
    {drafts : List EntryDraft} {entries : List LedgerEntry}
    (created : createEntries drafts = .ok entries) :
    ∀ draft ∈ drafts, draft.Valid :=
  (createEntries_eq_ok.mp created).1

theorem createEntries_of_valid
    {drafts : List EntryDraft} (valid : ∀ draft ∈ drafts, draft.Valid) :
    createEntries drafts = .ok (drafts.map EntryDraft.row) :=
  createEntries_eq_ok.mpr ⟨valid, rfl⟩

end Klik.Ledger
