import Klik.Ledger.Models
import Klik.Ledger.Netting
import Klik.Ledger.Rtgs.Gateway

/-!
# Settlement sessions

The life of a session, one definition for each service method, and the task
which runs them in order.  Every method runs in its own database transaction:
it returns the changed tables, or raises and changes nothing.  The task keeps
the changes of the methods which have returned when a later one raises.
-/

namespace Klik.Ledger

open Klik.Banks
open Klik.Common
open Klik.Ledger.Rtgs
open Klik.Lib

/-! ## Writes -/

/-- `UPDATE` of the row of one session. -/
def LedgerDb.updateSession
    (db : LedgerDb) (sessionId : Uuid)
    (change : SettlementSession → SettlementSession) : LedgerDb :=
  { db with
    sessions := db.sessions.map fun row =>
      if row.id = sessionId then change row else row }

/-- `UPDATE` of the row of one transfer. -/
def LedgerDb.updateTransfer
    (db : LedgerDb) (transferId : Uuid)
    (change : SettlementTransfer → SettlementTransfer) : LedgerDb :=
  { db with
    transfers := db.transfers.map fun row =>
      if row.id = transferId then change row else row }

/-- Whether a `numeric(14, 2)` column takes the amount. -/
def fitsVolume (amount : Decimal) : Bool :=
  -10 ^ 12 < amount && amount < 10 ^ 12

/-! ## Methods of the service -/

/-- `create_session`: refused while the zone has an active session.  `first`
reads the newest of them. -/
def createSession (zone : Zone) (now : Instant) (db : LedgerDb) :
    Except LedgerError (SettlementSession × LedgerDb) :=
  match db.sessions.reverse.find? fun row => row.zone = zone && row.status.isActive with
  | some existing => .error (.activeSessionExists zone existing.id)
  | none =>
      let session : SettlementSession :=
        { id := db.sessions.length
          zone := zone
          startedAt := now
          endedAt := none
          status := .opened
          totalEntriesCount := 0
          totalVolume := 0 }
      .ok (session, { db with sessions := db.sessions ++ [session] })

/-- Entries which `assign_pending_entries_to_session` selects. -/
def LedgerEntry.isPending (zone : Zone) (entry : LedgerEntry) : Bool :=
  entry.zone = zone && !entry.settled && entry.session.isNone

/-- The totals are stored and the session starts netting. -/
def SettlementSession.withTotals
    (count : Nat) (total : Decimal) (row : SettlementSession) :
    SettlementSession :=
  { row with totalEntriesCount := count, totalVolume := total, status := .netting }

/-- The session has its transfers. -/
def SettlementSession.toSettling (row : SettlementSession) : SettlementSession :=
  { row with status := .settling }

/-- The session ends with the given status. -/
def SettlementSession.endedWith
    (status : SettlementSessionStatus) (now : Instant) (row : SettlementSession) :
    SettlementSession :=
  { row with status := status, endedAt := some now }

/-- The session column of a selected entry is set. -/
def LedgerEntry.assignTo
    (zone : Zone) (sessionId : Uuid) (entry : LedgerEntry) : LedgerEntry :=
  if entry.isPending zone then { entry with session := some sessionId }
  else entry

/-- `assign_pending_entries_to_session`: the number of entries taken, the
session object and the tables. -/
def assignPendingEntriesToSession
    (session : SettlementSession) (db : LedgerDb) :
    Except LedgerError (Nat × SettlementSession × LedgerDb) :=
  if session.status ≠ .opened then
    .error (.invalidSessionState session.id session.status [.opened])
  else
    let pending := db.entries.filter (LedgerEntry.isPending session.zone)
    let count := pending.length
    let total := (pending.map LedgerEntry.amount).sum
    if 2147483647 < count then
      .error (.database (.numericOutOfRange "total_entries_count"))
    else if fitsVolume total = false then
      .error (.database (.numericOutOfRange "total_volume"))
    else
      let change := SettlementSession.withTotals count total
      let assigned :=
        { db with
          entries := db.entries.map (LedgerEntry.assignTo session.zone session.id) }
      .ok (count, change session, assigned.updateSession session.id change)

/-- Obligation of an entry. -/
def LedgerEntry.obligation (entry : LedgerEntry) : Obligation where
  fromBankId := entry.fromBankId
  toBankId := entry.toBankId
  amount := entry.amount

/-- The row of one netting result. -/
def transferRow
    (sessionId : Uuid) (zone : Zone) (transferId : Uuid) (net : NetTransfer) :
    SettlementTransfer where
  id := transferId
  session := sessionId
  fromBankId := net.fromBankId
  toBankId := net.toBankId
  amount := net.amount
  currency := zoneCurrency zone
  status := .pending
  rtgsReference := []
  failureReason := []
  completedAt := none

/-- `SettlementTransfer.objects.create` for one netting result. -/
def createTransfer
    (session : SettlementSession) (transferId : Uuid) (net : NetTransfer) :
    Except LedgerError SettlementTransfer :=
  if fitsVolume net.amount = false then
    .error (.database (.numericOutOfRange "amount"))
  else if net.amount ≤ 0 then
    .error (.database (.integrity "transfer_amount_positive"))
  else if net.fromBankId = net.toBankId then
    .error (.database (.integrity "transfer_from_to_different"))
  else .ok (transferRow session.id session.zone transferId net)

/-- Transfers created one after the other with the ids from `firstId` on. -/
def createTransfers (session : SettlementSession) (firstId : Uuid) :
    List NetTransfer → Except LedgerError (List SettlementTransfer)
  | [] => .ok []
  | net :: rest =>
      match createTransfer session firstId net with
      | .error error => .error error
      | .ok transfer =>
          match createTransfers session (firstId + 1) rest with
          | .error error => .error error
          | .ok transfers => .ok (transfer :: transfers)

/-- Entries which `run_netting` and the two closing steps select. -/
def LedgerEntry.isOpenIn (sessionId : Uuid) (entry : LedgerEntry) : Bool :=
  entry.session = some sessionId && !entry.settled

/-- `LedgerEntry.objects.filter(session=..., settled=False)`, newest entries
first.  Netting pairs banks with equal positions in this order. -/
def openEntries (sessionId : Uuid) (entries : List LedgerEntry) : List LedgerEntry :=
  (entries.filter (LedgerEntry.isOpenIn sessionId)).reverse

/-- `run_netting`: the created transfers, the session object and the tables. -/
def runNetting (session : SettlementSession) (db : LedgerDb) :
    Except LedgerError (List SettlementTransfer × SettlementSession × LedgerDb) :=
  if session.status ≠ .netting then
    .error (.invalidSessionState session.id session.status [.netting])
  else
    let entries := openEntries session.id db.entries
    let netResults := netObligations (entries.map LedgerEntry.obligation)
    match createTransfers session db.transfers.length netResults with
    | .error error => .error error
    | .ok transfers =>
        let change := SettlementSession.toSettling
        let created := { db with transfers := db.transfers ++ transfers }
        .ok (transfers, change session, created.updateSession session.id change)

/-- Marks the unsettled entries of a session which satisfy a condition. -/
def LedgerEntry.markIf
    (sessionId : Uuid) (now : Instant) (condition : LedgerEntry → Bool)
    (entry : LedgerEntry) : LedgerEntry :=
  if entry.isOpenIn sessionId && condition entry then
    { entry with settled := true, settledAt := some now }
  else entry

/-- `SettlementTransfer.objects.get(id=..., session=...)`. -/
def LedgerDb.getTransfer
    (db : LedgerDb) (transferId sessionId : Uuid) : Option SettlementTransfer :=
  db.transfers.find? fun row => row.id = transferId && row.session = sessionId

/-- Body of the loop of `mark_settled` for one item of the results; the flag
is `any_failed`. -/
def applyResult
    (sessionId : Uuid) (now : Instant) (state : LedgerDb × Bool)
    (result : Uuid × SettlementTransferStatus) : LedgerDb × Bool :=
  match state.1.getTransfer result.1 sessionId with
  | none => (state.1, true)
  | some transfer =>
      if result.2 = .completed then
        let db := state.1.updateTransfer transfer.id fun row =>
          { row with status := .completed, completedAt := some now }
        -- Every entry of the pair is marked, whatever the amounts.
        ({ db with
            entries := db.entries.map <| LedgerEntry.markIf sessionId now fun entry =>
              entry.fromBankId = transfer.fromBankId
                && entry.toBankId = transfer.toBankId },
          state.2)
      else
        (state.1.updateTransfer transfer.id fun row =>
          { row with status := .failed },
          true)

/-- `mark_settled`: the session object and the tables. -/
def markSettled
    (session : SettlementSession)
    (results : InsertionDict Uuid SettlementTransferStatus)
    (now : Instant) (db : LedgerDb) :
    Except LedgerError (SettlementSession × LedgerDb) :=
  if session.status ≠ .settling then
    .error (.invalidSessionState session.id session.status [.settling])
  else
    let applied := results.foldl (applyResult session.id now) (db, false)
    let anyFailed := applied.2
    let marked :=
      if anyFailed then applied.1
      else
        { applied.1 with
          entries := applied.1.entries.map
            (LedgerEntry.markIf session.id now fun _ => true) }
    let change :=
      SettlementSession.endedWith (if anyFailed then .failed else .completed) now
    .ok (change session, marked.updateSession session.id change)

/-! ## The task -/

/-- What the task reads besides the ledger: the banks behind the foreign
keys, the interpreter's text functions and the RTGS systems. -/
structure SettlementEnv where
  bankOf : Uuid → Bank
  runtime : PyRuntime
  dispatch : Zone → Uuid → List TransferRequest → DispatchOutcome

/-- `Zone(text)`. -/
def zoneOfText (text : PyStr) : Option Zone :=
  if text = py "PL" then some .PL
  else if text = py "EU" then some .EU
  else if text = py "UK" then some .UK
  else if text = py "US" then some .US
  else none

/-- `_get_rtgs_identifiers`. -/
def getRtgsIdentifiers (bank : Bank) : Zone → PyStr × PyStr
  | .EU => (bank.bic, bank.settlementIban)
  | .US => (bank.fednowRoutingNumber, bank.fednowAccountNumber)
  | .PL | .UK => ([], [])

/-- Request for one transfer. -/
def transferRequest
    (env : SettlementEnv) (zone : Zone) (transfer : SettlementTransfer) :
    TransferRequest :=
  let fromBank := env.bankOf transfer.fromBankId
  let toBank := env.bankOf transfer.toBankId
  { transferId := transfer.id
    fromBankCode := fromBank.name
    toBankCode := toBank.name
    amount := transfer.amount
    currency := transfer.currency
    fromBic := (getRtgsIdentifiers fromBank zone).1
    toBic := (getRtgsIdentifiers toBank zone).1
    fromIban := (getRtgsIdentifiers fromBank zone).2
    toIban := (getRtgsIdentifiers toBank zone).2 }

/-- The dictionary returned by the task. -/
inductive SettlementReport where
  | unknownZone (zone : PyStr)
  | skipped (existingSessionId : Uuid)
  | completed (sessionId : Uuid) (zone : Zone) (entriesCount : Nat)
  | unavailable (sessionId : Uuid) (zone : Zone) (reason : PyStr)
      (entriesCount transfersCount : Nat)
  | finished (status : SettlementSessionStatus) (sessionId : Uuid) (zone : Zone)
      (entriesCount transfersCount transfersSucceeded transfersFailed : Nat)
deriving DecidableEq, Repr

/-- An exception which leaves the task. -/
inductive TaskError where
  | ledger (error : LedgerError)
  | dispatcher
deriving DecidableEq, Repr

/-- The committed tables when the task ends, and how it ends. -/
structure TaskRun where
  db : LedgerDb
  outcome : Except TaskError SettlementReport

/-- Status which a result puts into `transfer_results`. -/
def resultStatus (result : TransferResult) : SettlementTransferStatus :=
  if result.status = .success then .completed else .failed

/-- The dictionary `transfer_results`. -/
def transferResults (results : List TransferResult) :
    InsertionDict Uuid SettlementTransferStatus :=
  results.foldl (fun dict result => dict.set result.transferId (resultStatus result)) []

/-- A text of a result as its column would get it; none where the value is
false and the column is not written. -/
def writtenText (runtime : PyRuntime) (value : PyValue) : Option PyStr :=
  if value.truthy then some (value.text runtime) else none

/-- Whether the columns of a transfer take the texts of a result. -/
def resultFits (runtime : PyRuntime) (result : TransferResult) : Bool :=
  (writtenText runtime result.rtgsReference).all (fitsColumn 100)
    && (writtenText runtime result.failureReason).all (fitsColumn 255)

/-- The row with the texts of a result, cut after the width of the columns. -/
def SettlementTransfer.withTexts
    (runtime : PyRuntime) (result : TransferResult) (row : SettlementTransfer) :
    SettlementTransfer :=
  { row with
    rtgsReference :=
      ((writtenText runtime result.rtgsReference).map (·.take 100)).getD
        row.rtgsReference
    failureReason :=
      ((writtenText runtime result.failureReason).map (·.take 255)).getD
        row.failureReason }

/-- One round of the loop which saves references and failure reasons. -/
def saveResult
    (runtime : PyRuntime) (transfers : List SettlementTransfer)
    (db : LedgerDb) (result : TransferResult) : Except LedgerError LedgerDb :=
  match transfers.find? fun transfer => transfer.id = result.transferId with
  | none => .ok db
  | some transfer =>
      if resultFits runtime result then
        .ok (db.updateTransfer transfer.id
          (SettlementTransfer.withTexts runtime result))
      else .error (.database (.invalidText "rtgs_reference, failure_reason"))

/-- The loop over the results: every round commits on its own. -/
def saveResults
    (runtime : PyRuntime) (transfers : List SettlementTransfer) :
    LedgerDb → List TransferResult → LedgerDb × Option LedgerError
  | db, [] => (db, none)
  | db, result :: rest =>
      match saveResult runtime transfers db result with
      | .error error => (db, some error)
      | .ok db => saveResults runtime transfers db rest

/-- Stages 4 and 5: dispatch to the RTGS system, then `mark_settled`. -/
def dispatchTransfers
    (env : SettlementEnv) (now : Instant) (session : SettlementSession)
    (entriesCount : Nat) (transfers : List SettlementTransfer) (db : LedgerDb) :
    TaskRun :=
  let zone := session.zone
  match env.dispatch zone session.id (transfers.map (transferRequest env zone)) with
  | .raised => ⟨db, .error .dispatcher⟩
  | .unavailable _ reason =>
      let allFailed : InsertionDict Uuid SettlementTransferStatus :=
        transfers.foldl
          (fun dict transfer =>
            dict.set transfer.id SettlementTransferStatus.failed) []
      match markSettled session allFailed now db with
      | .error error => ⟨db, .error (.ledger error)⟩
      | .ok (_, db) =>
          ⟨db, .ok (.unavailable session.id zone reason entriesCount
            transfers.length)⟩
  | .returned results =>
      match saveResults env.runtime transfers db results with
      | (db, some error) => ⟨db, .error (.ledger error)⟩
      | (db, none) =>
          let dict := transferResults results
          match markSettled session dict now db with
          | .error error => ⟨db, .error (.ledger error)⟩
          | .ok (finalSession, db) =>
              let succeeded := (dict.filter fun item => item.2 = .completed).length
              ⟨db, .ok (.finished finalSession.status session.id zone entriesCount
                transfers.length succeeded (dict.length - succeeded))⟩

/-- Stages 2 to 5 on the session which was just created. -/
def settleSession
    (env : SettlementEnv) (now : Instant) (session : SettlementSession)
    (db : LedgerDb) : TaskRun :=
  match assignPendingEntriesToSession session db with
  | .error error => ⟨db, .error (.ledger error)⟩
  | .ok (entriesCount, session, db) =>
      let complete := SettlementSession.endedWith .completed now
      if entriesCount = 0 then
        ⟨db.updateSession session.id complete,
          .ok (.completed session.id session.zone 0)⟩
      else
        match runNetting session db with
        | .error error => ⟨db, .error (.ledger error)⟩
        | .ok (transfers, session, db) =>
            if transfers.isEmpty then
              let marked :=
                { db with
                  entries := db.entries.map
                    (LedgerEntry.markIf session.id now fun _ => true) }
              ⟨marked.updateSession session.id complete,
                .ok (.completed session.id session.zone entriesCount)⟩
            else dispatchTransfers env now session entriesCount transfers db

/-- `run_settlement_session`.  All readings of the clock in one run are the
same instant. -/
def runSettlementSession
    (env : SettlementEnv) (now : Instant) (zoneText : PyStr) (db : LedgerDb) :
    TaskRun :=
  match zoneOfText zoneText with
  | none => ⟨db, .ok (.unknownZone zoneText)⟩
  | some zone =>
      match createSession zone now db with
      | .error (.activeSessionExists _ existing) => ⟨db, .ok (.skipped existing)⟩
      | .error error => ⟨db, .error (.ledger error)⟩
      | .ok (session, db) => settleSession env now session db

end Klik.Ledger
