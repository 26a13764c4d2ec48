import Klik.Ledger.SettlementMarking

/-!
# What a whole settlement run does

The stages are put together: a run which is not stopped by an exception
closes its session, and the tables which it leaves are those of the ledger
before the run with one more session, its transfers, and its entries marked
by pairs of banks.
-/

namespace Klik.Ledger

open Klik.Common
open Klik.Ledger.Rtgs
open Klik.Lib

/-! ## Saving the texts of the results -/

/-- A transfer without the texts which a result adds. -/
def SettlementTransfer.core (transfer : SettlementTransfer) : SettlementTransfer :=
  { transfer with rtgsReference := [], failureReason := [] }

theorem map_eq_of_core_eq
    {Value : Type} (read : SettlementTransfer → Value)
    (ignoresTexts : ∀ transfer, read transfer.core = read transfer)
    {left right : List SettlementTransfer}
    (same : left.map SettlementTransfer.core = right.map SettlementTransfer.core) :
    left.map read = right.map read := by
  have lifted := congrArg (List.map read) same
  rw [List.map_map, List.map_map] at lifted
  have erase : read ∘ SettlementTransfer.core = read := funext ignoresTexts
  rwa [erase] at lifted

/-- Saving results changes texts only, and fails exactly when a text of a
known transfer does not fit its column. -/
theorem saveResults_extend
    {db : LedgerDb} (wellFormed : db.WellFormed)
    {made : List SettlementTransfer} (owned : db.Owns made)
    (runtime : PyRuntime) (entries : List LedgerEntry) (row : SettlementSession)
    (results : List TransferResult) {current : List SettlementTransfer}
    (same : current.map SettlementTransfer.core = made.map SettlementTransfer.core) :
    ∃ saved,
      (saveResults runtime made (db.extend entries row current) results).1 =
        db.extend entries row saved ∧
      saved.map SettlementTransfer.core = made.map SettlementTransfer.core ∧
      ((saveResults runtime made (db.extend entries row current) results).2 = none ↔
        ∀ result ∈ results,
          result.transferId ∈ made.map SettlementTransfer.id →
            resultFits runtime result = true) := by
  induction results generalizing current with
  | nil => exact ⟨current, rfl, same, by simp [saveResults]⟩
  | cons result rest induction =>
      simp only [saveResults]
      cases found : made.find? fun transfer => transfer.id = result.transferId with
      | none =>
          have unknown : result.transferId ∉ made.map SettlementTransfer.id := by
            intro listed
            rcases List.mem_map.mp listed with ⟨transfer, member, known⟩
            have refused := List.find?_eq_none.mp found transfer member
            simp [known] at refused
          have step :
              saveResult runtime made (db.extend entries row current) result =
                .ok (db.extend entries row current) := by
            simp only [saveResult, found]
          rcases induction same with ⟨saved, shape, savedSame, fits⟩
          refine ⟨saved, by rw [step]; exact shape, savedSame, ?_⟩
          rw [step]
          simp only [fits, List.forall_mem_cons, unknown, false_implies, true_and]
      | some transfer =>
          have member := List.mem_of_find?_eq_some found
          have known : transfer.id = result.transferId := by
            simpa using List.find?_some found
          have listed : result.transferId ∈ made.map SettlementTransfer.id :=
            known ▸ List.mem_map_of_mem member
          by_cases fit : resultFits runtime result = true
          · have written := LedgerDb.updateTransfer_extend wellFormed entries row
              current (owned.later transfer member)
              (SettlementTransfer.withTexts runtime result)
            have step :
                saveResult runtime made (db.extend entries row current) result =
                  .ok (db.extend entries row (current.map fun other =>
                    if other.id = transfer.id then other.withTexts runtime result
                    else other)) := by
              simp only [saveResult, found, fit, if_true, written]
            have stillSame :
                (current.map fun other =>
                  if other.id = transfer.id then other.withTexts runtime result
                  else other).map SettlementTransfer.core =
                    made.map SettlementTransfer.core := by
              rw [List.map_map, ← same]
              apply List.map_congr_left
              intro other _
              simp only [Function.comp_def]
              split <;> rfl
            rcases induction stillSame with ⟨saved, shape, savedSame, fits⟩
            refine ⟨saved, by rw [step]; exact shape, savedSame, ?_⟩
            rw [step]
            simp only [fits, List.forall_mem_cons, fit, implies_true, true_and]
          · have step :
                saveResult runtime made (db.extend entries row current) result =
                  .error (.database
                    (.invalidText "rtgs_reference, failure_reason")) := by
              simp only [saveResult, found, fit, if_false, Bool.false_eq_true]
            refine ⟨current, by rw [step], same, ?_⟩
            rw [step]
            refine iff_of_false (by simp) ?_
            intro allFit
            exact fit (allFit result List.mem_cons_self listed)

/-! ## Dispatching -/

/-- Whether the task can record the outcome of a dispatch. -/
def DispatchOutcome.Recorded (runtime : PyRuntime) : DispatchOutcome → Prop
  | .returned results => ∀ result ∈ results, resultFits runtime result = true
  | .unavailable _ _ => True
  | .raised => False

/-- Whether every transfer of a dispatch succeeded. -/
def DispatchOutcome.Succeeded : DispatchOutcome → Prop
  | .returned results => ∀ result ∈ results, result.status = .success
  | .unavailable _ _ => False
  | .raised => False

section Dispatch

variable {db : LedgerDb} (wellFormed : db.WellFormed)
variable {env : SettlementEnv} (session : SettlementSession)
variable (last : session.id = db.sessions.length)
variable (settling : session.status = .settling)
variable {made : List SettlementTransfer} (owned : db.Owns made)
variable (entries : List LedgerEntry) (entriesCount : Nat) (now : Instant)

/-- The outcome which the task gets for the transfers `made`. -/
def dispatchOutcome
    (env : SettlementEnv) (session : SettlementSession)
    (made : List SettlementTransfer) : DispatchOutcome :=
  env.dispatch session.zone session.id
    (made.map (transferRequest env session.zone))

/-- The tables after the session was closed with the transfers `ended`. -/
def LedgerDb.closeWith
    (db : LedgerDb) (entries : List LedgerEntry) (row : SettlementSession)
    (ended : List SettlementTransfer) (now : Instant) : LedgerDb :=
  db.extend
    (entries.map
      (LedgerEntry.markIf db.sessions.length now (settles row ended)))
    row ended

theorem Ended.of_core_eq
    {made saved ended : List SettlementTransfer}
    (same : saved.map SettlementTransfer.core = made.map SettlementTransfer.core)
    (finished : Ended saved ended) :
    Ended made ended where
  ids := finished.ids.trans
    (map_eq_of_core_eq SettlementTransfer.id (fun _ => rfl) same)
  nets := finished.nets.trans
    (map_eq_of_core_eq SettlementTransfer.net (fun _ => rfl) same)
  sessions := finished.sessions.trans
    (map_eq_of_core_eq SettlementTransfer.session (fun _ => rfl) same)
  status := finished.status

/-- The dictionary built from one result for each transfer. -/
theorem transferResults_eq
    {results : List TransferResult}
    (distinct : (results.map TransferResult.transferId).Nodup) :
    transferResults results =
      results.map fun result => (result.transferId, resultStatus result) :=
  InsertionDict.foldl_set_eq_map TransferResult.transferId resultStatus
    results distinct

include wellFormed last settling owned in
/-- A recorded outcome closes the session. -/
theorem dispatchTransfers_closes
    (answered : (dispatchOutcome env session made).AnswersEach
      (made.map (transferRequest env session.zone)))
    (recorded :
      DispatchOutcome.Recorded env.runtime (dispatchOutcome env session made)) :
    ∃ ended : List SettlementTransfer,
      let row := session.endedWith (endStatus ended) now
      (∃ report,
        dispatchTransfers env now session entriesCount made
            (db.extend entries session made) =
          ⟨db.closeWith entries row ended now, .ok report⟩) ∧
      Ended made ended ∧
      (DispatchOutcome.Succeeded (dispatchOutcome env session made) →
        ∀ transfer ∈ ended, transfer.status = .completed) := by
  simp only [dispatchTransfers]
  simp only [dispatchOutcome] at answered recorded ⊢
  cases outcome : env.dispatch session.zone session.id
      (made.map (transferRequest env session.zone)) with
  | raised =>
      rw [outcome] at recorded
      exact recorded.elim
  | unavailable systemName reason =>
      let dict : InsertionDict Uuid SettlementTransferStatus :=
        made.map fun transfer => (transfer.id, .failed)
      have filled := InsertionDict.foldl_set_eq_map SettlementTransfer.id
        (fun _ => SettlementTransferStatus.failed) made owned.nodup
      have keys : dict.keys = made.map SettlementTransfer.id := by
        simp only [dict, InsertionDict.keys, List.map_map]
        rfl
      have distinct : dict.keys.Nodup := keys ▸ owned.nodup
      have covers : ∀ id, id ∈ dict.keys ↔ id ∈ made.map SettlementTransfer.id := by
        intro id
        rw [keys]
      have marked := markSettled_extend wellFormed last settling owned
        distinct covers entries now
      refine ⟨answerAll db.sessions.length now dict made, ?_,
        ended_answerAll owned distinct covers now, False.elim⟩
      simp only [filled]
      rw [marked]
      exact ⟨_, rfl⟩
  | returned results =>
      rw [outcome] at answered recorded
      have requestIds :
          (made.map (transferRequest env session.zone)).map
              TransferRequest.transferId =
            made.map SettlementTransfer.id := by
        rw [List.map_map]
        rfl
      have ids : (results.map TransferResult.transferId).Perm
          (made.map SettlementTransfer.id) := requestIds ▸ answered
      have dict := transferResults_eq (ids.nodup_iff.mpr owned.nodup)
      have keys : (transferResults results).keys =
          results.map TransferResult.transferId := by
        rw [dict, InsertionDict.keys, List.map_map]
        rfl
      rcases saveResults_extend wellFormed owned env.runtime entries session
        results rfl with ⟨saved, shape, same, allSaved⟩
      have savedIds := map_eq_of_core_eq SettlementTransfer.id (fun _ => rfl) same
      have savedOwned : db.Owns saved := owned.congr savedIds
        (map_eq_of_core_eq SettlementTransfer.session (fun _ => rfl) same)
      have distinct : (transferResults results).keys.Nodup := by
        rw [keys]
        exact ids.nodup_iff.mpr owned.nodup
      have covers : ∀ id, id ∈ (transferResults results).keys ↔
          id ∈ saved.map SettlementTransfer.id := by
        intro id
        rw [keys, savedIds]
        exact ids.mem_iff
      have marked := markSettled_extend wellFormed last settling savedOwned
        distinct covers entries now
      have noError := allSaved.mpr fun result member _ => recorded result member
      have both : saveResults env.runtime made (db.extend entries session made)
          results = (db.extend entries session saved, none) :=
        Prod.ext shape noError
      refine ⟨answerAll db.sessions.length now (transferResults results) saved,
        ?_, (ended_answerAll savedOwned distinct covers now).of_core_eq same, ?_⟩
      · simp only [both]
        rw [marked]
        exact ⟨_, rfl⟩
      · intro succeeded transfer member
        rcases List.mem_map.mp member with ⟨row, rowMember, rfl⟩
        have facts := answerAll_row savedOwned distinct covers now rowMember
        have key := (covers row.id).mpr (List.mem_map_of_mem rowMember)
        rw [keys] at key
        rcases List.mem_map.mp key with ⟨result, resultMember, sameId⟩
        apply facts.2.2.2.2.mpr
        rw [dict, List.mem_map]
        refine ⟨result, resultMember, ?_⟩
        rw [sameId, resultStatus, if_pos (succeeded result resultMember)]

include wellFormed owned in
/-- An outcome which is not recorded leaves the session in progress. -/
theorem dispatchTransfers_strands
    (answered : ∀ results, dispatchOutcome env session made = .returned results →
      (dispatchOutcome env session made).AnswersEach
        (made.map (transferRequest env session.zone)))
    (unrecorded :
      ¬ DispatchOutcome.Recorded env.runtime (dispatchOutcome env session made)) :
    ∃ (saved : List SettlementTransfer) (error : TaskError),
      dispatchTransfers env now session entriesCount made
          (db.extend entries session made) =
        ⟨db.extend entries session saved, .error error⟩ := by
  simp only [dispatchTransfers]
  simp only [dispatchOutcome] at answered unrecorded ⊢
  cases outcome : env.dispatch session.zone session.id
      (made.map (transferRequest env session.zone)) with
  | raised => exact ⟨made, _, rfl⟩
  | unavailable systemName reason =>
      rw [outcome] at unrecorded
      exact absurd trivial unrecorded
  | returned results =>
      have ids := answered results outcome
      rw [outcome] at unrecorded ids
      rcases saveResults_extend wellFormed owned env.runtime entries session
        results rfl with ⟨saved, shape, _, allSaved⟩
      have known : ∀ result ∈ results,
          result.transferId ∈ made.map SettlementTransfer.id := by
        intro result member
        have listed := ids.mem_iff.mp (List.mem_map_of_mem member)
        rw [List.map_map] at listed
        exact listed
      have failing :
          (saveResults env.runtime made (db.extend entries session made)
            results).2 ≠ none := by
        intro noError
        apply unrecorded
        intro result member
        exact allSaved.mp noError result member (known result member)
      rcases Option.ne_none_iff_exists'.mp failing with ⟨error, raised⟩
      have both : saveResults env.runtime made (db.extend entries session made)
          results = (db.extend entries session saved, some error) :=
        Prod.ext shape raised
      exact ⟨saved, .ledger error, by simp only [both]⟩

end Dispatch

/-! ## The run -/

/-- Whether a zone has no active session, so that a run may create one. -/
def ZoneIdle (zone : Zone) (db : LedgerDb) : Prop :=
  ∀ row ∈ db.sessions, ¬ (row.zone = zone ∧ row.status.isActive = true)

/-- The session row which a run creates. -/
def openedSession (zone : Zone) (now : Instant) (db : LedgerDb) :
    SettlementSession where
  id := db.sessions.length
  zone := zone
  startedAt := now
  endedAt := none
  status := .opened
  totalEntriesCount := 0
  totalVolume := 0

/-- The outcome of the dispatch of a run. -/
def plannedOutcome (env : SettlementEnv) (zone : Zone) (db : LedgerDb) :
    DispatchOutcome :=
  env.dispatch zone db.sessions.length
    ((plannedTransfers zone db).map (transferRequest env zone))

/-- How a closed run leaves the tables. -/
structure Closes
    (db : LedgerDb) (zone : Zone) (now : Instant)
    (row : SettlementSession) (made : List SettlementTransfer)
    (after : LedgerDb) : Prop where
  after_eq : after =
    db.closeWith (db.entries.map (LedgerEntry.assignTo zone db.sessions.length))
      row made now
  row_id : row.id = db.sessions.length
  row_zone : row.zone = zone
  row_status : row.status = endStatus made
  ended : Ended (plannedTransfers zone db) made

theorem createSession_idle
    {zone : Zone} {db : LedgerDb} (idle : ZoneIdle zone db) (now : Instant) :
    createSession zone now db =
      .ok (openedSession zone now db,
        db.extend db.entries (openedSession zone now db) []) := by
  have none : db.sessions.reverse.find? (fun row =>
      row.zone = zone && row.status.isActive) = none := by
    rw [List.find?_eq_none]
    intro row member active
    simp only [Bool.and_eq_true, decide_eq_true_eq] at active
    exact idle row (List.mem_reverse.mp member) active
  simp only [createSession]
  rw [none]
  simp only [LedgerDb.extend, List.append_nil]
  rfl

/-- Without transfers the session is completed with all its entries. -/
theorem closes_without_transfers
    {db : LedgerDb} {zone : Zone} {row : SettlementSession} (now : Instant)
    (row_id : row.id = db.sessions.length)
    (row_zone : row.zone = zone)
    (completed : row.status = .completed)
    (noTransfers : plannedTransfers zone db = []) :
    Closes db zone now row []
      (db.extend
        ((db.entries.map (LedgerEntry.assignTo zone db.sessions.length)).map
          (LedgerEntry.markIf db.sessions.length now fun _ => true))
        row []) where
  after_eq := by
    have all : settles row [] = fun _ => true := by
      funext entry
      simp [settles, completed]
    rw [LedgerDb.closeWith, all]
  row_id := row_id
  row_zone := row_zone
  row_status := by simp [completed, endStatus]
  ended := by
    rw [noTransfers]
    exact ⟨rfl, rfl, rfl, by simp⟩

/-- Without pending entries there is nothing to mark. -/
theorem markIf_without_pending
    {db : LedgerDb} (wellFormed : db.WellFormed) {zone : Zone}
    (nothing : pendingCount zone db = 0) (now : Instant)
    (condition : LedgerEntry → Bool) :
    (db.entries.map (LedgerEntry.assignTo zone db.sessions.length)).map
        (LedgerEntry.markIf db.sessions.length now condition) =
      db.entries.map (LedgerEntry.assignTo zone db.sessions.length) := by
  have noPending : ∀ entry ∈ db.entries, entry.isPending zone = false := by
    have empty := List.length_eq_zero_iff.mp nothing
    intro entry member
    simpa using List.filter_eq_nil_iff.mp empty entry member
  rw [List.map_map]
  apply List.map_congr_left
  intro entry member
  apply markIf_of_false
  rw [isOpenIn_assignTo wellFormed zone member, noPending entry member,
    Bool.false_and]

theorem plannedTransfers_without_pending
    {db : LedgerDb} {zone : Zone} (nothing : pendingCount zone db = 0) :
    plannedTransfers zone db = [] := by
  have empty := List.length_eq_zero_iff.mp nothing
  simp [plannedTransfers, pendingObligations, empty, netObligations, transferRows]

section Run

variable {db : LedgerDb} (wellFormed : db.WellFormed)
variable {env : SettlementEnv} {text : PyStr} {zone : Zone} (now : Instant)
variable (known : zoneOfText text = some zone) (idle : ZoneIdle zone db)

include known idle in
theorem runSettlementSession_idle :
    runSettlementSession env now text db =
      settleSession env now (openedSession zone now db)
        (db.extend db.entries (openedSession zone now db) []) := by
  simp only [runSettlementSession]
  simp only [known, createSession_idle idle now]

/-- A text which names no zone changes nothing. -/
theorem runSettlementSession_unknown
    (env : SettlementEnv) (now : Instant) {text : PyStr} (db : LedgerDb)
    (unknown : zoneOfText text = none) :
    (runSettlementSession env now text db).db = db := by
  simp only [runSettlementSession]
  rw [unknown]

include known in
/-- A run for a zone with an active session is skipped. -/
theorem runSettlementSession_busy (busy : ¬ ZoneIdle zone db) :
    (runSettlementSession env now text db).db = db := by
  simp only [runSettlementSession]
  rw [known]
  simp only [createSession]
  cases found : db.sessions.reverse.find? fun row =>
      row.zone = zone && row.status.isActive with
  | none =>
      refine absurd ?_ busy
      intro row member active
      have refused := List.find?_eq_none.mp found row (List.mem_reverse.mpr member)
      simp [active] at refused
  | some existing => rfl

/-- The session row after the assignment. -/
def assignedSession (zone : Zone) (now : Instant) (db : LedgerDb) :
    SettlementSession :=
  (openedSession zone now db).withTotals (pendingCount zone db)
    (pendingVolume zone db)

/-- The entries after the assignment. -/
def assignedEntries (zone : Zone) (db : LedgerDb) : List LedgerEntry :=
  db.entries.map (LedgerEntry.assignTo zone db.sessions.length)

include wellFormed in
/-- The run when no entry is pending. -/
theorem settleSession_nothing
    (fit : TotalsFit zone db) (nothing : pendingCount zone db = 0) :
    settleSession env now (openedSession zone now db)
        (db.extend db.entries (openedSession zone now db) []) =
      ⟨db.extend (assignedEntries zone db)
          ((assignedSession zone now db).endedWith .completed now) [],
        .ok (.completed db.sessions.length zone 0)⟩ := by
  have assigned : assignPendingEntriesToSession (openedSession zone now db)
      (db.extend db.entries (openedSession zone now db) []) =
        .ok (pendingCount zone db, assignedSession zone now db,
          db.extend (assignedEntries zone db) (assignedSession zone now db) []) :=
    assignPendingEntriesToSession_extend wellFormed rfl rfl fit
  have shape : (db.extend (assignedEntries zone db)
      (assignedSession zone now db) []).updateSession
        (assignedSession zone now db).id (SettlementSession.endedWith .completed now) =
      db.extend (assignedEntries zone db)
        ((assignedSession zone now db).endedWith .completed now) [] :=
    LedgerDb.updateSession_extend wellFormed _ _ rfl _
  simp only [settleSession]
  simp only [assigned, nothing, if_true, shape]
  rfl

include wellFormed in
/-- The run after netting. -/
theorem settleSession_netted
    (fit : TotalsFit zone db) (something : pendingCount zone db ≠ 0) :
    settleSession env now (openedSession zone now db)
        (db.extend db.entries (openedSession zone now db) []) =
      if (plannedTransfers zone db).isEmpty then
        ⟨db.extend
            ((assignedEntries zone db).map
              (LedgerEntry.markIf db.sessions.length now fun _ => true))
            ((assignedSession zone now db).toSettling.endedWith .completed now) [],
          .ok (.completed db.sessions.length zone (pendingCount zone db))⟩
      else
        dispatchTransfers env now (assignedSession zone now db).toSettling
          (pendingCount zone db) (plannedTransfers zone db)
          (db.extend (assignedEntries zone db)
            (assignedSession zone now db).toSettling
            (plannedTransfers zone db)) := by
  have assigned : assignPendingEntriesToSession (openedSession zone now db)
      (db.extend db.entries (openedSession zone now db) []) =
        .ok (pendingCount zone db, assignedSession zone now db,
          db.extend (assignedEntries zone db) (assignedSession zone now db) []) :=
    assignPendingEntriesToSession_extend wellFormed rfl rfl fit
  have netted : runNetting (assignedSession zone now db)
      (db.extend (assignedEntries zone db) (assignedSession zone now db) []) =
        .ok (plannedTransfers zone db, (assignedSession zone now db).toSettling,
          db.extend (assignedEntries zone db)
            (assignedSession zone now db).toSettling (plannedTransfers zone db)) :=
    runNetting_extend wellFormed rfl rfl fit.2
  simp only [settleSession]
  simp only [assigned, netted, something, if_false]
  by_cases noTransfers : (plannedTransfers zone db).isEmpty = true
  · have none : plannedTransfers zone db = [] := List.isEmpty_iff.mp noTransfers
    have shape : (db.extend
        ((assignedEntries zone db).map
          (LedgerEntry.markIf db.sessions.length now fun _ => true))
        (assignedSession zone now db).toSettling []).updateSession
          (assignedSession zone now db).toSettling.id
          (SettlementSession.endedWith .completed now) =
        db.extend
          ((assignedEntries zone db).map
            (LedgerEntry.markIf db.sessions.length now fun _ => true))
          ((assignedSession zone now db).toSettling.endedWith .completed now) [] :=
      LedgerDb.updateSession_extend wellFormed _ _ rfl _
    rw [if_pos noTransfers, if_pos noTransfers, none, ← shape]
    rfl
  · rw [if_neg noTransfers, if_neg noTransfers]

/-- Whether the run closes its session. -/
def SettlesCleanly (env : SettlementEnv) (zone : Zone) (db : LedgerDb) : Prop :=
  TotalsFit zone db ∧
    (plannedTransfers zone db ≠ [] →
      DispatchOutcome.Recorded env.runtime (plannedOutcome env zone db))

include wellFormed known idle in
/-- A clean run closes its session. -/
theorem runSettlementSession_closes
    (clean : SettlesCleanly env zone db)
    (answered : plannedTransfers zone db ≠ [] →
      (plannedOutcome env zone db).AnswersEach
        ((plannedTransfers zone db).map (transferRequest env zone))) :
    ∃ (row : SettlementSession) (made : List SettlementTransfer)
        (report : SettlementReport),
      (runSettlementSession env now text db).outcome = .ok report ∧
      Closes db zone now row made (runSettlementSession env now text db).db ∧
      (DispatchOutcome.Succeeded (plannedOutcome env zone db) →
        ∀ transfer ∈ made, transfer.status = .completed) := by
  rw [runSettlementSession_idle now known idle]
  rcases clean with ⟨fit, recorded⟩
  by_cases nothing : pendingCount zone db = 0
  · rw [settleSession_nothing wellFormed now fit nothing]
    have closed : Closes db zone now
        ((assignedSession zone now db).endedWith .completed now) []
        (db.extend (assignedEntries zone db)
          ((assignedSession zone now db).endedWith .completed now) []) := by
      rw [assignedEntries, ← markIf_without_pending wellFormed nothing now
        fun _ => true]
      exact closes_without_transfers now rfl rfl rfl
        (plannedTransfers_without_pending nothing)
    exact ⟨_, [], _, rfl, closed, fun _ _ member => nomatch member⟩
  · rw [settleSession_netted wellFormed now fit nothing]
    by_cases noTransfers : plannedTransfers zone db = []
    · rw [if_pos (by simp [noTransfers])]
      exact ⟨_, [], _, rfl, closes_without_transfers now rfl rfl rfl noTransfers,
        fun _ _ member => nomatch member⟩
    · rw [if_neg (by simpa using noTransfers)]
      rcases dispatchTransfers_closes wellFormed
        (assignedSession zone now db).toSettling rfl rfl
        (owns_plannedTransfers zone db) (assignedEntries zone db)
        (pendingCount zone db) now (answered noTransfers) (recorded noTransfers)
        with ⟨made, ⟨report, shape⟩, ended, succeeded⟩
      rw [shape]
      exact ⟨_, made, report, rfl, ⟨rfl, rfl, rfl, rfl, ended⟩, succeeded⟩

include wellFormed known idle in
/-- Any other run ends with an exception and leaves its session active. -/
theorem runSettlementSession_strands
    (unclean : ¬ SettlesCleanly env zone db)
    (answered : ∀ results, plannedOutcome env zone db = .returned results →
      (plannedOutcome env zone db).AnswersEach
        ((plannedTransfers zone db).map (transferRequest env zone))) :
    ∃ (entries : List LedgerEntry) (row : SettlementSession)
        (made : List SettlementTransfer) (error : TaskError),
      runSettlementSession env now text db =
        ⟨db.extend entries row made, .error error⟩ ∧
      row.id = db.sessions.length ∧ row.zone = zone ∧
        row.status.isActive = true := by
  rw [runSettlementSession_idle now known idle]
  by_cases fit : TotalsFit zone db
  · have transfers : plannedTransfers zone db ≠ [] := by
      intro noTransfers
      exact unclean ⟨fit, fun some => absurd noTransfers some⟩
    have something : pendingCount zone db ≠ 0 := fun nothing =>
      transfers (plannedTransfers_without_pending nothing)
    have unrecorded : ¬ DispatchOutcome.Recorded env.runtime
        (plannedOutcome env zone db) :=
      fun recorded => unclean ⟨fit, fun _ => recorded⟩
    rw [settleSession_netted wellFormed now fit something,
      if_neg (by simpa using transfers)]
    rcases dispatchTransfers_strands wellFormed
      (assignedSession zone now db).toSettling
      (owns_plannedTransfers zone db) (assignedEntries zone db)
      (pendingCount zone db) now answered unrecorded
      with ⟨saved, error, shape⟩
    exact ⟨_, _, saved, error, shape, rfl, rfl, rfl⟩
  · rcases assignPendingEntriesToSession_overflow db (openedSession zone now db)
      rfl fit with ⟨error, shape⟩
    refine ⟨db.entries, openedSession zone now db, [], .ledger error, ?_,
      rfl, rfl, rfl⟩
    simp only [settleSession]
    rw [shape]

end Run

end Klik.Ledger
