import Klik.Ledger.NettedOnce

/-!
# A settlement task alone

A task whose statements and commits follow each other without interruption
leaves the tables as `run_settlement_session` does: the cut into steps agrees
with the task as it is written.
-/

namespace Klik.Ledger

open Klik.Common
open Klik.Ledger.Rtgs
open Klik.Lib

/-- A step of the only task. -/
inductive SettlementAction.IsOwn : SettlementAction → Prop where
  | reach (row : Nat) : IsOwn (.reach 0 row)
  | advance (input : StepInput) : IsOwn (.advance 0 input)

/-- Alone, a task which is at a stage comes to an end and leaves the tables. -/
def RunsAlone (runtime : PyRuntime) (db : LedgerDb) (stage : SettlementStage)
    (after : LedgerDb) : Prop :=
  ∀ inputs, ∃ labels later, (∀ label ∈ labels, label.IsOwn) ∧
    TransitionSystem.runLabels (settlementStep runtime) ⟨db, [stage], inputs⟩ labels =
      some ⟨after, [], inputs ++ later⟩

section Alone

variable {runtime : PyRuntime} {db after : LedgerDb} {stage : SettlementStage}

/-- The next statement or commit of the task. -/
theorem RunsAlone.advance
    {next : SettlementStage} {between : LedgerDb} (input : StepInput)
    (ready : stage.ahead = [])
    (moved : stageStep runtime input db stage = (between, some next))
    (rest : RunsAlone runtime between next after) :
    RunsAlone runtime db stage after := by
  intro inputs
  rcases rest (inputs ++ stage.reads db.entries) with ⟨labels, later, own, run⟩
  refine ⟨.advance 0 input :: labels, stage.reads db.entries ++ later, ?_, ?_⟩
  · rw [List.forall_mem_cons]
    exact ⟨.advance input, own⟩
  · have first : settlementStep runtime ⟨db, [stage], inputs⟩ (.advance 0 input) =
        some ⟨between, [next], inputs ++ stage.reads db.entries⟩ := by
      simp only [settlementStep, List.getElem?_cons_zero, ready, if_true,
        SettlementState.advanced, moved]
      rfl
    simp only [TransitionSystem.runLabels, first, run, List.append_assoc]

/-- The last statement or commit of the task. -/
theorem RunsAlone.last
    (input : StepInput) (ready : stage.ahead = [])
    (moved : stageStep runtime input db stage = (after, none)) :
    RunsAlone runtime db stage after := by
  intro inputs
  refine ⟨[.advance 0 input], stage.reads db.entries, ?_, ?_⟩
  · rw [List.forall_mem_singleton]
    exact .advance input
  · simp only [TransitionSystem.runLabels, settlementStep, List.getElem?_cons_zero, ready,
      if_true, SettlementState.advanced, moved]
    rfl

/-- The `UPDATE` of the task comes to a row. -/
theorem RunsAlone.reach
    {row : Nat} (ahead : row ∈ stage.ahead) (free : row ∉ stage.locked)
    (rest : RunsAlone runtime db (stage.reach row db.entries) after) :
    RunsAlone runtime db stage after := by
  intro inputs
  rcases rest inputs with ⟨labels, later, own, run⟩
  refine ⟨.reach 0 row :: labels, later, ?_, ?_⟩
  · rw [List.forall_mem_cons]
    exact ⟨.reach row, own⟩
  · have unlocked : row ∉ SettlementState.locked ⟨db, [stage], inputs⟩ := by
      simpa [SettlementState.locked] using free
    have first : settlementStep runtime ⟨db, [stage], inputs⟩ (.reach 0 row) =
        some ⟨db, [stage.reach row db.entries], inputs⟩ := by
      simp only [settlementStep, List.getElem?_cons_zero]
      rw [if_pos ⟨ahead, unlocked⟩]
      rfl
    simp only [TransitionSystem.runLabels, first, run]

end Alone

/-! ## The rows of an `UPDATE` -/

theorem nodup_rowsWhere (selected : LedgerEntry → Bool) (entries : List LedgerEntry) :
    (rowsWhere selected entries).Nodup :=
  List.nodup_range.filter _

/-- A statement selects no row where it selects no entry. -/
theorem rowsWhere_eq_nil {selected : LedgerEntry → Bool} {entries : List LedgerEntry} :
    rowsWhere selected entries = [] ↔ entries.filter selected = [] := by
  rw [List.eq_nil_iff_forall_not_mem, List.filter_eq_nil_iff]
  constructor
  · intro none entry member chosen
    rcases List.getElem?_of_mem member with ⟨row, found⟩
    exact none row (mem_rowsWhere.mpr ⟨entry, found, chosen⟩)
  · intro none row member
    rcases mem_rowsWhere.mp member with ⟨entry, found, chosen⟩
    exact none entry (List.mem_of_getElem? found) chosen

/-- The rows of the snapshot, taken one by one, are the pending entries. -/
theorem assignRows_rowsWhere
    (zone : Zone) (sessionId : Uuid) (entries : List LedgerEntry) :
    assignRows sessionId (rowsWhere (LedgerEntry.isPending zone) entries) entries =
      entries.map (LedgerEntry.assignTo zone sessionId) := by
  apply List.ext_getElem?
  intro row
  rw [getElem?_assignRows, List.getElem?_map]
  cases found : entries[row]? with
  | none => rfl
  | some entry =>
      have selected : row ∈ rowsWhere (LedgerEntry.isPending zone) entries ↔
          entry.isPending zone = true := by
        rw [mem_rowsWhere, found]
        simp
      simp only [Option.map_some, LedgerEntry.assignTo, selected]

section Runs

variable {runtime : PyRuntime} {db after : LedgerDb} {session : SettlementSession}

/-- The `UPDATE` of a task which waits for no other takes its whole
snapshot. -/
theorem RunsAlone.update
    {count : Nat} {total : Decimal} {ahead taken : List Nat}
    (pending : ∀ row ∈ ahead,
      rowIs (LedgerEntry.isPending session.zone) row db.entries = true)
    (once : (taken ++ ahead).Nodup)
    (rest : RunsAlone runtime db
      (.updating session count total [] (taken ++ ahead)) after) :
    RunsAlone runtime db (.updating session count total ahead taken) after := by
  induction ahead generalizing taken with
  | nil => rwa [List.append_nil] at rest
  | cons row ahead induction =>
      apply RunsAlone.reach List.mem_cons_self
      · intro locked
        exact (List.nodup_append.mp once).2.2 row locked row List.mem_cons_self rfl
      · rw [List.forall_mem_cons] at pending
        have reached : SettlementStage.reach row db.entries
            (.updating session count total (row :: ahead) taken) =
              .updating session count total ahead (taken ++ [row]) := by
          simp [SettlementStage.reach, pending.1]
        rw [reached]
        apply induction pending.2
        · rwa [List.append_assoc]
        · rwa [List.append_assoc]

/-! ## The stages -/

/-- The tables after `mark_settled`, which rolls back where it raises. -/
def markedDb (session : SettlementSession)
    (results : InsertionDict Uuid SettlementTransferStatus) (now : Instant)
    (db : LedgerDb) : LedgerDb :=
  match markSettled session results now db with
  | .error _ => db
  | .ok (_, db) => db

theorem runsAlone_marking
    (session : SettlementSession) (results : InsertionDict Uuid SettlementTransferStatus)
    (now : Instant) (db : LedgerDb) :
    RunsAlone runtime db (.marking session results) (markedDb session results now db) := by
  apply RunsAlone.last ⟨now, .raised⟩ rfl
  cases marked : markSettled session results now db with
  | error error => simp only [stageStep, markedDb, marked]
  | ok done => simp only [stageStep, markedDb, marked]

/-- The tables after the rest of the loop over the results and the marking. -/
def savedDb (runtime : PyRuntime) (session : SettlementSession)
    (transfers : List SettlementTransfer) (results ahead : List TransferResult)
    (now : Instant) (db : LedgerDb) : LedgerDb :=
  match saveResults runtime transfers db ahead with
  | (db, some _) => db
  | (db, none) => markedDb session (transferResults results) now db

theorem runsAlone_saving
    (session : SettlementSession) (transfers : List SettlementTransfer)
    (results ahead : List TransferResult) (now : Instant) (db : LedgerDb) :
    RunsAlone runtime db (.saving session transfers results ahead)
      (savedDb runtime session transfers results ahead now db) := by
  induction ahead generalizing db with
  | nil =>
      apply RunsAlone.advance ⟨now, .raised⟩ rfl rfl
      exact runsAlone_marking session (transferResults results) now db
  | cons result ahead induction =>
      cases saved : saveResult runtime transfers db result with
      | error error =>
          apply RunsAlone.last ⟨now, .raised⟩ rfl
          simp only [stageStep, savedDb, saveResults, saved]
      | ok between =>
          have moved : stageStep runtime ⟨now, .raised⟩ db
              (.saving session transfers results (result :: ahead)) =
                (between, some (.saving session transfers results ahead)) := by
            simp only [stageStep, saved]
          apply RunsAlone.advance ⟨now, .raised⟩ rfl moved
          simp only [savedDb, saveResults, saved]
          exact induction between

end Runs

section Task

variable (env : SettlementEnv) (now : Instant)

/-- The tables which dispatch leaves, without the report. -/
theorem dispatchTransfers_db
    (session : SettlementSession) (count : Nat) (transfers : List SettlementTransfer)
    (db : LedgerDb) :
    (dispatchTransfers env now session count transfers db).db =
      match env.dispatch session.zone session.id
          (transfers.map (transferRequest env session.zone)) with
      | .raised => db
      | .unavailable _ _ => markedDb session (allFailed transfers) now db
      | .returned results =>
          savedDb env.runtime session transfers results results now db := by
  simp only [dispatchTransfers]
  cases env.dispatch session.zone session.id
      (transfers.map (transferRequest env session.zone)) with
  | raised => rfl
  | unavailable system reason =>
      simp only [markedDb, allFailed]
      cases markSettled session _ now db <;> rfl
  | returned results =>
      simp only [savedDb, markedDb]
      rcases saveResults env.runtime transfers db results with ⟨saved, _ | error⟩
      · simp only
        cases markSettled session (transferResults results) now saved <;> rfl
      · rfl

theorem runsAlone_dispatching
    (session : SettlementSession) (count : Nat) (transfers : List SettlementTransfer)
    (db : LedgerDb) :
    RunsAlone env.runtime db (.dispatching session transfers)
      (dispatchTransfers env now session count transfers db).db := by
  rw [dispatchTransfers_db]
  cases env.dispatch session.zone session.id
      (transfers.map (transferRequest env session.zone)) with
  | raised => exact RunsAlone.last ⟨now, .raised⟩ rfl rfl
  | unavailable system reason =>
      apply RunsAlone.advance ⟨now, .unavailable system reason⟩ rfl rfl
      exact runsAlone_marking session (allFailed transfers) now db
  | returned results =>
      apply RunsAlone.advance ⟨now, .returned results⟩ rfl rfl
      exact runsAlone_saving session transfers results results now db

/-- The closing of a session whose positions cancel out. -/
theorem runsAlone_settlingAll (session : SettlementSession) (db : LedgerDb) :
    RunsAlone env.runtime db (.settlingAll session)
      (LedgerDb.updateSession
        { db with
          entries := db.entries.map
            (LedgerEntry.markIf session.id now fun _ => true) }
        session.id (SettlementSession.endedWith .completed now)) := by
  apply RunsAlone.advance ⟨now, .raised⟩ rfl rfl
  exact RunsAlone.last ⟨now, .raised⟩ rfl rfl

/-- The tables after the netting and what follows it. -/
def nettedDb (session : SettlementSession) (count : Nat) (db : LedgerDb) : LedgerDb :=
  match runNetting session db with
  | .error _ => db
  | .ok (transfers, session, db) =>
      if transfers.isEmpty then
        LedgerDb.updateSession
          { db with
            entries := db.entries.map
              (LedgerEntry.markIf session.id now fun _ => true) }
          session.id (SettlementSession.endedWith .completed now)
      else (dispatchTransfers env now session count transfers db).db

theorem runsAlone_netting
    (session : SettlementSession) (count : Nat) (db : LedgerDb) :
    RunsAlone env.runtime db (.netting session) (nettedDb env now session count db) := by
  by_cases ready : session.status = .netting
  · have read : stageStep env.runtime ⟨now, .raised⟩ db (.netting session) =
        (db, some (.writing session (openEntries session.id db.entries))) := by
      simp only [stageStep, ready, ne_eq, not_true_eq_false, if_false]
    apply RunsAlone.advance ⟨now, .raised⟩ rfl read
    simp only [nettedDb, runNetting, ready, ne_eq, not_true_eq_false, if_false]
    cases made : createTransfers session db.transfers.length
        (netObligations ((openEntries session.id db.entries).map
          LedgerEntry.obligation)) with
    | error error =>
        apply RunsAlone.last ⟨now, .raised⟩ rfl
        simp only [stageStep, made]
    | ok transfers =>
        cases transfers with
        | nil =>
            apply RunsAlone.advance ⟨now, .raised⟩ rfl
            · simp only [stageStep, made]
              rfl
            · exact runsAlone_settlingAll env now session.toSettling _
        | cons transfer transfers =>
            apply RunsAlone.advance ⟨now, .raised⟩ rfl
            · simp only [stageStep, made]
              rfl
            · exact runsAlone_dispatching env now session.toSettling count
                (transfer :: transfers) _
  · apply RunsAlone.last ⟨now, .raised⟩ rfl
    simp only [stageStep, nettedDb, runNetting, ne_eq, ready, not_false_eq_true, if_true]

/-- The tables which stages 2 to 5 leave, without the report. -/
theorem settleSession_db (session : SettlementSession) (db : LedgerDb) :
    (settleSession env now session db).db =
      match assignPendingEntriesToSession session db with
      | .error _ => db
      | .ok (count, session, db) =>
          if count = 0 then
            db.updateSession session.id (SettlementSession.endedWith .completed now)
          else nettedDb env now session count db := by
  simp only [settleSession, nettedDb]
  rcases assignPendingEntriesToSession session db with error | ⟨count, assigned, db⟩
  · rfl
  · simp only
    split
    · rfl
    · rcases runNetting assigned db with error | ⟨transfers, settling, db⟩
      · rfl
      · simp only
        split <;> rfl

theorem assignPendingEntriesToSession_of_opened
    {session : SettlementSession} (opened : session.status = .opened) (db : LedgerDb) :
    assignPendingEntriesToSession session db =
      if 2147483647 < pendingCount session.zone db then
        .error (.database (.numericOutOfRange "total_entries_count"))
      else if fitsVolume (pendingVolume session.zone db) = false then
        .error (.database (.numericOutOfRange "total_volume"))
      else
        .ok (pendingCount session.zone db,
          session.withTotals (pendingCount session.zone db)
            (pendingVolume session.zone db),
          LedgerDb.updateSession
            { db with
              entries := db.entries.map (LedgerEntry.assignTo session.zone session.id) }
            session.id
            (SettlementSession.withTotals (pendingCount session.zone db)
              (pendingVolume session.zone db))) := by
  simp only [assignPendingEntriesToSession, opened, ne_eq, not_true_eq_false, if_false]
  rfl

/-- The commit of the `UPDATE` which has taken its whole snapshot, and what
follows it. -/
theorem runsAlone_updated
    {session : SettlementSession} (opened : session.status = .opened) (db : LedgerDb) :
    RunsAlone env.runtime db
      (.updating session (pendingCount session.zone db) (pendingVolume session.zone db)
        [] (rowsWhere (LedgerEntry.isPending session.zone) db.entries))
      (settleSession env now session db).db := by
  rw [settleSession_db, assignPendingEntriesToSession_of_opened opened]
  by_cases many : 2147483647 < pendingCount session.zone db
  · rw [if_pos many]
    apply RunsAlone.last ⟨now, .raised⟩ rfl
    simp only [stageStep, many, true_or, if_true]
  · rw [if_neg many]
    by_cases large : fitsVolume (pendingVolume session.zone db) = false
    · rw [if_pos large]
      apply RunsAlone.last ⟨now, .raised⟩ rfl
      simp only [stageStep, large, or_true, if_true]
    · rw [if_neg large]
      have fits : ¬(2147483647 < pendingCount session.zone db ∨
          fitsVolume (pendingVolume session.zone db) = false) := by
        rintro (tooMany | tooLarge)
        · exact many tooMany
        · exact large tooLarge
      have taken : (rowsWhere (LedgerEntry.isPending session.zone) db.entries).isEmpty =
          decide (pendingCount session.zone db = 0) := by
        rw [Bool.eq_iff_iff, List.isEmpty_iff, rowsWhere_eq_nil, decide_eq_true_eq,
          pendingCount, List.length_eq_zero_iff]
      apply RunsAlone.advance ⟨now, .raised⟩ rfl
      · simp only [stageStep]
        rw [if_neg fits, assignRows_rowsWhere, taken]
      · simp only
        by_cases empty : pendingCount session.zone db = 0
        · simp only [empty, decide_true, if_true]
          exact RunsAlone.last ⟨now, .raised⟩ rfl rfl
        · simp only [empty, decide_false, Bool.false_eq_true, if_false]
          exact runsAlone_netting env now _ _ _

theorem runsAlone_assigning (session : SettlementSession) (db : LedgerDb) :
    RunsAlone env.runtime db (.assigning session)
      (settleSession env now session db).db := by
  by_cases opened : session.status = .opened
  · apply RunsAlone.advance ⟨now, .raised⟩ rfl
    · simp only [stageStep, opened, ne_eq, not_true_eq_false, if_false]
      rfl
    · apply RunsAlone.advance ⟨now, .raised⟩ rfl rfl
      apply RunsAlone.update
      · intro row selected
        rcases mem_rowsWhere.mp selected with ⟨entry, found, pending⟩
        simp only [rowIs, found, Option.any_some, pending]
      · exact nodup_rowsWhere _ _
      · exact runsAlone_updated env now opened db
  · apply RunsAlone.last ⟨now, .raised⟩ rfl
    rw [settleSession_db]
    simp only [stageStep, assignPendingEntriesToSession, ne_eq, opened,
      not_false_eq_true, if_true]

/-- A call with no other task in between leaves the tables which
`run_settlement_session` leaves. -/
theorem runSettlementSession_alone (zoneText : PyStr) (db : LedgerDb)
    (inputs : List NettingInput) :
    ∃ labels later, (∀ label ∈ labels, label.IsOwn) ∧
      TransitionSystem.runLabels (settlementStep env.runtime) ⟨db, [], inputs⟩
          (.call zoneText :: labels) =
        some ⟨(runSettlementSession env now zoneText db).db, [], inputs ++ later⟩ := by
  cases named : zoneOfText zoneText with
  | none =>
      refine ⟨[], [], nofun, ?_⟩
      rw [runSettlementSession_unknown env now db named]
      simp [TransitionSystem.runLabels, settlementStep, SettlementState.called, named]
  | some zone =>
      by_cases idle : ZoneIdle zone db
      · have unused : (db.sessions.any fun row =>
            row.zone = zone && row.status.isActive) = false := by
          rw [List.any_eq_false]
          intro row member
          simpa using idle row member
        have called : settlementStep env.runtime ⟨db, [], inputs⟩ (.call zoneText) =
            some ⟨db, [.inserting zone db.sessions.length], inputs⟩ := by
          simp [settlementStep, SettlementState.called, named, unused]
        have alone : RunsAlone env.runtime db (.inserting zone db.sessions.length)
            (runSettlementSession env now zoneText db).db := by
          rw [runSettlementSession_idle now named idle, LedgerDb.extend, List.append_nil]
          apply RunsAlone.advance ⟨now, .raised⟩ rfl rfl
          exact runsAlone_assigning env now (openedSession zone now db) _
        rcases alone inputs with ⟨labels, later, own, run⟩
        refine ⟨labels, later, own, ?_⟩
        simp only [TransitionSystem.runLabels, called, run]
      · have used : (db.sessions.any fun row =>
            row.zone = zone && row.status.isActive) = true := by
          simpa [ZoneIdle] using idle
        refine ⟨[], [], nofun, ?_⟩
        rw [runSettlementSession_busy now named idle]
        simp [TransitionSystem.runLabels, settlementStep, SettlementState.called, named,
          used]

end Task

end Klik.Ledger
