import Klik.Ledger.SettlementRuns
import Klik.Lib.InFlight
import Klik.Lib.TransitionSystem

/-!
# Settlement tasks side by side

Any number of `run_settlement_session` tasks, with other operations booking
entries between their steps.  A statement sees the rows which are committed
when it starts, and what a transaction has written is seen by the others when
it commits, so that a task is cut where its statements and commits are.  The
`UPDATE` of `assign_pending_entries_to_session` comes to its rows one by one:
it waits while another task has the row locked, and then looks at the row
again.  All other updates of a task are of rows of its own session.
-/

namespace Klik.Ledger

open Klik.Common
open Klik.Ledger.Rtgs
open Klik.Lib

/-! ## Rows -/

/-- Places of the rows which a statement selects. -/
def rowsWhere (selected : LedgerEntry → Bool) (entries : List LedgerEntry) : List Nat :=
  (List.range entries.length).filter fun row => entries[row]?.any selected

/-- Whether the row at a place satisfies a filter. -/
def rowIs (selected : LedgerEntry → Bool) (row : Nat) (entries : List LedgerEntry) :
    Bool :=
  entries[row]?.any selected

/-- The session column of the rows which an `UPDATE` has taken is set. -/
def assignRows (sessionId : Uuid) (taken : List Nat) (entries : List LedgerEntry) :
    List LedgerEntry :=
  entries.mapIdx fun row entry =>
    if row ∈ taken then { entry with session := some sessionId } else entry

/-! ## One task -/

/-- Where a task is: what its next statement or commit works on. -/
inductive SettlementStage where
  /-- `create_session` has found no active session of the zone among the
  `known` sessions which were committed. -/
  | inserting (zone : Zone) (known : Nat)
  | assigning (session : SettlementSession)
  | aggregated (session : SettlementSession) (count : Nat) (total : Decimal)
  /-- The `UPDATE` has yet to come to the rows `ahead` of its snapshot, and
  has locked and changed the rows `taken`. -/
  | updating (session : SettlementSession) (count : Nat) (total : Decimal)
      (ahead taken : List Nat)
  | netting (session : SettlementSession)
  | writing (session : SettlementSession) (entries : List LedgerEntry)
  | settlingAll (session : SettlementSession)
  | closing (session : SettlementSession)
  | dispatching (session : SettlementSession) (transfers : List SettlementTransfer)
  | saving (session : SettlementSession) (transfers : List SettlementTransfer)
      (results ahead : List TransferResult)
  | marking (session : SettlementSession)
      (results : InsertionDict Uuid SettlementTransferStatus)

/-- The session object of a task. -/
def SettlementStage.owned : SettlementStage → Option SettlementSession
  | .inserting _ _ => none
  | .assigning session
  | .aggregated session _ _
  | .updating session _ _ _ _
  | .netting session
  | .writing session _
  | .settlingAll session
  | .closing session
  | .dispatching session _
  | .saving session _ _ _
  | .marking session _ => some session

/-- Rows which the `UPDATE` of a task has yet to come to. -/
def SettlementStage.ahead : SettlementStage → List Nat
  | .updating _ _ _ ahead _ => ahead
  | _ => []

/-- Rows which a task has locked and other tasks may wait for. -/
def SettlementStage.locked : SettlementStage → List Nat
  | .updating _ _ _ _ taken => taken
  | _ => []

/-- The `UPDATE` has got the lock of a row and looks at it again. -/
def SettlementStage.reach (row : Nat) (entries : List LedgerEntry) :
    SettlementStage → SettlementStage
  | .updating session count total ahead taken =>
      .updating session count total (ahead.erase row)
        (if rowIs (LedgerEntry.isPending session.zone) row entries then
          taken ++ [row]
        else taken)
  | stage => stage

/-- What a step takes from outside: the clock, and the answer of the RTGS
systems. -/
structure StepInput where
  now : Instant
  outcome : DispatchOutcome

/-- The dictionary with which an unavailable system is reported. -/
def allFailed (transfers : List SettlementTransfer) :
    InsertionDict Uuid SettlementTransferStatus :=
  transfers.foldl
    (fun dict transfer => dict.set transfer.id SettlementTransferStatus.failed) []

/-- The next statement or commit of a task: the committed tables, and where
the task is after it.  An exception ends the task and rolls back. -/
def stageStep (runtime : PyRuntime) (input : StepInput) (db : LedgerDb) :
    SettlementStage → LedgerDb × Option SettlementStage
  | .inserting zone _ =>
      let session := openedSession zone input.now db
      ({ db with sessions := db.sessions ++ [session] }, some (.assigning session))
  | .assigning session =>
      if session.status ≠ .opened then (db, none)
      else
        let pending := db.entries.filter (LedgerEntry.isPending session.zone)
        (db, some (.aggregated session pending.length
          (pending.map LedgerEntry.amount).sum))
  | .aggregated session count total =>
      (db, some (.updating session count total
        (rowsWhere (LedgerEntry.isPending session.zone) db.entries) []))
  | .updating session count total _ taken =>
      if 2147483647 < count ∨ fitsVolume total = false then (db, none)
      else
        let change := SettlementSession.withTotals count total
        let assigned :=
          { db with entries := assignRows session.id taken db.entries }
        (assigned.updateSession session.id change,
          some (if taken.isEmpty then .closing (change session)
            else .netting (change session)))
  | .netting session =>
      if session.status ≠ .netting then (db, none)
      else
        (db, some (.writing session (openEntries session.id db.entries)))
  | .writing session entries =>
      let netResults := netObligations (entries.map LedgerEntry.obligation)
      match createTransfers session db.transfers.length netResults with
      | .error _ => (db, none)
      | .ok transfers =>
          let change := SettlementSession.toSettling
          let created := { db with transfers := db.transfers ++ transfers }
          (created.updateSession session.id change,
            some (if transfers.isEmpty then .settlingAll (change session)
              else .dispatching (change session) transfers))
  | .settlingAll session =>
      ({ db with
          entries := db.entries.map
            (LedgerEntry.markIf session.id input.now fun _ => true) },
        some (.closing session))
  | .closing session =>
      (db.updateSession session.id (SettlementSession.endedWith .completed input.now),
        none)
  | .dispatching session transfers =>
      match input.outcome with
      | .raised => (db, none)
      | .unavailable _ _ => (db, some (.marking session (allFailed transfers)))
      | .returned results => (db, some (.saving session transfers results results))
  | .saving session _ results [] =>
      (db, some (.marking session (transferResults results)))
  | .saving session transfers results (result :: ahead) =>
      match saveResult runtime transfers db result with
      | .error _ => (db, none)
      | .ok db => (db, some (.saving session transfers results ahead))
  | .marking session results =>
      match markSettled session results input.now db with
      | .error _ => (db, none)
      | .ok (_, db) => (db, none)

/-! ## All tasks -/

/-- The entries which one netting has read, by their places in the table. -/
structure NettingInput where
  session : Uuid
  rows : List Nat
deriving DecidableEq, Repr

/-- What the next step of a task reads for its netting. -/
def SettlementStage.reads (entries : List LedgerEntry) :
    SettlementStage → List NettingInput
  | .netting session =>
      if session.status ≠ .netting then []
      else [⟨session.id, rowsWhere (LedgerEntry.isOpenIn session.id) entries⟩]
  | _ => []

/-- The committed tables, the tasks under way, and the inputs of all nettings
in the order in which they were read. -/
structure SettlementState where
  db : LedgerDb
  tasks : List SettlementStage
  inputs : List NettingInput

/-- Rows which are locked by some task. -/
def SettlementState.locked (state : SettlementState) : List Nat :=
  state.tasks.flatMap SettlementStage.locked

inductive SettlementAction where
  /-- Beat or an operator calls the task, which looks for an active session. -/
  | call (zone : PyStr)
  /-- The `UPDATE` of a task comes to one of its rows. -/
  | reach (place row : Nat)
  /-- The next statement or commit of a task. -/
  | advance (place : Nat) (input : StepInput)
  /-- A task is lost, and its transaction is rolled back. -/
  | lose (place : Nat)
  /-- Another operation books entries. -/
  | book (drafts : List EntryDraft)

/-- The state after a task was called. -/
def SettlementState.called (zoneText : PyStr) (state : SettlementState) :
    SettlementState :=
  match zoneOfText zoneText with
  | none => state
  | some zone =>
      if state.db.sessions.any fun row => row.zone = zone && row.status.isActive then
        state
      else
        { state with
          tasks := state.tasks ++ [.inserting zone state.db.sessions.length] }

/-- The state after the next step of the task `stage` at `place`. -/
def SettlementState.advanced
    (runtime : PyRuntime) (place : Nat) (stage : SettlementStage) (input : StepInput)
    (state : SettlementState) : SettlementState where
  db := (stageStep runtime input state.db stage).1
  tasks := moveOn place (stageStep runtime input state.db stage).2 state.tasks
  inputs := state.inputs ++ stage.reads state.db.entries

/-- The state after other operations have booked entries. -/
def SettlementState.booked (drafts : List EntryDraft) (state : SettlementState) :
    SettlementState :=
  match createEntries drafts with
  | .error _ => state
  | .ok created =>
      { state with db := { state.db with entries := state.db.entries ++ created } }

/-- One step, where it is possible. -/
def settlementStep (runtime : PyRuntime) (state : SettlementState) :
    SettlementAction → Option SettlementState
  | .call zoneText => some (state.called zoneText)
  | .reach place row =>
      match state.tasks[place]? with
      | none => none
      | some stage =>
          if row ∈ stage.ahead ∧ row ∉ state.locked then
            some { state with
              tasks := moveOn place (some (stage.reach row state.db.entries))
                state.tasks }
          else none
  | .advance place input =>
      match state.tasks[place]? with
      | none => none
      | some stage =>
          if stage.ahead = [] then some (state.advanced runtime place stage input)
          else none
  | .lose place =>
      match state.tasks[place]? with
      | none => none
      | some _ => some { state with tasks := moveOn place none state.tasks }
  | .book drafts => some (state.booked drafts)

/-- Before any task, with entries which wait for their first session. -/
structure SettlementState.IsStart (state : SettlementState) : Prop where
  tasks : state.tasks = []
  inputs : state.inputs = []
  sessions : state.db.sessions = []
  transfers : state.db.transfers = []
  entries : ∀ entry ∈ state.db.entries,
    entry.session = none ∧ entry.settled = false ∧ entry.settledAt = none

def settlementSystem (runtime : PyRuntime) :
    TransitionSystem SettlementState SettlementAction :=
  .ofStep SettlementState.IsStart (settlementStep runtime)

/-! ## What a step can do -/

inductive SettlementMove (runtime : PyRuntime) (state : SettlementState) :
    SettlementAction → SettlementState → Prop where
  | ignored (action : SettlementAction)
      (other : ∀ place input, action ≠ .advance place input) :
      SettlementMove runtime state action state
  | called (zoneText : PyStr) (zone : Zone)
      (idle : ZoneIdle zone state.db) :
      SettlementMove runtime state (.call zoneText)
        { state with
          tasks := state.tasks ++ [.inserting zone state.db.sessions.length] }
  | reached (place row : Nat) (stage : SettlementStage)
      (going : state.tasks[place]? = some stage)
      (ahead : row ∈ stage.ahead)
      (free : row ∉ state.locked) :
      SettlementMove runtime state (.reach place row)
        { state with
          tasks := moveOn place (some (stage.reach row state.db.entries))
            state.tasks }
  | advanced (place : Nat) (input : StepInput) (stage : SettlementStage)
      (going : state.tasks[place]? = some stage)
      (ready : stage.ahead = []) :
      SettlementMove runtime state (.advance place input)
        (state.advanced runtime place stage input)
  | lost (place : Nat) (stage : SettlementStage)
      (going : state.tasks[place]? = some stage) :
      SettlementMove runtime state (.lose place)
        { state with tasks := moveOn place none state.tasks }
  | booked (drafts : List EntryDraft) :
      SettlementMove runtime state (.book drafts)
        { state with
          db := { state.db with
            entries := state.db.entries ++ drafts.map EntryDraft.row } }

theorem settlementMove_of_step
    {runtime : PyRuntime} {state after : SettlementState} {action : SettlementAction}
    (moved : settlementStep runtime state action = some after) :
    SettlementMove runtime state action after := by
  cases action with
  | call zoneText =>
      cases moved
      simp only [SettlementState.called]
      split
      · exact .ignored _ nofun
      · rename_i zone _
        split
        · exact .ignored _ nofun
        · rename_i unused
          apply SettlementMove.called zoneText zone
          intro row member active
          apply unused
          rw [List.any_eq_true]
          exact ⟨row, member, by simp [active]⟩
  | reach place row =>
      simp only [settlementStep] at moved
      split at moved
      · cases moved
      · rename_i stage going
        split at moved
        · rename_i possible
          cases moved
          exact .reached place row stage going possible.1 possible.2
        · cases moved
  | advance place input =>
      simp only [settlementStep] at moved
      split at moved
      · cases moved
      · rename_i stage going
        split at moved
        · rename_i ready
          cases moved
          exact .advanced place input stage going ready
        · cases moved
  | lose place =>
      simp only [settlementStep] at moved
      split at moved
      · cases moved
      · rename_i stage going
        cases moved
        exact .lost place stage going
  | book drafts =>
      cases moved
      simp only [SettlementState.booked]
      split
      · exact .ignored _ nofun
      · rename_i created made
        rw [(createEntries_ok made).1]
        exact .booked drafts

@[simp]
theorem owned_reach (row : Nat) (entries : List LedgerEntry) (stage : SettlementStage) :
    (stage.reach row entries).owned = stage.owned := by
  cases stage <;> rfl

end Klik.Ledger
