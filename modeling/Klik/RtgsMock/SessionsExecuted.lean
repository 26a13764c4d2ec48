import Klik.Ledger.SessionEntries
import Klik.RtgsMock.TransfersExecuted

/-!
# Sessions and what the mock carried out

What the mock has carried out for a completed session are the transfers of the
session, each once, and every bank is left with what the entries of the session
are worth.
-/

namespace Klik.RtgsMock

open Klik.Banks
open Klik.Common
open Klik.Ledger
open Klik.Ledger.Rtgs
open Klik.Lib

/-! ## Completed transfers -/

/-- Every transfer of a completed session which went to the mock is
completed. -/
def RowsCompleted (settlement : SettlementState) : Prop :=
  ∀ session ∈ settlement.db.sessions, (mockSystemOf session.zone).isSome = true →
    session.status = .completed → ∀ row ∈ settlement.db.transfers,
      row.session = session.id → row.status = .completed

/-- A result which is not a completed transfer raises the flag. -/
theorem completed_of_flag
    {sessionId : Uuid} {now : Instant} {results : List (Uuid × SettlementTransferStatus)}
    {start : LedgerDb × Bool}
    (quiet : (results.foldl (applyResult sessionId now) start).2 = false) :
    start.2 = false ∧ ∀ result ∈ results, result.2 = .completed := by
  induction results generalizing start with
  | nil => exact ⟨quiet, fun _ member => absurd member List.not_mem_nil⟩
  | cons result rest induction =>
      rcases induction quiet with ⟨flag, later⟩
      have first : start.2 = false ∧ result.2 = .completed := by
        simp only [applyResult] at flag
        split at flag
        · cases flag
        · split at flag
          · rename_i completed
            exact ⟨flag, completed⟩
          · cases flag
      refine ⟨first.1, ?_⟩
      intro other member
      rcases List.mem_cons.mp member with rfl | rest
      · exact first.2
      · exact later other rest

section Rows

variable {context : RtgsContext} {state : RtgsState}

/-- The zone of the transfers of a session. -/
theorem transferZone_of_session
    (held : TransfersHeld state.settlement) (owned : SessionsOwned state.settlement)
    {session : SettlementSession} (member : session ∈ state.settlement.db.sessions)
    {row : SettlementTransfer} (rowMember : row ∈ state.settlement.db.transfers)
    (own : row.session = session.id) : transferZone row = session.zone := by
  rcases held.zoned row rowMember with ⟨zone, here, currency⟩
  rw [own] at here
  rw [transferZone, currency, currencyZone_zoneCurrency]
  exact here.unique owned.nodup ⟨session, member, rfl, rfl⟩

/-- A task which completes its session has completed the transfers. -/
theorem completed_of_marked
    (held : TransfersHeld state.settlement) (told : TransfersTold context state)
    {session final : SettlementSession} {now : Instant}
    {results : InsertionDict Uuid SettlementTransferStatus} {after : LedgerDb}
    (going : .marking session results ∈ state.settlement.tasks)
    (behind : (mockSystemOf session.zone).isSome = true)
    (marked : markSettled session results now state.settlement.db = .ok (final, after))
    (quiet : (results.foldl (applyResult session.id now) (state.settlement.db, false)).2 =
      false)
    {row : SettlementTransfer} (rowMember : row ∈ after.transfers)
    (own : row.session = session.id) : row.status = .completed := by
  have distinct : results.keys.Nodup := held.lists _ going
  rw [transfers_of_markSettled distinct held.nodup marked] at rowMember
  rcases List.mem_map.mp rowMember with ⟨before, beforeMember, rfl⟩
  have sameSession : before.session = session.id := by
    have terms := congrArg SettlementTransfer.session
      (terms_markRow session.id now results before)
    exact terms.symm.trans own
  have all {status : SettlementTransferStatus} (known : results.get? before.id = some status) :
      status = .completed := by
    rw [InsertionDict.get?_eq_some_iff distinct] at known
    exact (completed_of_flag quiet).2 _ known
  rcases result_of_marking held told going behind beforeMember sameSession with
    ⟨result, _, _, status⟩ | ⟨_, _, status⟩
  · rw [markRow_completed sameSession (all status ▸ status)]
  · cases all status

/-- A step of a task keeps the transfers of completed sessions completed. -/
theorem RowsCompleted.step
    (held : TransfersHeld state.settlement) (owned : SessionsOwned state.settlement)
    (told : TransfersTold context state) (rows : RowsCompleted state.settlement)
    {action : SettlementAction} {settlement : SettlementState}
    (move : SettlementMove context.runtime state.settlement action settlement) :
    RowsCompleted settlement := by
  have later : TransfersHeld settlement := held.step owned move
  have laterOwned : SessionsOwned settlement := owned.step move
  cases move with
  | ignored | called | reached | lost | booked => exact rows
  | advanced place input stage going ready =>
      have here := List.mem_of_getElem? going
      have sessions := sessionsEffect context.runtime input state.settlement.db stage
      have terms := termsEffect context.runtime input held.nodup (held.lists stage here)
      intro session member behind completed row rowMember own
      by_cases mine : session.id ∈ stage.ownedIds
      · rcases mem_ownedIds.mp mine with ⟨object, owner, id⟩
        rcases completes_cases owned going input owner member id.symm completed with
          rfl | ⟨results, final, after, rfl, marked⟩
        · have none : state.settlement.db.termsIn object.id = [] := held.lists _ here
          have listed : row.terms ∈ state.settlement.db.termsIn object.id :=
            mem_termsIn.mpr ⟨row, rowMember, own.trans id.symm, rfl⟩
          rw [none] at listed
          cases listed
        · have zone : object.zone = session.zone :=
            SessionIn.unique laterOwned.nodup
              (sessions.sessionIn (held.tasks _ here object rfl)) ⟨session, member, id.symm, rfl⟩
          have placed := member
          simp only [SettlementState.advanced, stageStep, marked] at placed rowMember
          exact completed_of_marked held told here (zone ▸ behind) marked
            (completed_of_markSettled marked placed id.symm completed).1 rowMember
            (own.trans id.symm)
      · have before : session ∈ state.settlement.db.sessions :=
          sessions.mem_other member (by rw [completed]; rfl) mine
        have listed : row.terms ∈ LedgerDb.termsIn
            (stageStep context.runtime input state.settlement.db stage).1 session.id :=
          mem_termsIn.mpr ⟨row, rowMember, own, rfl⟩
        rw [terms.termsIn_other mine] at listed
        rcases mem_termsIn.mp listed with ⟨old, oldMember, oldSession, same⟩
        have done := rows session before behind completed old oldMember oldSession
        have onMock : OnMock old := by
          rw [OnMock, transferZone_of_session held owned before oldMember oldSession]
          exact behind
        have stays := marked_of_stageStep held owned told here input oldMember onMock
          (by rw [done]; decide)
        rw [later.row_unique rowMember stays (congrArg SettlementTransfer.id same).symm]
        exact done

theorem rowsCompleted_of_reachable (reached : (rtgsSystem context).Reachable state) :
    RowsCompleted state.settlement := by
  apply reached.invariant
  · intro start isStart session member
    rw [isStart.settlement.sessions] at member
    cases member
  · intro source label target before rows move
    rcases held_of_reachable before with ⟨owned, held⟩
    rcases (rtgsMove_of_step move).settlement with same | ⟨step, moved⟩
    · rw [same]
      exact rows
    · exact rows.step held owned (told_of_reachable before) moved

theorem sessionsNetted_of_reachable (reached : (rtgsSystem context).Reachable state) :
    EntriesHeld state.settlement ∧ SessionsNetted state.settlement := by
  apply reached.invariant
  · intro start isStart
    exact ⟨.start isStart.settlement, .start isStart.settlement⟩
  · intro source label target before known move
    rcases held_of_reachable before with ⟨owned, held⟩
    rcases (rtgsMove_of_step move).settlement with same | ⟨step, moved⟩
    · rw [same]
      exact known
    · exact ⟨known.1.step moved, known.2.step owned held known.1 moved⟩

/-! ## Executions of a session -/

/-- A completed transfer as it was carried out. -/
def executionOf (context : RtgsContext) (system : MockSystem) (row : SettlementTransfer) :
    Execution where
  system := system
  request := payloadOf context row
  reference := row.rtgsReference

/-- What the mock has carried out for a session. -/
def RtgsState.executedFor (state : RtgsState) (sessionId : Uuid) : List Execution :=
  state.executed.filter fun execution => execution.request.sessionId = sessionId

/-- The payment which was carried out, between the banks as they are named. -/
def Execution.payment (execution : Execution) : Shipment PyStr PyStr Decimal :=
  ⟨execution.request.fromBank, execution.request.toBank, execution.request.amount⟩

/-- Nothing is carried out twice. -/
theorem executed_nodup (reached : (rtgsSystem context).Reachable state) :
    state.executed.Nodup := by
  rw [List.nodup_iff_count_le_one]
  intro execution
  by_cases done : execution ∈ state.executed
  · rcases row_of_executed reached done with ⟨row, _, _, request, once⟩
    have own : decide (execution.request.transferId = row.id) = true := by
      rw [request]
      exact decide_eq_true rfl
    have counted : (state.executionsOf row.id).count execution =
        state.executed.count execution :=
      List.count_filter own
    rw [← counted, once]
    exact le_of_eq List.count_singleton_self
  · rw [List.count_eq_zero_of_not_mem done]
    exact Nat.zero_le 1

/-- The executions for a completed session are those of its transfers. -/
theorem mem_executedFor
    (reached : (rtgsSystem context).Reachable state) {session : SettlementSession}
    (member : session ∈ state.settlement.db.sessions) {system : MockSystem}
    (behind : mockSystemOf session.zone = some system)
    (completed : session.status = .completed) (execution : Execution) :
    execution ∈ state.executedFor session.id ↔
      execution ∈ (state.settlement.db.transfersIn session.id).map
        (executionOf context system) := by
  rcases held_of_reachable reached with ⟨owned, held⟩
  have onMock : (mockSystemOf session.zone).isSome = true := by
    rw [behind]
    rfl
  -- a transfer of the session is completed, and was carried out as it is in its row
  have carried {row : SettlementTransfer} (rowMember : row ∈ state.settlement.db.transfers)
      (own : row.session = session.id) :
      state.executionsOf row.id = [executionOf context system row] :=
    executionsOf_completed reached rowMember
      (by rw [transferZone_of_session held owned member rowMember own, behind])
      (rowsCompleted_of_reachable reached session member onMock completed row rowMember own)
  simp only [RtgsState.executedFor, LedgerDb.transfersIn, List.mem_filter, List.mem_map,
    decide_eq_true_eq]
  constructor
  · rintro ⟨done, own⟩
    rcases row_of_executed reached done with ⟨row, rowMember, _, request, once⟩
    have rowOwn : row.session = session.id := by
      rw [request] at own
      exact own
    rw [carried rowMember rowOwn, List.cons.injEq] at once
    exact ⟨row, ⟨rowMember, rowOwn⟩, once.1⟩
  · rintro ⟨row, ⟨rowMember, own⟩, rfl⟩
    have here : executionOf context system row ∈ state.executionsOf row.id :=
      carried rowMember own ▸ List.mem_singleton_self _
    exact ⟨(List.mem_filter.mp here).1, own⟩

/-- What the mock has carried out for a completed session are its transfers,
each once and with the reference of its row. -/
theorem executedFor_perm
    (reached : (rtgsSystem context).Reachable state) {session : SettlementSession}
    (member : session ∈ state.settlement.db.sessions) {system : MockSystem}
    (behind : mockSystemOf session.zone = some system)
    (completed : session.status = .completed) :
    (state.executedFor session.id).Perm
      ((state.settlement.db.transfersIn session.id).map (executionOf context system)) := by
  rcases held_of_reachable reached with ⟨owned, held⟩
  refine (List.perm_ext_iff_of_nodup ((executed_nodup reached).filter _) ?_).mpr
    (mem_executedFor reached member behind completed)
  apply List.Nodup.map_on
  · intro row rowMember other otherMember same
    exact held.row_unique (List.mem_filter.mp rowMember).1 (List.mem_filter.mp otherMember).1
      (congrArg (fun execution => execution.request.transferId) same)
  · exact (List.Nodup.of_map _ held.nodup).filter _

end Rows

/-- Once a session is completed, the mock has carried out its transfers, each
once and with the reference of its row, and nothing else for it.  The money
which this has moved leaves every bank with what the entries of the session are
worth, and all these entries are settled. -/
theorem completed_session_paid
    (context : RtgsContext) (state : RtgsState)
    (reached : (rtgsSystem context).Reachable state) (session : SettlementSession)
    (member : session ∈ state.settlement.db.sessions) (system : MockSystem)
    (behind : mockSystemOf session.zone = some system)
    (completed : session.status = .completed) :
    (state.executedFor session.id).Perm
        ((state.settlement.db.transfersIn session.id).map (executionOf context system)) ∧
      (∀ entry ∈ state.settlement.db.entries,
        entry.session = some session.id → entry.settled = true) ∧
      ∀ name,
        netInflow ((state.executedFor session.id).map Execution.payment) name =
          netInflow ((state.settlement.db.entriesIn session.id).map fun entry =>
            entry.payment.renamed fun bank => (context.bankOf bank).name) name := by
  rcases (sessionsNetted_of_reachable reached).2.completed session member completed with
    ⟨nets, settled⟩
  have carried := executedFor_perm reached member behind completed
  refine ⟨carried, settled, fun name => ?_⟩
  have worth := netInflow_renamed_congr nets (fun bank => (context.bankOf bank).name) name
  rw [payments_termsIn, List.map_map, LedgerDb.paymentsIn, List.map_map] at worth
  rw [netInflow_perm (carried.map Execution.payment), List.map_map]
  exact worth

/-- The run in which the only transfer is confirmed. -/
theorem completed_session_paid_confirmed :
    ∃ state,
      TransitionSystem.runLabels (rtgsStep polishRtgs) paymentBooked transferConfirmed =
          some state ∧
        state.settlement.db.entries.map LedgerEntry.settled = [true] ∧
          ∀ name,
            netInflow ((state.executedFor 0).map Execution.payment) name =
              netInflow ((state.settlement.db.entriesIn 0).map fun entry =>
                entry.payment.renamed fun bank => (polishBank bank).name) name := by
  have shown : (TransitionSystem.runLabels (rtgsStep polishRtgs) paymentBooked
      transferConfirmed).map (fun state =>
        (state.settlement.db.entries.map LedgerEntry.settled,
          state.settlement.db.sessions.map fun row => (row.id, row.zone, row.status))) =
        some ([true], [(0, .PL, .completed)]) := by
    decide +kernel
  rcases Option.map_eq_some_iff.mp shown with ⟨state, run, results⟩
  refine ⟨state, run, congrArg Prod.fst results, ?_⟩
  have sessions : state.settlement.db.sessions.map (fun row => (row.id, row.zone, row.status)) =
      [(0, .PL, .completed)] := congrArg Prod.snd results
  have listed : (0, Zone.PL, SettlementSessionStatus.completed) ∈
      state.settlement.db.sessions.map fun row => (row.id, row.zone, row.status) :=
    sessions ▸ List.mem_singleton_self _
  rcases List.mem_map.mp listed with ⟨session, member, same⟩
  have behind : mockSystemOf session.zone = some .sorbnet3 := by
    rw [show session.zone = .PL from congrArg (fun shown => shown.2.1) same]
    rfl
  have paid := (completed_session_paid polishRtgs state
    (TransitionSystem.reachable_of_runLabels paymentBooked_start run) session member .sorbnet3
    behind (congrArg (fun shown => shown.2.2) same)).2.2
  rw [show session.id = 0 from congrArg Prod.fst same] at paid
  exact paid

end Klik.RtgsMock
