import Klik.RtgsMock.MockTold

/-!
# Transfers and what the mock carried out

A transfer which the ledger has marked as completed was carried out once, with
the reference of its row.  One which is marked as failed was not carried out
and never is, unless its gateway could not learn how the request ended.
-/

namespace Klik.RtgsMock

open Klik.Banks
open Klik.Common
open Klik.Ledger
open Klik.Ledger.Rtgs
open Klik.Lib

/-- The row says that its gateway did not learn how the request ended. -/
def outcomeUnknown (context : RtgsContext) (row : SettlementTransfer) : Bool :=
  row.failureReason = (timeoutReason context.settings.timeoutSeconds).take 255 ||
    (py "Network error: ").isPrefixOf row.failureReason

section Rows

variable {context : RtgsContext} {state after later : RtgsState}
variable {row : SettlementTransfer}

/-! ## Marked rows stay -/

/-- A row which is as it was created, or has its texts, is not marked. -/
theorem HasTexts.pending
    {ended : InsertionDict Uuid HttpOutcome} (texts : HasTexts context ended row) :
    row.status = .pending := by
  rcases texts with ⟨result, _, same⟩
  rw [same]
  rfl

theorem pending_of_fresh (fresh : row = row.terms) : row.status = .pending := by
  rw [fresh]
  rfl

/-- No step of a task changes a row which is marked. -/
theorem marked_of_stageStep
    (held : TransfersHeld state.settlement) (owned : SessionsOwned state.settlement)
    (told : TransfersTold context state)
    {stage : SettlementStage} (member : stage ∈ state.settlement.tasks) (input : StepInput)
    (rowMember : row ∈ state.settlement.db.transfers) (onMock : OnMock row)
    (marked : row.status ≠ .pending) :
    row ∈ (stageStep context.runtime input state.settlement.db stage).1.transfers := by
  have lists := held.lists stage member
  have known := told.tasks stage member
  -- the system of a task which has the row in its session is the mock
  have behind {session : SettlementSession} (owner : stage.owned = some session)
      (own : row.session = session.id) : (mockSystemOf session.zone).isSome = true := by
    rw [← transferZone_of_owned held owned member owner rowMember own]
    exact onMock
  cases stage with
  | inserting zone count => exact rowMember
  | aggregated session count total => exact rowMember
  | settlingAll session => exact rowMember
  | closing session => exact rowMember
  | assigning session
  | updating session count total ahead taken
  | netting session
  | dispatching session transfers =>
      simp only [stageStep]
      split <;> exact rowMember
  | writing session entries =>
      simp only [stageStep]
      split
      · exact rowMember
      · exact List.mem_append_left _ rowMember
  | saving session transfers results ahead =>
      cases ahead with
      | nil => exact rowMember
      | cons result ahead =>
          simp only [stageStep]
          split
          · exact rowMember
          · rename_i saved
            rcases transfers_of_saveResult saved with ⟨_, rfl⟩ | ⟨listed, rfl⟩
            · exact rowMember
            · refine List.mem_map.mpr ⟨row, rowMember, if_neg ?_⟩
              intro here
              rw [← here, show transfers = state.settlement.db.termsIn session.id
                from lists] at listed
              have own := (session_of_listed held rowMember listed).1
              rcases known (behind rfl own) with ⟨_, _, rows⟩
              have fresh := rows row rowMember own
              rw [if_pos (here ▸ List.mem_cons_self)] at fresh
              exact marked (pending_of_fresh fresh)
  | marking session results =>
      simp only [stageStep]
      split
      · exact rowMember
      · rename_i settled
        rw [transfers_of_markSettled lists held.nodup settled]
        refine List.mem_map.mpr ⟨row, rowMember, markRow_of_other ?_ _ _⟩
        intro own
        rcases known (behind rfl own) with ⟨_, _, _, rows⟩ | ⟨_, rows⟩
        · exact marked (rows row rowMember own).pending
        · exact marked (pending_of_fresh (rows row rowMember own).1)

theorem marked_of_settlementMove
    (held : TransfersHeld state.settlement) (owned : SessionsOwned state.settlement)
    (told : TransfersTold context state)
    {action : SettlementAction} {settlement : SettlementState}
    (move : SettlementMove context.runtime state.settlement action settlement)
    (rowMember : row ∈ state.settlement.db.transfers) (onMock : OnMock row)
    (marked : row.status ≠ .pending) : row ∈ settlement.db.transfers := by
  cases move with
  | advanced place input stage going ready =>
      exact marked_of_stageStep held owned told (List.mem_of_getElem? going) input rowMember
        onMock marked
  | ignored | called | reached | lost | booked => exact rowMember

/-- A row which is marked stays as it is. -/
theorem marked_of_path
    {actions : List RtgsAction} (reached : (rtgsSystem context).Reachable state)
    (path : (rtgsSystem context).Path state actions later)
    (rowMember : row ∈ state.settlement.db.transfers) (onMock : OnMock row)
    (marked : row.status ≠ .pending) :
    row ∈ later.settlement.db.transfers := by
  apply path.preserves (fun state => row ∈ state.settlement.db.transfers) ?_ reached rowMember
  intro source label target before member move
  rcases held_of_reachable before with ⟨owned, held⟩
  rcases (rtgsMove_of_step move).settlement with same | ⟨step, moved⟩
  · rw [same]
    exact member
  · exact marked_of_settlementMove held owned (told_of_reachable before) moved member onMock
      marked

/-! ## Results and executions -/

/-- How the request for a transfer ended whose result is known. -/
inductive EndedAs (context : RtgsContext) (state : RtgsState) (row : SettlementTransfer)
    (result : TransferResult) : Prop where
  | timeout (reason : result.failureReason =
        .str (timeoutReason context.settings.timeoutSeconds))
      (status : result.status = .timeout)
  | unreachable (message : PyStr) (reason : result.failureReason = .str (networkReason message))
      (status : result.status = .timeout)
  | answered (answer : SettleAnswer) (system : MockSystem)
      (behind : mockSystemOf (transferZone row) = some system)
      (known : AnsweredAs system (payloadOf context row) (state.executionsOf row.id) answer)
      (result_eq : result = answerResult (context.request (transferZone row) row) answer)

theorem endedAs_of_told
    (held : TransfersHeld state.settlement) (mock : MockTold context state)
    (rowMember : row ∈ state.settlement.db.transfers) (onMock : OnMock row)
    {result : TransferResult} (told : resultFor context state.ended row = some result) :
    EndedAs context state row result := by
  rcases Option.bind_eq_some_iff.mp told with ⟨outcome, known, settled⟩
  cases outcome with
  | timeout =>
      rw [settleOne_mock onMock] at settled
      cases settled
      exact .timeout rfl rfl
  | requestException message =>
      rw [settleOne_mock onMock] at settled
      cases settled
      exact .unreachable message rfl rfl
  | response response =>
      rcases (mock.ended row.id _ known).2 response rfl with ⟨answer, found, rfl⟩
      rcases mock.answered row.id answer found with
        ⟨system, transfer, goes, id, _, answered⟩
      rcases List.mem_map.mp goes.created with ⟨other, otherMember, rfl⟩
      have same : other = row := held.row_unique otherMember rowMember id
      rw [same, payloadOf_terms] at answered
      have behind := goes.behind
      rw [transferZone_terms, same] at behind
      rw [settleOne_answer onMock _ answered.wellFormed] at settled
      exact .answered answer system behind answered (Option.some.inj settled).symm

/-- A text which is not empty and fits is written as it is. -/
theorem writtenText_str
    {runtime : PyRuntime} {text : PyStr} (some_ : text ≠ []) (width : Nat) :
    ((writtenText runtime (.str text)).map (·.take width)).getD [] = text.take width := by
  cases text with
  | nil => exact absurd rfl some_
  | cons point rest => rfl

theorem timeoutReason_ne_nil (seconds : Nat) : timeoutReason seconds ≠ [] :=
  List.cons_ne_nil _ _

theorem networkReason_ne_nil (message : PyStr) : networkReason message ≠ [] :=
  List.cons_ne_nil _ _

/-- A completed transfer was carried out once. -/
theorem executionsOf_completed
    (reached : (rtgsSystem context).Reachable state)
    (rowMember : row ∈ state.settlement.db.transfers) {system : MockSystem}
    (behind : mockSystemOf (transferZone row) = some system)
    (completed : row.status = .completed) :
    state.executionsOf row.id = [⟨system, payloadOf context row, row.rtgsReference⟩] := by
  rcases held_of_reachable reached with ⟨owned, held⟩
  have onMock : OnMock row := by
    rw [OnMock, behind]
    rfl
  cases (told_of_reachable reached).rows row rowMember onMock with
  | fresh same | saved _ _ same | failed _ _ _ same | unavailable _ same =>
      rw [same] at completed
      cases completed
  | completed result now told success same =>
      cases endedAs_of_told held (mockTold_of_reachable reached) rowMember onMock told with
      | timeout _ status | unreachable _ _ status =>
          rw [status] at success
          cases success
      | answered answer asked asks known result_eq =>
          cases behind.symm.trans asks
          cases known with
          | refused =>
              rw [result_eq] at success
              cases success
          | failed response status =>
              rw [result_eq, answerResult, status] at success
              cases success
          | succeeded response status reference short reason once =>
              have written : row.rtgsReference = response.rtgsReference := by
                rw [same, result_eq]
                show ((writtenText context.runtime (.str response.rtgsReference)).map
                  (·.take 100)).getD [] = response.rtgsReference
                rw [writtenText_str reference, List.take_of_length_le short]
              rw [once, written]

/-- A failed transfer was not carried out, unless how its request ended is not
known. -/
theorem executionsOf_failed
    (reached : (rtgsSystem context).Reachable state)
    (rowMember : row ∈ state.settlement.db.transfers) (onMock : OnMock row)
    (failed : row.status = .failed) (known : outcomeUnknown context row = false) :
    state.executionsOf row.id = [] := by
  rcases held_of_reachable reached with ⟨owned, held⟩
  have mock := mockTold_of_reachable reached
  cases (told_of_reachable reached).rows row rowMember onMock with
  | fresh same | saved _ _ same | completed _ _ _ _ same =>
      rw [same] at failed
      cases failed
  | unavailable unsent =>
      exact (mock.unanswered row.id (mock.unanswered_of_unsent unsent)).1
  | failed result told failure same =>
      have reason : row.failureReason =
          ((writtenText context.runtime result.failureReason).map (·.take 255)).getD [] := by
        conv_lhs => rw [same]
        rfl
      simp only [outcomeUnknown, Bool.or_eq_false_iff] at known
      cases endedAs_of_told held mock rowMember onMock told with
      | timeout timedOut =>
          rw [timedOut, writtenText_str (timeoutReason_ne_nil _)] at reason
          exact absurd reason (of_decide_eq_false known.1)
      | unreachable message network =>
          rw [network, writtenText_str (networkReason_ne_nil _)] at reason
          have worded : (py "Network error: ").isPrefixOf row.failureReason = true := by
            rw [reason, List.isPrefixOf_iff_prefix, List.prefix_take_iff]
            exact ⟨List.prefix_append _ _, by decide⟩
          rw [known.2] at worded
          cases worded
      | answered answer asked asks answered result_eq =>
          cases answered with
          | refused _ _ _ _ nothing | failed _ _ nothing => exact nothing
          | succeeded response status =>
              rw [result_eq] at failure
              exact absurd status failure

/-- What the mock has carried out belongs to a transfer of the ledger, and was
carried out once. -/
theorem row_of_executed
    (reached : (rtgsSystem context).Reachable state) {execution : Execution}
    (done : execution ∈ state.executed) :
    ∃ row ∈ state.settlement.db.transfers,
      mockSystemOf (transferZone row) = some execution.system ∧
        execution.request = payloadOf context row ∧ state.executionsOf row.id = [execution] := by
  have told := mockTold_of_reachable reached
  have own : execution ∈ state.executionsOf execution.request.transferId :=
    List.mem_filter.mpr ⟨done, decide_eq_true rfl⟩
  cases known : state.answers.get? execution.request.transferId with
  | none =>
      rw [(told.unanswered _ known).1] at own
      cases own
  | some answer =>
      rcases told.answered _ answer known with ⟨system, transfer, goes, id, _, answered⟩
      rcases List.mem_map.mp goes.created with ⟨row, rowMember, rfl⟩
      cases answered with
      | refused _ _ _ _ nothing | failed _ _ nothing =>
          rw [nothing] at own
          cases own
      | succeeded response _ _ _ _ once =>
          rw [once] at own
          cases List.mem_singleton.mp own
          exact ⟨row, rowMember, goes.behind, payloadOf_terms context row, id ▸ once⟩

end Rows

/-! ## What the ledger says is what was done -/

section Ledger

variable (context : RtgsContext) (state later : RtgsState) (actions : List RtgsAction)
variable (row : SettlementTransfer)

/-- A transfer which the ledger has marked as completed was carried out once,
as it is in its row, and is carried out no second time. -/
theorem completed_executed_once
    (reached : (rtgsSystem context).Reachable state)
    (path : (rtgsSystem context).Path state actions later)
    (rowMember : row ∈ state.settlement.db.transfers) (system : MockSystem)
    (behind : mockSystemOf (transferZone row) = some system)
    (completed : row.status = .completed) :
    row ∈ later.settlement.db.transfers ∧
      later.executionsOf row.id = [⟨system, payloadOf context row, row.rtgsReference⟩] := by
  have onMock : OnMock row := by
    rw [OnMock, behind]
    rfl
  have stays : row ∈ later.settlement.db.transfers :=
    marked_of_path reached path rowMember onMock (completed ▸ nofun)
  exact ⟨stays, executionsOf_completed (path.reachable reached) stays behind completed⟩

/-- A transfer which the ledger has marked as failed is never carried out,
unless its gateway did not learn how the request ended. -/
theorem failed_never_executed
    (reached : (rtgsSystem context).Reachable state)
    (path : (rtgsSystem context).Path state actions later)
    (rowMember : row ∈ state.settlement.db.transfers) (onMock : OnMock row)
    (failed : row.status = .failed) (known : outcomeUnknown context row = false) :
    row ∈ later.settlement.db.transfers ∧ later.executionsOf row.id = [] := by
  have stays : row ∈ later.settlement.db.transfers :=
    marked_of_path reached path rowMember onMock (failed ▸ nofun)
  exact ⟨stays, executionsOf_failed (path.reachable reached) stays onMock failed known⟩

/-- Everything which the mock has carried out is a transfer of the ledger, with
its banks, amount and currency, at the system of its zone, and no other
execution of it exists.  Its row is completed with the reference of the
execution, or still pending, or it was marked as failed although its gateway
did not learn how the request ended. -/
theorem executed_accounted
    (reached : (rtgsSystem context).Reachable state) (execution : Execution)
    (done : execution ∈ state.executed) :
    ∃ row ∈ state.settlement.db.transfers,
      mockSystemOf (transferZone row) = some execution.system ∧
        execution.request = payloadOf context row ∧ state.executionsOf row.id = [execution] ∧
          (row.status = .completed ∧ row.rtgsReference = execution.reference ∨
            row.status = .pending ∨
              row.status = .failed ∧ outcomeUnknown context row = true) := by
  rcases row_of_executed reached done with ⟨row, rowMember, behind, request, once⟩
  refine ⟨row, rowMember, behind, request, once, ?_⟩
  have onMock : OnMock row := by
    rw [OnMock, behind]
    rfl
  have marks := (told_of_reachable reached).rows row rowMember onMock
  cases status : row.status with
  | pending => exact .inr (.inl rfl)
  | dispatched =>
      cases marks with
      | fresh same | saved _ _ same | completed _ _ _ _ same | failed _ _ _ same
      | unavailable _ same =>
          rw [same] at status
          cases status
  | completed =>
      have own := executionsOf_completed reached rowMember behind status
      rw [once, List.cons.injEq] at own
      exact .inl ⟨rfl, congrArg Execution.reference own.1.symm⟩
  | failed =>
      cases known : outcomeUnknown context row with
      | true => exact .inr (.inr ⟨rfl, rfl⟩)
      | false =>
          rw [executionsOf_failed reached rowMember onMock status known] at once
          cases once

end Ledger

/-! ## One payment through the mock -/

/-- The text of the answer to the only transfer. -/
def answerText : PyStr :=
  py "\x7b\"transfer_id\":\"" ++ uuidText 0 ++
    py "\",\"status\":\"SUCCESS\",\"rtgs_reference\":\"SORBNET3-000000000000\"" ++
      py ",\"failure_reason\":\"\"\x7d"

/-- Polish banks, and the answer to the only transfer, which is not XML. -/
def polishRtgs : RtgsContext where
  bankOf := polishBank
  runtime := .ascii
  settings := rtgsSettings
  rendered _ := answerText
  parsedXml _ := .parseError (py "not well-formed (invalid token): line 1, column 0")

/-- One payment is booked, and the mock has just started. -/
def paymentBooked : RtgsState where
  settlement := onePaymentState
  mock := ⟨[], []⟩
  sent := []
  flying := []
  answers := []
  ended := []
  executed := []

theorem paymentBooked_start : paymentBooked.IsStart where
  settlement := onePaymentState_start
  cache := rfl
  sent := rfl
  flying := rfl
  answers := rfl
  ended := rfl
  executed := rfl

/-- A statement or commit of the only task. -/
def taskStep : RtgsAction := .settlement (.advance 0 ⟨0, .raised⟩)

/-- The task has created its transfer, and its gateway sends it. -/
def transferSent : List RtgsAction :=
  [.settlement (.call (py "PL")), taskStep, taskStep, taskStep, .settlement (.reach 0 0),
    taskStep, taskStep, taskStep, .send 0]

/-- The health endpoint answers. -/
def healthy : HttpOutcome :=
  .response ⟨200, [], .decoded .none, .parseError (py "no element found: line 1, column 0")⟩

/-- The mock carries the transfer out and the task marks it. -/
def transferConfirmed : List RtgsAction :=
  transferSent ++
    [.handle 0 ⟨false, false, 0⟩, .receive 0, .finish 0 0 healthy, taskStep, taskStep,
      taskStep]

/-- The gateway gives up, and the transfer is carried out afterwards. -/
def answeredTooLate : List RtgsAction :=
  transferSent ++
    [.giveUp 0 none, .finish 0 0 healthy, taskStep, taskStep, taskStep,
      .handle 0 ⟨false, false, 0⟩]

/-- The mock lets the transfer fail. -/
def transferRefused : List RtgsAction :=
  transferSent ++
    [.handle 0 ⟨false, true, 0⟩, .receive 0, .finish 0 0 healthy, taskStep, taskStep,
      taskStep]

/-- The row of the only transfer when its task has ended. -/
def endedRow (status : SettlementTransferStatus) (reference reason : PyStr)
    (completedAt : Option Instant) : SettlementTransfer where
  id := 0
  session := 0
  fromBankId := 1
  toBankId := 2
  amount := 100
  currency := .PLN
  status := status
  rtgsReference := reference
  failureReason := reason
  completedAt := completedAt

theorem completed_executed_once_confirmed :
    ∃ state later,
      TransitionSystem.runLabels (rtgsStep polishRtgs) paymentBooked transferConfirmed =
          some state ∧
        TransitionSystem.runLabels (rtgsStep polishRtgs) state [.resetCache] = some later ∧
          later.executionsOf 0 =
            [⟨.sorbnet3,
              payloadOf polishRtgs
                (endedRow .completed (py "SORBNET3-000000000000") [] (some 0)),
              py "SORBNET3-000000000000"⟩] := by
  have shown : (TransitionSystem.runLabels (rtgsStep polishRtgs) paymentBooked
      transferConfirmed).map (fun state => state.settlement.db.transfers) =
        some [endedRow .completed (py "SORBNET3-000000000000") [] (some 0)] := by
    decide +kernel
  rcases Option.map_eq_some_iff.mp shown with ⟨state, run, rows⟩
  refine ⟨state, _, run, rfl, ?_⟩
  exact (completed_executed_once polishRtgs state _ [.resetCache]
    (endedRow .completed (py "SORBNET3-000000000000") [] (some 0))
    (TransitionSystem.reachable_of_runLabels paymentBooked_start run)
    (TransitionSystem.path_of_runLabels rfl) (rows ▸ List.mem_singleton_self _) .sorbnet3 rfl
    rfl).2

theorem failed_never_executed_refused :
    ∃ state later,
      TransitionSystem.runLabels (rtgsStep polishRtgs) paymentBooked transferRefused =
          some state ∧
        TransitionSystem.runLabels (rtgsStep polishRtgs) state [.resetCache] = some later ∧
          later.executionsOf 0 = [] := by
  have shown : (TransitionSystem.runLabels (rtgsStep polishRtgs) paymentBooked
      transferRefused).map (fun state => state.settlement.db.transfers) =
        some [endedRow .failed [] (py "SORBNET3: random failure (injected)") none] := by
    decide +kernel
  rcases Option.map_eq_some_iff.mp shown with ⟨state, run, rows⟩
  refine ⟨state, _, run, rfl, ?_⟩
  exact (failed_never_executed polishRtgs state _ [.resetCache]
    (endedRow .failed [] (py "SORBNET3: random failure (injected)") none)
    (TransitionSystem.reachable_of_runLabels paymentBooked_start run)
    (TransitionSystem.path_of_runLabels rfl) (rows ▸ List.mem_singleton_self _) rfl rfl
    (by decide)).2

theorem executed_accounted_tooLate :
    ∃ state,
      TransitionSystem.runLabels (rtgsStep polishRtgs) paymentBooked answeredTooLate =
          some state ∧
        ∃ row ∈ state.settlement.db.transfers,
          state.executionsOf row.id =
              [⟨.sorbnet3, payloadOf polishRtgs (endedRow .failed [] (py "Timeout 30s") none),
                py "SORBNET3-000000000000"⟩] ∧
            row.status = .failed ∧ outcomeUnknown polishRtgs row = true := by
  have shown : (TransitionSystem.runLabels (rtgsStep polishRtgs) paymentBooked
      answeredTooLate).map (fun state => (state.settlement.db.transfers, state.executed)) =
        some ([endedRow .failed [] (py "Timeout 30s") none],
          [⟨.sorbnet3, payloadOf polishRtgs (endedRow .failed [] (py "Timeout 30s") none),
            py "SORBNET3-000000000000"⟩]) := by
    decide +kernel
  rcases Option.map_eq_some_iff.mp shown with ⟨state, run, results⟩
  have rows := congrArg Prod.fst results
  have done := congrArg Prod.snd results
  simp only at rows done
  rcases executed_accounted polishRtgs state
      (TransitionSystem.reachable_of_runLabels paymentBooked_start run) _
      (done ▸ List.mem_singleton_self _) with ⟨row, rowMember, _, _, once, marks⟩
  have same := rowMember
  rw [rows, List.mem_singleton] at same
  refine ⟨state, run, row, rowMember, once, ?_⟩
  rcases marks with ⟨completed, _⟩ | pending | marks
  · rw [same] at completed
    cases completed
  · rw [same] at pending
    cases pending
  · exact marks

end Klik.RtgsMock
