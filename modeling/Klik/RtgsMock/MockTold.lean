import Klik.RtgsMock.TransfersTold

/-!
# What the mock knows of a transfer

Everything the mock is asked for is a transfer of the ledger.  A transfer is
sent once, so that the mock decides it once, and the answer to it tells
whether it was carried out.
-/

namespace Klik.RtgsMock

open Klik.Common
open Klik.Ledger
open Klik.Ledger.Rtgs
open Klik.Lib

/-! ## Results of answers -/

/-- What the gateway makes of an answer of the mock. -/
def answerResult (transfer : TransferRequest) : SettleAnswer → TransferResult
  | .response given =>
      { transferId := transfer.transferId
        status := transferStatusOf (.str given.status)
        rtgsReference := .str given.rtgsReference
        failureReason := .str given.failureReason }
  | .httpException _ detail => notSettled transfer .failed (.str detail)

/-- The endpoint refuses with an error status and a text. -/
def SettleAnswer.WellFormed : SettleAnswer → Prop
  | .response _ => True
  | .httpException statusCode detail => 400 ≤ statusCode ∧ detail ≠ []

section Results

variable {context : RtgsContext} {zone : Zone}

theorem settleOne_mock (behind : (mockSystemOf zone).isSome = true) :
    settleOne context.runtime context.settings zone =
      mockGateway.settleOne context.settings.timeoutSeconds := by
  cases zone with
  | PL | UK => rfl
  | EU | US => cases behind

theorem settleOne_answer
    (behind : (mockSystemOf zone).isSome = true) (transfer : TransferRequest)
    {answer : SettleAnswer} (wellFormed : answer.WellFormed) :
    settleOne context.runtime context.settings zone transfer
        (.response (context.httpResponse answer)) =
      some (answerResult transfer answer) := by
  rw [settleOne_mock behind]
  cases answer with
  | response given => rfl
  | httpException statusCode detail =>
      have reason : errorReason [py "failure_reason", py "detail"] 100
          (context.httpResponse (.httpException statusCode detail)) = some (.str detail) := by
        cases detail with
        | nil => exact absurd rfl wellFormed.2
        | cons point rest => rfl
      show (if 400 ≤ statusCode then
        (errorReason [py "failure_reason", py "detail"] 100
          (context.httpResponse (.httpException statusCode detail))).map
            (notSettled transfer .failed) else _) = _
      rw [if_pos wellFormed.1, reason]
      rfl

end Results

/-! ## Decisions -/

theorem failed_failedResponse (transferId : Uuid) (reason : PyStr) :
    (failedResponse transferId reason).succeeded = false ∧
      transferStatusOf (.str (failedResponse transferId reason).status) = .failed := by
  have other : py "FAILED" ≠ py "SUCCESS" := by decide
  exact ⟨decide_eq_false other, rfl⟩

/-- A response is a failure, or a success with its reference. -/
theorem decideTransfer_cases
    (system : MockSystem) (payload : SettleRequest) (draws : SettleDraws)
    (blacklist : List PyStr) :
    ((decideTransfer (validSystems system).1 payload draws blacklist).succeeded = false ∧
        transferStatusOf
          (.str (decideTransfer (validSystems system).1 payload draws blacklist).status) =
            .failed) ∨
      (decideTransfer (validSystems system).1 payload draws blacklist).succeeded = true ∧
        (decideTransfer (validSystems system).1 payload draws blacklist).failureReason = [] ∧
        (decideTransfer (validSystems system).1 payload draws blacklist).rtgsReference ≠ [] ∧
        (decideTransfer (validSystems system).1 payload draws
          blacklist).rtgsReference.length ≤ 100 := by
  simp only [decideTransfer]
  split
  · exact .inl (failed_failedResponse _ _)
  · split
    · exact .inl (failed_failedResponse _ _)
    · split
      · exact .inl (failed_failedResponse _ _)
      · refine .inr ⟨decide_eq_true rfl, rfl, ?_, ?_⟩
        · cases system <;> exact List.cons_ne_nil _ _
        · have width : (asciiUpper ((hexDigits 32 draws.drawn).take 12)).length = 12 := by
            rw [asciiUpper, List.length_map, List.length_take, length_hexDigits]
            rfl
          rw [List.length_append, List.length_append, width]
          cases system <;> decide

/-! ## Transfers at the mock -/

/-- The request which a transfer goes to the mock with. -/
def payloadOf (context : RtgsContext) (transfer : SettlementTransfer) : SettleRequest :=
  buildPayload (transferZone transfer) transfer.session
    (context.request (transferZone transfer) transfer)

@[simp]
theorem payloadOf_terms (context : RtgsContext) (row : SettlementTransfer) :
    payloadOf context row.terms = payloadOf context row := rfl

/-- What was carried out of a transfer. -/
def RtgsState.executionsOf (state : RtgsState) (transferId : Uuid) : List Execution :=
  state.executed.filter fun execution => execution.request.transferId = transferId

/-- Transfers as the ledger has created them. -/
def RtgsState.created (state : RtgsState) : List SettlementTransfer :=
  state.settlement.db.transfers.map SettlementTransfer.terms

/-- An answer tells whether the transfer was carried out. -/
inductive AnsweredAs (system : MockSystem) (payload : SettleRequest)
    (executions : List Execution) : SettleAnswer → Prop where
  | refused (statusCode : Nat) (detail : PyStr) (failing : 400 ≤ statusCode)
      (worded : detail ≠ []) (nothing : executions = []) :
      AnsweredAs system payload executions (.httpException statusCode detail)
  | failed (response : SettleResponse) (status : transferStatusOf (.str response.status) = .failed)
      (nothing : executions = []) :
      AnsweredAs system payload executions (.response response)
  | succeeded (response : SettleResponse)
      (status : transferStatusOf (.str response.status) = .success)
      (reference : response.rtgsReference ≠ []) (short : response.rtgsReference.length ≤ 100)
      (reason : response.failureReason = [])
      (once : executions = [⟨system, payload, response.rtgsReference⟩]) :
      AnsweredAs system payload executions (.response response)

theorem AnsweredAs.wellFormed
    {system : MockSystem} {payload : SettleRequest} {executions : List Execution}
    {answer : SettleAnswer} (answered : AnsweredAs system payload executions answer) :
    answer.WellFormed := by
  cases answered with
  | refused statusCode detail failing worded => exact ⟨failing, worded⟩
  | failed | succeeded => trivial

/-- The transfer was created by the ledger, and goes to the system. -/
structure GoesTo
    (created : List SettlementTransfer) (system : MockSystem) (transfer : SettlementTransfer) :
    Prop where
  created : transfer ∈ created
  behind : mockSystemOf (transferZone transfer) = some system

/-- The mock and what is on the way to it and back, against the ledger. -/
structure MockTold (context : RtgsContext) (state : RtgsState) : Prop where
  flying : ∀ request ∈ state.flying, ∃ transfer, GoesTo state.created request.1 transfer ∧
    request.2 = payloadOf context transfer ∧ transfer.id ∈ state.sent ∧
      state.answers.get? transfer.id = none
  once : (state.flying.map fun request => request.2.transferId).Nodup
  answered : ∀ transferId answer, state.answers.get? transferId = some answer →
    ∃ system transfer, GoesTo state.created system transfer ∧ transfer.id = transferId ∧
      transferId ∈ state.sent ∧
        AnsweredAs system (payloadOf context transfer) (state.executionsOf transferId) answer
  unanswered : ∀ transferId, state.answers.get? transferId = none →
    state.executionsOf transferId = [] ∧ state.mock.idempotencyCache.get? transferId = none
  ended : ∀ transferId outcome, state.ended.get? transferId = some outcome →
    transferId ∈ state.sent ∧ ∀ response, outcome = .response response → ∃ answer,
      state.answers.get? transferId = some answer ∧ response = context.httpResponse answer

section Steps

variable {context : RtgsContext} {state : RtgsState}

/-- A step of the tasks keeps what the transfers were created with. -/
theorem created_of_settlementMove
    (held : TransfersHeld state.settlement) {action : SettlementAction}
    {settlement : SettlementState}
    (move : SettlementMove context.runtime state.settlement action settlement) :
    ∀ transfer ∈ state.created, transfer ∈ settlement.db.transfers.map
      SettlementTransfer.terms := by
  cases move with
  | advanced place input stage going ready =>
      intro transfer member
      have effect := termsEffect context.runtime input held.nodup
        (held.lists stage (List.mem_of_getElem? going))
      show transfer ∈ (stageStep context.runtime input state.settlement.db
        stage).1.transfers.map SettlementTransfer.terms
      cases effect with
      | kept terms =>
          rw [terms]
          exact member
      | created session entries stage_eq transfers =>
          rw [transfers, List.map_append]
          exact List.mem_append_left _ member
  | ignored | called | reached | lost | booked => exact fun _ member => member

theorem MockTold.settled
    (told : MockTold context state) {settlement : SettlementState}
    (kept : ∀ transfer ∈ state.created, transfer ∈ settlement.db.transfers.map
      SettlementTransfer.terms) :
    MockTold context { state with settlement := settlement } where
  flying request member := by
    rcases told.flying request member with ⟨transfer, goes, rest⟩
    exact ⟨transfer, ⟨kept transfer goes.created, goes.behind⟩, rest⟩
  once := told.once
  answered transferId answer known := by
    rcases told.answered transferId answer known with ⟨system, transfer, goes, rest⟩
    exact ⟨system, transfer, ⟨kept transfer goes.created, goes.behind⟩, rest⟩
  unanswered := told.unanswered
  ended := told.ended

/-- Only what was sent is answered. -/
theorem MockTold.unanswered_of_unsent
    (told : MockTold context state) {transferId : Uuid} (unsent : transferId ∉ state.sent) :
    state.answers.get? transferId = none := by
  cases known : state.answers.get? transferId with
  | none => rfl
  | some answer =>
      rcases told.answered transferId answer known with ⟨_, _, _, _, sent, _⟩
      exact absurd sent unsent

theorem MockTold.sending
    (held : TransfersHeld state.settlement) (owned : SessionsOwned state.settlement)
    (told : MockTold context state)
    {place : Nat} {system : MockSystem} {session : SettlementSession}
    {transfers : List SettlementTransfer} {transfer : SettlementTransfer}
    (dispatches : state.Dispatches place system session transfers)
    (listed : transfer ∈ transfers) (new : transfer.id ∉ state.sent) :
    MockTold context (state.sending context system session transfer) := by
  have member := List.mem_of_getElem? dispatches.going
  rw [show transfers = state.settlement.db.termsIn session.id from held.lists _ member] at listed
  rcases mem_termsIn.mp listed with ⟨row, rowMember, own, rfl⟩
  have zone : transferZone row = session.zone :=
    transferZone_of_owned held owned member rfl rowMember own
  have payload : buildPayload session.zone session.id (context.request session.zone row.terms) =
      payloadOf context row.terms := by
    rw [← zone, ← own]
    rfl
  constructor
  · intro request requestMember
    rcases List.mem_append.mp requestMember with earlier | now
    · rcases told.flying request earlier with ⟨other, goes, same, sent, unanswered⟩
      exact ⟨other, ⟨goes.created, goes.behind⟩, same, List.mem_append_left _ sent, unanswered⟩
    · rw [List.mem_singleton.mp now]
      refine ⟨row.terms, ⟨List.mem_map_of_mem rowMember, ?_⟩, payload,
        List.mem_append_right _ (List.mem_singleton_self _), told.unanswered_of_unsent new⟩
      rw [transferZone_terms, zone]
      exact dispatches.behind
  · show (List.map (fun request : MockSystem × SettleRequest => request.2.transferId)
      (state.flying ++ [(system, _)])).Nodup
    rw [List.map_append, List.nodup_append]
    refine ⟨told.once, List.nodup_singleton _, ?_⟩
    intro other otherMember last lastMember same
    rcases List.mem_map.mp otherMember with ⟨request, requestMember, rfl⟩
    rcases told.flying request requestMember with ⟨earlier, _, payload, sent, _⟩
    have key : request.2.transferId = row.terms.id := by
      rw [same, List.mem_singleton.mp lastMember]
      rfl
    rw [payload] at key
    rw [show earlier.id = row.terms.id from key] at sent
    exact new sent
  · intro transferId answer known
    rcases told.answered transferId answer known with ⟨asked, other, goes, id, sent, rest⟩
    exact ⟨asked, other, ⟨goes.created, goes.behind⟩, id, List.mem_append_left _ sent, rest⟩
  · exact told.unanswered
  · intro transferId outcome known
    rcases told.ended transferId outcome known with ⟨sent, rest⟩
    exact ⟨List.mem_append_left _ sent, rest⟩

theorem MockTold.ending
    (told : MockTold context state) {transferId : Uuid} (sent : transferId ∈ state.sent)
    {outcome : HttpOutcome}
    (returned : ∀ response, outcome = .response response → ∃ answer,
      state.answers.get? transferId = some answer ∧ response = context.httpResponse answer) :
    MockTold context (state.ending transferId outcome) where
  flying := told.flying
  once := told.once
  answered := told.answered
  unanswered := told.unanswered
  ended other known found := by
    simp only [RtgsState.ending, InsertionDict.get?_set] at found
    split at found
    · rename_i same
      cases found
      exact same ▸ ⟨sent, returned⟩
    · exact told.ended other known found

theorem executionsOf_handled
    (index : Nat) (system : MockSystem) (payload : SettleRequest) (draws : SettleDraws)
    (transferId : Uuid) :
    (state.handled index system payload draws).executionsOf transferId =
      state.executionsOf transferId ++
        (settle system payload draws state.mock).executed.filter
          fun execution => execution.request.transferId = transferId :=
  List.filter_append _ _

theorem MockTold.handled
    (told : MockTold context state) {index : Nat} {system : MockSystem}
    {payload : SettleRequest} (going : state.flying[index]? = some (system, payload))
    (draws : SettleDraws) :
    MockTold context (state.handled index system payload draws) := by
  rcases told.flying _ (List.mem_of_getElem? going) with
    ⟨transfer, goes, same, sent, unanswered⟩
  have key : payload.transferId = transfer.id := congrArg SettleRequest.transferId same
  rcases told.unanswered transfer.id unanswered with ⟨nothing, uncached⟩
  -- other transfers are left alone
  have others {transferId : Uuid} (other : payload.transferId ≠ transferId) :
      (state.handled index system payload draws).executionsOf transferId =
          state.executionsOf transferId ∧
        (state.handled index system payload draws).answers.get? transferId =
          state.answers.get? transferId := by
    constructor
    · rw [executionsOf_handled, List.filter_eq_nil_iff.mpr, List.append_nil]
      intro execution member
      rw [request_of_executed member]
      exact fun same => other (of_decide_eq_true same)
    · show (state.answers.set _ _).get? transferId = _
      rw [InsertionDict.get?_set, if_neg other]
  have own : (state.handled index system payload draws).executionsOf transfer.id =
      (settle system payload draws state.mock).executed := by
    rw [executionsOf_handled, nothing, List.nil_append, List.filter_eq_self]
    intro execution member
    rw [request_of_executed member]
    exact decide_eq_true key
  have answered : AnsweredAs system (payloadOf context transfer)
      (settle system payload draws state.mock).executed
        (settle system payload draws state.mock).answer := by
    have case := settle_case system payload draws state.mock
    rw [← same]
    generalize settle system payload draws state.mock = effect at case ⊢
    cases case with
    | refused statusCode detail failing worded =>
        exact .refused statusCode detail failing worded rfl
    | repeated cached known =>
        rw [key, uncached] at known
        cases known
    | decided response new response_eq =>
        rcases decideTransfer_cases system payload draws state.mock.blacklist with
          ⟨failed, status⟩ | ⟨succeeded, reason, reference, short⟩
        · rw [← response_eq] at failed status
          rw [failed, if_neg Bool.false_ne_true]
          exact .failed response status rfl
        · rw [← response_eq] at succeeded reason reference short
          rw [succeeded, if_pos rfl]
          refine .succeeded response ?_ reference short reason rfl
          simp only [transferStatusOf]
          exact if_pos (of_decide_eq_true succeeded)
  constructor
  · intro request member
    rcases told.flying request (List.mem_of_mem_eraseIdx member) with
      ⟨other, otherGoes, otherSame, otherSent, otherUnanswered⟩
    have apart : payload.transferId ≠ other.id := by
      intro equal
      have rest := (perm_eraseIdx going).map fun request => request.2.transferId
      have nodup := rest.nodup_iff.mpr told.once
      have sameKey : request.2.transferId = payload.transferId := by
        rw [equal, otherSame]
        rfl
      exact (List.nodup_cons.mp nodup).1 (List.mem_map.mpr ⟨request, member, sameKey⟩)
    refine ⟨other, ⟨otherGoes.created, otherGoes.behind⟩, otherSame, otherSent, ?_⟩
    rw [(others apart).2]
    exact otherUnanswered
  · exact List.Nodup.sublist ((List.eraseIdx_sublist _ _).map _) told.once
  · intro transferId answer known
    by_cases here : payload.transferId = transferId
    · have found : (state.answers.set payload.transferId
          (settle system payload draws state.mock).answer).get? transferId = some answer := known
      rw [InsertionDict.get?_set, if_pos here] at found
      cases found
      refine ⟨system, transfer, ⟨goes.created, goes.behind⟩, key.symm.trans here, ?_, ?_⟩
      · rw [← here, key]
        exact sent
      · rw [← here, key, own]
        exact answered
    · rw [(others here).2] at known
      rcases told.answered transferId answer known with ⟨asked, other, otherGoes, id, rest⟩
      refine ⟨asked, other, ⟨otherGoes.created, otherGoes.behind⟩, id, ?_⟩
      rw [(others here).1]
      exact rest
  · intro transferId unknown
    by_cases here : payload.transferId = transferId
    · have absent : (state.answers.set payload.transferId
          (settle system payload draws state.mock).answer).get? transferId = none := unknown
      rw [InsertionDict.get?_set, if_pos here] at absent
      cases absent
    · rw [(others here).2] at unknown
      rw [(others here).1]
      refine ⟨(told.unanswered transferId unknown).1, ?_⟩
      have before := (told.unanswered transferId unknown).2
      have case := settle_case system payload draws state.mock
      show (settle system payload draws state.mock).mock.idempotencyCache.get? transferId =
        none
      generalize settle system payload draws state.mock = effect at case ⊢
      cases case with
      | refused | repeated => exact before
      | decided response new =>
          rw [InsertionDict.get?_set, if_neg here]
          exact before
  · intro transferId outcome known
    rcases told.ended transferId outcome known with ⟨wasSent, returned⟩
    refine ⟨wasSent, ?_⟩
    intro response shape
    rcases returned response shape with ⟨answer, found, rest⟩
    refine ⟨answer, ?_, rest⟩
    by_cases here : payload.transferId = transferId
    · rw [← here, key, unanswered] at found
      cases found
    · rw [(others here).2]
      exact found

theorem MockTold.managed
    (told : MockTold context state) {mock : MockRtgs}
    (cache : mock.idempotencyCache = state.mock.idempotencyCache ∨
      mock.idempotencyCache = []) :
    MockTold context { state with mock := mock } where
  flying := told.flying
  once := told.once
  answered := told.answered
  unanswered transferId unknown := by
    rcases told.unanswered transferId unknown with ⟨nothing, uncached⟩
    refine ⟨nothing, ?_⟩
    rcases cache with same | empty
    · rw [same]
      exact uncached
    · rw [empty]
      rfl
  ended := told.ended

theorem mockTold_step
    (held : TransfersHeld state.settlement) (owned : SessionsOwned state.settlement)
    (told : MockTold context state) {action : RtgsAction} {after : RtgsState}
    (move : RtgsMove context state action after) : MockTold context after := by
  cases move with
  | settled action settlement free move =>
      exact told.settled (created_of_settlementMove held move)
  | sent place system session transfers transfer dispatches next new =>
      exact told.sending held owned dispatches next.listed new
  | handled index draws system payload going => exact told.handled going draws
  | received place system session transfers transfer dispatches next answer known =>
      rcases told.answered transfer.id answer known with ⟨_, _, _, _, sent, _⟩
      apply told.ending sent
      intro response shape
      cases shape
      exact ⟨answer, known, rfl⟩
  | gaveUp place message system session transfers transfer dispatches next sent =>
      apply told.ending sent
      intro response shape
      cases message <;> cases shape
  | finished place now health system session transfers dispatches ready =>
      have move : SettlementMove context.runtime state.settlement _ _ :=
        .advanced place ⟨now, state.dispatched context health session transfers⟩ _
          dispatches.going rfl
      exact told.settled (created_of_settlementMove held move)
  | managed action mock cache => exact told.managed cache

theorem mockTold_of_reachable (reached : (rtgsSystem context).Reachable state) :
    MockTold context state := by
  apply reached.invariant
  · intro start isStart
    constructor
    · rw [isStart.flying]
      intro request member
      cases member
    · rw [isStart.flying]
      exact List.nodup_nil
    · rw [isStart.answers]
      intro transferId answer known
      cases known
    · intro transferId _
      rw [RtgsState.executionsOf, isStart.executed, isStart.cache]
      exact ⟨rfl, rfl⟩
    · rw [isStart.ended]
      intro transferId outcome known
      cases known
  · intro source label target before told move
    rcases held_of_reachable before with ⟨owned, held⟩
    exact mockTold_step held owned told (rtgsMove_of_step move)

end Steps

end Klik.RtgsMock
