import Klik.Ledger.TransferRows
import Klik.RtgsMock.Settle

/-!
# Settlement through the mock

The settlement tasks of KLIK with the mock behind the gateways of Poland and
the United Kingdom.  A gateway sends the transfers of a session one after the
other and waits for each.  A request may come late or never and an answer may
be lost, in which case the gateway gives the transfer up while its request may
still come to the mock.  The other two gateways do not speak to the mock; how
their dispatches end is open.
-/

namespace Klik.RtgsMock

open Klik.Banks
open Klik.Common
open Klik.Ledger
open Klik.Ledger.Rtgs
open Klik.Lib

/-! ## Requests and answers -/

/-- What does not change while the systems run: the banks, the text functions
and settings of KLIK, the text which `JSONResponse` renders, and what parsing
a text as XML does. -/
structure RtgsContext where
  bankOf : Uuid → Bank
  runtime : PyRuntime
  settings : RtgsSettings
  rendered : PyValue → PyStr
  parsedXml : PyStr → XmlOutcome

/-- The system of the mock which the gateway of a zone asks. -/
def mockSystemOf : Zone → Option MockSystem
  | .PL => some .sorbnet3
  | .UK => some .chaps
  | .EU | .US => none

/-- The `TransferRequest` which `run_settlement_session` builds for a transfer. -/
def RtgsContext.request
    (context : RtgsContext) (zone : Zone) (transfer : SettlementTransfer) : TransferRequest :=
  transferRequest
    { bankOf := context.bankOf
      runtime := context.runtime
      dispatch := fun _ _ _ => .raised } zone transfer

/-- `HTTPRTGSGateway.build_payload`. -/
def buildPayload (zone : Zone) (sessionId : Uuid) (transfer : TransferRequest) :
    SettleRequest where
  sessionId := sessionId
  transferId := transfer.transferId
  system := systemName zone
  fromBank := transfer.fromBankCode
  toBank := transfer.toBankCode
  amount := transfer.amount
  currency := py transfer.currency.value

/-- Items of the JSON body of an answer. -/
def SettleAnswer.items : SettleAnswer → List (PyStr × PyValue)
  | .response given =>
      [(py "transfer_id", .str (uuidText given.transferId)),
        (py "status", .str given.status),
        (py "rtgs_reference", .str given.rtgsReference),
        (py "failure_reason", .str given.failureReason)]
  | .httpException _ detail => [(py "detail", .str detail)]

def SettleAnswer.statusCode : SettleAnswer → Nat
  | .response _ => 200
  | .httpException statusCode _ => statusCode

/-- The answer as the gateway receives it. -/
def RtgsContext.httpResponse (context : RtgsContext) (answer : SettleAnswer) :
    HttpResponse where
  statusCode := answer.statusCode
  text := context.rendered (.dict answer.items)
  json := .decoded (.dict answer.items)
  xml := context.parsedXml (context.rendered (.dict answer.items))

/-! ## The system -/

/-- The tasks with the committed tables, the mock, and what is between them:
the transfers which were sent, the requests on their way, the answers by the
key of the transfer, and how each request ended for its gateway.  The last
component is the record of the transfers which the mock has carried out. -/
structure RtgsState where
  settlement : SettlementState
  mock : MockRtgs
  sent : List Uuid
  flying : List (MockSystem × SettleRequest)
  answers : InsertionDict Uuid SettleAnswer
  ended : InsertionDict Uuid HttpOutcome
  executed : List Execution

inductive RtgsAction where
  /-- A step of the tasks which does not wait for the mock. -/
  | settlement (action : SettlementAction)
  /-- The gateway of a dispatching task sends the next transfer. -/
  | send (place : Nat)
  /-- A request on its way comes to the mock. -/
  | handle (index : Nat) (draws : SettleDraws)
  /-- The answer to the transfer which was sent comes back. -/
  | receive (place : Nat)
  /-- `requests` raises a `Timeout`, or another `RequestException` with its
  text. -/
  | giveUp (place : Nat) (message : Option PyStr)
  /-- The gateway is down, or it has been through with its transfers. -/
  | finish (place : Nat) (now : Instant) (health : HttpOutcome)
  | addToBlacklist (banks : List PyStr)
  | clearBlacklist
  | resetCache

/-- The session and the transfers of a task whose gateway asks the mock. -/
def mockDispatch : SettlementStage → Option (SettlementSession × List SettlementTransfer)
  | .dispatching session transfers =>
      if (mockSystemOf session.zone).isSome then some (session, transfers) else none
  | _ => none

/-- The dispatch of the task at a place through the mock. -/
def RtgsState.dispatchAt (state : RtgsState) (place : Nat) :
    Option (SettlementSession × List SettlementTransfer) :=
  state.settlement.tasks[place]?.bind mockDispatch

/-- The first transfer whose request has not ended for its gateway. -/
def RtgsState.nextTransfer (state : RtgsState) (transfers : List SettlementTransfer) :
    Option SettlementTransfer :=
  transfers.find? fun transfer => (state.ended.get? transfer.id).isNone

/-- Whether the task waits for the mock. -/
def RtgsState.waitsForMock (state : RtgsState) : SettlementAction → Bool
  | .advance place _ => (state.dispatchAt place).isSome
  | _ => false

/-- How a request ends for its gateway when `requests` raises. -/
def failedRequest : Option PyStr → HttpOutcome
  | none => .timeout
  | some message => .requestException message

/-- `HTTPRTGSGateway.settle` has found the system down before the first
transfer, or each of the transfers has ended. -/
def RtgsState.mayFinish
    (state : RtgsState) (health : HttpOutcome) (transfers : List SettlementTransfer) : Bool :=
  if healthcheck health then
    transfers.all fun transfer => (state.ended.get? transfer.id).isSome
  else transfers.all fun transfer => transfer.id ∉ state.sent

/-- What the dispatcher makes of the ended requests. -/
def RtgsState.dispatched
    (context : RtgsContext) (state : RtgsState) (health : HttpOutcome)
    (session : SettlementSession) (transfers : List SettlementTransfer) : DispatchOutcome :=
  dispatchRtgs context.runtime context.settings
    { health := fun _ => health
      answer := fun request => (state.ended.get? request.transferId).getD .timeout }
    session.zone session.id (transfers.map (context.request session.zone))

/-- The state after a gateway has sent a transfer. -/
def RtgsState.sending
    (context : RtgsContext) (system : MockSystem) (session : SettlementSession)
    (transfer : SettlementTransfer) (state : RtgsState) : RtgsState :=
  { state with
    sent := state.sent ++ [transfer.id]
    flying := state.flying ++
      [(system, buildPayload session.zone session.id (context.request session.zone transfer))] }

/-- The state after a request has come to the mock. -/
def RtgsState.handled
    (index : Nat) (system : MockSystem) (payload : SettleRequest) (draws : SettleDraws)
    (state : RtgsState) : RtgsState :=
  let effect := settle system payload draws state.mock
  { state with
    mock := effect.mock
    flying := state.flying.eraseIdx index
    answers := state.answers.set payload.transferId effect.answer
    executed := state.executed ++ effect.executed }

/-- The state after a request has ended for its gateway. -/
def RtgsState.ending (transferId : Uuid) (outcome : HttpOutcome) (state : RtgsState) :
    RtgsState :=
  { state with ended := state.ended.set transferId outcome }

/-- The state after a gateway has returned to its task. -/
def RtgsState.finished
    (context : RtgsContext) (place : Nat) (now : Instant) (health : HttpOutcome)
    (session : SettlementSession) (transfers : List SettlementTransfer) (state : RtgsState) :
    RtgsState :=
  { state with
    settlement :=
      state.settlement.advanced context.runtime place (.dispatching session transfers)
        ⟨now, state.dispatched context health session transfers⟩ }

/-- One step, where it is possible. -/
def rtgsStep (context : RtgsContext) (state : RtgsState) : RtgsAction → Option RtgsState
  | .settlement action =>
      if state.waitsForMock action then none
      else
        (settlementStep context.runtime state.settlement action).map fun settlement =>
          { state with settlement := settlement }
  | .send place =>
      match state.dispatchAt place with
      | none => none
      | some (session, transfers) =>
          match mockSystemOf session.zone, state.nextTransfer transfers with
          | some system, some transfer =>
              if transfer.id ∈ state.sent then none
              else some (state.sending context system session transfer)
          | _, _ => none
  | .handle index draws =>
      match state.flying[index]? with
      | none => none
      | some (system, payload) => some (state.handled index system payload draws)
  | .receive place =>
      match (state.dispatchAt place).bind fun dispatch => state.nextTransfer dispatch.2 with
      | none => none
      | some transfer =>
          (state.answers.get? transfer.id).map fun answer =>
            state.ending transfer.id (.response (context.httpResponse answer))
  | .giveUp place message =>
      match (state.dispatchAt place).bind fun dispatch => state.nextTransfer dispatch.2 with
      | none => none
      | some transfer =>
          if transfer.id ∈ state.sent then
            some (state.ending transfer.id (failedRequest message))
          else none
  | .finish place now health =>
      match state.dispatchAt place with
      | none => none
      | some (session, transfers) =>
          if state.mayFinish health transfers then
            some (state.finished context place now health session transfers)
          else none
  | .addToBlacklist banks =>
      some { state with mock := RtgsMock.addToBlacklist banks state.mock }
  | .clearBlacklist => some { state with mock := RtgsMock.clearBlacklist state.mock }
  | .resetCache => some { state with mock := resetIdempotencyCache state.mock }

/-- Before any task, and before any request to the mock. -/
structure RtgsState.IsStart (state : RtgsState) : Prop where
  settlement : state.settlement.IsStart
  cache : state.mock.idempotencyCache = []
  sent : state.sent = []
  flying : state.flying = []
  answers : state.answers = []
  ended : state.ended = []
  executed : state.executed = []

def rtgsSystem (context : RtgsContext) : TransitionSystem RtgsState RtgsAction :=
  .ofStep RtgsState.IsStart (rtgsStep context)

/-! ## What a step can do -/

/-- The task at a place dispatches its transfers through the mock. -/
structure RtgsState.Dispatches
    (state : RtgsState) (place : Nat) (system : MockSystem) (session : SettlementSession)
    (transfers : List SettlementTransfer) : Prop where
  going : state.settlement.tasks[place]? = some (.dispatching session transfers)
  behind : mockSystemOf session.zone = some system

/-- The transfer is the next one of the dispatch. -/
structure RtgsState.IsNext
    (state : RtgsState) (transfers : List SettlementTransfer) (transfer : SettlementTransfer) :
    Prop where
  listed : transfer ∈ transfers
  unended : state.ended.get? transfer.id = none

inductive RtgsMove (context : RtgsContext) (state : RtgsState) :
    RtgsAction → RtgsState → Prop where
  | settled (action : SettlementAction) (settlement : SettlementState)
      (free : state.waitsForMock action = false)
      (move : SettlementMove context.runtime state.settlement action settlement) :
      RtgsMove context state (.settlement action) { state with settlement := settlement }
  | sent (place : Nat) (system : MockSystem) (session : SettlementSession)
      (transfers : List SettlementTransfer) (transfer : SettlementTransfer)
      (dispatches : state.Dispatches place system session transfers)
      (next : state.IsNext transfers transfer) (new : transfer.id ∉ state.sent) :
      RtgsMove context state (.send place) (state.sending context system session transfer)
  | handled (index : Nat) (draws : SettleDraws) (system : MockSystem)
      (payload : SettleRequest) (going : state.flying[index]? = some (system, payload)) :
      RtgsMove context state (.handle index draws)
        (state.handled index system payload draws)
  | received (place : Nat) (system : MockSystem) (session : SettlementSession)
      (transfers : List SettlementTransfer) (transfer : SettlementTransfer)
      (dispatches : state.Dispatches place system session transfers)
      (next : state.IsNext transfers transfer) (answer : SettleAnswer)
      (known : state.answers.get? transfer.id = some answer) :
      RtgsMove context state (.receive place)
        (state.ending transfer.id (.response (context.httpResponse answer)))
  | gaveUp (place : Nat) (message : Option PyStr) (system : MockSystem)
      (session : SettlementSession) (transfers : List SettlementTransfer)
      (transfer : SettlementTransfer)
      (dispatches : state.Dispatches place system session transfers)
      (next : state.IsNext transfers transfer) (sent : transfer.id ∈ state.sent) :
      RtgsMove context state (.giveUp place message)
        (state.ending transfer.id (failedRequest message))
  | finished (place : Nat) (now : Instant) (health : HttpOutcome) (system : MockSystem)
      (session : SettlementSession) (transfers : List SettlementTransfer)
      (dispatches : state.Dispatches place system session transfers)
      (ready : state.mayFinish health transfers = true) :
      RtgsMove context state (.finish place now health)
        (state.finished context place now health session transfers)
  | managed (action : RtgsAction) (mock : MockRtgs)
      (cache : mock.idempotencyCache = state.mock.idempotencyCache ∨
        mock.idempotencyCache = []) :
      RtgsMove context state action { state with mock := mock }

section Moves

variable {context : RtgsContext} {state after : RtgsState} {action : RtgsAction}

theorem dispatches_of_dispatchAt
    {place : Nat} {session : SettlementSession} {transfers : List SettlementTransfer}
    (found : state.dispatchAt place = some (session, transfers)) :
    ∃ system, state.Dispatches place system session transfers := by
  rcases Option.bind_eq_some_iff.mp found with ⟨stage, going, dispatch⟩
  cases stage with
  | dispatching owner listed =>
      simp only [mockDispatch] at dispatch
      split at dispatch
      · rename_i behind
        cases dispatch
        rcases Option.isSome_iff_exists.mp behind with ⟨system, behind⟩
        exact ⟨system, going, behind⟩
      · cases dispatch
  | _ => cases dispatch

theorem isNext_of_nextTransfer
    {transfers : List SettlementTransfer} {transfer : SettlementTransfer}
    (found : state.nextTransfer transfers = some transfer) :
    state.IsNext transfers transfer where
  listed := List.mem_of_find?_eq_some found
  unended := by simpa using List.find?_some found

/-- The next transfer of a dispatch through the mock. -/
theorem next_of_bind
    {place : Nat} {transfer : SettlementTransfer}
    (found : ((state.dispatchAt place).bind fun dispatch => state.nextTransfer dispatch.2) =
      some transfer) :
    ∃ system session transfers, state.Dispatches place system session transfers ∧
      state.IsNext transfers transfer := by
  rcases Option.bind_eq_some_iff.mp found with ⟨⟨session, transfers⟩, dispatch, next⟩
  rcases dispatches_of_dispatchAt dispatch with ⟨system, dispatches⟩
  exact ⟨system, session, transfers, dispatches, isNext_of_nextTransfer next⟩

/-- The inversion lemma of the system. -/
theorem rtgsMove_of_step (moved : rtgsStep context state action = some after) :
    RtgsMove context state action after := by
  cases action with
  | settlement action =>
      simp only [rtgsStep] at moved
      split at moved
      · cases moved
      · rename_i free
        rcases Option.map_eq_some_iff.mp moved with ⟨settlement, step, rfl⟩
        exact .settled action settlement (Bool.not_eq_true _ ▸ free)
          (settlementMove_of_step step)
  | send place =>
      simp only [rtgsStep] at moved
      split at moved
      · cases moved
      · rename_i session transfers found
        rcases dispatches_of_dispatchAt found with ⟨system, dispatches⟩
        split at moved
        · rename_i other transfer behind next
          cases dispatches.behind.symm.trans behind
          split at moved
          · cases moved
          · rename_i new
            cases moved
            exact .sent place system session transfers transfer dispatches
              (isNext_of_nextTransfer next) new
        · cases moved
  | handle index draws =>
      simp only [rtgsStep] at moved
      split at moved
      · cases moved
      · rename_i system payload going
        cases moved
        exact .handled index draws system payload going
  | receive place =>
      simp only [rtgsStep] at moved
      split at moved
      · cases moved
      · rename_i transfer found
        rcases next_of_bind found with ⟨system, session, transfers, dispatches, next⟩
        rcases Option.map_eq_some_iff.mp moved with ⟨answer, known, rfl⟩
        exact .received place system session transfers transfer dispatches next answer known
  | giveUp place message =>
      simp only [rtgsStep] at moved
      split at moved
      · cases moved
      · rename_i transfer found
        rcases next_of_bind found with ⟨system, session, transfers, dispatches, next⟩
        split at moved
        · rename_i sent
          cases moved
          exact .gaveUp place message system session transfers transfer dispatches next sent
        · cases moved
  | finish place now health =>
      simp only [rtgsStep] at moved
      split at moved
      · cases moved
      · rename_i session transfers found
        rcases dispatches_of_dispatchAt found with ⟨system, dispatches⟩
        split at moved
        · rename_i ready
          cases moved
          exact .finished place now health system session transfers dispatches ready
        · cases moved
  | addToBlacklist banks =>
      cases moved
      exact .managed _ _ (.inl rfl)
  | clearBlacklist =>
      cases moved
      exact .managed _ _ (.inl rfl)
  | resetCache =>
      cases moved
      exact .managed _ _ (.inr rfl)

/-- A step of the system is a step of the tasks, or leaves them. -/
theorem RtgsMove.settlement (move : RtgsMove context state action after) :
    after.settlement = state.settlement ∨
      ∃ step, SettlementMove context.runtime state.settlement step after.settlement := by
  cases move with
  | settled action settlement free move => exact .inr ⟨action, move⟩
  | finished place now health system session transfers dispatches ready =>
      exact .inr ⟨_, .advanced place _ _ dispatches.going rfl⟩
  | sent | handled | received | gaveUp | managed => exact .inl rfl

/-- The tasks own their sessions and know their transfers, with the mock as
without it. -/
theorem held_of_reachable (reached : (rtgsSystem context).Reachable state) :
    SessionsOwned state.settlement ∧ TransfersHeld state.settlement := by
  apply reached.invariant
  · intro start isStart
    exact ⟨.start isStart.settlement, .start isStart.settlement⟩
  · intro source label target _ held move
    rcases (rtgsMove_of_step move).settlement with same | ⟨step, moved⟩
    · rw [same]
      exact held
    · exact ⟨held.1.step moved, held.2.step held.1 moved⟩

end Moves

end Klik.RtgsMock
