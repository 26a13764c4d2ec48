import Klik.RtgsMock.Settle

/-!
# Transfers asked for again

The mock alone, asked by anybody and in any order.  As long as its cache is
not reset, all responses to one transfer are equal, and a transfer is carried
out once, even where two systems are asked for it.
-/

namespace Klik.RtgsMock

open Klik.Common
open Klik.Lib

/-! ## The mock and its requests -/

inductive MockRequest where
  | settle (system : MockSystem) (payload : SettleRequest) (draws : SettleDraws)
  | addToBlacklist (banks : List PyStr)
  | clearBlacklist
  | resetCache

/-- The mock with the responses which it has given and the transfers which it
has carried out, each in order. -/
structure MockHistory where
  mock : MockRtgs
  responses : List (Uuid × SettleResponse)
  executed : List Execution

/-- The response of an answer, under the key of its transfer. -/
def SettleAnswer.logged (transferId : Uuid) : SettleAnswer → List (Uuid × SettleResponse)
  | .response given => [(transferId, given)]
  | .httpException _ _ => []

/-- The history after a request. -/
def MockHistory.after (history : MockHistory) : MockRequest → MockHistory
  | .settle system payload draws =>
      let effect := settle system payload draws history.mock
      { mock := effect.mock
        responses := history.responses ++ effect.answer.logged payload.transferId
        executed := history.executed ++ effect.executed }
  | .addToBlacklist banks =>
      { history with mock := RtgsMock.addToBlacklist banks history.mock }
  | .clearBlacklist => { history with mock := RtgsMock.clearBlacklist history.mock }
  | .resetCache => { history with mock := resetIdempotencyCache history.mock }

def mockStep (history : MockHistory) (request : MockRequest) : Option MockHistory :=
  some (history.after request)

/-- The mock has just started, with the blacklist of its settings. -/
structure MockHistory.IsStart (history : MockHistory) : Prop where
  cache : history.mock.idempotencyCache = []
  responses : history.responses = []
  executed : history.executed = []

def mockSystem : TransitionSystem MockHistory MockRequest :=
  .ofStep MockHistory.IsStart mockStep

/-- The request leaves the cache to the transfers. -/
def keepsCache (_ : MockHistory) : MockRequest → Bool
  | .resetCache => false
  | _ => true

/-! ## Responses and executions -/

/-- The key of an executed transfer. -/
def Execution.transferId (execution : Execution) : Uuid := execution.request.transferId

/-- The cache knows every response and every execution. -/
structure Remembered (history : MockHistory) : Prop where
  responses : RepliesKept history.mock.idempotencyCache history.responses
  executed : CarriedOnce SettleResponse.succeeded history.mock.idempotencyCache
    (history.executed.map Execution.transferId)
  references : ∀ execution ∈ history.executed, ∃ response,
    history.mock.idempotencyCache.get? execution.transferId = some response ∧
      response.rtgsReference = execution.reference

theorem Remembered.settled
    {history : MockHistory} (remembered : Remembered history)
    (system : MockSystem) (payload : SettleRequest) (draws : SettleDraws) :
    Remembered (history.after (.settle system payload draws)) := by
  have case := settle_case system payload draws history.mock
  simp only [MockHistory.after]
  generalize settle system payload draws history.mock = effect at case ⊢
  cases case with
  | refused statusCode detail =>
      simp only [SettleAnswer.logged, List.append_nil]
      exact remembered
  | repeated cached known =>
      simp only [SettleAnswer.logged, List.append_nil]
      refine ⟨?_, remembered.executed, remembered.references⟩
      have kept := remembered.responses.remember payload.transferId none
      rwa [remember_known known, replyTo_known known] at kept
  | decided response new =>
      have kept := remembered.responses.remember payload.transferId (some response)
      have once := remembered.executed.remember payload.transferId (some response)
      rw [remember_new new] at kept once
      rw [replyTo_new new] at kept
      refine ⟨kept, ?_, ?_⟩
      · have moved : (if response.succeeded then
              [(⟨system, payload, response.rtgsReference⟩ : Execution)] else []).map
                Execution.transferId =
            if carriesOut SettleResponse.succeeded history.mock.idempotencyCache
              payload.transferId (some response) then [payload.transferId] else [] := by
          simp only [carriesOut, new, Option.isNone_none, Bool.true_and, Option.any_some]
          split <;> rfl
        rw [List.map_append, moved]
        exact once
      · intro execution member
        rcases List.mem_append.mp member with earlier | fresh
        · rcases remembered.references execution earlier with ⟨known, found, reference⟩
          have kept := get?_remember_of_get? found payload.transferId (some response)
          rw [remember_new new] at kept
          exact ⟨known, kept, reference⟩
        · split at fresh
          · cases List.mem_singleton.mp fresh
            refine ⟨response, ?_, rfl⟩
            rw [InsertionDict.get?_set]
            exact if_pos rfl
          · cases fresh

theorem remembered_of_reachable
    {history : MockHistory}
    (reached : (mockSystem.guarded fun history request =>
      keepsCache history request = true).Reachable history) :
    Remembered history := by
  apply reached.invariant
  · intro start isStart
    constructor
    · rw [isStart.responses]
      exact .nil
    · rw [isStart.cache, isStart.executed]
      exact .nil
    · rw [isStart.executed]
      intro execution member
      cases member
  · intro source request target _ remembered move
    rcases move with ⟨keeps, step⟩
    cases step
    cases request with
    | settle system payload draws => exact remembered.settled system payload draws
    | addToBlacklist | clearBlacklist =>
        exact ⟨remembered.responses, remembered.executed, remembered.references⟩
    | resetCache => cases keeps

/-- All responses to one transfer are equal, no transfer is carried out twice,
and a response tells whether its transfer was carried out, with its
reference. -/
theorem repeated_transfers
    (history : MockHistory)
    (reached : (mockSystem.guarded fun history request =>
      keepsCache history request = true).Reachable history) :
    (history.executed.map Execution.transferId).Nodup ∧
      (∀ transferId first second, (transferId, first) ∈ history.responses →
        (transferId, second) ∈ history.responses → first = second) ∧
      ∀ transferId response, (transferId, response) ∈ history.responses →
        (response.succeeded = true ↔ ∃ execution ∈ history.executed,
          execution.transferId = transferId ∧
            execution.reference = response.rtgsReference) := by
  have remembered := remembered_of_reachable reached
  refine ⟨remembered.executed.nodup, fun _ _ _ => remembered.responses.same, ?_⟩
  intro transferId response given
  have known : history.mock.idempotencyCache.get? transferId = some response :=
    remembered.responses _ given
  have carried := remembered.executed.mem_iff transferId
  rw [known, Option.any_some] at carried
  rw [← carried]
  constructor
  · intro member
    rcases List.mem_map.mp member with ⟨execution, done, same⟩
    rcases remembered.references execution done with ⟨other, found, reference⟩
    rw [same, known] at found
    cases found
    exact ⟨execution, done, same, reference.symm⟩
  · rintro ⟨execution, done, same, _⟩
    exact same ▸ List.mem_map_of_mem done

/-- A request to settle ten zloty. -/
def tenZloty : SettleRequest where
  sessionId := 0
  transferId := 7
  system := py "SORBNET3"
  fromBank := py "PKO"
  toBank := py "Santander"
  amount := 10
  currency := py "PLN"

/-- The transfer times out, is carried out, and is asked for again when its
bank is on the blacklist, also at another system. -/
def askedAgain : List MockRequest :=
  [.settle .sorbnet3 tenZloty ⟨true, false, 0⟩, .settle .sorbnet3 tenZloty ⟨false, false, 255⟩,
    .addToBlacklist [py "PKO"], .settle .sorbnet3 tenZloty ⟨false, true, 1⟩,
    .settle .chaps { tenZloty with currency := py "GBP" } ⟨false, false, 2⟩]

theorem repeated_transfers_askedAgain :
    ∃ history, TransitionSystem.runLabels (TransitionSystem.guardStep mockStep keepsCache)
        ⟨⟨[], []⟩, [], []⟩ askedAgain = some history ∧
      history.responses.length = 3 ∧
      (history.executed.map Execution.transferId).Nodup := by
  have shown : (TransitionSystem.runLabels (TransitionSystem.guardStep mockStep keepsCache)
      ⟨⟨[], []⟩, [], []⟩ askedAgain).map (fun history => history.responses.length) =
      some 3 := by
    decide +kernel
  rcases Option.map_eq_some_iff.mp shown with ⟨history, run, given⟩
  have reached : (mockSystem.guarded fun history request =>
      keepsCache history request = true).Reachable history :=
    (TransitionSystem.guarded_path_of_runLabels run).reachable (.init ⟨rfl, rfl, rfl⟩)
  exact ⟨history, run, given, (repeated_transfers history reached).1⟩

end Klik.RtgsMock
