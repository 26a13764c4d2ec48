import Klik.Idempotency.Decorator
import Klik.Lib.InFlight
import Klik.Lib.TransitionSystem

/-!
# Requests to idempotent endpoints side by side

Each request takes three steps: the lookup, the call of the view, and the
storing of its reply.  The views are a function of the request and of what
else they read when they run, which is different at each call.  For each
stored reply the system remembers the request which it was made for.
-/

namespace Klik.Idempotency

open Klik.Common
open Klik.Lib

/-! ## States -/

/-- How a call of a view ends. -/
inductive ViewResult where
  | raised
  | returned (response : Response)

/-- What a request with a key does next. -/
inductive RequestStage where
  | calling
  | storing (response : Response)

/-- A request whose lookup has found nothing. -/
structure RunningRequest where
  request : IdempotentRequest
  redisKey : PyStr
  payloadHash : PyStr
  stage : RequestStage

/-- A call of a view which has returned. -/
structure ViewRun where
  request : IdempotentRequest
  redisKey : PyStr
  payloadHash : PyStr
  response : Response

/-- How a request is answered. -/
inductive Reply where
  | raised (error : KlikAPIException)
  | viewRaised
  | returned (response : Response)
  | replayed (response : Response) (madeFor : Option IdempotentRequest)

/-- The reply which a client sees, if there is no exception. -/
def Reply.response : Reply → Option Response
  | .raised _ => none
  | .viewRaised => none
  | .returned response => some response
  | .replayed response _ => some response

structure Answer where
  request : IdempotentRequest
  reply : Reply

/-- The clock of Redis, the stored replies and what they were made for, the
requests under way, the calls which have returned, and the answers. -/
structure RequestState where
  clock : Nat
  cache : ReplyCache
  madeFor : PyStr → Option IdempotentRequest
  running : List RunningRequest
  executed : List ViewRun
  answers : List Answer

inductive RequestAction (World : Type) where
  | tick (clock : Nat)
  | lookUp (request : IdempotentRequest)
  | call (index : Nat) (world : World)
  | store (index : Nat)

/-! ## Steps -/

variable {World : Type}
variable (sha256 : PyStr → PyStr) (viewMethod : IdempotentRequest → World → ViewResult)

/-- The state after an answer. -/
def RequestState.answered
    (request : IdempotentRequest) (reply : Reply) (state : RequestState) : RequestState :=
  { state with answers := state.answers ++ [⟨request, reply⟩] }

/-- The state after the lookup of a request. -/
def RequestState.lookedUp (request : IdempotentRequest) (state : RequestState) :
    RequestState :=
  match lookUp sha256 state.cache state.clock request with
  | .raised error => state.answered request (.raised error)
  | .replay redisKey response =>
      state.answered request (.replayed response (state.madeFor redisKey))
  | .call redisKey payloadHash =>
      { state with running := state.running ++ [⟨request, redisKey, payloadHash, .calling⟩] }

/-- The state after the call of the view. -/
def RequestState.called
    (index : Nat) (going : RunningRequest) (world : World) (state : RequestState) :
    RequestState :=
  let others := state.running.eraseIdx index
  match viewMethod going.request world with
  | .raised => { state.answered going.request .viewRaised with running := others }
  | .returned response =>
      { state with
        running := others ++ [{ going with stage := .storing response }]
        executed := state.executed ++
          [⟨going.request, going.redisKey, going.payloadHash, response⟩] }

/-- The state after the rest of the wrapper. -/
def RequestState.stored
    (index : Nat) (going : RunningRequest) (response : Response) (state : RequestState) :
    RequestState :=
  { state.answered going.request (.returned response) with
    cache := storeReply state.clock going.redisKey going.payloadHash response state.cache
    madeFor :=
      if response.isSuccess then
        Function.update state.madeFor going.redisKey (some going.request)
      else state.madeFor
    running := state.running.eraseIdx index }

/-- One step, where it is possible. -/
def requestStep (state : RequestState) : RequestAction World → Option RequestState
  | .tick clock => some { state with clock := clock }
  | .lookUp request => some (state.lookedUp sha256 request)
  | .call index world =>
      match state.running[index]? with
      | some going =>
          match going.stage with
          | .calling => some (state.called viewMethod index going world)
          | .storing _ => none
      | none => none
  | .store index =>
      match state.running[index]? with
      | some going =>
          match going.stage with
          | .calling => none
          | .storing response => some (state.stored index going response)
      | none => none

/-- A Redis without replies. -/
structure RequestState.IsStart (state : RequestState) : Prop where
  cache : state.cache = ExpiringStore.empty
  running : state.running = []
  executed : state.executed = []
  answers : state.answers = []

def requestSystem : TransitionSystem RequestState (RequestAction World) :=
  .ofStep RequestState.IsStart (requestStep sha256 viewMethod)

/-- A new Redis. -/
def noReplies : RequestState where
  clock := 0
  cache := .empty
  madeFor _ := none
  running := []
  executed := []
  answers := []

theorem isStart_noReplies : noReplies.IsStart :=
  ⟨rfl, rfl, rfl, rfl⟩

def firstBank : Client := ⟨.bank, 1, by decide +kernel⟩

/-- SHA-256 on an empty body, and on the body of a request for a code. -/
def exampleSha256 (text : PyStr) : PyStr :=
  if text = py "\x7b\x7d" then
    py "44136fa355b3678a1146ad16f7e8649e94fb4fc21fe77e8310c060f61caaff8a"
  else if text = py "\x7b\"user_id\": \"client\", \"zone\": \"PL\"\x7d" then
    py "688f7c25628567460faae10c31b70555123c5bb75be7e2a30b5b3f5271c9f97a"
  else text

/-! ## What one step does -/

/-- The effect of a step. -/
inductive RequestEffect (state : RequestState) : RequestAction World → RequestState → Prop where
  | ticked (clock : Nat) :
      RequestEffect state (.tick clock) { state with clock := clock }
  | refused (request : IdempotentRequest) (error : KlikAPIException)
      (conflict : ∀ key, request.idempotencyKey = some key → key ≠ [] →
        error = idempotencyConflictError) :
      RequestEffect state (.lookUp request) (state.answered request (.raised error))
  | replayed (request : IdempotentRequest) (key : PyStr) (cached : CachedReply)
      (given : request.idempotencyKey = some key)
      (found : state.cache.get state.clock (redisKeyOf request.user key) = some cached)
      (samePayload : cached.payloadHash = hashPayload sha256 request.data) :
      RequestEffect state (.lookUp request)
        (state.answered request
          (.replayed cached.response (state.madeFor (redisKeyOf request.user key))))
  | begun (request : IdempotentRequest) (key : PyStr)
      (given : request.idempotencyKey = some key) (notEmpty : key ≠ [])
      (unseen : state.cache.get state.clock (redisKeyOf request.user key) = none) :
      RequestEffect state (.lookUp request)
        { state with
          running := state.running ++
            [⟨request, redisKeyOf request.user key, hashPayload sha256 request.data,
              .calling⟩] }
  | failed (index : Nat) (world : World) (going : RunningRequest)
      (found : state.running[index]? = some going)
      (stage : going.stage = .calling) :
      RequestEffect state (.call index world)
        { state.answered going.request .viewRaised with
          running := state.running.eraseIdx index }
  | returned (index : Nat) (world : World) (going : RunningRequest) (response : Response)
      (found : state.running[index]? = some going)
      (stage : going.stage = .calling)
      (its : viewMethod going.request world = .returned response) :
      RequestEffect state (.call index world)
        { state with
          running := state.running.eraseIdx index ++
            [{ going with stage := .storing response }]
          executed := state.executed ++
            [⟨going.request, going.redisKey, going.payloadHash, response⟩] }
  | ended (index : Nat) (going : RunningRequest) (response : Response)
      (found : state.running[index]? = some going)
      (stage : going.stage = .storing response) :
      RequestEffect state (.store index) (state.stored index going response)

/-- The effect of every step. -/
theorem effect_of_step
    {state after : RequestState} {action : RequestAction World}
    (move : (requestSystem sha256 viewMethod).Step state action after) :
    RequestEffect sha256 viewMethod state action after := by
  simp only [requestSystem, TransitionSystem.ofStep] at move
  cases action with
  | tick clock =>
      cases move
      exact .ticked clock
  | lookUp request =>
      cases move
      simp only [RequestState.lookedUp]
      rcases lookUp_cases sha256 state.cache state.clock request with
        ⟨error, raised, conflict⟩ |
          ⟨key, given, notEmpty, ⟨cached, found, samePayload, replay⟩ | ⟨unseen, call⟩⟩
      · rw [raised]
        exact .refused request error conflict
      · rw [replay]
        exact .replayed request key cached given found samePayload
      · rw [call]
        exact .begun request key given notEmpty unseen
  | call index world =>
      simp only [requestStep] at move
      split at move
      · rename_i going found
        split at move
        · rename_i stage
          cases move
          simp only [RequestState.called]
          cases result : viewMethod going.request world with
          | raised => exact .failed index world going found stage
          | returned response => exact .returned index world going response found stage result
        · cases move
      · cases move
  | store index =>
      simp only [requestStep] at move
      split at move
      · rename_i going found
        split at move
        · cases move
        · rename_i response stage
          cases move
          exact .ended index going response found stage
      · cases move

/-! ## Keys of the calls -/

/-- Requests under way and calls which have returned are under the key and the
payload of their request, and a reply which is about to be stored was
returned. -/
structure RunsKeyed (running : List RunningRequest) (executed : List ViewRun) : Prop where
  going : ∀ going ∈ running, Keyed sha256 going.request going.redisKey going.payloadHash
  runs : ∀ run ∈ executed, Keyed sha256 run.request run.redisKey run.payloadHash
  storing : ∀ going ∈ running, ∀ response, going.stage = .storing response →
    ⟨going.request, going.redisKey, going.payloadHash, response⟩ ∈ executed

theorem runsKeyed_nil : RunsKeyed sha256 [] [] := by
  constructor
  · simp
  · simp
  · simp

/-- Requests under way may leave. -/
theorem RunsKeyed.fewer
    {running fewer : List RunningRequest} {executed : List ViewRun}
    (keyed : RunsKeyed sha256 running executed)
    (among : ∀ going ∈ fewer, going ∈ running) : RunsKeyed sha256 fewer executed := by
  constructor
  · exact fun going member => keyed.going going (among going member)
  · exact keyed.runs
  · exact fun going member => keyed.storing going (among going member)

theorem RunsKeyed.begun
    {running : List RunningRequest} {executed : List ViewRun}
    (keyed : RunsKeyed sha256 running executed)
    {request : IdempotentRequest} {key : PyStr}
    (given : request.idempotencyKey = some key) :
    RunsKeyed sha256
      (running ++ [⟨request, redisKeyOf request.user key, hashPayload sha256 request.data,
        .calling⟩]) executed := by
  constructor
  · intro going member
    rcases List.mem_append.mp member with old | new
    · exact keyed.going going old
    · rw [List.mem_singleton.mp new]
      exact ⟨⟨key, given, rfl⟩, rfl⟩
  · exact keyed.runs
  · intro going member response stage
    rcases List.mem_append.mp member with old | new
    · exact keyed.storing going old response stage
    · rw [List.mem_singleton.mp new] at stage
      cases stage

theorem RunsKeyed.returned
    {running : List RunningRequest} {executed : List ViewRun}
    (keyed : RunsKeyed sha256 running executed)
    {index : Nat} {going : RunningRequest} (response : Response)
    (found : running[index]? = some going) :
    RunsKeyed sha256
      (running.eraseIdx index ++ [{ going with stage := .storing response }])
      (executed ++ [⟨going.request, going.redisKey, going.payloadHash, response⟩]) := by
  have goingKeyed := keyed.going going (List.mem_of_getElem? found)
  constructor
  · intro other member
    rcases List.mem_append.mp member with old | new
    · exact keyed.going other (List.mem_of_mem_eraseIdx old)
    · rw [List.mem_singleton.mp new]
      exact goingKeyed
  · intro run member
    rcases List.mem_append.mp member with old | new
    · exact keyed.runs run old
    · rw [List.mem_singleton.mp new]
      exact goingKeyed
  · intro other member reply stage
    rcases List.mem_append.mp member with old | new
    · exact List.mem_append_left _
        (keyed.storing other (List.mem_of_mem_eraseIdx old) reply stage)
    · rw [List.mem_singleton.mp new] at stage ⊢
      cases stage
      exact List.mem_append_right _ (List.mem_singleton_self _)

end Klik.Idempotency
