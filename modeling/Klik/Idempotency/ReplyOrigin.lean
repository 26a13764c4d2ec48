import Klik.Idempotency.RequestSystem
import Klik.Recurring.SlotsOnce

/-!
# Which request a reply was made for

A stored reply is found by the client and the `Idempotency-Key`, and replayed
for the same payload.  Neither says which endpoint it came from: a second
request is told apart from the first one by its client or its payload only.
-/

namespace Klik.Idempotency

open Klik.Banks
open Klik.Common
open Klik.Lib
open Klik.Recurring

variable {World : Type}
variable (sha256 : PyStr → PyStr) (viewMethod : IdempotentRequest → World → ViewResult)

/-! ## What is claimed -/

/-- What a second request may be answered with where the first one has the same
`Idempotency-Key`: a conflict, what its own view does, or a stored reply, which
is the one of the first request for a duplicate of it only. -/
inductive AnsweredAsItself (first second : IdempotentRequest) (executed : List ViewRun) :
    Reply → Prop where
  | conflict : AnsweredAsItself first second executed (.raised idempotencyConflictError)
  | failed : AnsweredAsItself first second executed .viewRaised
  | own (response : Response)
      (ran : ∃ run ∈ executed, run.request = second ∧ run.response = response) :
      AnsweredAsItself first second executed (.returned response)
  | replayed (response : Response) (origin : IdempotentRequest)
      (same : origin = first → Duplicate first second) :
      AnsweredAsItself first second executed (.replayed response (some origin))

/-- The second request is never answered with the reply to another request. -/
def AnswersItself (first second : IdempotentRequest) (state : RequestState) : Prop :=
  ∀ answer ∈ state.answers, answer.request = second →
    AnsweredAsItself first second state.executed answer.reply

/-- The view of a request can answer it with success. -/
def CanSucceed (request : IdempotentRequest) : Prop :=
  ∃ world response, viewMethod request world = .returned response ∧
    response.isSuccess = true

/-- Where a reply of the first request has the client and the payload hash of
the second one, the requests are to the same endpoint with the same payload. -/
def ToldApart (first second : IdempotentRequest) : Prop :=
  CanSucceed viewMethod first → first.user = second.user →
    hashPayload sha256 first.data = hashPayload sha256 second.data →
      first.endpoint = second.endpoint ∧ first.data.canonical = second.data.canonical

/-! ## Where replies come from -/

/-- A call of a view with the key and the payload of its request. -/
structure ViewRun.IsReal (run : ViewRun) : Prop where
  keyed : Keyed sha256 run.request run.redisKey run.payloadHash
  returned : ∃ world, viewMethod run.request world = .returned run.response

/-- How a request is answered. -/
inductive AnsweredFrom (executed : List ViewRun) (request : IdempotentRequest) :
    Reply → Prop where
  | refused (error : KlikAPIException)
      (conflict : ∀ key, request.idempotencyKey = some key → key ≠ [] →
        error = idempotencyConflictError) :
      AnsweredFrom executed request (.raised error)
  | failed : AnsweredFrom executed request .viewRaised
  | own (response : Response)
      (ran : ∃ run ∈ executed, run.request = request ∧ run.response = response) :
      AnsweredFrom executed request (.returned response)
  | replayed (run : ViewRun) (member : run ∈ executed)
      (success : run.response.isSuccess = true)
      (keyed : Keyed sha256 request run.redisKey run.payloadHash) :
      AnsweredFrom executed request (.replayed run.response (some run.request))

theorem AnsweredFrom.mono
    {executed more : List ViewRun} {request : IdempotentRequest} {reply : Reply}
    (answered : AnsweredFrom sha256 executed request reply)
    (kept : ∀ run ∈ executed, run ∈ more) :
    AnsweredFrom sha256 more request reply := by
  cases answered with
  | refused error conflict => exact .refused error conflict
  | failed => exact .failed
  | own response ran =>
      rcases ran with ⟨run, member, its⟩
      exact .own response ⟨run, kept run member, its⟩
  | replayed run member success keyed => exact .replayed run (kept run member) success keyed

/-- Each stored reply is the one of the call which it is said to be of. -/
structure OriginsKept (state : RequestState) : Prop
    extends RunsKeyed sha256 state.running state.executed where
  real : ∀ run ∈ state.executed, run.IsReal sha256 viewMethod
  stored : ∀ redisKey stored, state.cache redisKey = some stored →
    ∃ run ∈ state.executed, run.redisKey = redisKey ∧ run.response.isSuccess = true ∧
      stored.value = run.response.cached run.payloadHash ∧
      state.madeFor redisKey = some run.request
  answers : ∀ answer ∈ state.answers,
    AnsweredFrom sha256 state.executed answer.request answer.reply

theorem OriginsKept.answer
    {state : RequestState} (kept : OriginsKept sha256 viewMethod state)
    {request : IdempotentRequest} {reply : Reply}
    (answered : AnsweredFrom sha256 state.executed request reply) :
    OriginsKept sha256 viewMethod (state.answered request reply) := by
  constructor
  · exact kept.toRunsKeyed
  · exact kept.real
  · exact kept.stored
  · intro answer member
    rcases List.mem_append.mp member with old | new
    · exact kept.answers answer old
    · rw [List.mem_singleton.mp new]
      exact answered

/-- Requests under way may leave. -/
theorem OriginsKept.running
    {state : RequestState} (kept : OriginsKept sha256 viewMethod state)
    {running : List RunningRequest} (fewer : ∀ going ∈ running, going ∈ state.running) :
    OriginsKept sha256 viewMethod { state with running := running } := by
  constructor
  · exact kept.toRunsKeyed.fewer sha256 fewer
  · exact kept.real
  · exact kept.stored
  · exact kept.answers

theorem OriginsKept.begun
    {state : RequestState} (kept : OriginsKept sha256 viewMethod state)
    {request : IdempotentRequest} {key : PyStr}
    (given : request.idempotencyKey = some key) :
    OriginsKept sha256 viewMethod
      { state with
        running := state.running ++
          [⟨request, redisKeyOf request.user key, hashPayload sha256 request.data,
            .calling⟩] } := by
  constructor
  · exact kept.toRunsKeyed.begun sha256 given
  · exact kept.real
  · exact kept.stored
  · exact kept.answers

theorem OriginsKept.returned
    {state : RequestState} (kept : OriginsKept sha256 viewMethod state)
    {index : Nat} {going : RunningRequest} {response : Response} {world : World}
    (found : state.running[index]? = some going)
    (its : viewMethod going.request world = .returned response) :
    OriginsKept sha256 viewMethod
      { state with
        running := state.running.eraseIdx index ++ [{ going with stage := .storing response }]
        executed := state.executed ++
          [⟨going.request, going.redisKey, going.payloadHash, response⟩] } := by
  have goingKeyed := kept.going going (List.mem_of_getElem? found)
  constructor
  · exact kept.toRunsKeyed.returned sha256 response found
  · intro run member
    rcases List.mem_append.mp member with old | new
    · exact kept.real run old
    · rw [List.mem_singleton.mp new]
      exact ⟨goingKeyed, world, its⟩
  · intro redisKey stored present
    rcases kept.stored redisKey stored present with ⟨run, member, parts⟩
    exact ⟨run, List.mem_append_left _ member, parts⟩
  · intro answer member
    exact (kept.answers answer member).mono sha256 fun run => List.mem_append_left _

theorem OriginsKept.ended
    {state : RequestState} (kept : OriginsKept sha256 viewMethod state)
    {index : Nat} {going : RunningRequest} {response : Response}
    (found : state.running[index]? = some going) (stage : going.stage = .storing response) :
    OriginsKept sha256 viewMethod (state.stored index going response) := by
  have executed := kept.storing going (List.mem_of_getElem? found) response stage
  constructor
  · exact kept.toRunsKeyed.fewer sha256 fun _ => List.mem_of_mem_eraseIdx
  · exact kept.real
  · intro redisKey stored present
    simp only [RequestState.stored, storeReply] at present ⊢
    split at present
    · rename_i success
      by_cases same : redisKey = going.redisKey
      · subst same
        rw [ExpiringStore.set_same] at present
        cases present
        refine ⟨_, executed, rfl, success, rfl, ?_⟩
        rw [if_pos success, Function.update_self]
      · rw [ExpiringStore.set_other _ _ _ same] at present
        rw [if_pos success, Function.update_of_ne same]
        exact kept.stored redisKey stored present
    · rename_i success
      rw [if_neg success]
      exact kept.stored redisKey stored present
  · intro answer member
    rcases List.mem_append.mp member with old | new
    · exact kept.answers answer old
    · rw [List.mem_singleton.mp new]
      exact .own response ⟨_, executed, rfl, rfl⟩

theorem originsKept_step
    {state after : RequestState} {action : RequestAction World}
    (kept : OriginsKept sha256 viewMethod state)
    (move : (requestSystem sha256 viewMethod).Step state action after) :
    OriginsKept sha256 viewMethod after := by
  cases effect_of_step sha256 viewMethod move with
  | ticked clock => exact ⟨kept.toRunsKeyed, kept.real, kept.stored, kept.answers⟩
  | refused request error conflict =>
      apply kept.answer
      exact .refused error conflict
  | replayed request key cached given found samePayload =>
      apply kept.answer
      rcases ExpiringStore.get_eq_some.mp found with ⟨stored, present, _, rfl⟩
      rcases kept.stored _ stored present with ⟨run, member, sameKey, success, value, made⟩
      rw [made]
      have response : stored.value.response = run.response := by
        rw [value]
        rfl
      rw [response]
      refine .replayed run member success ⟨⟨key, given, sameKey⟩, ?_⟩
      rw [← samePayload, value]
      rfl
  | begun request key given notEmpty unseen => exact kept.begun sha256 viewMethod given
  | failed index world going found stage =>
      apply (kept.running sha256 viewMethod fun _ => List.mem_of_mem_eraseIdx).answer
      exact .failed
  | returned index world going response found stage its =>
      exact kept.returned sha256 viewMethod found its
  | ended index going response found stage => exact kept.ended sha256 viewMethod found stage

theorem originsKept_of_reachable
    {state : RequestState} (reached : (requestSystem sha256 viewMethod).Reachable state) :
    OriginsKept sha256 viewMethod state := by
  apply reached.invariant
  · intro start isStart
    constructor
    · rw [isStart.running, isStart.executed]
      exact runsKeyed_nil sha256
    · simp [isStart.executed]
    · intro redisKey stored present
      rw [isStart.cache] at present
      cases present
    · simp [isStart.answers]
  · intro source action target _ kept move
    exact originsKept_step sha256 viewMethod kept move

/-! ## Told apart or confused -/

/-- A reply which is replayed for a request which is told apart from its own is
one of a duplicate. -/
theorem duplicate_of_replayed
    {first second : IdempotentRequest} {run : ViewRun}
    (toldApart : ToldApart sha256 viewMethod first second)
    (real : run.IsReal sha256 viewMethod) (success : run.response.isSuccess = true)
    (keyed : Keyed sha256 second run.redisKey run.payloadHash)
    (made : run.request = first) : Duplicate first second := by
  subst made
  rcases real.keyed with ⟨⟨key, given, redisKey⟩, payloadHash⟩
  rcases keyed with ⟨⟨otherKey, otherGiven, otherRedisKey⟩, otherHash⟩
  have keys := redisKeyOf_inj (redisKey.symm.trans otherRedisKey)
  rcases real.returned with ⟨world, returned⟩
  have same := toldApart ⟨world, _, returned, success⟩ keys.1
    (payloadHash.symm.trans otherHash)
  constructor
  · exact keys.1.symm
  · rw [given, otherGiven, keys.2]
  · exact same.1.symm
  · exact same.2.symm

theorem answersItself_of_toldApart
    {first second : IdempotentRequest} {key : PyStr}
    (notEmpty : key ≠ []) (given : second.idempotencyKey = some key)
    (toldApart : ToldApart sha256 viewMethod first second)
    {state : RequestState} (reached : (requestSystem sha256 viewMethod).Reachable state) :
    AnswersItself first second state := by
  have kept := originsKept_of_reachable sha256 viewMethod reached
  rintro ⟨request, reply⟩ member rfl
  have answered := kept.answers _ member
  simp only at answered given ⊢
  cases answered with
  | refused error conflict =>
      rw [conflict key given notEmpty]
      exact .conflict
  | failed => exact .failed
  | own response ran => exact .own response ran
  | replayed run runMember success keyed =>
      exact .replayed run.response run.request fun made =>
        duplicate_of_replayed sha256 viewMethod toldApart
          (kept.real run runMember) success keyed made

/-- A request with the client, the key and the payload hash of a request which
can succeed may be answered with the reply to that. -/
theorem exists_replay
    {first second : IdempotentRequest} {key : PyStr} (notEmpty : key ≠ [])
    (firstKey : first.idempotencyKey = some key) (secondKey : second.idempotencyKey = some key)
    (succeeds : CanSucceed viewMethod first) (user : first.user = second.user)
    (hash : hashPayload sha256 second.data = hashPayload sha256 first.data) :
    ∃ state response, (requestSystem sha256 viewMethod).Reachable state ∧
      ⟨second, .replayed response (some first)⟩ ∈ state.answers := by
  rcases succeeds with ⟨world, response, returned, success⟩
  cases key with
  | nil => exact absurd rfl notEmpty
  | cons head tail =>
      have redisKey : redisKeyOf second.user (head :: tail) =
          redisKeyOf first.user (head :: tail) := by
        rw [user]
      have begun : requestStep sha256 viewMethod noReplies (.lookUp first) =
          some
            { noReplies with
              running := [⟨first, redisKeyOf first.user (head :: tail),
                hashPayload sha256 first.data, .calling⟩] } := by
        simp only [requestStep, RequestState.lookedUp, lookUp, firstKey]
        rfl
      let calling : RunningRequest :=
        ⟨first, redisKeyOf first.user (head :: tail), hashPayload sha256 first.data, .calling⟩
      let run : ViewRun := ⟨first, calling.redisKey, calling.payloadHash, response⟩
      let storing : RequestState :=
        { noReplies with
          running := [{ calling with stage := .storing response }]
          executed := [run] }
      have called : requestStep sha256 viewMethod { noReplies with running := [calling] }
          (.call 0 world) = some storing := by
        simp only [requestStep, RequestState.called, List.getElem?_cons_zero, calling, returned]
        rfl
      let stored := storing.stored 0 { calling with stage := .storing response } response
      have ended : requestStep sha256 viewMethod storing (.store 0) = some stored := rfl
      have seen : stored.cache.get stored.clock (redisKeyOf second.user (head :: tail)) =
          some (response.cached (hashPayload sha256 first.data)) := by
        rw [redisKey]
        simp only [stored, RequestState.stored, storeReply, if_pos success]
        exact ExpiringStore.get_set_later ..
      have replayed : lookUp sha256 stored.cache stored.clock second =
          .replay (redisKeyOf second.user (head :: tail)) response := by
        simp only [lookUp, secondKey, seen, hash, Response.cached, ne_eq, not_true_eq_false,
          if_false]
        rfl
      have madeFor : stored.madeFor (redisKeyOf second.user (head :: tail)) = some first := by
        rw [redisKey]
        simp only [stored, RequestState.stored, if_pos success]
        exact Function.update_self ..
      refine ⟨stored.lookedUp sha256 second, response, ?_, ?_⟩
      · have reached : (requestSystem sha256 viewMethod).Reachable noReplies :=
          .init isStart_noReplies
        have last : requestStep sha256 viewMethod stored (.lookUp second) =
            some (stored.lookedUp sha256 second) := rfl
        exact (((reached.step begun).step called).step ended).step last
      · simp only [RequestState.lookedUp, replayed, madeFor]
        exact List.mem_append_right _ (List.mem_singleton_self _)

/-- A second request is never answered with the reply to the first one exactly
if it is told apart from it. -/
theorem answers_itself_iff_toldApart
    (first second : IdempotentRequest) (key : PyStr) (notEmpty : key ≠ [])
    (firstKey : first.idempotencyKey = some key) (secondKey : second.idempotencyKey = some key) :
    (∀ state, (requestSystem sha256 viewMethod).Reachable state →
        AnswersItself first second state) ↔
      ToldApart sha256 viewMethod first second := by
  constructor
  · intro answers succeeds user hash
    rcases exists_replay sha256 viewMethod notEmpty firstKey secondKey succeeds user hash.symm
      with ⟨state, response, reached, member⟩
    have answered := answers state reached _ member rfl
    simp only at answered
    cases answered with
    | replayed _ _ same => exact ⟨(same rfl).endpoint.symm, (same rfl).data.symm⟩
  · intro toldApart state reached
    exact answersItself_of_toldApart sha256 viewMethod notEmpty secondKey toldApart reached

/-! ## Pausing and resuming a mandate -/

/-- What the endpoints of a mandate read besides the request. -/
structure MandateWorld where
  bank : Bank
  now : DateTime
  refused : Bool
  db : RecurringDb

def statusText : RecurringTransferStatus → PyStr
  | .active => py "ACTIVE"
  | .paused => py "PAUSED"
  | .cancelled => py "CANCELLED"
  | .completed => py "COMPLETED"

/-- The reply of an endpoint of a mandate, with one more field. -/
def mandateReply
    (mandate : RecurringTransfer) (fields : List (PyStr × PyValue)) : ViewResult :=
  .returned
    { statusCode := 200
      data := .dict
        ([(py "recurring_transfer_id", .str (uuidText mandate.id)),
          (py "status", .str (statusText mandate.status))] ++ fields) }

/-- The endpoints of a mandate.  Instants are written by `isoformat`. -/
def mandateView
    (env : ScheduleEnv) (isoformat : DateTime → PyStr)
    (request : IdempotentRequest) (world : MandateWorld) : ViewResult :=
  let mandateRequest : MandateRequest := ⟨world.bank, world.now, world.refused⟩
  let time (instant : Option DateTime) : PyValue :=
    match instant with
    | some instant => .str (isoformat instant)
    | none => .none
  if world.bank.id ≠ request.user.id then .raised
  else
    match request.endpoint with
    | .recurringPause id =>
        if world.db.mandate.id ≠ id then .raised
        else
          match (pause mandateRequest world.db).result with
          | .ok mandate => mandateReply mandate [(py "paused_at", time mandate.pausedAt)]
          | .error _ => .raised
    | .recurringResume id =>
        if world.db.mandate.id ≠ id then .raised
        else
          match (resume env mandateRequest world.db).result with
          | .ok mandate =>
              mandateReply mandate
                [(py "next_run_at", time (some mandate.nextRunAt)),
                  (py "resumed_at", time (some world.now))]
          | .error _ => .raised
    | .recurringCancel id =>
        if world.db.mandate.id ≠ id then .raised
        else
          match (cancel mandateRequest world.db).result with
          | .ok mandate => mandateReply mandate [(py "cancelled_at", time mandate.cancelledAt)]
          | .error _ => .raised
    | _ => .raised

/-- A request of bank 1 to an endpoint for banks, with an empty body. -/
def emptyRequest
    (endpoint : Endpoint) (authenticated : ClientType.bank = endpoint.clientType) :
    IdempotentRequest where
  user := firstBank
  endpoint := endpoint
  authenticated := authenticated
  idempotencyKey := some (py "key")
  data := .dict []
  decoded := rfl

def pauseRequest : IdempotentRequest := emptyRequest (.recurringPause 1) rfl

def resumeRequest : IdempotentRequest := emptyRequest (.recurringResume 1) rfl

/-- The endpoints on the mandate of bank 1. -/
def sampleView : IdempotentRequest → MandateWorld → ViewResult :=
  mandateView documentedEnv.schedule fun _ => py "now"

theorem pause_canSucceed : CanSucceed sampleView pauseRequest :=
  ⟨⟨polishBank 1, .atHour firstOfJune 8, false, newMandate.db⟩, _, rfl, rfl⟩

/-- A mandate is paused, and the same request again gets the reply. -/
theorem answers_itself_iff_toldApart_paused :
    ∃ state response, (requestSystem exampleSha256 sampleView).Reachable state ∧
      ⟨pauseRequest, .replayed response (some pauseRequest)⟩ ∈ state.answers ∧
        AnswersItself pauseRequest pauseRequest state := by
  have replay : ∃ state response, (requestSystem exampleSha256 sampleView).Reachable state ∧
      ⟨pauseRequest, .replayed response (some pauseRequest)⟩ ∈ state.answers :=
    exists_replay exampleSha256 sampleView (List.cons_ne_nil _ _) rfl rfl pause_canSucceed rfl rfl
  rcases replay with ⟨state, response, reached, member⟩
  refine ⟨state, response, reached, member, ?_⟩
  apply (answers_itself_iff_toldApart exampleSha256 sampleView pauseRequest pauseRequest (py "key")
    (List.cons_ne_nil _ _) rfl rfl).mpr
  · intro _ _ _
    exact ⟨rfl, rfl⟩
  · exact reached

/-- A request to resume the mandate is answered with its pause. -/
theorem resume_answered_with_pause :
    ¬ ∀ state, (requestSystem exampleSha256 sampleView).Reachable state →
        AnswersItself pauseRequest resumeRequest state := by
  intro answers
  have replay : ∃ state response, (requestSystem exampleSha256 sampleView).Reachable state ∧
      ⟨resumeRequest, .replayed response (some pauseRequest)⟩ ∈ state.answers :=
    exists_replay exampleSha256 sampleView (List.cons_ne_nil _ _) rfl rfl pause_canSucceed rfl rfl
  rcases replay with ⟨state, response, reached, member⟩
  have answered := answers state reached _ member rfl
  simp only at answered
  cases answered with
  | replayed _ _ same => cases (same rfl).endpoint

end Klik.Idempotency
