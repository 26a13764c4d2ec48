import Klik.Codes.CodeService
import Klik.Idempotency.RequestSystem

/-!
# Duplicates of a request

Requests of one client with one `Idempotency-Key` and one payload to one
endpoint, in any interleaving of their steps.  As long as no request looks its
key up and finds nothing while another one with the same key and payload is
under way, one view at most runs to a successful reply, and every request
which is answered with success is answered with that reply.
-/

namespace Klik.Idempotency

open Klik.Codes
open Klik.Common
open Klik.Lib

variable {World : Type}
variable (sha256 : PyStr → PyStr) (viewMethod : IdempotentRequest → World → ViewResult)

/-! ## What is claimed -/

/-- The calls which returned successfully for a duplicate of a request. -/
def successfulRuns (request : IdempotentRequest) (executed : List ViewRun) : Nat :=
  executed.countP fun run =>
    decide (Duplicate request run.request) && run.response.isSuccess

/-- Duplicates have their effect once and are answered alike. -/
structure EffectOnce (state : RequestState) : Prop where
  once : ∀ request, successfulRuns request state.executed ≤ 1
  alike : ∀ request, ∀ first ∈ state.answers, ∀ second ∈ state.answers,
    Duplicate request first.request → Duplicate request second.request →
      ∀ response other,
        first.reply.response = some response → second.reply.response = some other →
          response.isSuccess = true → other.isSuccess = true → response = other

/-! ## When it holds -/

/-- No stored reply expires. -/
def KeepsEntries (state : RequestState) (action : RequestAction World) : Prop :=
  match action with
  | .tick clock => ∀ key,
      (state.cache.get state.clock key).isSome → (state.cache.get clock key).isSome
  | _ => True

/-- A request which finds no reply is the only one under way with its key and
payload. -/
def LooksUpAlone (state : RequestState) (action : RequestAction World) : Prop :=
  match action with
  | .lookUp request => ∀ key, request.idempotencyKey = some key →
      state.cache.get state.clock (redisKeyOf request.user key) = none →
        ∀ going ∈ state.running, going.redisKey = redisKeyOf request.user key →
          going.payloadHash ≠ hashPayload sha256 request.data
  | _ => True

/-! ## One key and payload -/

def RunningRequest.isCalling (going : RunningRequest) : Bool :=
  match going.stage with
  | .calling => true
  | .storing _ => false

/-- The requests with a key and payload whose views have not returned. -/
def callsOf (redisKey payloadHash : PyStr) (running : List RunningRequest) : Nat :=
  running.countP fun going =>
    decide (going.redisKey = redisKey ∧ going.payloadHash = payloadHash) && going.isCalling

/-- The calls with a key and payload which have returned successfully. -/
def successesOf (redisKey payloadHash : PyStr) (executed : List ViewRun) : Nat :=
  executed.countP fun run =>
    decide (run.redisKey = redisKey ∧ run.payloadHash = payloadHash) &&
      run.response.isSuccess

/-- Duplicates have one key and one payload. -/
theorem Keyed.of_duplicate
    {request first second : IdempotentRequest}
    (firstSame : Duplicate request first) (secondSame : Duplicate request second)
    {firstKey firstHash secondKey secondHash : PyStr}
    (firstKeyed : Keyed sha256 first firstKey firstHash)
    (secondKeyed : Keyed sha256 second secondKey secondHash) :
    firstKey = secondKey ∧ firstHash = secondHash := by
  rcases firstKeyed with ⟨⟨key, given, rfl⟩, rfl⟩
  rcases secondKeyed with ⟨⟨other, otherGiven, rfl⟩, rfl⟩
  constructor
  · rw [firstSame.idempotencyKey, ← secondSame.idempotencyKey, otherGiven] at given
    rw [firstSame.user, secondSame.user, Option.some.inj given]
  · exact hashPayload_congr sha256 (firstSame.data.trans secondSame.data.symm)

/-! ## The invariant -/

/-- For each key and payload there is one call at most, under way or
successful; what was successful is stored or about to be; and every reply is
one which a call has returned. -/
structure CallsOnce (state : RequestState) : Prop
    extends RunsKeyed sha256 state.running state.executed where
  single : ∀ redisKey payloadHash,
    successesOf redisKey payloadHash state.executed +
      callsOf redisKey payloadHash state.running ≤ 1
  held : ∀ run ∈ state.executed, run.response.isSuccess = true →
    (∃ going ∈ state.running, going.redisKey = run.redisKey ∧
        going.payloadHash = run.payloadHash ∧ going.stage = .storing run.response) ∨
      (state.cache.get state.clock run.redisKey).isSome
  cached : ∀ redisKey stored, state.cache redisKey = some stored →
    ∃ run ∈ state.executed, run.redisKey = redisKey ∧
      run.payloadHash = stored.value.payloadHash ∧ run.response = stored.value.response
  answered : ∀ answer ∈ state.answers, ∀ response, answer.reply.response = some response →
    ∃ run ∈ state.executed, Keyed sha256 answer.request run.redisKey run.payloadHash ∧
      run.response = response

/-- Storing a reply leaves the keys which can be seen. -/
theorem isSome_get_storeReply
    {now : Nat} {redisKey payloadHash : PyStr} {response : Response} {cache : ReplyCache}
    {key : PyStr} (seen : (cache.get now key).isSome) :
    ((storeReply now redisKey payloadHash response cache).get now key).isSome := by
  simp only [storeReply]
  split
  · by_cases same : key = redisKey
    · rw [same, ExpiringStore.get_set_later]
      rfl
    · rw [ExpiringStore.get_congr (ExpiringStore.set_other _ _ _ same)]
      exact seen
  · exact seen

theorem get_storeReply_self
    {now : Nat} {redisKey payloadHash : PyStr} {response : Response} {cache : ReplyCache}
    (success : response.isSuccess = true) :
    ((storeReply now redisKey payloadHash response cache).get now redisKey).isSome := by
  rw [storeReply, if_pos success, ExpiringStore.get_set_later]
  rfl

/-- An answer whose reply a call has returned. -/
theorem CallsOnce.answer
    {state : RequestState} (calls : CallsOnce sha256 state)
    {request : IdempotentRequest} {reply : Reply}
    (its : ∀ response, reply.response = some response →
      ∃ run ∈ state.executed, Keyed sha256 request run.redisKey run.payloadHash ∧
        run.response = response) :
    CallsOnce sha256 (state.answered request reply) := by
  constructor
  · exact calls.toRunsKeyed
  · exact calls.single
  · exact calls.held
  · exact calls.cached
  · intro answer member
    rcases List.mem_append.mp member with old | new
    · exact calls.answered answer old
    · rw [List.mem_singleton.mp new]
      exact its

theorem callsOf_append_calling
    (redisKey payloadHash : PyStr) (running : List RunningRequest)
    (request : IdempotentRequest) (key hash : PyStr) :
    callsOf redisKey payloadHash (running ++ [⟨request, key, hash, .calling⟩]) =
      callsOf redisKey payloadHash running +
        if key = redisKey ∧ hash = payloadHash then 1 else 0 := by
  simp [callsOf, List.countP_append, List.countP_singleton, RunningRequest.isCalling]

/-- Without a request under way and without a stored reply, no call was
successful. -/
theorem CallsOnce.single_none
    {state : RequestState} (calls : CallsOnce sha256 state) {redisKey payloadHash : PyStr}
    (unseen : state.cache.get state.clock redisKey = none)
    (alone : ∀ going ∈ state.running, going.redisKey = redisKey →
      going.payloadHash ≠ payloadHash) :
    successesOf redisKey payloadHash state.executed = 0 ∧
      callsOf redisKey payloadHash state.running = 0 := by
  constructor
  · apply List.countP_eq_zero.mpr
    intro run member counted
    simp only [Bool.and_eq_true, decide_eq_true_eq] at counted
    rcases calls.held run member counted.2 with ⟨going, goingMember, sameKey, sameHash, _⟩ | seen
    · exact alone going goingMember (sameKey.trans counted.1.1) (sameHash.trans counted.1.2)
    · rw [counted.1.1, unseen] at seen
      cases seen
  · apply List.countP_eq_zero.mpr
    intro going member counted
    simp only [Bool.and_eq_true, decide_eq_true_eq] at counted
    exact alone going member counted.1.1 counted.1.2

/-! ## Every step keeps it -/

theorem CallsOnce.ticked
    {state : RequestState} (calls : CallsOnce sha256 state) {clock : Nat}
    (kept : ∀ key, (state.cache.get state.clock key).isSome →
      (state.cache.get clock key).isSome) :
    CallsOnce sha256 { state with clock := clock } := by
  constructor
  · exact calls.toRunsKeyed
  · exact calls.single
  · intro run member success
    rcases calls.held run member success with storing | seen
    · exact Or.inl storing
    · exact Or.inr (kept _ seen)
  · exact calls.cached
  · exact calls.answered

theorem CallsOnce.begun
    {state : RequestState} (calls : CallsOnce sha256 state)
    {request : IdempotentRequest} {key : PyStr}
    (given : request.idempotencyKey = some key)
    (unseen : state.cache.get state.clock (redisKeyOf request.user key) = none)
    (alone : ∀ going ∈ state.running, going.redisKey = redisKeyOf request.user key →
      going.payloadHash ≠ hashPayload sha256 request.data) :
    CallsOnce sha256
      { state with
        running := state.running ++
          [⟨request, redisKeyOf request.user key, hashPayload sha256 request.data,
            .calling⟩] } := by
  constructor
  · exact calls.toRunsKeyed.begun sha256 given
  · intro redisKey payloadHash
    simp only [callsOf_append_calling]
    split
    · rename_i its
      rcases its with ⟨rfl, rfl⟩
      rcases calls.single_none sha256 unseen alone with ⟨successes, going⟩
      omega
    · exact calls.single redisKey payloadHash
  · intro run member success
    rcases calls.held run member success with ⟨going, old, its⟩ | seen
    · exact Or.inl ⟨going, List.mem_append_left _ old, its⟩
    · exact Or.inr seen
  · exact calls.cached
  · exact calls.answered

/-- A request which still calls its view is not the one which stores a reply. -/
theorem mem_eraseIdx_of_storing
    {running : List RunningRequest} {index : Nat} {going other : RunningRequest}
    {response : Response}
    (found : running[index]? = some going) (stage : going.stage = .calling)
    (member : other ∈ running) (storing : other.stage = .storing response) :
    other ∈ running.eraseIdx index := by
  apply mem_eraseIdx_of_ne found member
  rintro rfl
  rw [stage] at storing
  cases storing

theorem callsOf_eraseIdx_le
    (redisKey payloadHash : PyStr) (running : List RunningRequest) (index : Nat) :
    callsOf redisKey payloadHash (running.eraseIdx index) ≤
      callsOf redisKey payloadHash running :=
  (List.eraseIdx_sublist running index).countP_le

theorem CallsOnce.failed
    {state : RequestState} (calls : CallsOnce sha256 state)
    {index : Nat} {going : RunningRequest}
    (found : state.running[index]? = some going) (stage : going.stage = .calling) :
    CallsOnce sha256 { state with running := state.running.eraseIdx index } := by
  constructor
  · exact calls.toRunsKeyed.fewer sha256 fun _ => List.mem_of_mem_eraseIdx
  · intro redisKey payloadHash
    have fewer := callsOf_eraseIdx_le redisKey payloadHash state.running index
    have single := calls.single redisKey payloadHash
    simp only
    omega
  · intro run member success
    rcases calls.held run member success with ⟨other, old, sameKey, sameHash, storing⟩ | seen
    · exact Or.inl ⟨other, mem_eraseIdx_of_storing found stage old storing,
        sameKey, sameHash, storing⟩
    · exact Or.inr seen
  · exact calls.cached
  · exact calls.answered

theorem CallsOnce.returned
    {state : RequestState} (calls : CallsOnce sha256 state)
    {index : Nat} {going : RunningRequest} (response : Response)
    (found : state.running[index]? = some going) (stage : going.stage = .calling) :
    CallsOnce sha256
      { state with
        running := state.running.eraseIdx index ++ [{ going with stage := .storing response }]
        executed := state.executed ++
          [⟨going.request, going.redisKey, going.payloadHash, response⟩] } := by
  constructor
  · exact calls.toRunsKeyed.returned sha256 response found
  · intro redisKey payloadHash
    have single := calls.single redisKey payloadHash
    simp only [callsOf, countP_eraseIdx found, RunningRequest.isCalling, stage,
      successesOf] at single
    simp only [successesOf, callsOf, List.countP_append, List.countP_singleton,
      RunningRequest.isCalling, Bool.and_false, Bool.and_true, decide_eq_true_eq,
      Bool.and_eq_true, Bool.false_eq_true, if_false] at single ⊢
    split
    · rename_i counted
      rw [if_pos counted.1] at single
      omega
    · omega
  · intro run member success
    rcases List.mem_append.mp member with old | new
    · rcases calls.held run old success with ⟨other, its, sameKey, sameHash, storing⟩ | seen
      · refine Or.inl ⟨other, List.mem_append_left _ ?_, sameKey, sameHash, storing⟩
        exact mem_eraseIdx_of_storing found stage its storing
      · exact Or.inr seen
    · rw [List.mem_singleton.mp new]
      exact Or.inl ⟨_, List.mem_append_right _ (List.mem_singleton_self _), rfl, rfl, rfl⟩
  · intro redisKey stored present
    rcases calls.cached redisKey stored present with ⟨run, member, its⟩
    exact ⟨run, List.mem_append_left _ member, its⟩
  · intro answer member reply given
    rcases calls.answered answer member reply given with ⟨run, old, its⟩
    exact ⟨run, List.mem_append_left _ old, its⟩

/-- What is stored at a key after a reply was stored. -/
theorem storeReply_eq_some
    {now : Nat} {redisKey payloadHash : PyStr} {response : Response} {cache : ReplyCache}
    {key : PyStr} {stored : Stored CachedReply}
    (present : storeReply now redisKey payloadHash response cache key = some stored) :
    (key = redisKey ∧ stored.value = response.cached payloadHash) ∨
      cache key = some stored := by
  simp only [storeReply] at present
  split at present
  · by_cases same : key = redisKey
    · subst same
      rw [ExpiringStore.set_same] at present
      cases present
      exact Or.inl ⟨rfl, rfl⟩
    · rw [ExpiringStore.set_other _ _ _ same] at present
      exact Or.inr present
  · exact Or.inr present

theorem CallsOnce.ended
    {state : RequestState} (calls : CallsOnce sha256 state)
    {index : Nat} {going : RunningRequest} {response : Response}
    (found : state.running[index]? = some going) (stage : going.stage = .storing response) :
    CallsOnce sha256 (state.stored index going response) := by
  have member := List.mem_of_getElem? found
  have executed := calls.storing going member response stage
  constructor
  · exact calls.toRunsKeyed.fewer sha256 fun _ => List.mem_of_mem_eraseIdx
  · intro redisKey payloadHash
    have fewer := callsOf_eraseIdx_le redisKey payloadHash state.running index
    have single := calls.single redisKey payloadHash
    simp only [RequestState.stored, RequestState.answered]
    omega
  · intro run runMember success
    rcases calls.held run runMember success with ⟨other, old, sameKey, sameHash, storing⟩ | seen
    · by_cases same : other = going
      · subst same
        rw [stage] at storing
        cases storing
        right
        rw [← sameKey]
        exact get_storeReply_self success
      · exact Or.inl ⟨other, mem_eraseIdx_of_ne found old same, sameKey, sameHash, storing⟩
    · exact Or.inr (isSome_get_storeReply seen)
  · intro redisKey stored present
    rcases storeReply_eq_some present with ⟨rfl, value⟩ | old
    · refine ⟨_, executed, rfl, ?_, ?_⟩
      · rw [value]
        rfl
      · rw [value]
        rfl
    · exact calls.cached redisKey stored old
  · intro answer answerMember reply given
    rcases List.mem_append.mp answerMember with old | new
    · exact calls.answered answer old reply given
    · rw [List.mem_singleton.mp new] at given ⊢
      cases given
      exact ⟨_, executed, calls.going going member, rfl⟩

theorem callsOnce_step
    {state after : RequestState} {action : RequestAction World}
    (calls : CallsOnce sha256 state)
    (keeps : KeepsEntries state action) (alone : LooksUpAlone sha256 state action)
    (move : (requestSystem sha256 viewMethod).Step state action after) :
    CallsOnce sha256 after := by
  cases effect_of_step sha256 viewMethod move with
  | ticked clock => exact calls.ticked sha256 keeps
  | refused request error conflict => exact calls.answer sha256 nofun
  | replayed request key cached given found samePayload =>
      apply calls.answer
      intro response replayed
      cases replayed
      rcases ExpiringStore.get_eq_some.mp found with ⟨stored, present, _, rfl⟩
      rcases calls.cached _ stored present with ⟨run, member, sameKey, sameHash, its⟩
      refine ⟨run, member, ⟨⟨key, given, sameKey⟩, ?_⟩, its⟩
      exact sameHash.trans samePayload
  | begun request key given notEmpty unseen =>
      exact calls.begun sha256 given unseen (alone key given unseen)
  | failed index world going found stage =>
      exact (calls.failed sha256 found stage).answer sha256 nofun
  | returned index world going response found stage its =>
      exact calls.returned sha256 response found stage
  | ended index going response found stage => exact calls.ended sha256 found stage

theorem callsOnce_of_reachable
    {state : RequestState}
    (reached : ((requestSystem sha256 viewMethod).guarded fun state action =>
      KeepsEntries state action ∧ LooksUpAlone sha256 state action).Reachable state) :
    CallsOnce sha256 state := by
  apply reached.invariant
  · intro start isStart
    constructor
    · rw [isStart.running, isStart.executed]
      exact runsKeyed_nil sha256
    · simp [isStart.executed, isStart.running, successesOf, callsOf]
    · simp [isStart.executed]
    · intro redisKey stored present
      rw [isStart.cache] at present
      cases present
    · simp [isStart.answers]
  · intro source action target _ calls move
    exact callsOnce_step sha256 viewMethod calls move.1.1 move.1.2 move.2

/-! ## The effect is made once -/

/-- Two members which are counted are the same where one is counted at most. -/
theorem eq_of_countP_le_one
    {Value : Type} {values : List Value} {Counted : Value → Bool} {first second : Value}
    (single : values.countP Counted ≤ 1)
    (firstMember : first ∈ values) (secondMember : second ∈ values)
    (firstCounted : Counted first = true) (secondCounted : Counted second = true) :
    first = second := by
  rw [List.countP_eq_length_filter] at single
  have firstKept := List.mem_filter.mpr ⟨firstMember, firstCounted⟩
  have secondKept := List.mem_filter.mpr ⟨secondMember, secondCounted⟩
  match kept : values.filter Counted with
  | [] =>
      rw [kept] at firstKept
      cases firstKept
  | [only] =>
      rw [kept] at firstKept secondKept
      rw [List.mem_singleton.mp firstKept, List.mem_singleton.mp secondKept]
  | _ :: _ :: _ =>
      rw [kept] at single
      simp at single

theorem CallsOnce.effectOnce
    {state : RequestState} (calls : CallsOnce sha256 state) : EffectOnce state := by
  have single : ∀ redisKey payloadHash,
      successesOf redisKey payloadHash state.executed ≤ 1 := by
    intro redisKey payloadHash
    have both := calls.single redisKey payloadHash
    omega
  constructor
  · intro request
    by_cases ran : ∃ run ∈ state.executed, Duplicate request run.request
    · rcases ran with ⟨run, member, same⟩
      refine le_trans ?_ (single run.redisKey run.payloadHash)
      apply List.countP_mono_left
      intro other otherMember counted
      simp only [Bool.and_eq_true, decide_eq_true_eq] at counted ⊢
      exact ⟨(calls.runs other otherMember).of_duplicate sha256 counted.1 same
        (calls.runs run member), counted.2⟩
    · refine le_of_eq_of_le ?_ (Nat.zero_le 1)
      apply List.countP_eq_zero.mpr
      intro run member counted
      simp only [Bool.and_eq_true, decide_eq_true_eq] at counted
      exact ran ⟨run, member, counted.1⟩
  · intro request first firstMember second secondMember firstSame secondSame
      response other given otherGiven success otherSuccess
    rcases calls.answered first firstMember response given with ⟨run, member, keyed, rfl⟩
    rcases calls.answered second secondMember other otherGiven with
      ⟨otherRun, otherMember, otherKeyed, rfl⟩
    have keys := Keyed.of_duplicate sha256 firstSame secondSame keyed otherKeyed
    have sameRun : run = otherRun := by
      apply eq_of_countP_le_one (single run.redisKey run.payloadHash) member otherMember
      · simp only [and_self, decide_true, success, Bool.and_self]
      · simp only [keys.1, keys.2, and_self, decide_true, otherSuccess, Bool.and_self]
    rw [sameRun]

/-- While no entry expires and lookups which find nothing are made alone. -/
theorem duplicates_take_effect_once
    (state : RequestState)
    (reached : ((requestSystem sha256 viewMethod).guarded fun state action =>
      KeepsEntries state action ∧ LooksUpAlone sha256 state action).Reachable state) :
    EffectOnce state :=
  (callsOnce_of_reachable sha256 viewMethod reached).effectOnce sha256

/-! ## Generating a code -/

/-- What `generate_code` reads: its settings, the clocks, the records in Redis
and the numbers which are drawn. -/
structure GenerateWorld where
  ttlSeconds : Int
  now : Nat
  createdAt : PyStr
  expiresAt : PyStr
  store : CodeStore
  drawn : List (Fin 1000000)

/-- `generate_code`, one attempt after the other. -/
def generateCode (world : GenerateWorld) :
    List (Fin 1000000) → Generation → CodeStore → Except CodeError PyStr
  | [], _, _ => .error .generationFailed
  | drawn :: others, generation, store =>
      match generation.tryCode world.ttlSeconds world.now (randomCode drawn) store with
      | (.generated code, _) => .ok code
      | (.again next, after) => generateCode world others next after
      | (.raised error, _) => .error error

/-- `CodeGenerateView.post` of a Polish bank, with the fields of the body which
it reads. -/
def codeGenerateView (request : IdempotentRequest) (world : GenerateWorld) : ViewResult :=
  match request.endpoint, request.data with
  | .codeGenerate, .dict items =>
      match PyValue.lookup items (py "user_id"), PyValue.lookup items (py "zone") with
      | some (.str userId), some (.str zone) =>
          if zone ≠ py "PL" then .raised
          else
            match generateCode world world.drawn
                ⟨newPayload request.user.id userId .PL world.createdAt, rfl, 0⟩ world.store with
            | .ok code =>
                .returned
                  { statusCode := 200
                    data := .dict
                      [(py "code", .str code),
                        (py "expires_in",
                          .number (decimalDigits world.ttlSeconds.toNat) true),
                        (py "expires_at", .str world.expiresAt)] }
            | .error _ => .raised
      | _, _ => .raised
  | _, _ => .raised

/-- Bank 1 asks for a code for a client. -/
def generateRequest : IdempotentRequest where
  user := firstBank
  endpoint := .codeGenerate
  authenticated := rfl
  idempotencyKey := some (py "key")
  data := .dict [(py "user_id", .str (py "client")), (py "zone", .str (py "PL"))]
  decoded := by decide +kernel

/-- The Redis of a call in which a number is drawn. -/
def drawing (drawn : Fin 1000000) : GenerateWorld where
  ttlSeconds := 120
  now := 0
  createdAt := py "now"
  expiresAt := py "later"
  store := .empty
  drawn := [drawn]

/-- No time passes, and a request starts when none is under way. -/
def oneByOne (state : RequestState) (action : RequestAction World) : Bool :=
  match action with
  | .tick _ => false
  | .lookUp _ => state.running.isEmpty
  | _ => true

theorem guard_of_oneByOne
    {state : RequestState} {action : RequestAction World}
    (meets : oneByOne state action = true) :
    KeepsEntries state action ∧ LooksUpAlone sha256 state action := by
  cases action with
  | tick clock => cases meets
  | lookUp request =>
      refine ⟨trivial, ?_⟩
      intro key _ _ going member
      rw [List.isEmpty_iff.mp meets] at member
      cases member
  | call index world => exact ⟨trivial, trivial⟩
  | store index => exact ⟨trivial, trivial⟩

/-- A request and its repetition. -/
def generateAndRepeat : List (RequestAction GenerateWorld) :=
  [.lookUp generateRequest, .call 0 (drawing 123456), .store 0, .lookUp generateRequest]

/-- A repetition is answered from the stored reply. -/
theorem duplicates_take_effect_once_repeated :
    ∃ state, TransitionSystem.runLabels (requestStep exampleSha256 codeGenerateView) noReplies
        generateAndRepeat = some state ∧
      state.answers.length = 2 ∧ EffectOnce state := by
  have answered : (TransitionSystem.runLabels
      (TransitionSystem.guardStep (requestStep exampleSha256 codeGenerateView) oneByOne) noReplies
      generateAndRepeat).map (fun state => state.answers.length) = some 2 := by
    decide +kernel
  rcases Option.map_eq_some_iff.mp answered with ⟨state, run, length⟩
  have path : ((requestSystem exampleSha256 codeGenerateView).guarded fun state action =>
      oneByOne state action = true).Path noReplies generateAndRepeat state :=
    TransitionSystem.guarded_path_of_runLabels run
  refine ⟨state, TransitionSystem.runLabels_of_guardStep run, length, ?_⟩
  apply duplicates_take_effect_once exampleSha256 codeGenerateView
  have guarded : ((requestSystem exampleSha256 codeGenerateView).guarded fun state action =>
      KeepsEntries state action ∧ LooksUpAlone exampleSha256 state action).Path
        noReplies generateAndRepeat state := by
    apply path.mono
    intro before action after move
    exact ⟨guard_of_oneByOne exampleSha256 move.1, move.2⟩
  exact guarded.reachable (.init isStart_noReplies)

/-- Two requests which both find nothing. -/
def generateTwice : List (RequestAction GenerateWorld) :=
  [.lookUp generateRequest, .lookUp generateRequest, .call 0 (drawing 123456),
    .call 0 (drawing 654321), .store 0, .store 0]

/-- Two duplicates generate a code each, though no entry expires. -/
theorem duplicates_generate_two_codes :
    ¬ ∀ state,
        ((requestSystem exampleSha256 codeGenerateView).guarded KeepsEntries).Reachable state →
          EffectOnce state := by
  intro effectOnce
  have runs : (TransitionSystem.runLabels (requestStep exampleSha256 codeGenerateView) noReplies
      generateTwice).map (fun state => successfulRuns generateRequest state.executed) =
        some 2 := by
    decide +kernel
  rcases Option.map_eq_some_iff.mp runs with ⟨state, run, twice⟩
  have path : (requestSystem exampleSha256 codeGenerateView).Path noReplies generateTwice state :=
    TransitionSystem.path_of_runLabels run
  have guarded : ((requestSystem exampleSha256 codeGenerateView).guarded KeepsEntries).Path
      noReplies generateTwice state := by
    apply path.to_guarded
    intro action member _
    simp only [generateTwice, List.mem_cons, List.not_mem_nil, or_false] at member
    rcases member with rfl | rfl | rfl | rfl | rfl | rfl
    all_goals trivial
  have once := (effectOnce state (guarded.reachable (.init isStart_noReplies))).once
    generateRequest
  rw [twice] at once
  exact absurd once (by decide)

end Klik.Idempotency
