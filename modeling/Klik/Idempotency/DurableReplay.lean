import Klik.Idempotency.Decorator
import Klik.Lib.InFlight
import Klik.Lib.TransitionSystem

/-!
# Objects which are created under a key

An endpoint which creates an object keeps the key of the request in the row,
and looks for it before it inserts another.  Behind the replies in Redis this
is a second line, which compares the key only: whether a repeated request gets
there depends on the checks before it, and whether the payload is the same is
not asked.

Requests of all clients run side by side, in the steps which the wrapper and
the view have; rows are changed by other operations, and other endpoints store
replies under the same keys.
-/

namespace Klik.Idempotency

open Klik.Common
open Klik.Lib

variable {World Row Object : Type}

/-! ## Endpoints -/

/-- An endpoint which creates an object under the key of the request.  Its
world is what it reads besides the request and its table. -/
structure KeyedEndpoint (World Row Object : Type) where
  endpoint : Endpoint
  /-- What no operation changes of a row. -/
  object : Row → Object
  id : Object → Uuid
  bank : Object → Uuid
  key : Object → PyStr
  /-- All checks before the table is searched. -/
  passes : IdempotentRequest → World → Bool
  /-- The row which the query by the bank and the key returns. -/
  find : Uuid → PyStr → List Row → Option Row
  insert : IdempotentRequest → PyStr → World → List Row → Option Row
  reply : Row → Response
  find_some : ∀ {bankId searched rows row}, find bankId searched rows = some row → row ∈ rows
  find_none : ∀ {bankId searched rows}, find bankId searched rows = none →
    ∀ row ∈ rows, ¬ (bank (object row) = bankId ∧ key (object row) = searched)
  insert_some : ∀ {request given world rows row}, insert request given world rows = some row →
    bank (object row) = request.user.id ∧ key (object row) = given ∧
      id (object row) < 16 ^ 32 ∧ ∀ old ∈ rows, id (object old) ≠ id (object row)
  reply_success : ∀ row, (reply row).isSuccess = true
  reply_id : ∀ {first second}, id (object first) < 16 ^ 32 → id (object second) < 16 ^ 32 →
    reply first = reply second → id (object first) = id (object second)

/-- The view on its own: its reply, with the row which it inserts, if any. -/
def KeyedEndpoint.alone
    (endpoint : KeyedEndpoint World Row Object) (request : IdempotentRequest) (key : PyStr)
    (world : World) (rows : List Row) : Option (Response × Option Row) :=
  if endpoint.passes request world = false then none
  else
    match endpoint.find request.user.id key rows with
    | some row => some (endpoint.reply row, none)
    | none =>
        match endpoint.insert request key world rows with
        | some row => some (endpoint.reply row, some row)
        | none => none

/-- A table without rows holds no row with a key. -/
theorem KeyedEndpoint.find_nil
    (endpoint : KeyedEndpoint World Row Object) (bankId : Uuid) (key : PyStr) :
    endpoint.find bankId key [] = none := by
  cases found : endpoint.find bankId key [] with
  | none => rfl
  | some row => cases endpoint.find_some found

/-- A reply which describes an object. -/
def KeyedEndpoint.RepliesWith
    (endpoint : KeyedEndpoint World Row Object) (object : Object) (response : Response) : Prop :=
  ∃ row, endpoint.object row = object ∧ response = endpoint.reply row

/-! ## Requests side by side -/

/-- What a request whose lookup has found nothing does next. -/
inductive KeyedStage (World : Type) where
  | calling
  /-- The table holds no row with the key. -/
  | inserting (world : World)
  | storing (response : Response)

/-- A request under way, with its key and the number of objects there were at
its lookup. -/
structure KeyedRequest (World : Type) where
  request : IdempotentRequest
  key : PyStr
  since : Nat
  stage : KeyedStage World

/-- The clock and the replies of Redis, the rows with the requests which have
created them, and the requests under way. -/
structure DurableState (World Row : Type) where
  clock : Nat
  cache : ReplyCache
  objects : List (Row × IdempotentRequest)
  running : List (KeyedRequest World)

/-- The table. -/
def DurableState.rows (state : DurableState World Row) : List Row :=
  state.objects.map Prod.fst

/-- The answer to a request, none for an exception. -/
structure KeyedAnswer where
  request : IdempotentRequest
  since : Nat
  reply : Option Response

inductive DurableAction (World Row : Type) where
  | tick (clock : Nat)
  | lookUp (request : IdempotentRequest)
  | call (index : Nat) (world : World)
  | insert (index : Nat)
  | store (index : Nat)
  /-- Another operation changes a row. -/
  | change (place : Nat) (row : Row)
  /-- Another endpoint stores a reply, or Redis loses one. -/
  | overwrite (redisKey : PyStr) (stored : Option (Stored CachedReply))

section System

variable [DecidableEq Object] (sha256 : PyStr → PyStr)
variable (endpoint : KeyedEndpoint World Row Object)

/-- A request under way takes a step to another stage. -/
def DurableState.moved
    (index : Nat) (next : Option (KeyedRequest World)) (state : DurableState World Row) :
    DurableState World Row :=
  { state with running := moveOn index next state.running }

/-- One step, with the answer which it gives, if any. -/
def durableStep (state : DurableState World Row) :
    DurableAction World Row → Option (DurableState World Row × Option KeyedAnswer)
  | .tick clock => some ({ state with clock := clock }, none)
  | .lookUp request =>
      if request.endpoint ≠ endpoint.endpoint then none
      else
        match lookUp sha256 state.cache state.clock request with
        | .raised _ => some (state, some ⟨request, state.objects.length, none⟩)
        | .replay _ response =>
            some (state, some ⟨request, state.objects.length, some response⟩)
        | .call _ _ =>
            let key := request.idempotencyKey.getD []
            some
              ({ state with
                running := state.running ++
                  [⟨request, key, state.objects.length, .calling⟩] }, none)
  | .call index world =>
      match state.running[index]? with
      | some ⟨request, key, since, .calling⟩ =>
          if endpoint.passes request world = false then
            some (state.moved index none, some ⟨request, since, none⟩)
          else
            match endpoint.find request.user.id key state.rows with
            | some row =>
                let response := endpoint.reply row
                some (state.moved index (some ⟨request, key, since, .storing response⟩),
                  some ⟨request, since, some response⟩)
            | none =>
                some (state.moved index (some ⟨request, key, since, .inserting world⟩), none)
      | _ => none
  | .insert index =>
      match state.running[index]? with
      | some ⟨request, key, since, .inserting world⟩ =>
          match endpoint.insert request key world state.rows with
          | none => some (state.moved index none, some ⟨request, since, none⟩)
          | some row =>
              let response := endpoint.reply row
              let created := { state with objects := state.objects ++ [(row, request)] }
              some (created.moved index (some ⟨request, key, since, .storing response⟩),
                some ⟨request, since, some response⟩)
      | _ => none
  | .store index =>
      match state.running[index]? with
      | some ⟨request, key, _, .storing response⟩ =>
          let after := state.moved index none
          some
            ({ after with
              cache := storeReply state.clock (redisKeyOf request.user key)
                (hashPayload sha256 request.data) response state.cache }, none)
      | _ => none
  | .change place row =>
      match state.objects[place]? with
      | some (old, request) =>
          if endpoint.object row = endpoint.object old then
            some ({ state with objects := state.objects.set place (row, request) }, none)
          else none
      | none => none
  | .overwrite redisKey stored =>
      some ({ state with cache := Function.update state.cache redisKey stored }, none)

/-- No objects and no requests under way. -/
structure DurableState.IsStart (state : DurableState World Row) : Prop where
  objects : state.objects = []
  running : state.running = []

def durableSystem : TransitionSystem (DurableState World Row) (DurableAction World Row) :=
  .ofStep DurableState.IsStart fun state action =>
    (durableStep sha256 endpoint state action).map Prod.fst

end System

/-! ## The steps of a request -/

/-- What a request with a key finds in Redis. -/
theorem lookUp_of_key
    (sha256 : PyStr → PyStr) (cache : ReplyCache) (now : Nat) {request : IdempotentRequest}
    {key : PyStr} (given : request.idempotencyKey = some key) (notEmpty : key ≠ []) :
    lookUp sha256 cache now request =
      match cache.get now (redisKeyOf request.user key) with
      | some cached =>
          if cached.payloadHash ≠ hashPayload sha256 request.data then
            .raised idempotencyConflictError
          else .replay (redisKeyOf request.user key) cached.response
      | none => .call (redisKeyOf request.user key) (hashPayload sha256 request.data) := by
  simp only [lookUp]
  split
  · rename_i missing
    rw [missing] at given
    cases given
  · rename_i empty
    rw [empty] at given
    cases given
    exact absurd rfl notEmpty
  · rename_i asked _ found
    rw [given] at found
    cases found
    rfl

section Steps

variable [DecidableEq Object] (sha256 : PyStr → PyStr)
variable {endpoint : KeyedEndpoint World Row Object}
variable {state : DurableState World Row} {index since : Nat} {request : IdempotentRequest}
variable {key : PyStr} {world : World} {row : Row}

theorem step_lookUp
    (toEndpoint : request.endpoint = endpoint.endpoint)
    (given : request.idempotencyKey = some key) (notEmpty : key ≠ [])
    (missing : state.cache.get state.clock (redisKeyOf request.user key) = none) :
    durableStep sha256 endpoint state (.lookUp request) =
      some ({ state with
        running := state.running ++ [⟨request, key, state.objects.length, .calling⟩] }, none) := by
  simp only [durableStep, lookUp_of_key sha256 _ _ given notEmpty, missing]
  rw [if_neg (not_not.mpr toEndpoint), given]
  rfl

theorem step_call_unknown
    (here : state.running[index]? = some ⟨request, key, since, .calling⟩)
    (passes : endpoint.passes request world = true)
    (unknown : endpoint.find request.user.id key state.rows = none) :
    durableStep sha256 endpoint state (.call index world) =
      some (state.moved index (some ⟨request, key, since, .inserting world⟩), none) := by
  simp only [durableStep, here, passes, Bool.true_eq_false, if_false, unknown]

theorem step_call_known
    (here : state.running[index]? = some ⟨request, key, since, .calling⟩)
    (passes : endpoint.passes request world = true)
    (known : endpoint.find request.user.id key state.rows = some row) :
    durableStep sha256 endpoint state (.call index world) =
      some (state.moved index (some ⟨request, key, since, .storing (endpoint.reply row)⟩),
        some ⟨request, since, some (endpoint.reply row)⟩) := by
  simp only [durableStep, here, passes, Bool.true_eq_false, if_false, known]

theorem step_call_refused
    (here : state.running[index]? = some ⟨request, key, since, .calling⟩)
    (refused : endpoint.passes request world = false) :
    durableStep sha256 endpoint state (.call index world) =
      some (state.moved index none, some ⟨request, since, none⟩) := by
  simp only [durableStep, here, refused, if_true]

theorem step_insert
    (here : state.running[index]? = some ⟨request, key, since, .inserting world⟩)
    (inserted : endpoint.insert request key world state.rows = some row) :
    durableStep sha256 endpoint state (.insert index) =
      some ({ state with objects := state.objects ++ [(row, request)] }.moved index
          (some ⟨request, key, since, .storing (endpoint.reply row)⟩),
        some ⟨request, since, some (endpoint.reply row)⟩) := by
  simp only [durableStep, here, inserted]

theorem step_insert_refused
    (here : state.running[index]? = some ⟨request, key, since, .inserting world⟩)
    (refused : endpoint.insert request key world state.rows = none) :
    durableStep sha256 endpoint state (.insert index) =
      some (state.moved index none, some ⟨request, since, none⟩) := by
  simp only [durableStep, here, refused]

/-- A call which nothing interrupts answers as the view on its own, and inserts
its row. -/
theorem call_insert_alone
    (here : state.running[index]? = some ⟨request, key, since, .calling⟩) :
    ∃ after : DurableState World Row,
      ((durableStep sha256 endpoint state (.call index world)).bind fun called =>
          match called.2 with
          | some answer => some (called.1, some answer)
          | none => durableStep sha256 endpoint called.1 (.insert index)) =
        some (after, some ⟨request, since,
          (endpoint.alone request key world state.rows).map Prod.fst⟩) ∧
      after.rows =
        state.rows ++ ((endpoint.alone request key world state.rows).bind Prod.snd).toList := by
  cases passes : endpoint.passes request world with
  | false =>
      rw [step_call_refused sha256 here passes, KeyedEndpoint.alone, if_pos passes]
      exact ⟨_, rfl, (List.append_nil _).symm⟩
  | true =>
      cases found : endpoint.find request.user.id key state.rows with
      | some row =>
          rw [step_call_known sha256 here passes found, KeyedEndpoint.alone, passes, found]
          exact ⟨_, rfl, (List.append_nil _).symm⟩
      | none =>
          have bound : index < state.running.length := (List.getElem?_eq_some_iff.mp here).1
          have waiting : (state.moved index (some ⟨request, key, since,
              .inserting world⟩)).running[index]? =
                some ⟨request, key, since, .inserting world⟩ :=
            List.getElem?_set_self bound
          rw [step_call_unknown sha256 here passes found, KeyedEndpoint.alone, passes, found]
          cases inserted : endpoint.insert request key world state.rows with
          | none =>
              exact ⟨_, step_insert_refused sha256 waiting inserted, (List.append_nil _).symm⟩
          | some row =>
              exact ⟨_, step_insert sha256 waiting inserted, List.map_append⟩

end Steps

/-! ## What is kept -/

/-- Objects have the key of the request which has created them and ids of
their own, and a request which is to insert has seen none with its key. -/
structure DurableHeld
    (endpoint : KeyedEndpoint World Row Object) (state : DurableState World Row) : Prop where
  created : ∀ (place : Nat) (row : Row) (original : IdempotentRequest),
    state.objects[place]? = some (row, original) →
    ∃ key, original.idempotencyKey = some key ∧ key ≠ [] ∧
      endpoint.bank (endpoint.object row) = original.user.id ∧
      endpoint.key (endpoint.object row) = key ∧ endpoint.id (endpoint.object row) < 16 ^ 32
  ids : ∀ (place other : Nat) (first second : Row × IdempotentRequest),
    state.objects[place]? = some first → state.objects[other]? = some second →
      endpoint.id (endpoint.object first.1) = endpoint.id (endpoint.object second.1) →
        place = other
  since : ∀ going ∈ state.running,
    going.request.idempotencyKey = some going.key ∧ going.key ≠ [] ∧
      going.since ≤ state.objects.length
  unseen : ∀ going ∈ state.running, ∀ world, going.stage = .inserting world →
    ∀ (place : Nat) (row : Row) (original : IdempotentRequest),
      place < going.since → state.objects[place]? = some (row, original) →
      ¬ (endpoint.bank (endpoint.object row) = going.request.user.id ∧
        endpoint.key (endpoint.object row) = going.key)

section Kept

variable {sha256 : PyStr → PyStr}
variable {endpoint : KeyedEndpoint World Row Object} {state : DurableState World Row}

theorem DurableHeld.start (start : state.IsStart) : DurableHeld endpoint state := by
  constructor
  · intro place row original found
    rw [start.objects] at found
    cases found
  · intro place other first second found
    rw [start.objects] at found
    cases found
  · intro going member
    rw [start.running] at member
    cases member
  · intro going member
    rw [start.running] at member
    cases member

/-- A request which moves on keeps its key and its place in time. -/
theorem DurableHeld.moved
    (held : DurableHeld endpoint state) {index : Nat} {going : KeyedRequest World}
    (here : state.running[index]? = some going) {next : Option (KeyedRequest World)}
    (same : ∀ after, next = some after →
      after.request = going.request ∧ after.key = going.key ∧ after.since = going.since ∧
        ∀ world, after.stage = .inserting world →
          ∀ row ∈ state.rows, ¬ (endpoint.bank (endpoint.object row) = going.request.user.id ∧
            endpoint.key (endpoint.object row) = going.key)) :
    DurableHeld endpoint (state.moved index next) := by
  refine ⟨held.created, held.ids, ?_, ?_⟩
  · intro other member
    rcases (mem_moveOn here).mp member with moved | stays
    · rcases same other moved with ⟨request, key, since, _⟩
      rw [request, key, since]
      exact held.since going (List.mem_of_getElem? here)
    · exact held.since other (List.mem_of_mem_eraseIdx stays)
  · intro other member world inserting place row original earlier found
    rcases (mem_moveOn here).mp member with moved | stays
    · rcases same other moved with ⟨request, key, _, none⟩
      rw [request, key]
      exact none world inserting row (List.mem_map_of_mem (List.mem_of_getElem? found))
    · exact held.unseen other (List.mem_of_mem_eraseIdx stays) world inserting place row
        original earlier found

/-- A new object comes last. -/
theorem DurableHeld.inserted
    (held : DurableHeld endpoint state) {going : KeyedRequest World}
    (member : going ∈ state.running) {world : World} {row : Row}
    (inserted : endpoint.insert going.request going.key world state.rows = some row) :
    DurableHeld endpoint { state with objects := state.objects ++ [(row, going.request)] } := by
  rcases endpoint.insert_some inserted with ⟨bank, key, small, fresh⟩
  have freshAt {place : Nat} {old : Row × IdempotentRequest}
      (found : state.objects[place]? = some old) :
      endpoint.id (endpoint.object old.1) ≠ endpoint.id (endpoint.object row) :=
    fresh old.1 (List.mem_map_of_mem (List.mem_of_getElem? found))
  constructor
  · intro place other original found
    rcases getElem?_begun found with found | ⟨_, same⟩
    · exact held.created place other original found
    · cases same
      rcases held.since going member with ⟨given, notEmpty, _⟩
      exact ⟨going.key, given, notEmpty, bank, key, small⟩
  · intro place other first second atFirst atSecond same
    rcases getElem?_begun atFirst with atFirst | ⟨first_, rfl⟩ <;>
      rcases getElem?_begun atSecond with atSecond | ⟨second_, rfl⟩
    · exact held.ids place other first second atFirst atSecond same
    · exact absurd same (freshAt atFirst)
    · exact absurd same.symm (freshAt atSecond)
    · rw [first_, second_]
  · intro other running
    rcases held.since other running with ⟨given, notEmpty, since⟩
    refine ⟨given, notEmpty, ?_⟩
    rw [List.length_append]
    exact Nat.le_add_right_of_le since
  · intro other running world inserting place old original earlier found
    rcases getElem?_begun found with found | ⟨last, _⟩
    · exact held.unseen other running world inserting place old original earlier found
    · have bound := (held.since other running).2.2
      omega

theorem DurableHeld.changed
    (held : DurableHeld endpoint state) {place : Nat} {row old : Row}
    {original : IdempotentRequest} (here : state.objects[place]? = some (old, original))
    (same : endpoint.object row = endpoint.object old) :
    DurableHeld endpoint { state with objects := state.objects.set place (row, original) } := by
  have before {other : Nat} {entry : Row × IdempotentRequest}
      (found : (state.objects.set place (row, original))[other]? = some entry) :
      ∃ earlier, state.objects[other]? = some (earlier, entry.2) ∧
        endpoint.object earlier = endpoint.object entry.1 := by
    rcases getElem?_moved found with ⟨rfl, rfl⟩ | ⟨_, stays⟩
    · exact ⟨old, here, same.symm⟩
    · exact ⟨entry.1, stays, rfl⟩
  constructor
  · intro other changed creator found
    rcases before found with ⟨earlier, there, object⟩
    rw [← object]
    exact held.created other earlier creator there
  · intro one other first second atFirst atSecond sameId
    rcases before atFirst with ⟨_, atOne, object⟩
    rcases before atSecond with ⟨_, atOther, objectToo⟩
    rw [← object, ← objectToo] at sameId
    exact held.ids one other _ _ atOne atOther sameId
  · intro going running
    rw [List.length_set]
    exact held.since going running
  · intro going running world inserting other changed creator earlier found
    rcases before found with ⟨_, there, object⟩
    rw [← object]
    exact held.unseen going running world inserting other _ creator earlier there

variable [DecidableEq Object]

theorem DurableHeld.step
    (held : DurableHeld endpoint state) {action : DurableAction World Row}
    {next : DurableState World Row} {answer : Option KeyedAnswer}
    (stepped : durableStep sha256 endpoint state action = some (next, answer)) :
    DurableHeld endpoint next := by
  cases action with
  | tick clock =>
      cases stepped
      exact ⟨held.created, held.ids, held.since, held.unseen⟩
  | lookUp request =>
      simp only [durableStep] at stepped
      split at stepped
      · cases stepped
      split at stepped
      · cases stepped
        exact held
      · cases stepped
        exact held
      · rename_i called
        cases stepped
        rcases lookUp_cases sha256 state.cache state.clock request with
          ⟨_, raised, _⟩ | ⟨key, given, notEmpty, _⟩
        · rw [raised] at called
          cases called
        · refine ⟨held.created, held.ids, ?_, ?_⟩
          · intro going member
            rcases List.mem_append.mp member with old | new
            · exact held.since going old
            · cases List.mem_singleton.mp new
              rw [given]
              exact ⟨rfl, notEmpty, Nat.le_refl _⟩
          · intro going member world inserting
            rcases List.mem_append.mp member with old | new
            · exact held.unseen going old world inserting
            · cases List.mem_singleton.mp new
              cases inserting
  | call index world =>
      simp only [durableStep] at stepped
      split at stepped
      · rename_i request key since here
        split at stepped
        · cases stepped
          exact held.moved here fun after ends => by cases ends
        · split at stepped
          · cases stepped
            apply held.moved here
            rintro after ⟨⟩
            exact ⟨rfl, rfl, rfl, fun world inserting => by cases inserting⟩
          · rename_i none
            cases stepped
            apply held.moved here
            rintro after ⟨⟩
            exact ⟨rfl, rfl, rfl, fun _ _ => endpoint.find_none none⟩
      · cases stepped
  | insert index =>
      simp only [durableStep] at stepped
      split at stepped
      · rename_i request key since world here
        split at stepped
        · cases stepped
          exact held.moved here fun after ends => by cases ends
        · rename_i row inserted
          cases stepped
          have moved : DurableHeld endpoint
              { state with objects := state.objects ++ [(row, request)] } :=
            held.inserted (List.mem_of_getElem? here) inserted
          apply moved.moved here
          rintro after ⟨⟩
          exact ⟨rfl, rfl, rfl, fun world inserting => by cases inserting⟩
      · cases stepped
  | store index =>
      simp only [durableStep] at stepped
      split at stepped
      · rename_i here
        cases stepped
        have ended : DurableHeld endpoint (state.moved index none) :=
          held.moved here fun after ends => by cases ends
        exact ⟨ended.created, ended.ids, ended.since, ended.unseen⟩
      · cases stepped
  | change place row =>
      simp only [durableStep] at stepped
      split at stepped
      · rename_i here
        split at stepped
        · rename_i same
          cases stepped
          exact held.changed here same
        · cases stepped
      · cases stepped
  | overwrite redisKey stored =>
      cases stepped
      exact ⟨held.created, held.ids, held.since, held.unseen⟩

theorem DurableHeld.of_reachable
    (reached : (durableSystem sha256 endpoint).Reachable state) : DurableHeld endpoint state := by
  refine reached.invariant (fun _ => DurableHeld.start) ?_
  intro source action target _ held move
  rcases Option.map_eq_some_iff.mp move with ⟨⟨next, answer⟩, stepped, rfl⟩
  exact held.step stepped

end Kept

/-! ## The law -/

/-- The law of an answer to a later request with the key of an object: for the
same payload the reply of the object, for another no success, and no new
object. -/
structure KeepsReplayLaw
    (endpoint : KeyedEndpoint World Row Object) (row : Row) (original : IdempotentRequest)
    (answer : KeyedAnswer) (state next : DurableState World Row) : Prop where
  same : answer.request.data.canonical = original.data.canonical →
    ∃ response, answer.reply = some response ∧
      endpoint.RepliesWith (endpoint.object row) response
  other : answer.request.data.canonical ≠ original.data.canonical →
    ∀ response, answer.reply = some response → response.isSuccess = false
  nothing : next.objects.length = state.objects.length

/-- Where a step which answers keeps the law: a reply which Redis still holds
is that of the object and is stored for the same payload only; and without one
the checks of the view let the same payload pass only, to a table in which the
query finds the object. -/
def ReplaySafe
    (sha256 : PyStr → PyStr) (endpoint : KeyedEndpoint World Row Object)
    (state : DurableState World Row) (row : Row) (original : IdempotentRequest) :
    DurableAction World Row → Prop
  | .lookUp request =>
      ∀ cached, state.cache.get state.clock
          (redisKeyOf request.user (request.idempotencyKey.getD [])) = some cached →
        (request.data.canonical = original.data.canonical →
          cached.payloadHash = hashPayload sha256 request.data ∧
            endpoint.RepliesWith (endpoint.object row) cached.response) ∧
        (request.data.canonical ≠ original.data.canonical →
          cached.payloadHash ≠ hashPayload sha256 request.data ∨
            cached.response.isSuccess = false)
  | .call index world =>
      ∀ going, state.running[index]? = some going →
        (going.request.data.canonical = original.data.canonical →
          endpoint.passes going.request world = true ∧
            ∃ found, endpoint.find going.request.user.id going.key state.rows = some found ∧
              endpoint.id (endpoint.object found) = endpoint.id (endpoint.object row)) ∧
        (going.request.data.canonical ≠ original.data.canonical →
          endpoint.passes going.request world = false)
  | _ => True

section Law

variable {sha256 : PyStr → PyStr}
variable {endpoint : KeyedEndpoint World Row Object} {state next : DurableState World Row}
variable {row : Row} {original : IdempotentRequest} {answer : KeyedAnswer} {place : Nat}

/-- An exception keeps the law for another payload only. -/
theorem keepsReplayLaw_raised
    {request : IdempotentRequest} {since : Nat}
    (sameObjects : next.objects.length = state.objects.length) :
    KeepsReplayLaw endpoint row original ⟨request, since, none⟩ state next ↔
      request.data.canonical ≠ original.data.canonical := by
  constructor
  · intro law same
    rcases law.same same with ⟨_, nothing, _⟩
    cases nothing
  · intro different
    refine ⟨fun same => absurd same different, ?_, sameObjects⟩
    intro _ _ nothing
    cases nothing

theorem keepsReplayLaw_reply
    {request : IdempotentRequest} {since : Nat} {response : Response}
    (sameObjects : next.objects.length = state.objects.length) :
    KeepsReplayLaw endpoint row original ⟨request, since, some response⟩ state next ↔
      (request.data.canonical = original.data.canonical →
          endpoint.RepliesWith (endpoint.object row) response) ∧
        (request.data.canonical ≠ original.data.canonical → response.isSuccess = false) := by
  constructor
  · intro law
    constructor
    · intro same
      rcases law.same same with ⟨_, answered, replies⟩
      cases answered
      exact replies
    · intro different
      exact law.other different response rfl
  · rintro ⟨same, other⟩
    refine ⟨fun payload => ⟨response, rfl, same payload⟩, ?_, sameObjects⟩
    rintro different _ ⟨⟩
    exact other different

theorem DurableHeld.id_lt
    (held : DurableHeld endpoint state) {found : Row} (member : found ∈ state.rows) :
    endpoint.id (endpoint.object found) < 16 ^ 32 := by
  rcases List.mem_map.mp member with ⟨⟨_, creator⟩, entryMember, rfl⟩
  rcases List.getElem?_of_mem entryMember with ⟨place, there⟩
  rcases held.created place _ creator there with ⟨_, _, _, _, _, small⟩
  exact small

/-- Objects with the same id are the same. -/
theorem DurableHeld.object_eq
    (held : DurableHeld endpoint state)
    (object : state.objects[place]? = some (row, original))
    {found : Row} (member : found ∈ state.rows)
    (same : endpoint.id (endpoint.object found) = endpoint.id (endpoint.object row)) :
    endpoint.object found = endpoint.object row := by
  rcases List.mem_map.mp member with ⟨entry, entryMember, rfl⟩
  rcases List.getElem?_of_mem entryMember with ⟨other, there⟩
  cases held.ids other place entry (row, original) there object same
  rw [there] at object
  cases object
  rfl

/-- The reply for a row which is found is that of the object exactly when it
has its id. -/
theorem DurableHeld.repliesWith_iff
    (held : DurableHeld endpoint state)
    (object : state.objects[place]? = some (row, original))
    {found : Row} (member : found ∈ state.rows) :
    endpoint.RepliesWith (endpoint.object row) (endpoint.reply found) ↔
      endpoint.id (endpoint.object found) = endpoint.id (endpoint.object row) := by
  constructor
  · rintro ⟨described, same, reply⟩
    have small : endpoint.id (endpoint.object described) < 16 ^ 32 := by
      rw [same]
      exact held.id_lt (List.mem_map_of_mem (List.mem_of_getElem? object))
    rw [endpoint.reply_id (held.id_lt member) small reply, same]
  · intro same
    exact ⟨found, held.object_eq object member same, rfl⟩

variable [DecidableEq Object]

/-- A step which answers a later request of the same client with the key of an
object. -/
structure AnswersLater
    (sha256 : PyStr → PyStr) (endpoint : KeyedEndpoint World Row Object)
    (state : DurableState World Row) (action : DurableAction World Row)
    (next : DurableState World Row) (answer : KeyedAnswer)
    (row : Row) (original : IdempotentRequest) : Prop where
  stepped : durableStep sha256 endpoint state action = some (next, some answer)
  object : ∃ place, state.objects[place]? = some (row, original) ∧ place < answer.since
  client : answer.request.user = original.user
  key : answer.request.idempotencyKey = original.idempotencyKey

/-- What a step answers keeps the law. -/
def AnswersLawfully
    (sha256 : PyStr → PyStr) (endpoint : KeyedEndpoint World Row Object)
    (state : DurableState World Row) (action : DurableAction World Row) : Prop :=
  ∀ next answer row original,
    AnswersLater sha256 endpoint state action next answer row original →
      KeepsReplayLaw endpoint row original answer state next

/-- What a step answers is answered safely. -/
def AnswersSafely
    (sha256 : PyStr → PyStr) (endpoint : KeyedEndpoint World Row Object)
    (state : DurableState World Row) (action : DurableAction World Row) : Prop :=
  ∀ next answer row original,
    AnswersLater sha256 endpoint state action next answer row original →
      ReplaySafe sha256 endpoint state row original action

/-- In every run, an answer to a later request with the key of an object keeps
the law exactly where the step is safe. -/
theorem keepsReplayLaw_iff
    (reached : (durableSystem sha256 endpoint).Reachable state)
    {action : DurableAction World Row}
    (answers : AnswersLater sha256 endpoint state action next answer row original) :
    KeepsReplayLaw endpoint row original answer state next ↔
      ReplaySafe sha256 endpoint state row original action := by
  have held := DurableHeld.of_reachable reached
  rcases answers with ⟨stepped, ⟨place, object, later⟩, client, sameKey⟩
  rcases held.created place row original object with ⟨key, given, notEmpty, bank, keyed, _⟩
  cases action with
  | tick clock => cases stepped
  | store index =>
      simp only [durableStep] at stepped
      split at stepped <;> cases stepped
  | change changed new =>
      simp only [durableStep] at stepped
      split at stepped
      · split at stepped <;> cases stepped
      · cases stepped
  | overwrite redisKey stored => cases stepped
  | lookUp request =>
      have asked : answer.request = request := by
        simp only [durableStep] at stepped
        split at stepped
        · cases stepped
        · split at stepped <;> cases stepped <;> rfl
      have askedKey : request.idempotencyKey = some key := by
        rw [← asked, sameKey, given]
      simp only [durableStep, lookUp_of_key sha256 _ _ askedKey notEmpty] at stepped
      simp only [ReplaySafe, askedKey, Option.getD_some]
      split at stepped
      · cases stepped
      cases seen : state.cache.get state.clock (redisKeyOf request.user key) with
      | none =>
          rw [seen] at stepped
          cases stepped
      | some cached =>
          simp only [seen] at stepped
          simp only [Option.some.injEq, forall_eq']
          by_cases conflict : cached.payloadHash ≠ hashPayload sha256 request.data
          · rw [if_pos conflict] at stepped
            cases stepped
            rw [keepsReplayLaw_raised rfl]
            constructor
            · intro different
              exact ⟨fun same => absurd same different, fun _ => .inl conflict⟩
            · intro safe same
              exact conflict (safe.1 same).1
          · rw [if_neg conflict] at stepped
            cases stepped
            rw [keepsReplayLaw_reply rfl]
            simp only [not_not.mp conflict, true_and, ne_eq, not_true_eq_false, false_or]
  | call index world =>
      simp only [durableStep] at stepped
      split at stepped
      · rename_i request asked since here
        simp only [ReplaySafe, here, Option.some.injEq, forall_eq']
        split at stepped
        · rename_i refused
          cases stepped
          have sameObjects : (state.moved index none).objects.length = state.objects.length :=
            rfl
          rw [keepsReplayLaw_raised sameObjects, refused]
          constructor
          · intro different
            exact ⟨fun same => absurd same different, fun _ => rfl⟩
          · intro safe same
            exact Bool.false_ne_true (safe.1 same).1
        · rename_i passed
          split at stepped
          · rename_i found query
            cases stepped
            have sameObjects :
                (state.moved index (some ⟨request, asked, since,
                  .storing (endpoint.reply found)⟩)).objects.length = state.objects.length :=
              rfl
            rw [keepsReplayLaw_reply sameObjects,
              held.repliesWith_iff object (endpoint.find_some query)]
            simp only [query, Option.some.injEq, exists_eq_left', endpoint.reply_success,
              Bool.true_eq_false, Bool.eq_true_of_not_eq_false passed, true_and]
          · cases stepped
      · cases stepped
  | insert index =>
      simp only [durableStep] at stepped
      split at stepped
      · rename_i request asked since world here
        -- The request would have found the object.
        exfalso
        have started := held.since _ (List.mem_of_getElem? here)
        have asks : answer.since = since ∧ answer.request = request := by
          split at stepped <;> cases stepped <;> exact ⟨rfl, rfl⟩
        rw [asks.1] at later
        rw [asks.2] at client sameKey
        rw [started.1, given, Option.some.injEq] at sameKey
        apply held.unseen _ (List.mem_of_getElem? here) world rfl place row original later object
        exact ⟨by rw [bank, client], by rw [keyed, ← sameKey]⟩
      · cases stepped

/-- The runs whose answers keep the law are those whose answers are safe. -/
theorem path_keepsReplayLaw_iff
    {start : DurableState World Row} (isStart : start.IsStart)
    {actions : List (DurableAction World Row)} :
    ((durableSystem sha256 endpoint).guarded (AnswersLawfully sha256 endpoint)).Path
        start actions state ↔
      ((durableSystem sha256 endpoint).guarded (AnswersSafely sha256 endpoint)).Path
        start actions state := by
  have begun : (durableSystem sha256 endpoint).Reachable start := .init isStart
  constructor
  · intro path
    apply path.guarded_mono _ begun
    intro between action reached lawful next answer row original answers
    exact (keepsReplayLaw_iff reached answers).mp (lawful next answer row original answers)
  · intro path
    apply path.guarded_mono _ begun
    intro between action reached safe next answer row original answers
    exact (keepsReplayLaw_iff reached answers).mpr (safe next answer row original answers)

end Law

end Klik.Idempotency
