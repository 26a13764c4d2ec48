import Klik.Idempotency.KeyedCreation

/-!
# The law of repeated creation

A request which repeats the key of a mandate or a cheque, at any time.  While
Redis holds the reply, the wrapper compares the payloads; behind it the key
alone decides, and the dates of a mandate are compared with today before.
-/

namespace Klik.Idempotency

open Klik.Banks
open Klik.Common
open Klik.Lib
open Klik.Recurring

/-- The runs of both endpoints in which every later request is answered as the
law says are those in which it is answered safely. -/
theorem created_replays_iff_safe
    (sha256 : PyStr → PyStr) (env : RecurringEnv)
    (createSerializer : PyValue → Option CreateData) (createFormat : DateTime → PyStr)
    (issueSerializer : PyValue → Option Cheques.IssueData)
    (decimalText : Decimal → PyStr) (issueFormat : Instant → PyStr)
    {createStart : DurableState CreateWorld CreatedMandate} (createBegins : createStart.IsStart)
    {issueStart : DurableState IssueWorld Cheques.Cheque} (issueBegins : issueStart.IsStart)
    (createActions : List (DurableAction CreateWorld CreatedMandate))
    (issueActions : List (DurableAction IssueWorld Cheques.Cheque))
    (createState : DurableState CreateWorld CreatedMandate)
    (issueState : DurableState IssueWorld Cheques.Cheque) :
    (((durableSystem sha256 (recurringCreate env createSerializer createFormat)).guarded
          (AnswersLawfully sha256 (recurringCreate env createSerializer createFormat))).Path
            createStart createActions createState ↔
        ((durableSystem sha256 (recurringCreate env createSerializer createFormat)).guarded
          (AnswersSafely sha256 (recurringCreate env createSerializer createFormat))).Path
            createStart createActions createState) ∧
      (((durableSystem sha256 (chequeIssue issueSerializer decimalText issueFormat)).guarded
          (AnswersLawfully sha256 (chequeIssue issueSerializer decimalText issueFormat))).Path
            issueStart issueActions issueState ↔
        ((durableSystem sha256 (chequeIssue issueSerializer decimalText issueFormat)).guarded
          (AnswersSafely sha256 (chequeIssue issueSerializer decimalText issueFormat))).Path
            issueStart issueActions issueState) :=
  ⟨path_keepsReplayLaw_iff createBegins, path_keepsReplayLaw_iff issueBegins⟩

/-! ## A request behind the reply in Redis -/

section Later

variable {World Row Object : Type}
variable (sha256 : PyStr → PyStr) (endpoint : KeyedEndpoint World Row Object)

/-- No object and no reply yet. -/
def nothingCreated : DurableState World Row where
  clock := 0
  cache := .empty
  objects := []
  running := []

theorem isStart_nothingCreated : (nothingCreated : DurableState World Row).IsStart :=
  ⟨rfl, rfl⟩

/-- A request creates its object, and another one comes after 24 hours. -/
def dayAfter (first later : IdempotentRequest) (world : World) :
    List (DurableAction World Row) :=
  [.lookUp first, .call 0 world, .insert 0, .store 0,
    .tick (1000 * idempotencyTtlSeconds + 1), .lookUp later]

/-- The object is there, its reply has expired, and the later request is about
to call the view. -/
def calledLater (first later : IdempotentRequest) (key : PyStr) (row : Row) :
    DurableState World Row where
  clock := 1000 * idempotencyTtlSeconds + 1
  cache := storeReply 0 (redisKeyOf first.user key) (hashPayload sha256 first.data)
    (endpoint.reply row) .empty
  objects := [(row, first)]
  running := [⟨later, key, 1, .calling⟩]

theorem calledLater_running
    (first later : IdempotentRequest) (key : PyStr) (row : Row) :
    (calledLater sha256 endpoint first later key row).running[0]? =
      some ⟨later, key, 1, .calling⟩ :=
  rfl

/-- Two requests of one client with one key, of which the first one creates an
object. -/
structure RepeatsKey
    (first later : IdempotentRequest) (key : PyStr) (world : World) (row : Row) : Prop where
  toFirst : first.endpoint = endpoint.endpoint
  toLater : later.endpoint = endpoint.endpoint
  given : first.idempotencyKey = some key
  again : later.idempotencyKey = some key
  notEmpty : key ≠ []
  client : later.user = first.user
  passes : endpoint.passes first world = true
  inserted : endpoint.insert first key world [] = some row

/-- The query finds a row which was inserted into no others. -/
theorem RepeatsKey.find
    {first later : IdempotentRequest} {key : PyStr} {world : World} {row : Row}
    (repeats : RepeatsKey endpoint first later key world row) :
    endpoint.find later.user.id key [row] = some row := by
  rcases endpoint.insert_some repeats.inserted with ⟨bank, keyed, _⟩
  cases found : endpoint.find later.user.id key [row] with
  | none =>
      have other := endpoint.find_none found row (List.mem_singleton_self row)
      exact absurd ⟨by rw [bank, repeats.client], keyed⟩ other
  | some only => rw [List.mem_singleton.mp (endpoint.find_some found)]

variable [DecidableEq Object]

/-- A step which answers no request that began after an object. -/
def answersFirst (state : DurableState World Row) (action : DurableAction World Row) : Bool :=
  match durableStep sha256 endpoint state action with
  | some (_, some answer) => answer.since == 0
  | _ => true

variable {sha256 endpoint}

theorem answersSafely_of_answersFirst
    {state : DurableState World Row} {action : DurableAction World Row}
    (first : answersFirst sha256 endpoint state action = true) :
    AnswersSafely sha256 endpoint state action := by
  intro next answer row original answers
  rcases answers.object with ⟨place, _, later⟩
  simp only [answersFirst, answers.stepped, beq_iff_eq] at first
  rw [first] at later
  exact absurd later (Nat.not_lt_zero place)

/-- The system of the steps which answer no later request. -/
theorem firstStep
    {state next : DurableState World Row} {action : DurableAction World Row}
    {answer : Option KeyedAnswer}
    (stepped : durableStep sha256 endpoint state action = some (next, answer))
    (first : ∀ given, answer = some given → given.since = 0) :
    TransitionSystem.guardStep
        (fun state action => (durableStep sha256 endpoint state action).map Prod.fst)
        (answersFirst sha256 endpoint) state action = some next := by
  have meets : answersFirst sha256 endpoint state action = true := by
    simp only [answersFirst, stepped]
    cases answer with
    | none => rfl
    | some given => exact beq_iff_eq.mpr (first given rfl)
  simp only [TransitionSystem.guardStep, meets, if_true, stepped, Option.map_some]

theorem run_dayAfter
    {first later : IdempotentRequest} {key : PyStr} {world : World} {row : Row}
    (repeats : RepeatsKey endpoint first later key world row) :
    TransitionSystem.runLabels
        (TransitionSystem.guardStep
          (fun state action => (durableStep sha256 endpoint state action).map Prod.fst)
          (answersFirst sha256 endpoint))
        nothingCreated (dayAfter first later world) =
      some (calledLater sha256 endpoint first later key row) := by
  have looked : durableStep sha256 endpoint nothingCreated (.lookUp first) =
      some (⟨0, .empty, [], [⟨first, key, 0, .calling⟩]⟩, none) :=
    step_lookUp sha256 repeats.toFirst repeats.given repeats.notEmpty rfl
  have called : durableStep sha256 endpoint ⟨0, .empty, [], [⟨first, key, 0, .calling⟩]⟩
      (.call 0 world) = some (⟨0, .empty, [], [⟨first, key, 0, .inserting world⟩]⟩, none) :=
    step_call_unknown sha256 rfl repeats.passes (endpoint.find_nil first.user.id key)
  have inserted : durableStep sha256 endpoint
      ⟨0, .empty, [], [⟨first, key, 0, .inserting world⟩]⟩ (.insert 0) =
        some (⟨0, .empty, [(row, first)], [⟨first, key, 0, .storing (endpoint.reply row)⟩]⟩,
          some ⟨first, 0, some (endpoint.reply row)⟩) :=
    step_insert sha256 rfl repeats.inserted
  have expired : (calledLater sha256 endpoint first later key row).cache.get
      (1000 * idempotencyTtlSeconds + 1) (redisKeyOf later.user key) = none := by
    simp only [calledLater, storeReply, endpoint.reply_success, if_true, repeats.client,
      ExpiringStore.get, ExpiringStore.set_same]
    rfl
  have stored : durableStep sha256 endpoint
      ⟨0, .empty, [(row, first)], [⟨first, key, 0, .storing (endpoint.reply row)⟩]⟩ (.store 0) =
        some ({ calledLater sha256 endpoint first later key row with clock := 0, running := [] },
          none) :=
    rfl
  have ticked : durableStep sha256 endpoint
      { calledLater sha256 endpoint first later key row with clock := 0, running := [] }
      (.tick (1000 * idempotencyTtlSeconds + 1)) =
        some ({ calledLater sha256 endpoint first later key row with running := [] }, none) :=
    rfl
  have again : durableStep sha256 endpoint
      { calledLater sha256 endpoint first later key row with running := [] } (.lookUp later) =
        some (calledLater sha256 endpoint first later key row, none) :=
    step_lookUp sha256 repeats.toLater repeats.again repeats.notEmpty expired
  simp only [dayAfter, TransitionSystem.runLabels]
  rw [firstStep looked (fun _ none => by cases none)]
  simp only
  rw [firstStep called (fun _ none => by cases none)]
  simp only
  rw [firstStep inserted (fun _ reply => by cases reply; rfl)]
  simp only
  rw [firstStep stored (fun _ none => by cases none)]
  simp only
  rw [firstStep ticked (fun _ none => by cases none)]
  simp only
  rw [firstStep again (fun _ none => by cases none)]

theorem calledLater_reachable
    {first later : IdempotentRequest} {key : PyStr} {world : World} {row : Row}
    (repeats : RepeatsKey endpoint first later key world row) :
    (durableSystem sha256 endpoint).Reachable (calledLater sha256 endpoint first later key row) :=
  TransitionSystem.reachable_of_runLabels isStart_nothingCreated
    (TransitionSystem.runLabels_of_guardStep (run_dayAfter repeats))

/-- The later request is answered when it calls the view. -/
theorem calledLater_answers
    {first later : IdempotentRequest} {key : PyStr} {world again : World} {row : Row}
    (repeats : RepeatsKey endpoint first later key world row)
    {next : DurableState World Row} {reply : Option Response}
    (stepped : durableStep sha256 endpoint (calledLater sha256 endpoint first later key row)
      (.call 0 again) = some (next, some ⟨later, 1, reply⟩)) :
    AnswersLater sha256 endpoint (calledLater sha256 endpoint first later key row)
      (.call 0 again) next ⟨later, 1, reply⟩ row first where
  stepped := stepped
  object := ⟨0, rfl, Nat.one_pos⟩
  client := repeats.client
  key := repeats.again.trans repeats.given.symm

variable (sha256) in
/-- The same payload is answered with the object which the query finds. -/
theorem path_replayed
    {first later : IdempotentRequest} {key : PyStr} {world again : World} {row : Row}
    (repeats : RepeatsKey endpoint first later key world row)
    (same : later.data.canonical = first.data.canonical)
    (passes : endpoint.passes later again = true) :
    ∃ state, ((durableSystem sha256 endpoint).guarded (AnswersSafely sha256 endpoint)).Path
      nothingCreated (dayAfter first later world ++ [.call 0 again]) state := by
  have path : ((durableSystem sha256 endpoint).guarded fun state action =>
      answersFirst sha256 endpoint state action = true).Path
        nothingCreated (dayAfter first later world)
        (calledLater sha256 endpoint first later key row) :=
    TransitionSystem.guarded_path_of_runLabels (run_dayAfter repeats)
  have safe : AnswersSafely sha256 endpoint (calledLater sha256 endpoint first later key row)
      (.call 0 again) := by
    intro next answer found original answers
    rcases answers.object with ⟨place, there, _⟩
    have only : (found, original) = (row, first) :=
      List.mem_singleton.mp (List.mem_of_getElem? there)
    cases only
    rintro going ⟨⟩
    exact ⟨fun _ => ⟨passes, row, repeats.find, rfl⟩, fun different => absurd same different⟩
  have stepped := step_call_known sha256 (calledLater_running sha256 endpoint first later key row)
    passes repeats.find
  exact ⟨_, .step (path.guarded_mono (fun _ _ _ => answersSafely_of_answersFirst)
    (.init isStart_nothingCreated)) ⟨safe, congrArg (Option.map Prod.fst) stepped⟩⟩

/-- Another payload which passes the checks succeeds. -/
theorem other_succeeds
    {first later : IdempotentRequest} {key : PyStr} {world again : World} {row : Row}
    (repeats : RepeatsKey endpoint first later key world row)
    (different : later.data.canonical ≠ first.data.canonical)
    (passes : endpoint.passes later again = true) :
    ¬ ∀ state, (durableSystem sha256 endpoint).Reachable state →
        ∀ action, AnswersLawfully sha256 endpoint state action := by
  intro lawful
  have stepped := step_call_known sha256 (calledLater_running sha256 endpoint first later key row)
    passes repeats.find
  have law := lawful _ (calledLater_reachable repeats) _ _ _ row first
    (calledLater_answers repeats stepped)
  have failed := law.other different _ rfl
  rw [endpoint.reply_success] at failed
  exact Bool.noConfusion failed

/-- The same payload which does not pass the checks any more is not answered
with the object. -/
theorem same_refused
    {first later : IdempotentRequest} {key : PyStr} {world again : World} {row : Row}
    (repeats : RepeatsKey endpoint first later key world row)
    (same : later.data.canonical = first.data.canonical)
    (refused : endpoint.passes later again = false) :
    ¬ ∀ state, (durableSystem sha256 endpoint).Reachable state →
        ∀ action, AnswersLawfully sha256 endpoint state action := by
  intro lawful
  have stepped := step_call_refused sha256 (calledLater_running sha256 endpoint first later key row) refused
  have law := lawful _ (calledLater_reachable repeats) _ _ _ row first
    (calledLater_answers repeats stepped)
  rcases law.same same with ⟨_, nothing, _⟩
  cases nothing

end Later

/-! ## A mandate and a cheque -/

theorem fifty_fits : fitsDecimalField 12 2 50 = true := by
  decide +kernel

theorem polishNumber_length : (py "+48501234567").length ≤ 16 := by
  decide +kernel

theorem firstOfJune_le : firstOfJune.year ≤ 9999 := by
  decide

theorem thirdOfJune_le : firstOfJune.next.next.year ≤ 9999 := by
  decide +kernel

/-- The body of a request for a monthly mandate. -/
def mandateBody (startDate : PyStr) : PyValue :=
  .dict
    [(py "payer_user_id", .str (py "client")),
      (py "recipient_phone", .str (py "+48501234567")),
      (py "amount", .str (py "50.00")),
      (py "currency", .str (py "PLN")),
      (py "zone", .str (py "PL")),
      (py "cycle", .str (py "MONTHLY")),
      (py "start_date", .str startDate),
      (py "mandate_signed_at", .str (py "2026-06-01T07:00:00Z"))]

def mandateData (startDate : Date) (startDate_le : startDate.year ≤ 9999) : CreateData where
  payerUserId := py "client"
  recipientPhone := py "+48501234567"
  amount := 50
  currency := "PLN"
  zone := "PL"
  cycle := "MONTHLY"
  startDate := startDate
  endDate := none
  mandateSignedAt := .atHour firstOfJune 7
  phone_length := polishNumber_length
  amount_fits := fifty_fits
  startDate_le := startDate_le

/-- The serializer on such bodies with a start on the first or the third of
June. -/
def mandateSerializer : PyValue → Option CreateData
  | .dict items =>
      match PyValue.lookup items (py "start_date") with
      | some (.str text) =>
          if text = py "2026-06-01" then some (mandateData firstOfJune firstOfJune_le)
          else if text = py "2026-06-03" then
            some (mandateData firstOfJune.next.next thirdOfJune_le)
          else none
      | _ => none
  | _ => none

theorem hour_min : Cheques.chequeTtlMinSeconds ≤ 3600 := by
  decide

theorem hour_max : 3600 ≤ Cheques.chequeTtlMaxSeconds := by
  decide

theorem twoHundred_min : (1 / 100 : Decimal) ≤ 200 := by
  decide +kernel

theorem twoHundred_fits : fitsDecimalField 12 2 200 = true := by
  decide +kernel

/-- The body of a request for a cheque which lasts an hour. -/
def chequeBody (amount : PyStr) : PyValue :=
  .dict
    [(py "user_id", .str (py "client")),
      (py "amount", .str amount),
      (py "currency", .str (py "PLN")),
      (py "zone", .str (py "PL")),
      (py "ttl_seconds", .number (py "3600") true)]

def chequeData
    (amount : Decimal) (amount_min : 1 / 100 ≤ amount)
    (amount_fits : fitsDecimalField 12 2 amount = true) : Cheques.IssueData where
  userId := py "client"
  amount := amount
  currency := "PLN"
  zone := .PL
  ttlSeconds := 3600
  amount_min := amount_min
  amount_fits := amount_fits
  ttl_min := hour_min
  ttl_max := hour_max

/-- The serializer on such bodies with an amount of 100 or 200. -/
def chequeSerializer : PyValue → Option Cheques.IssueData
  | .dict items =>
      match PyValue.lookup items (py "amount") with
      | some (.str text) =>
          if text = py "100.00" then some (chequeData 100 cent_le_hundred hundred_fits)
          else if text = py "200.00" then some (chequeData 200 twoHundred_min twoHundred_fits)
          else none
      | _ => none
  | _ => none

/-- SHA-256 on these bodies. -/
def creationSha256 (text : PyStr) : PyStr :=
  if text = (mandateBody (py "2026-06-01")).dumpsSorted then
    py "112eec928be859dcd673856d956cc049d12509b3cb589357245b440ac7de1371"
  else if text = (mandateBody (py "2026-06-03")).dumpsSorted then
    py "bb9af2a5e74366dad22d29e46bf55a5212049afcec829660a36c333eb08e8ff3"
  else if text = (chequeBody (py "100.00")).dumpsSorted then
    py "41d7b39667970edd1e0da3495245b1f544f7ba6ebcb7ada97fcf994ca8e03812"
  else if text = (chequeBody (py "200.00")).dumpsSorted then
    py "077ba066ff20060e494c720a88e71b98c78999f6d317f832038ecc0d3aedd170"
  else text

/-- The text of a full hour. -/
def hourText (time : DateTime) : PyStr :=
  let day := time.date.compact
  let hour := time.micros / 3600000000
  day.take 4 ++ py "-" ++ (day.drop 4).take 2 ++ py "-" ++ day.drop 6 ++ py "T" ++
    [48 + hour / 10, 48 + hour % 10] ++ py ":00:00Z"

/-- The texts of the first two hours of 1970. -/
def earlyText (instant : Instant) : PyStr :=
  if instant = 0 then py "1970-01-01T00:00:00Z" else py "1970-01-01T01:00:00Z"

/-- The text of an amount without cents. -/
def wholeText (amount : Decimal) : PyStr :=
  decimalDigits amount.num.toNat ++ py ".00"

def mandateEndpoint : KeyedEndpoint CreateWorld CreatedMandate MandateObject :=
  recurringCreate documentedEnv mandateSerializer hourText

def chequeEndpoint : KeyedEndpoint IssueWorld Cheques.Cheque ChequeObject :=
  chequeIssue chequeSerializer wholeText earlyText

/-- Bank 1 creates an object under one key. -/
def keyedRequest
    (endpoint : Endpoint) (authenticated : ClientType.bank = endpoint.clientType)
    (data : PyValue) (decoded : data.decoded = true) : IdempotentRequest where
  user := firstBank
  endpoint := endpoint
  authenticated := authenticated
  idempotencyKey := some (py "key")
  data := data
  decoded := decoded

def fromFirstOfJune : IdempotentRequest :=
  keyedRequest .recurringCreate rfl (mandateBody (py "2026-06-01")) (by decide +kernel)

def fromThirdOfJune : IdempotentRequest :=
  keyedRequest .recurringCreate rfl (mandateBody (py "2026-06-03")) (by decide +kernel)

def chequeOf100 : IdempotentRequest :=
  keyedRequest .chequeIssue rfl (chequeBody (py "100.00")) (by decide +kernel)

def chequeOf200 : IdempotentRequest :=
  keyedRequest .chequeIssue rfl (chequeBody (py "200.00")) (by decide +kernel)

/-- A request for a mandate at a time; the recipient has an account in
bank 2. -/
def mandateAt (now : DateTime) : CreateWorld where
  bank := polishBank 1
  now := now
  aliases := [⟨7, py "+48501234567", polishBank 2, .dict [], .PL⟩]
  mandateId := 5
  mandateId_lt := by decide
  createdAt := now
  refused := false

/-- A request for a cheque at a time. -/
def chequeAt (now : Instant) : IssueWorld where
  bank := polishBank 1
  now := now
  code := py "123456789"
  chequeId := 6
  chequeId_lt := by decide
  refused := false

/-- The morning after, more than 24 hours later. -/
def morningAfter : DateTime :=
  .atHour firstOfJune.next 9

/-- A mandate which is created in the morning is asked for again. -/
theorem mandate_repeated
    {request : IdempotentRequest}
    (toEndpoint : request.endpoint = .recurringCreate)
    (given : request.idempotencyKey = some (py "key"))
    (passes : mandateEndpoint.passes request (mandateAt (.atHour firstOfJune 8)) = true)
    (inserts : (mandateEndpoint.insert request (py "key") (mandateAt (.atHour firstOfJune 8))
      []).isSome = true) :
    ∃ row, RepeatsKey mandateEndpoint request request (py "key")
      (mandateAt (.atHour firstOfJune 8)) row := by
  rcases Option.isSome_iff_exists.mp inserts with ⟨row, inserted⟩
  exact ⟨row, toEndpoint, toEndpoint, given, given, List.cons_ne_nil _ _, rfl, passes, inserted⟩

/-- A cheque of 100 is issued, and a second request has its key. -/
theorem cheque_repeated
    (later : IdempotentRequest) (toEndpoint : later.endpoint = .chequeIssue)
    (client : later.user = firstBank) (given : later.idempotencyKey = some (py "key")) :
    ∃ row, RepeatsKey chequeEndpoint chequeOf100 later (py "key") (chequeAt 0) row := by
  have inserts : (chequeEndpoint.insert chequeOf100 (py "key") (chequeAt 0) []).isSome = true := by
    decide +kernel
  have passes : chequeEndpoint.passes chequeOf100 (chequeAt 0) = true := by
    decide +kernel
  rcases Option.isSome_iff_exists.mp inserts with ⟨row, inserted⟩
  exact ⟨row, rfl, toEndpoint, rfl, given, List.cons_ne_nil _ _, client, passes, inserted⟩

/-- The mandate and the cheque are asked for again on the next day. -/
theorem created_replays_iff_safe_nextDay :
    ∃ createState issueState,
      ((durableSystem creationSha256 mandateEndpoint).guarded
        (AnswersLawfully creationSha256 mandateEndpoint)).Path nothingCreated
          (dayAfter fromThirdOfJune fromThirdOfJune (mandateAt (.atHour firstOfJune 8)) ++
            [.call 0 (mandateAt morningAfter)]) createState ∧
      ((durableSystem creationSha256 chequeEndpoint).guarded
        (AnswersLawfully creationSha256 chequeEndpoint)).Path nothingCreated
          (dayAfter chequeOf100 chequeOf100 (chequeAt 0) ++
            [.call 0 (chequeAt 90000000000)]) issueState := by
  have mandatePasses :
      mandateEndpoint.passes fromThirdOfJune (mandateAt (.atHour firstOfJune 8)) = true := by
    decide +kernel
  have mandateInserts : (mandateEndpoint.insert fromThirdOfJune (py "key")
      (mandateAt (.atHour firstOfJune 8)) []).isSome = true := by
    decide +kernel
  have mandateAgain :
      mandateEndpoint.passes fromThirdOfJune (mandateAt morningAfter) = true := by
    decide +kernel
  have chequeAgain : chequeEndpoint.passes chequeOf100 (chequeAt 90000000000) = true := by
    decide +kernel
  rcases mandate_repeated rfl rfl mandatePasses mandateInserts with ⟨_, mandateRepeats⟩
  rcases cheque_repeated chequeOf100 rfl rfl rfl with ⟨_, chequeRepeats⟩
  rcases path_replayed creationSha256 mandateRepeats rfl mandateAgain with
    ⟨createState, createPath⟩
  rcases path_replayed creationSha256 chequeRepeats rfl chequeAgain with
    ⟨issueState, issuePath⟩
  have iffs := created_replays_iff_safe creationSha256 documentedEnv mandateSerializer hourText
    chequeSerializer wholeText earlyText isStart_nothingCreated isStart_nothingCreated
    (dayAfter fromThirdOfJune fromThirdOfJune (mandateAt (.atHour firstOfJune 8)) ++
      [.call 0 (mandateAt morningAfter)])
    (dayAfter chequeOf100 chequeOf100 (chequeAt 0) ++ [.call 0 (chequeAt 90000000000)])
    createState issueState
  exact ⟨createState, issueState, iffs.1.mpr createPath, iffs.2.mpr issuePath⟩

/-- A day later, the request for a mandate which starts on the first of June is
refused, and a request for a cheque of 200 gets the cheque of 100. -/
theorem created_not_replayed :
    (¬ ∀ state, (durableSystem creationSha256 mandateEndpoint).Reachable state →
        ∀ action, AnswersLawfully creationSha256 mandateEndpoint state action) ∧
      ¬ ∀ state, (durableSystem creationSha256 chequeEndpoint).Reachable state →
        ∀ action, AnswersLawfully creationSha256 chequeEndpoint state action := by
  constructor
  · have passes :
        mandateEndpoint.passes fromFirstOfJune (mandateAt (.atHour firstOfJune 8)) = true := by
      decide +kernel
    have inserts : (mandateEndpoint.insert fromFirstOfJune (py "key")
        (mandateAt (.atHour firstOfJune 8)) []).isSome = true := by
      decide +kernel
    have refused : mandateEndpoint.passes fromFirstOfJune (mandateAt morningAfter) = false := by
      decide +kernel
    rcases mandate_repeated rfl rfl passes inserts with ⟨_, repeats⟩
    exact same_refused repeats rfl refused
  · have passes : chequeEndpoint.passes chequeOf200 (chequeAt 90000000000) = true := by
      decide +kernel
    have different : chequeOf200.data.canonical ≠ chequeOf100.data.canonical := by
      intro same
      have texts := (PyValue.dumpsSorted_eq_iff chequeOf200.decoded chequeOf100.decoded).mpr same
      exact absurd texts (by decide +kernel)
    rcases cheque_repeated chequeOf200 rfl rfl rfl with ⟨_, repeats⟩
    exact other_succeeds repeats different passes

end Klik.Idempotency
