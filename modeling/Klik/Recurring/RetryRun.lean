import Klik.Lib.PyCall
import Klik.Recurring.FinalizeOnce

/-!
# The attempts of one execution

The broker delivers the message which the dispatch has sent, and after it the
messages which `Task.retry` sends, one after the other.  Each message carries
the arguments of the task as they were given; a worker binds them to the
parameters before it runs the task.
-/

namespace Klik.Recurring

open Klik.Banks
open Klik.Common
open Klik.Lib

/-! ## Messages -/

/-- The parameters of `execute_recurring_run`; keys travel as texts. -/
def executeRecurringRunParameters : List (Parameter (Option Uuid)) :=
  [⟨py "mandate_id", none⟩, ⟨py "execution_id", some none⟩]

/-- A message of the broker. -/
structure TaskRequest where
  call : PyCall (Option Uuid)
  retries : Nat

/-- `execute_recurring_run.delay(str(mandate_id))`. -/
def dispatchRequest (mandateId : Uuid) : TaskRequest where
  call := ⟨[some mandateId], []⟩
  retries := 0

/-- `task.retry(kwargs=...)` sends the positional arguments again. -/
def TaskRequest.retry (kwargs : List (PyStr × Option Uuid)) (request : TaskRequest) :
    TaskRequest where
  call := { request.call with kwargs := kwargs }
  retries := request.retries + 1

/-- The keyword arguments of a retry. -/
def retryArguments (mandateId executionId : Uuid) : List (PyStr × Option Uuid) :=
  [(py "mandate_id", some mandateId), (py "execution_id", some executionId)]

/-! ## Attempts -/

/-- What an attempt meets: its readings of the clock, the key of the execution
it may claim, the alias a lookup finds, and the answer of the bank. -/
structure AttemptInput where
  claimedAt : DateTime
  executionId : Uuid
  alias_ : Option Recipient
  answer : BankAnswer
  finalizedAt : DateTime

/-- The tables, the lookups with their results, the calls of the bank and the
queued tasks. -/
structure RunState where
  db : RecurringDb
  lookups : List (Option Recipient)
  sent : List ExecuteRequest
  outbox : List RecurringTask

variable (env : RecurringEnv)

/-- The state after a block. -/
def RunState.withBlock {Result : Type}
    (outcome : Outcome Result) (state : RunState) : RunState :=
  { state with
    db := outcome.db
    outbox := state.outbox ++ outcome.queued }

/-- The state after a finaliser. -/
def RunState.finalizedBy
    (now : DateTime) (executionId : Uuid) (finalizer : Finalizer) (state : RunState) :
    RunState :=
  state.withBlock (finalize env now executionId finalizer false state.db)

/-- `_call_bank_and_finalize`: the state, and the message if it retries. -/
def callBankAndFinalize
    (request : TaskRequest) (execution : RecurringExecution)
    (recipient : Option Recipient) (input : AttemptInput) (state : RunState) :
    RunState × Option TaskRequest :=
  match state.db.mandate.effectiveWebhookUrl with
  | none =>
      (state.finalizedBy env input.finalizedAt execution.id (.failure .networkTimeout),
        none)
  | some webhookBase =>
      let called :=
        { state with
          sent := state.sent ++
            [executeRequest webhookBase state.db.mandate execution recipient] }
      match afterCall env.runtime request.retries input.answer with
      | .finalize finalizer =>
          (called.finalizedBy env input.finalizedAt execution.id finalizer, none)
      | .retry =>
          (called,
            some (request.retry (retryArguments state.db.mandate.id execution.id)))
      | .raises _ => (called, none)

/-- `_lookup_recipient` and what follows it. -/
def lookUpAndCall
    (request : TaskRequest) (execution : RecurringExecution) (input : AttemptInput)
    (state : RunState) : RunState × Option TaskRequest :=
  let lookedUp := { state with lookups := state.lookups ++ [input.alias_] }
  match input.alias_ with
  | none =>
      (lookedUp.finalizedBy env input.finalizedAt execution.id
        (.failure .recipientAliasGone), none)
  | some recipient =>
      callBankAndFinalize env request (execution.withSnapshot recipient)
        (some recipient) input
        { lookedUp with db := state.db.saveSnapshot execution.id recipient }

/-- `execute_recurring_run` on a message: a call which cannot be bound raises
a `TypeError`. -/
def executeRecurringRun
    (request : TaskRequest) (input : AttemptInput) (state : RunState) :
    RunState × Option TaskRequest :=
  match request.call.bind executeRecurringRunParameters with
  | some [some mandateId, none] =>
      if mandateId ≠ state.db.mandate.id then (state, none)
      else
        let outcome :=
          claimExecution env.schedule input.claimedAt input.executionId false state.db
        match outcome.result with
        | .ok (some execution) =>
            lookUpAndCall env request execution input (state.withBlock outcome)
        | _ => (state.withBlock outcome, none)
  | some [_, some executionId] =>
      match rowAt RecurringExecution.id state.db.executions executionId with
      | none => (state, none)
      | some execution =>
          if execution.status ≠ .executing then (state, none)
          else
            callBankAndFinalize env request execution execution.lookupResponseSnapshot
              input state
  | _ => (state, none)

/-- Deliver a message and the retries after it, at most this many messages. -/
def deliver (inputs : Nat → AttemptInput) :
    Nat → TaskRequest → RunState → RunState
  | 0, _, state => state
  | messages + 1, request, state =>
      match executeRecurringRun env request (inputs request.retries) state with
      | (after, none) => after
      | (after, some again) => deliver inputs messages again after

/-- Deliver the message of the dispatch and all its retries. -/
def deliverDispatched (inputs : Nat → AttemptInput) (state : RunState) : RunState :=
  deliver env inputs (maxRetries + 1) (dispatchRequest state.db.mandate.id) state

/-- A retry has the arguments of a retry, and there are at most
`maxRetries`. -/
theorem retry_of_callBankAndFinalize
    {request again : TaskRequest} {execution : RecurringExecution}
    {recipient : Option Recipient} {input : AttemptInput} {state after : RunState}
    (retried : callBankAndFinalize env request execution recipient input state =
      (after, some again)) :
    request.retries < maxRetries ∧
      ∃ mandateId executionId,
        again = request.retry (retryArguments mandateId executionId) := by
  simp only [callBankAndFinalize] at retried
  split at retried
  · cases retried
  · split at retried
    · cases retried
    · rename_i retries
      cases retried
      refine ⟨?_, _, _, rfl⟩
      simp only [afterCall] at retries
      split at retries
      · split at retries
        · cases retries
        · rename_i left
          exact Nat.lt_of_not_le left
      · cases retries
      · split at retries
        · cases retries
        · cases retries
    · cases retried

theorem retry_of_executeRecurringRun
    {request again : TaskRequest} {input : AttemptInput} {state after : RunState}
    (retried : executeRecurringRun env request input state = (after, some again)) :
    request.retries < maxRetries ∧
      ∃ mandateId executionId,
        again = request.retry (retryArguments mandateId executionId) := by
  simp only [executeRecurringRun] at retried
  split at retried
  · split at retried
    · cases retried
    · split at retried
      · simp only [lookUpAndCall] at retried
        split at retried
        · cases retried
        · exact retry_of_callBankAndFinalize env retried
      · cases retried
  · split at retried
    · cases retried
    · split at retried
      · cases retried
      · exact retry_of_callBankAndFinalize env retried
  · cases retried

/-- More deliveries than there can be retries change nothing. -/
theorem deliver_enough
    (inputs : Nat → AttemptInput) (messages : Nat) (request : TaskRequest)
    (state : RunState) (enough : maxRetries ≤ messages + request.retries) :
    deliver env inputs (messages + 2) request state =
      deliver env inputs (messages + 1) request state := by
  induction messages generalizing request state with
  | zero =>
      rw [deliver, deliver]
      cases run : executeRecurringRun env request (inputs request.retries) state with
      | mk after again =>
          cases again with
          | none => rfl
          | some again =>
              have left := (retry_of_executeRecurringRun env run).1
              omega
  | succ messages induction =>
      rw [deliver, deliver]
      cases run : executeRecurringRun env request (inputs request.retries) state with
      | mk after again =>
          cases again with
          | none => rfl
          | some again =>
              rcases retry_of_executeRecurringRun env run with ⟨_, _, _, rfl⟩
              apply induction
              simp only [TaskRequest.retry]
              omega

/-- The retry of a message which gives the mandate by position cannot be
bound: it gives the mandate a second time, by keyword. -/
theorem bind_retry
    {request : TaskRequest} {mandate : Option Uuid}
    (positional : request.call.args = [mandate]) (mandateId executionId : Uuid) :
    (request.retry (retryArguments mandateId executionId)).call.bind
      executeRecurringRunParameters = none := by
  apply PyCall.bind_eq_none (List.mem_cons_self ..)
  intro parameter member
  simp only [PyCall.remaining, TaskRequest.retry, positional, List.length_singleton,
    executeRecurringRunParameters, List.drop_succ_cons, List.drop_zero,
    List.mem_singleton] at member
  rw [member]
  show py "execution_id" ≠ py "mandate_id"
  decide

/-- The retries of a message of the dispatch change nothing. -/
theorem deliverDispatched_eq (inputs : Nat → AttemptInput) (state : RunState) :
    deliverDispatched env inputs state =
      (executeRecurringRun env (dispatchRequest state.db.mandate.id) (inputs 0)
        state).1 := by
  simp only [deliverDispatched, maxRetries]
  rw [deliver]
  cases run : executeRecurringRun env (dispatchRequest state.db.mandate.id)
      (inputs (dispatchRequest state.db.mandate.id).retries) state with
  | mk after again =>
      cases again with
      | none =>
          exact congrArg Prod.fst run.symm
      | some again =>
          rcases retry_of_executeRecurringRun env run with
            ⟨_, mandateId, executionId, rfl⟩
          have positional : (dispatchRequest state.db.mandate.id).call.args =
              [some state.db.mandate.id] := rfl
          have unbound := bind_retry positional mandateId executionId
          simp only
          rw [deliver, executeRecurringRun, unbound]
          exact congrArg Prod.fst run.symm

/-! ## How an execution has to end -/

/-- A status with the reason of a failure. -/
abbrev ExecutionEnd := RecurringExecutionStatus × Option ExecutionFailureReason

def RecurringExecution.end_ (execution : RecurringExecution) : ExecutionEnd :=
  (execution.status, execution.failureReason)

/-- The reason which the bank has given, or OTHER. -/
def bankReason : PyValue → ExecutionFailureReason
  | .str text => (allowedRejectReason text).getD .other
  | _ => .other

/-- How an execution has to end whose calls get these answers. -/
def rightEnd : List BankAnswer → ExecutionEnd
  | [] => (.failed, some .networkTimeout)
  | answer :: later =>
      match readAnswer answer with
      | .executed _ => (.success, none)
      | .rejected data =>
          (.failed, some (bankReason (PyValue.getD data (py "reject_reason") .none)))
      | .failed => rightEnd later

/-- The answers which the attempts get, of which a bank without an address
gives none. -/
def callAnswers (inputs : Nat → AttemptInput) (mandate : RecurringTransfer) :
    List BankAnswer :=
  (List.range (maxRetries + 1)).map fun retries =>
    if mandate.effectiveWebhookUrl = none then .failed else (inputs retries).answer

/-- How the execution has to end, by its lookup and the answers. -/
def rightEndOf (inputs : Nat → AttemptInput) (mandate : RecurringTransfer) :
    ExecutionEnd :=
  match (inputs 0).alias_ with
  | none => (.failed, some .recipientAliasGone)
  | some _ => rightEnd (callAnswers inputs mandate)

/-- The execution ends as it has to, and its recipient is looked up once. -/
structure EndsRight
    (inputs : Nat → AttemptInput) (start : RunState) (executionId : Uuid) : Prop where
  ended : (rowAt RecurringExecution.id
      (deliverDispatched env inputs start).db.executions executionId).map
        RecurringExecution.end_ = some (rightEndOf inputs start.db.mandate)
  lookedUpOnce : (deliverDispatched env inputs start).lookups =
    start.lookups ++ [(inputs 0).alias_]

/-- Whether a value can be looked up in a set. -/
def hashable : PyValue → Bool
  | .list _ => false
  | .dict _ => false
  | _ => true

/-- Whether an answer decides the run, and the task can record it. -/
def BankAnswer.settles (now : DateTime) (answer : BankAnswer) : Bool :=
  match readAnswer answer with
  | .failed => false
  | .executed data =>
      (Finalizer.success
        (((PyValue.getD data (py "rtp_reference") .none).orElse (.str [])).text
          env.runtime)
        (PyValue.getD data (py "executed_at") .none)).passes env now
  | .rejected data => hashable (PyValue.getD data (py "reject_reason") .none)

/-- The run is decided before its first retry. -/
def SettlesAtOnce (inputs : Nat → AttemptInput) (mandate : RecurringTransfer) : Prop :=
  (inputs 0).alias_ = none ∨ mandate.effectiveWebhookUrl = none ∨
    (inputs 0).answer.settles env (inputs 0).finalizedAt = true

/-! ## One attempt -/

/-- What a finaliser leaves of a running execution. -/
def Finalizer.leaves (now : DateTime) (finalizer : Finalizer)
    (execution : RecurringExecution) : ExecutionEnd :=
  match finalizer.passes env now, finalizer with
  | false, _ => execution.end_
  | true, .success _ _ => (.success, execution.failureReason)
  | true, .failure reason => (.failed, some reason)

theorem end_finalizedBy
    (now : DateTime) (finalizer : Finalizer) {execution : RecurringExecution}
    {state : RunState} {executionId : Uuid}
    (found : rowAt RecurringExecution.id state.db.executions executionId =
      some execution) :
    (rowAt RecurringExecution.id
      (state.finalizedBy env now executionId finalizer).db.executions executionId).map
        RecurringExecution.end_ = some (finalizer.leaves env now execution) := by
  have atId := (mem_of_rowAt found).2
  simp only [RunState.finalizedBy, RunState.withBlock, Finalizer.leaves]
  cases finalizer with
  | success rtpReference raw =>
      simp only [finalize, Finalizer.passes]
      cases parsed : executedAt env.parseDatetime now raw with
      | error error =>
          simp [Outcome.raise, found]
      | ok time =>
          simp only [successBlock, found]
          cases storable : storableReference rtpReference with
          | false => simp [Outcome.raise, found]
          | true =>
              simp [rowAt_saveRow, found, atId, RecurringExecution.succeeded,
                RecurringExecution.end_]
  | failure reason =>
      simp only [finalize, failureBlock, found, Finalizer.passes]
      simp [rowAt_saveRow, found, atId, RecurringExecution.failedWith,
        RecurringExecution.end_]

theorem end_callBankAndFinalize
    (request : TaskRequest) (recipient : Option Recipient) (input : AttemptInput)
    (execution : RecurringExecution) (state : RunState)
    (found : rowAt RecurringExecution.id state.db.executions execution.id =
      some execution) :
    (rowAt RecurringExecution.id
      (callBankAndFinalize env request execution recipient input state).1.db.executions
        execution.id).map RecurringExecution.end_ =
      some
        (match state.db.mandate.effectiveWebhookUrl with
        | none => (.failed, some .networkTimeout)
        | some _ =>
            match afterCall env.runtime request.retries input.answer with
            | .finalize finalizer => finalizer.leaves env input.finalizedAt execution
            | .retry => execution.end_
            | .raises _ => execution.end_) := by
  simp only [callBankAndFinalize]
  cases url : state.db.mandate.effectiveWebhookUrl with
  | none => exact end_finalizedBy env _ _ found
  | some webhookBase =>
      simp only
      cases afterCall env.runtime request.retries input.answer with
      | finalize finalizer => exact end_finalizedBy env _ _ found
      | retry => simp only [found, Option.map_some]
      | raises error => simp only [found, Option.map_some]

theorem lookups_callBankAndFinalize
    (request : TaskRequest) (execution : RecurringExecution)
    (recipient : Option Recipient) (input : AttemptInput) (state : RunState) :
    (callBankAndFinalize env request execution recipient input state).1.lookups =
      state.lookups := by
  simp only [callBankAndFinalize]
  split
  · rfl
  · split
    · rfl
    · rfl
    · rfl

/-- The state in which an attempt that has found the recipient calls the
bank. -/
def RunState.foundRecipient
    (executionId : Uuid) (recipient : Recipient) (state : RunState) : RunState :=
  { state with
    lookups := state.lookups ++ [some recipient]
    db := state.db.saveSnapshot executionId recipient }

theorem rowAt_foundRecipient
    (recipient : Recipient) (execution : RecurringExecution) (state : RunState)
    (found : rowAt RecurringExecution.id state.db.executions execution.id =
      some execution) :
    rowAt RecurringExecution.id
        (state.foundRecipient execution.id recipient).db.executions execution.id =
      some (execution.withSnapshot recipient) := by
  simp [RunState.foundRecipient, RecurringDb.saveSnapshot, found, rowAt_saveRow,
    RecurringExecution.withSnapshot]

theorem mandate_foundRecipient
    (executionId : Uuid) (recipient : Recipient) (state : RunState) :
    (state.foundRecipient executionId recipient).db.mandate = state.db.mandate := by
  simp only [RunState.foundRecipient, RecurringDb.saveSnapshot]
  split
  · rfl
  · rfl

/-! ## The run of a message of the dispatch -/

theorem rejectReason_eq (value : PyValue) :
    rejectReason value =
      if hashable value then .ok (bankReason value) else .error .typeError := by
  cases value <;> rfl

theorem rightEnd_ne_executing (answers : List BankAnswer) :
    (rightEnd answers).1 ≠ .executing := by
  induction answers with
  | nil => decide
  | cons answer later induction =>
      simp only [rightEnd]
      split
      · decide
      · intro impossible
        cases impossible
      · exact induction

/-- The answers of a bank which is called. -/
theorem callAnswers_of_url
    (inputs : Nat → AttemptInput) {mandate : RecurringTransfer} {url : PyStr}
    (called : mandate.effectiveWebhookUrl = some url) :
    callAnswers inputs mandate =
      [(inputs 0).answer, (inputs 1).answer, (inputs 2).answer, (inputs 3).answer] := by
  simp [callAnswers, called, maxRetries, List.range_succ]

theorem rightEnd_of_no_url
    (inputs : Nat → AttemptInput) {mandate : RecurringTransfer}
    (uncalled : mandate.effectiveWebhookUrl = none) :
    rightEnd (callAnswers inputs mandate) = (.failed, some .networkTimeout) := by
  simp [callAnswers, uncalled, maxRetries, List.range_succ, rightEnd, readAnswer]

/-- An answer which settles the run ends it as it has to. -/
theorem end_of_settled_call
    (retries : Nat) {input : AttemptInput} (later : List BankAnswer)
    {execution : RecurringExecution} (running : execution.end_ = (.executing, none))
    (settled : input.answer.settles env input.finalizedAt = true) :
    ∃ finalizer, afterCall env.runtime retries input.answer = .finalize finalizer ∧
      finalizer.leaves env input.finalizedAt execution =
        rightEnd (input.answer :: later) := by
  have reason : execution.failureReason = none := congrArg Prod.snd running
  simp only [BankAnswer.settles] at settled
  cases answer : readAnswer input.answer with
  | failed =>
      rw [answer] at settled
      cases settled
  | executed data =>
      rw [answer] at settled
      simp only [afterCall, answer]
      refine ⟨_, rfl, ?_⟩
      simp only [Finalizer.leaves, settled, rightEnd, answer, reason]
  | rejected data =>
      rw [answer] at settled
      simp only at settled
      simp only [afterCall, answer, rejectReason_eq, settled, if_true]
      refine ⟨_, rfl, ?_⟩
      simp only [Finalizer.leaves, Finalizer.passes, rightEnd, answer]

/-- The first call decides the run if and only if its answer settles it. -/
theorem end_of_first_call_iff
    (input : AttemptInput) (later : List BankAnswer) {execution : RecurringExecution}
    (running : execution.end_ = (.executing, none)) :
    (match afterCall env.runtime 0 input.answer with
      | .finalize finalizer => finalizer.leaves env input.finalizedAt execution
      | .retry => execution.end_
      | .raises _ => execution.end_) = rightEnd (input.answer :: later) ↔
      input.answer.settles env input.finalizedAt = true := by
  have unended : execution.end_ ≠ rightEnd (input.answer :: later) := by
    intro same
    apply rightEnd_ne_executing (input.answer :: later)
    rw [← same, running]
  constructor
  · intro ended
    simp only [afterCall] at ended
    simp only [BankAnswer.settles]
    cases answer : readAnswer input.answer with
    | failed =>
        have left : ¬ maxRetries ≤ 0 := by decide
        simp only [answer, if_neg left] at ended
        exact absurd ended unended
    | executed data =>
        simp only [answer, Finalizer.leaves] at ended ⊢
        split at ended
        · exact absurd ended unended
        · assumption
        · assumption
    | rejected data =>
        simp only [answer, rejectReason_eq] at ended ⊢
        cases value : hashable (PyValue.getD data (py "reject_reason") .none) with
        | false =>
            simp only [value, Bool.false_eq_true, if_false] at ended
            exact absurd ended unended
        | true => rfl
  · intro settled
    rcases end_of_settled_call env 0 later running settled with
      ⟨finalizer, continues, leaves⟩
    simp only [continues]
    exact leaves

/-- The first attempt looks the recipient of its claimed execution up. -/
theorem executeRecurringRun_dispatched
    {input : AttemptInput} {start : RunState} {execution : RecurringExecution}
    (claimed : (claimExecution env.schedule input.claimedAt input.executionId false
      start.db).result = .ok (some execution)) :
    executeRecurringRun env (dispatchRequest start.db.mandate.id) input start =
        lookUpAndCall env (dispatchRequest start.db.mandate.id) execution input
          (start.withBlock
            (claimExecution env.schedule input.claimedAt input.executionId false
              start.db)) ∧
      execution.end_ = (.executing, none) ∧
      rowAt RecurringExecution.id
        (claimExecution env.schedule input.claimedAt input.executionId false
          start.db).db.executions execution.id = some execution ∧
      (claimExecution env.schedule input.claimedAt input.executionId false
        start.db).db.mandate.effectiveWebhookUrl =
          start.db.mandate.effectiveWebhookUrl := by
  have bound : (dispatchRequest start.db.mandate.id).call.bind
      executeRecurringRunParameters = some [some start.db.mandate.id, none] := rfl
  have claims :=
    claims_claimExecution env.schedule input.claimedAt input.executionId false start.db
  simp only [executeRecurringRun, bound, ne_eq, not_true_eq_false, if_false]
  revert claims claimed
  generalize claimExecution env.schedule input.claimedAt input.executionId false
    start.db = outcome
  intro claimed claims
  cases claims with
  | raised error => cases claimed
  | skipped inactive => cases claimed
  | early before => cases claimed
  | ended active isOver => cases claimed
  | claimed next active due inTime fresh computed =>
      cases claimed
      exact ⟨rfl, rfl, rowAt_append_fresh fresh, rfl⟩

/-- A claimed run ends as it has to if and only if it is decided before its
first retry. -/
theorem claimed_run_ends_right_iff
    (inputs : Nat → AttemptInput) (start : RunState) (execution : RecurringExecution)
    (claimed : (claimExecution env.schedule (inputs 0).claimedAt (inputs 0).executionId
      false start.db).result = .ok (some execution)) :
    EndsRight env inputs start execution.id ↔
      SettlesAtOnce env inputs start.db.mandate := by
  rcases executeRecurringRun_dispatched env claimed with ⟨run, running, found, url⟩
  have delivered := deliverDispatched_eq env inputs start
  rw [run] at delivered
  revert delivered found url
  generalize claimExecution env.schedule (inputs 0).claimedAt (inputs 0).executionId
    false start.db = outcome
  intro found url delivered
  cases lookedUp : (inputs 0).alias_ with
  | none =>
      simp only [lookUpAndCall, lookedUp] at delivered
      constructor
      · intro _
        exact Or.inl lookedUp
      · intro _
        constructor
        · rw [delivered]
          simp only [rightEndOf, lookedUp]
          exact end_finalizedBy env _ _ found
        · rw [delivered, lookedUp]
          rfl
  | some recipient =>
      have called : deliverDispatched env inputs start =
          (callBankAndFinalize env (dispatchRequest start.db.mandate.id)
            (execution.withSnapshot recipient) (some recipient) (inputs 0)
            ((start.withBlock outcome).foundRecipient execution.id recipient)).1 := by
        simp only [delivered, lookUpAndCall, lookedUp, RunState.foundRecipient]
      have lookups : (deliverDispatched env inputs start).lookups =
          start.lookups ++ [(inputs 0).alias_] := by
        rw [called, lookups_callBankAndFinalize, lookedUp]
        rfl
      have ended := end_callBankAndFinalize env (dispatchRequest start.db.mandate.id)
        (some recipient) (inputs 0) (execution.withSnapshot recipient)
        ((start.withBlock outcome).foundRecipient execution.id recipient)
        (rowAt_foundRecipient recipient execution (start.withBlock outcome) found)
      rw [← called, mandate_foundRecipient] at ended
      have ends : EndsRight env inputs start execution.id ↔
          (match start.db.mandate.effectiveWebhookUrl with
            | none => (.failed, some .networkTimeout)
            | some _ =>
                match afterCall env.runtime 0 (inputs 0).answer with
                | .finalize finalizer =>
                    finalizer.leaves env (inputs 0).finalizedAt
                      (execution.withSnapshot recipient)
                | .retry => (execution.withSnapshot recipient).end_
                | .raises _ => (execution.withSnapshot recipient).end_) =
            rightEnd (callAnswers inputs start.db.mandate) := by
        rw [← url]
        constructor
        · rintro ⟨right, _⟩
          simp only [rightEndOf, lookedUp] at right
          exact Option.some.inj (ended.symm.trans right)
        · intro right
          constructor
          · simp only [rightEndOf, lookedUp]
            exact ended.trans (congrArg some right)
          · exact lookups
      rw [ends]
      simp only [SettlesAtOnce, lookedUp, Option.some_ne_none, false_or]
      cases webhook : start.db.mandate.effectiveWebhookUrl with
      | none => simp [rightEnd_of_no_url inputs webhook]
      | some webhookBase =>
          simp only [callAnswers_of_url inputs webhook, reduceCtorEq, false_or]
          exact end_of_first_call_iff env (inputs 0) _ running

/-! ## Retries which can be bound -/

/-- A message which gives the mandate by keyword is retried with arguments that
can be bound. -/
theorem executeRecurringRun_keyword
    {request : TaskRequest} {input : AttemptInput} {state : RunState}
    {mandateId : Uuid} {execution : RecurringExecution}
    (keyword : request.call = ⟨[], retryArguments mandateId execution.id⟩)
    (found : rowAt RecurringExecution.id state.db.executions execution.id =
      some execution)
    (running : execution.status = .executing) :
    executeRecurringRun env request input state =
      callBankAndFinalize env request execution execution.lookupResponseSnapshot input
        state := by
  have bound : request.call.bind executeRecurringRunParameters =
      some [some mandateId, some execution.id] := by
    rw [keyword]
    rfl
  simp only [executeRecurringRun, bound, found, running, ne_eq, not_true_eq_false,
    if_false]

/-- Were the mandate given by keyword, the retries of a running execution would
end as they have to, as long as every deciding answer can be recorded. -/
theorem deliver_keyword_ends_right
    (inputs : Nat → AttemptInput)
    (recorded : ∀ retries, readAnswer (inputs retries).answer = .failed ∨
      (inputs retries).answer.settles env (inputs retries).finalizedAt = true)
    (left : Nat) (request : TaskRequest) (state : RunState)
    {execution : RecurringExecution} {webhookBase : PyStr}
    (keyword : request.call =
      ⟨[], retryArguments state.db.mandate.id execution.id⟩)
    (counted : request.retries + left = maxRetries)
    (found : rowAt RecurringExecution.id state.db.executions execution.id =
      some execution)
    (running : execution.end_ = (.executing, none))
    (url : state.db.mandate.effectiveWebhookUrl = some webhookBase) :
    (rowAt RecurringExecution.id
      (deliver env inputs (left + 1) request state).db.executions execution.id).map
        RecurringExecution.end_ =
      some (rightEnd ((List.range' request.retries (left + 1)).map fun retries =>
        (inputs retries).answer)) := by
  have executing : execution.status = .executing := congrArg Prod.fst running
  induction left generalizing request state with
  | zero =>
      have ended := end_callBankAndFinalize env request
        execution.lookupResponseSnapshot (inputs request.retries) execution state found
      rw [← executeRecurringRun_keyword env keyword found executing] at ended
      have last : deliver env inputs 1 request state =
          (executeRecurringRun env request (inputs request.retries) state).1 := by
        rw [deliver]
        split
        · rename_i run
          exact congrArg Prod.fst run.symm
        · rename_i run
          exact congrArg Prod.fst run.symm
      rw [last, ended]
      simp only [url]
      rcases recorded request.retries with fails | settled
      · have exhausted : maxRetries ≤ request.retries := by omega
        simp [afterCall, fails, exhausted, rightEnd, Finalizer.leaves, Finalizer.passes]
      · rcases end_of_settled_call env request.retries [] running settled with
          ⟨finalizer, continues, leaves⟩
        simp only [continues, leaves]
        rfl
  | succ left induction =>
      rw [deliver, executeRecurringRun_keyword env keyword found executing,
        List.range'_succ, List.map_cons]
      rcases recorded request.retries with fails | settled
      · have more : ¬ maxRetries ≤ request.retries := by omega
        have continues : afterCall env.runtime request.retries
            (inputs request.retries).answer = .retry := by
          simp only [afterCall, fails, if_neg more]
        simp only [callBankAndFinalize, url, continues, rightEnd, fails]
        apply induction
        · simp only [TaskRequest.retry, keyword]
        · simp only [TaskRequest.retry]
          omega
        · exact found
        · exact url
      · rcases end_of_settled_call env request.retries
            ((List.range' (request.retries + 1) (left + 1)).map fun retries =>
              (inputs retries).answer) running settled with
          ⟨finalizer, continues, leaves⟩
        simp only [callBankAndFinalize, url, continues]
        exact (end_finalizedBy env _ _ found).trans (congrArg some leaves)

/-! ## A claimed run -/

/-- The first run of the new mandate of a bank which can be called. -/
def firstRun : RunState where
  db := callableMandate.db
  lookups := []
  sent := []
  outbox := []

/-- An attempt at eight o'clock which gets an answer. -/
def attemptWith (answer : BankAnswer) : AttemptInput where
  claimedAt := .atHour firstOfJune 8
  executionId := 1
  alias_ := some knownRecipient
  answer := answer
  finalizedAt := .atHour firstOfJune 8

/-- The bank carries the run out at once. -/
theorem claimed_run_ends_right_iff_executed :
    EndsRight documentedEnv (fun _ => attemptWith (bareAnswer "EXECUTED")) firstRun 1 :=
  (claimed_run_ends_right_iff documentedEnv
    (fun _ => attemptWith (bareAnswer "EXECUTED")) firstRun
    (firstRun.db.mandate.newExecution 1) rfl).mpr
      (Or.inr (Or.inr (by decide +kernel)))

/-- The first call fails, and the retry would be carried out. -/
def failsOnce (retries : Nat) : AttemptInput :=
  attemptWith (if retries = 0 then .failed else bareAnswer "EXECUTED")

/-- The execution is left running. -/
theorem claimed_run_left_executing :
    ¬ ∀ (inputs : Nat → AttemptInput) (start : RunState)
        (execution : RecurringExecution),
        (claimExecution documentedEnv.schedule (inputs 0).claimedAt
          (inputs 0).executionId false start.db).result = .ok (some execution) →
          EndsRight documentedEnv inputs start execution.id := by
  intro right
  have ended := (right failsOnce firstRun (firstRun.db.mandate.newExecution 1) rfl).ended
  have running : (rowAt RecurringExecution.id
      (deliverDispatched documentedEnv failsOnce firstRun).db.executions 1).map
        RecurringExecution.end_ = some (.executing, none) := by
    decide +kernel
  have expected : rightEndOf failsOnce firstRun.db.mandate = (.success, none) := by
    decide +kernel
  have same := running.symm.trans ended
  rw [expected] at same
  cases same

end Klik.Recurring
