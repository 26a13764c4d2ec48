import Klik.BankIO.RunsExecuted
import Klik.Recurring.LookupsOnce

/-!
# Outcomes of runs

An execution which KLIK shows as successful was debited once, to the payer of
its mandate and with the reference which the bank has given.  One which it
shows as failed, for any reason but a timeout of the network, was not debited
and never will be.
-/

namespace Klik.BankIO

open Klik.Common
open Klik.Lib
open Klik.Recurring

variable {env : RecurringEnv} {bankZone : PyStr} {state : RecurringState}

/-! ## Successful executions -/

/-- The run was debited once, and the execution has the reference of the
bank. -/
structure RecurringState.PaidOnce
    (state : RecurringState) (mandate : MandateState) (execution : RecurringExecution) :
    Prop where
  debited : debitOf mandate execution ∈ state.debits
  once : (state.debits.map Debit.executionId).count execution.id = 1
  reference : ∃ rtpReference executedAt,
    state.bank.executedRuns.get? execution.id = some (.executed rtpReference executedAt) ∧
      execution.rtpReference = rtpReference.take 200

theorem success_paid_once
    (state : RecurringState) (reached : (recurringSystem env bankZone).Reachable state)
    (mandate : MandateState) (member : mandate ∈ state.mandates)
    (execution : RecurringExecution) (row : execution ∈ mandate.db.executions)
    (success : execution.status = .success) : state.PaidOnce mandate execution := by
  have agree := runsAgree_of_reachable reached
  rcases ((agree.told mandate member).executions execution row).success success with
    ⟨rtpReference, raw, ⟨executedAt, known⟩, same⟩
  have executed : state.bank.hasExecuted execution = true := by
    rw [MandateBank.hasExecuted, known]
    rfl
  constructor
  · rw [agree.mem_debits_iff, mem_executedDebits]
    exact ⟨mandate, member, execution, row, executed, rfl⟩
  · apply List.count_eq_one_of_mem agree.once.nodup
    exact (agree.once.mem_iff execution.id).mpr executed
  · exact ⟨rtpReference, executedAt, known, same⟩

/-- The successful run of the client, whose first reply was lost. -/
theorem success_paid_once_replyLost :
    ∃ state mandate execution,
      TransitionSystem.runLabels (recurringStep documentedEnv (py "PL"))
        (mandateStart 500000) replyLost = some state ∧
      state.statuses = [(.success, none)] ∧ state.PaidOnce mandate execution := by
  have shown : (TransitionSystem.runLabels (recurringStep documentedEnv (py "PL"))
      (mandateStart 500000) replyLost).map RecurringState.statuses =
      some [(.success, none)] := by
    decide +kernel
  rcases Option.map_eq_some_iff.mp shown with ⟨state, run, statuses⟩
  have reached : (recurringSystem documentedEnv (py "PL")).Reachable state :=
    TransitionSystem.reachable_of_runLabels (mandateStart_isStart 500000) run
  have one : (RecurringExecutionStatus.success, none) ∈ state.statuses := by
    rw [statuses]
    exact List.mem_singleton_self _
  rcases List.mem_flatMap.mp one with ⟨mandate, member, inMandate⟩
  rcases List.mem_map.mp inMandate with ⟨execution, row, same⟩
  refine ⟨state, mandate, execution, run, statuses, ?_⟩
  exact success_paid_once state reached mandate member execution row
    (congrArg Prod.fst same)

/-! ## Requests which were answered -/

/-- A request with a recipient was sent about the execution. -/
def RecurringState.Asked (state : RecurringState) (executionId : Uuid) : Prop :=
  ∃ mandate ∈ state.mandates, ∃ call ∈ mandate.sent,
    call.2.executionId = executionId ∧ call.2.recipient.isSome = true

/-- An attempt which calls the bank sends its request. -/
theorem sent_of_pending
    {mandate next : MandateState} {place : Nat} {answer : BankAnswer}
    {request : ExecuteRequest} (pending : pendingRequest place mandate = some request)
    (step : (mandateSystem env).Step mandate (.callBank place answer) next) :
    ∃ call ∈ next.sent, call.2 = request := by
  simp only [pendingRequest] at pending
  split at pending
  · cases pending
  · rename_i attempt going
    split at pending
    · rename_i recipient calling
      split at pending
      · cases pending
      · rename_i webhookBase url
        rcases Option.map_eq_some_iff.mp pending with ⟨execution, found, rfl⟩
        simp only [mandateSystem, TransitionSystem.ofStep, mandateStep, going, calling,
          Option.some.injEq] at step
        subst step
        refine ⟨(attempt.startedUnder,
          executeRequest webhookBase mandate.db.mandate execution recipient), ?_, rfl⟩
        simp only [MandateState.bankCalled, url, found]
        exact List.mem_append_right _ (List.mem_singleton_self _)
    · cases pending

/-- What was sent stays sent. -/
theorem mem_sent_of_step
    {mandate next : MandateState} {action : MandateAction}
    (step : (mandateSystem env).Step mandate action next)
    {call : RecurringTransferStatus × ExecuteRequest} (sent : call ∈ mandate.sent) :
    call ∈ next.sent := by
  rcases sent_of_step env step with same | ⟨_, _, _, _, _, _, _, _, _, added⟩
  · rw [same]
    exact sent
  · rw [added]
    exact List.mem_append_left _ sent

theorem RecurringState.Asked.put
    {executionId : Uuid} (asked : state.Asked executionId) {index : Nat}
    {mandate next : MandateState} (going : state.mandates[index]? = some mandate)
    {action : MandateAction} (step : (mandateSystem env).Step mandate action next) :
    (state.putMandate index next).Asked executionId := by
  rcases asked with ⟨owner, member, call, sent, about⟩
  by_cases same : owner = mandate
  · subst same
    exact ⟨next, mem_putMandate going, call, mem_sent_of_step step sent, about⟩
  · exact ⟨owner, mandates_putMandate going member same, call, sent, about⟩

/-- The bank has replied only to requests which name a recipient. -/
def RecurringState.RepliesAsked (state : RecurringState) : Prop :=
  ∀ executionId response, state.bank.executedRuns.get? executionId = some response →
    state.Asked executionId

/-- The bank takes requests with a recipient. -/
theorem recipient_of_received
    {request : ExecuteRequest} {payload : RecurringExecuteWebhookIn}
    (received : receivedRequest request = some payload) :
    request.executionId = payload.executionId ∧ request.recipient.isSome = true := by
  rcases Option.map_eq_some_iff.mp received with ⟨recipient, named, rfl⟩
  exact ⟨rfl, by rw [named]; rfl⟩

/-- A request adds no reply about another execution. -/
theorem executedRuns_received
    (bankZone : PyStr) (stamp : RunStamp) (payload : RecurringExecuteWebhookIn)
    {executionId : Uuid} {response : ExecuteResponse}
    (known : (state.received bankZone stamp payload).bank.executedRuns.get? executionId =
      some response) :
    executionId = payload.executionId ∨
      state.bank.executedRuns.get? executionId = some response := by
  simp only [RecurringState.received, webhookRecurringExecute_memory, get?_remember] at known
  split at known
  · rename_i same
    exact .inl same.symm
  · exact .inr known

theorem repliesAsked_step
    {after : RecurringState} {action : RecurringAction} (replies : state.RepliesAsked)
    (move : (recurringSystem env bankZone).Step state action after) : after.RepliesAsked := by
  intro executionId response known
  cases recurringMove_of_step env bankZone move with
  | same => exact replies executionId response known
  | klik going allowed step => exact (replies executionId response known).put going step
  | @exchanged index attempt stamp mandate next request payload going pending received step =>
      rcases executedRuns_received bankZone stamp payload known with rfl | before
      · rcases sent_of_pending pending step with ⟨call, sent, same⟩
        rcases recipient_of_received received with ⟨about, named⟩
        exact ⟨next, mem_putMandate going, call, sent, same ▸ about, same ▸ named⟩
      · exact (replies executionId response before).put going step
  | @delivered index sent stamp mandate call payload going member received =>
      rcases executedRuns_received bankZone stamp payload known with rfl | before
      · rcases recipient_of_received received with ⟨about, named⟩
        exact ⟨mandate, List.mem_of_getElem? going, call, member, about, named⟩
      · exact replies executionId response before
  | recorded going => exact replies executionId response known
  | updated mandateId change user revoked => exact replies executionId response known
  | moved => exact replies executionId response known

theorem repliesAsked_of_reachable (reached : (recurringSystem env bankZone).Reachable state) :
    state.RepliesAsked := by
  apply reached.invariant
  · intro start isStart executionId response known
    rw [isStart.executedRuns] at known
    cases known
  · intro source action target _ replies move
    exact repliesAsked_step replies move

/-! ## Failed executions -/

/-- Why an execution is never debited: the bank has rejected it, or a lookup
for it has found nobody. -/
inductive NeverDebited (env : RecurringEnv) (state : RecurringState) (executionId : Uuid) :
    Prop where
  | rejected (rejection : RunRejection)
      (known : state.bank.executedRuns.get? executionId = some (.rejected rejection))
  | aliasGone (mandate : MandateState) (member : mandate ∈ state.mandates)
      (key : executionId ∈ executionIds mandate) (lookups : List Lookup)
      (recorded : (recordedLookups env).Reachable (mandate, lookups))
      (gone : (executionId, none) ∈ lookups)

theorem NeverDebited.put
    {executionId : Uuid} (never : NeverDebited env state executionId) {index : Nat}
    {mandate next : MandateState} (going : state.mandates[index]? = some mandate)
    {action : MandateAction} (step : (mandateSystem env).Step mandate action next) :
    NeverDebited env (state.putMandate index next) executionId := by
  cases never with
  | rejected rejection known => exact .rejected rejection known
  | aliasGone owner member key lookups recorded gone =>
      by_cases same : owner = mandate
      · subst same
        exact .aliasGone next (mem_putMandate going)
          ((executions_of_step env step).mem_ids key) (lookups ++ lookupsOf owner action)
          (.step recorded ⟨step, rfl⟩) (List.mem_append_left _ gone)
      · exact .aliasGone owner (mandates_putMandate going member same) key lookups recorded gone

theorem NeverDebited.received
    {executionId : Uuid} (never : NeverDebited env state executionId)
    (stamp : RunStamp) (payload : RecurringExecuteWebhookIn) :
    NeverDebited env (state.received bankZone stamp payload) executionId := by
  cases never with
  | rejected rejection known =>
      exact .rejected rejection
        (get?_executedRuns_webhook bankZone stamp payload state.bank known)
  | aliasGone owner member key lookups recorded gone =>
      exact .aliasGone owner member key lookups recorded gone

theorem neverDebited_step
    {after : RecurringState} {action : RecurringAction} {executionId : Uuid}
    (never : NeverDebited env state executionId)
    (move : (recurringSystem env bankZone).Step state action after) :
    NeverDebited env after executionId := by
  cases recurringMove_of_step env bankZone move with
  | same => exact never
  | klik going allowed step => exact never.put going step
  | exchanged going pending received step => exact (never.received _ _).put going step
  | delivered going member received => exact never.received _ _
  | recorded going =>
      cases never with
      | rejected rejection known => exact .rejected rejection known
      | aliasGone owner member key lookups recorded gone =>
          exact .aliasGone owner member key lookups recorded gone
  | updated mandateId change user revoked =>
      cases never with
      | rejected rejection known => exact .rejected rejection known
      | aliasGone owner member key lookups recorded gone =>
          exact .aliasGone owner member key lookups recorded gone
  | moved =>
      cases never with
      | rejected rejection known => exact .rejected rejection known
      | aliasGone owner member key lookups recorded gone =>
          exact .aliasGone owner member key lookups recorded gone

/-- There is no debit. -/
theorem NeverDebited.not_mem
    {executionId : Uuid} (never : NeverDebited env state executionId)
    (reached : (recurringSystem env bankZone).Reachable state) :
    executionId ∉ state.debits.map Debit.executionId := by
  have agree := runsAgree_of_reachable reached
  rw [agree.once.mem_iff]
  cases never with
  | rejected rejection known =>
      rw [known]
      exact Bool.false_ne_true
  | aliasGone mandate member key lookups recorded gone =>
      cases known : state.bank.executedRuns.get? executionId with
      | none => exact Bool.false_ne_true
      | some response =>
          rcases repliesAsked_of_reachable reached executionId response known with
            ⟨owner, ownerMember, call, sent, about, named⟩
          have asked := ((grounded_of_reachable env
            (agree.reached owner ownerMember)).sent call sent).1
          have unique : owner = mandate :=
            agree.mandate_unique ownerMember member (about ▸ asked) key
          subst unique
          rcases Option.isSome_iff_exists.mp named with ⟨recipient, found⟩
          have kept := lookupsKept_of_reachable env recorded
          have looked := kept.sent call sent recipient found
          rw [about] at looked
          -- the execution would have been looked up twice
          have same := List.inj_on_of_nodup_map (List.nodup_append.mp kept.once).1 gone looked rfl
          cases same

/-- What KLIK shows as failed, but for a timeout of the network, is not debited
in any later state. -/
theorem failed_never_debited
    (state : RecurringState) (reached : (recurringSystem env bankZone).Reachable state)
    (mandate : MandateState) (member : mandate ∈ state.mandates)
    (execution : RecurringExecution) (row : execution ∈ mandate.db.executions)
    (reason : ExecutionFailureReason) (failed : execution.failureReason = some reason)
    (decided : reason ≠ .networkTimeout)
    (actions : List RecurringAction) (later : RecurringState)
    (path : (recurringSystem env bankZone).Path state actions later) :
    execution.id ∉ later.debits.map Debit.executionId := by
  have agree := runsAgree_of_reachable reached
  have never : NeverDebited env state execution.id := by
    rcases ((agree.told mandate member).executions execution row).failure reason failed with
      timeout | rfl | ⟨rejection, known, _⟩
    · exact absurd timeout decided
    · have ⟨lookups, recorded⟩ :
          ∃ lookups, ((mandateSystem env).recording lookupsOf).Reachable (mandate, lookups) :=
        (agree.reached mandate member).exists_record
      have kept := lookupsKept_of_reachable env recorded
      exact .aliasGone mandate member (List.mem_map_of_mem row) lookups recorded
        ((kept.gone.executions execution row).failure _ failed rfl)
    · exact .rejected rejection known
  have laterNever : NeverDebited env later execution.id := by
    apply path.preserves (fun state => NeverDebited env state execution.id) _ reached never
    intro source action target _ held move
    exact neverDebited_step held move
  exact laterNever.not_mem (path.reachable reached)

/-- A run which the client cannot pay. -/
def runRejected : List RecurringAction :=
  [.record 0 (py "ACTIVE")] ++ firstClaimed ++
    [.exchange 0 0 (runStamp "AAAAAAAAAA"),
      .klik 0 (.finalize 0 (.atHour firstOfJune 8) false)]

/-- The client gets money, and the request comes again. -/
def paidInLater : List RecurringAction :=
  [.move (py "client") 100000, .deliver 0 0 (runStamp "BBBBBBBBBB")]

/-- The rejected run is not debited when it is asked for again. -/
theorem failed_never_debited_paidInLater :
    ∃ state later, TransitionSystem.runLabels (recurringStep documentedEnv (py "PL"))
        (mandateStart 10) runRejected = some state ∧
      state.statuses = [(.failed, some .insufficientFunds)] ∧
      TransitionSystem.runLabels (recurringStep documentedEnv (py "PL")) state paidInLater =
        some later ∧
      ∃ mandate ∈ state.mandates, ∃ execution ∈ mandate.db.executions,
        execution.id ∉ later.debits.map Debit.executionId := by
  have shown : (TransitionSystem.runLabels (recurringStep documentedEnv (py "PL"))
      (mandateStart 10) (runRejected ++ paidInLater)).map RecurringState.statuses =
      some [(.failed, some .insufficientFunds)] := by
    decide +kernel
  have before : (TransitionSystem.runLabels (recurringStep documentedEnv (py "PL"))
      (mandateStart 10) runRejected).map RecurringState.statuses =
      some [(.failed, some .insufficientFunds)] := by
    decide +kernel
  rcases Option.map_eq_some_iff.mp shown with ⟨later, run, _⟩
  rcases TransitionSystem.runLabels_append run with ⟨state, first, second⟩
  rw [first, Option.map_some, Option.some.injEq] at before
  have reached : (recurringSystem documentedEnv (py "PL")).Reachable state :=
    TransitionSystem.reachable_of_runLabels (mandateStart_isStart 10) first
  have one : (RecurringExecutionStatus.failed, some ExecutionFailureReason.insufficientFunds) ∈
      state.statuses := by
    rw [before]
    exact List.mem_singleton_self _
  rcases List.mem_flatMap.mp one with ⟨mandate, member, inMandate⟩
  rcases List.mem_map.mp inMandate with ⟨execution, row, same⟩
  refine ⟨state, later, first, before, second, mandate, member, execution, row, ?_⟩
  have decided : ExecutionFailureReason.insufficientFunds ≠ .networkTimeout := by
    intro equal
    cases equal
  exact failed_never_debited state reached mandate member execution row .insufficientFunds
    (congrArg Prod.snd same) decided paidInLater later
    (TransitionSystem.path_of_runLabels second)

end Klik.BankIO
