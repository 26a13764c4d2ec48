import Klik.BankIO.RecurringSystem
import Klik.Lib.InFlight
import Klik.Recurring.AnswersShown

/-!
# Runs executed once

The bank debits each execution at most once, whatever KLIK sends again and
whatever replies are lost, and all its replies about one execution are equal.
So what an execution shows at KLIK is what the bank has done: a success was
debited once, and a rejection by the bank never was and never will be.
-/

namespace Klik.BankIO

open Klik.Common
open Klik.Lib
open Klik.Recurring

/-- The response says that the client was debited. -/
def ExecuteResponse.isExecuted : ExecuteResponse → Bool
  | .executed _ _ => true
  | .rejected _ => false

/-- The reason under which KLIK knows a rejection. -/
def RunRejection.reason : RunRejection → ExecutionFailureReason
  | .mandateRevokedLocally => .mandateRevokedLocally
  | .accountClosed => .accountClosed
  | .insufficientFunds => .insufficientFunds

/-! ## The handler remembers its replies -/

section Handler

variable (bankZone : PyStr) (stamp : RunStamp) (payload : RecurringExecuteWebhookIn)
  (bank : MandateBank)

theorem webhookRecurringExecute_reply :
    replyTo bank.executedRuns payload.executionId
        (some (newResponse bankZone stamp (classifyRun payload bank))) =
      some (webhookRecurringExecute bankZone stamp payload bank).1 := by
  cases known : bank.executedRuns.get? payload.executionId with
  | some response => simp only [replyTo, webhookRecurringExecute, known]
  | none => simp only [replyTo, webhookRecurringExecute, known]

theorem webhookRecurringExecute_memory :
    (webhookRecurringExecute bankZone stamp payload bank).2.executedRuns =
      remember bank.executedRuns payload.executionId
        (some (newResponse bankZone stamp (classifyRun payload bank))) := by
  cases known : bank.executedRuns.get? payload.executionId with
  | some response => simp only [remember, webhookRecurringExecute, known]
  | none => simp only [remember, webhookRecurringExecute, known]

/-- A debit comes with the first reply that a run is executed. -/
theorem runDebit_executionId :
    (runDebit payload bank).toList.map Debit.executionId =
      if carriesOut ExecuteResponse.isExecuted bank.executedRuns payload.executionId
          (some (newResponse bankZone stamp (classifyRun payload bank)))
      then [payload.executionId] else [] := by
  cases known : bank.executedRuns.get? payload.executionId with
  | some response => simp [runDebit, carriesOut, known]
  | none =>
      cases classified : classifyRun payload bank with
      | error reason =>
          simp [runDebit, carriesOut, known, classified, newResponse,
            ExecuteResponse.isExecuted]
      | ok debit =>
          simp [runDebit, carriesOut, known, classified, newResponse,
            ExecuteResponse.isExecuted]

/-- What the bank has replied it replies again. -/
theorem get?_executedRuns_webhook
    {executionId : Uuid} {response : ExecuteResponse}
    (known : bank.executedRuns.get? executionId = some response) :
    (webhookRecurringExecute bankZone stamp payload bank).2.executedRuns.get? executionId =
      some response := by
  rw [webhookRecurringExecute_memory]
  exact get?_remember_of_get? known _ _

/-- The reply is remembered. -/
theorem get?_executedRuns_reply :
    (webhookRecurringExecute bankZone stamp payload bank).2.executedRuns.get?
        payload.executionId =
      some (webhookRecurringExecute bankZone stamp payload bank).1 := by
  rw [webhookRecurringExecute_memory]
  exact get?_remember_of_replyTo (webhookRecurringExecute_reply bankZone stamp payload bank)

theorem get?_updateMandate
    (change : LocalMandate → LocalMandate) (mandateId : Uuid)
    (mandates : InsertionDict Uuid LocalMandate) (other : Uuid) :
    (updateMandate change mandateId mandates).get? other =
      (mandates.get? other).map fun entry => if mandateId = other then change entry else entry := by
  cases found : mandates.get? mandateId with
  | none =>
      simp only [updateMandate, found]
      by_cases same : mandateId = other
      · rw [← same, found, Option.map_none]
      · simp [same]
  | some entry =>
      simp only [updateMandate, found]
      by_cases same : mandateId = other
      · subst same
        simp [InsertionDict.get?_set, found]
      · simp [InsertionDict.get?_set, same]

/-- A client is found under its own key. -/
theorem clientOf_eq_some
    {clients : InsertionDict PyStr Int} {user : Option PyStr} {userId : PyStr} {balance : Int}
    (found : clientOf clients user = some (userId, balance)) :
    user = some userId ∧ clients.get? userId = some balance := by
  cases user with
  | none => cases found
  | some key =>
      simp only [clientOf] at found
      split at found
      · cases found
      · rcases Option.map_eq_some_iff.mp found with ⟨value, known, pair⟩
        cases pair
        exact ⟨rfl, known⟩

/-- A run which is executed debits a client with enough on the account, under
a mandate which is not revoked. -/
theorem classifyRun_eq_ok
    {payload : RecurringExecuteWebhookIn} {bank : MandateBank} {userId : PyStr} {amount : Int}
    (executed : classifyRun payload bank = .ok (userId, amount)) :
    (bank.localMandates.get? payload.recurringTransferId).any LocalMandate.revokedLocally =
        false ∧
      mandateUser (bank.localMandates.get? payload.recurringTransferId) payload.payerUserId =
        some userId ∧
      amount = payload.amount.getD 0 ∧
      ∃ balance, bank.clients.get? userId = some balance ∧ amount ≤ balance := by
  simp only [classifyRun] at executed
  split at executed
  · cases executed
  · rename_i unrevoked
    split at executed
    · cases executed
    · rename_i user balance found
      rcases clientOf_eq_some found with ⟨same, known⟩
      split at executed
      · cases executed
      · rename_i enough
        cases executed
        exact ⟨by simpa using unrevoked, same, rfl, balance, known, Int.not_lt.mp enough⟩

end Handler

/-! ## What the bank tells KLIK -/

/-- What KLIK may finalise an execution with. -/
def Told (executedRuns : InsertionDict Uuid ExecuteResponse) (executionId : Uuid) :
    Finalizer → Prop
  | .success rtpReference _ =>
      ∃ executedAt, executedRuns.get? executionId = some (.executed rtpReference executedAt)
  | .failure reason =>
      reason = .networkTimeout ∨ reason = .recipientAliasGone ∨
        ∃ rejection, executedRuns.get? executionId = some (.rejected rejection) ∧
          rejection.reason = reason

theorem Told.mono
    {before after : InsertionDict Uuid ExecuteResponse} {executionId : Uuid}
    {finalizer : Finalizer} (told : Told before executionId finalizer)
    (kept : ∀ response, before.get? executionId = some response →
      after.get? executionId = some response) :
    Told after executionId finalizer := by
  cases finalizer with
  | success rtpReference raw =>
      rcases told with ⟨executedAt, known⟩
      exact ⟨executedAt, kept _ known⟩
  | failure reason =>
      rcases told with timeout | gone | ⟨rejection, known, same⟩
      · exact .inl timeout
      · exact .inr (.inl gone)
      · exact .inr (.inr ⟨rejection, kept _ known, same⟩)

/-- A reference is read as it was sent, also an empty one. -/
theorem text_orElse_nil (runtime : PyRuntime) (text : PyStr) :
    ((PyValue.str text).orElse (.str [])).text runtime = text := by
  cases text with
  | nil => rfl
  | cons point rest => rfl

/-- KLIK reads off an answer what the bank has replied. -/
theorem told_of_afterCall
    {runtime : PyRuntime} {retries : Nat} {response : ExecuteResponse} {finalizer : Finalizer}
    {executedRuns : InsertionDict Uuid ExecuteResponse} {executionId : Uuid}
    (known : executedRuns.get? executionId = some response)
    (goesOn : afterCall runtime retries (.json response.body) = .finalize finalizer) :
    Told executedRuns executionId finalizer := by
  cases response with
  | executed rtpReference executedAt =>
      have read : afterCall runtime retries
          (.json (ExecuteResponse.executed rtpReference executedAt).body) =
          .finalize (.success (((PyValue.str rtpReference).orElse (.str [])).text runtime)
            (.str executedAt)) := rfl
      rw [read, text_orElse_nil] at goesOn
      cases goesOn
      exact ⟨executedAt, known⟩
  | rejected rejection =>
      have read : afterCall runtime retries (.json (ExecuteResponse.rejected rejection).body) =
          .finalize (.failure rejection.reason) := by
        cases rejection with
        | mandateRevokedLocally => rfl
        | accountClosed => rfl
        | insufficientFunds => rfl
      rw [read] at goesOn
      cases goesOn
      exact .inr (.inr ⟨rejection, known, rfl⟩)

/-! ## The invariant -/

/-- The keys of the executions of a mandate. -/
def executionIds (mandate : MandateState) : List Uuid :=
  mandate.db.executions.map RecurringExecution.id

/-- A debit is one of a run of the mandate. -/
structure Debit.IsOf (debit : Debit) (mandate : MandateState) : Prop where
  executionId : debit.executionId ∈ executionIds mandate
  mandateId : debit.mandateId = mandate.db.mandate.id
  userId : debit.userId = mandate.db.mandate.payerUserId
  amount : debit.amount = cents mandate.db.mandate.amount

variable (env : RecurringEnv) (bankZone : PyStr)

/-- The bank and its mandates at KLIK agree about the runs. -/
structure RunsAgree (state : RecurringState) : Prop where
  reached : ∀ mandate ∈ state.mandates, (mandateSystem env).Reachable mandate
  ids : (state.mandates.map fun mandate => mandate.db.mandate.id).Nodup
  executions : (state.mandates.flatMap executionIds).Nodup
  once : CarriedOnce ExecuteResponse.isExecuted state.bank.executedRuns
    (state.debits.map Debit.executionId)
  replies : RepliesKept state.bank.executedRuns state.replies
  users : ∀ mandateId entry, state.bank.localMandates.get? mandateId = some entry →
    ∃ mandate ∈ state.mandates, mandate.db.mandate.id = mandateId ∧
      mandate.db.mandate.payerUserId = entry.userId
  debits : ∀ debit ∈ state.debits, ∃ mandate ∈ state.mandates, debit.IsOf mandate
  told : ∀ mandate ∈ state.mandates, ShowsTold (Told state.bank.executedRuns) mandate

variable {env bankZone} {state : RecurringState}

theorem runsAgree_of_isStart (start : state.IsStart env) : RunsAgree env state where
  reached mandate member := .init (start.mandates mandate member)
  ids := start.ids
  executions := by
    rw [List.flatMap_eq_nil_iff.mpr]
    · exact List.nodup_nil
    · intro mandate member
      rw [executionIds, (start.mandates mandate member).executions, List.map_nil]
  once := by
    rw [start.executedRuns, start.debits]
    exact .nil
  replies := by
    rw [start.replies]
    exact .nil
  users := by
    rw [start.localMandates]
    intro mandateId entry found
    cases found
  debits := by
    rw [start.debits]
    intro debit member
    cases member
  told mandate member := .of_isStart env (start.mandates mandate member)

/-! ## Steps of KLIK -/

section Mandate

variable {mandate next : MandateState} {index : Nat} {action : MandateAction}

theorem charge_eq_of_step (step : (mandateSystem env).Step mandate action next) :
    next.db.mandate.id = mandate.db.mandate.id ∧
      next.db.mandate.payerUserId = mandate.db.mandate.payerUserId ∧
      next.db.mandate.amount = mandate.db.mandate.amount := by
  have same := charge_of_step env step
  simp only [RecurringTransfer.charge, Prod.mk.injEq] at same
  exact same

/-- A debit of a mandate stays one. -/
theorem Debit.IsOf.step
    {debit : Debit} (isOf : debit.IsOf mandate)
    (step : (mandateSystem env).Step mandate action next) : debit.IsOf next := by
  rcases charge_eq_of_step step with ⟨id, user, amount⟩
  constructor
  · exact (executions_of_step env step).mem_ids isOf.executionId
  · rw [isOf.mandateId, id]
  · rw [isOf.userId, user]
  · rw [isOf.amount, amount]

/-- The mandate in the place of another one. -/
theorem mem_putMandate
    (going : state.mandates[index]? = some mandate) :
    next ∈ (state.putMandate index next).mandates :=
  mem_moveOn_self going next

/-- The other mandates stay. -/
theorem mandates_putMandate
    (going : state.mandates[index]? = some mandate) {other : MandateState}
    (member : other ∈ state.mandates) (different : other ≠ mandate) :
    other ∈ (state.putMandate index next).mandates := by
  have stays : other ∈ state.mandates.eraseIdx index :=
    mem_eraseIdx_of_ne going member different
  show other ∈ moveOn index (some next) state.mandates
  exact (mem_moveOn going).mpr (.inr stays)

theorem RunsAgree.put
    (agree : RunsAgree env state) (going : state.mandates[index]? = some mandate)
    (step : (mandateSystem env).Step mandate action next)
    (fresh : ∀ now executionId refused, action = .startRun now executionId refused →
      executionId ∉ state.mandates.flatMap executionIds)
    (told : ShowsTold (Told state.bank.executedRuns) next) :
    RunsAgree env (state.putMandate index next) := by
  have member : mandate ∈ state.mandates := List.mem_of_getElem? going
  rcases charge_eq_of_step step with ⟨id, user, _⟩
  have places {other : MandateState} :
      other ∈ (state.putMandate index next).mandates → other = next ∨ other ∈ state.mandates :=
    fun placed => (List.mem_or_eq_of_mem_set placed).symm
  constructor
  · intro other placed
    rcases places placed with rfl | old
    · exact .step (agree.reached mandate member) step
    · exact agree.reached other old
  · have before := (perm_eraseIdx going).map fun mandate => mandate.db.mandate.id
    have after := (perm_set going next).map fun mandate => mandate.db.mandate.id
    rw [List.map_cons] at before after
    rw [RecurringState.putMandate, after.nodup_iff, id, before.nodup_iff]
    exact agree.ids
  · have before := flatMap_perm_eraseIdx going executionIds
    have after := flatMap_perm_moveOn going (some next) executionIds
    rw [Option.toList_some, List.flatMap_singleton] at after
    rw [RecurringState.putMandate, show state.mandates.set index next =
      moveOn index (some next) state.mandates from rfl, after.nodup_iff]
    rcases keys_of_step env step with same | ⟨now, executionId, refused, claims, added⟩
    · rw [executionIds, same, ← executionIds, ← before.nodup_iff]
      exact agree.executions
    · have unused := fresh now executionId refused claims
      rw [before.mem_iff] at unused
      rw [executionIds, added, ← executionIds, List.append_assoc, List.singleton_append,
        List.perm_middle.nodup_iff, List.nodup_cons, ← before.nodup_iff]
      exact ⟨unused, agree.executions⟩
  · exact agree.once
  · exact agree.replies
  · intro mandateId entry found
    rcases agree.users mandateId entry found with ⟨owner, ownerMember, its⟩
    by_cases same : owner = mandate
    · subst same
      exact ⟨next, mem_putMandate going, id.trans its.1, user.trans its.2⟩
    · exact ⟨owner, mandates_putMandate going ownerMember same, its⟩
  · intro debit debitMember
    rcases agree.debits debit debitMember with ⟨owner, ownerMember, isOf⟩
    by_cases same : owner = mandate
    · subst same
      exact ⟨next, mem_putMandate going, isOf.step step⟩
    · exact ⟨owner, mandates_putMandate going ownerMember same, isOf⟩
  · intro other placed
    rcases places placed with rfl | old
    · exact told
    · exact agree.told other old

end Mandate

/-! ## Steps of the bank -/

section Bank

variable {mandate : MandateState} {request : ExecuteRequest}
  {payload : RecurringExecuteWebhookIn}

/-- A request about a run of the mandate. -/
structure RequestOf (payload : RecurringExecuteWebhookIn) (mandate : MandateState) : Prop where
  executionId : payload.executionId ∈ executionIds mandate
  mandateId : payload.recurringTransferId = mandate.db.mandate.id
  payerUserId : payload.payerUserId = some mandate.db.mandate.payerUserId
  amount : payload.amount = some (cents mandate.db.mandate.amount)

theorem requestOf_received
    (received : receivedRequest request = some payload)
    (executionId : request.executionId ∈ executionIds mandate)
    (charge : request.charge = mandate.db.mandate.charge) : RequestOf payload mandate := by
  simp only [ExecuteRequest.charge, RecurringTransfer.charge, Prod.mk.injEq] at charge
  rcases charge with ⟨id, user, amount⟩
  rcases Option.map_eq_some_iff.mp received with ⟨recipient, _, rfl⟩
  constructor
  · exact executionId
  · exact id
  · exact congrArg some user
  · exact congrArg (fun sum => some (cents sum)) amount

/-- What was sent is about a run of the mandate. -/
theorem requestOf_sent
    (reached : (mandateSystem env).Reachable mandate)
    {call : RecurringTransferStatus × ExecuteRequest} (member : call ∈ mandate.sent)
    (received : receivedRequest call.2 = some payload) : RequestOf payload mandate := by
  have grounded := (grounded_of_reachable env reached).sent call member
  exact requestOf_received received grounded.1 grounded.2

/-- So is what an attempt is about to send, and it is about the run of the
attempt. -/
theorem requestOf_pending
    {place : Nat} (pending : pendingRequest place mandate = some request)
    (received : receivedRequest request = some payload) :
    RequestOf payload mandate ∧
      ∃ attempt, mandate.attempts[place]? = some attempt ∧
        attempt.executionId = payload.executionId := by
  simp only [pendingRequest] at pending
  split at pending
  · cases pending
  · rename_i attempt going
    split at pending
    · split at pending
      · cases pending
      · rcases Option.map_eq_some_iff.mp pending with ⟨execution, found, rfl⟩
        have row := mem_of_rowAt found
        refine ⟨requestOf_received received (List.mem_map_of_mem row.1) rfl,
          attempt, going, ?_⟩
        rcases Option.map_eq_some_iff.mp received with ⟨recipient, _, rfl⟩
        exact row.2.symm
    · cases pending

/-- A debit is one of the run which was asked for. -/
theorem isOf_runDebit
    (agree : RunsAgree env state) (member : mandate ∈ state.mandates)
    (about : RequestOf payload mandate) {debit : Debit}
    (debited : runDebit payload state.bank = some debit) : debit.IsOf mandate := by
  simp only [runDebit] at debited
  split at debited
  · cases debited
  · split at debited
    · cases debited
    · rename_i userId amount executed
      cases debited
      rcases classifyRun_eq_ok executed with ⟨_, user, sum, _⟩
      constructor
      · exact about.executionId
      · exact about.mandateId
      · rw [about.payerUserId] at user
        simp only [mandateUser] at user
        split at user
        · exact (Option.some.inj user).symm
        · rename_i entry found
          split at user
          · rcases agree.users _ entry found with ⟨owner, ownerMember, id, same⟩
            -- mandates have different keys, so that the entry is the one of this mandate
            have unique : owner = mandate := List.inj_on_of_nodup_map agree.ids ownerMember member
              (id.trans about.mandateId)
            rw [← unique, same]
            exact (Option.some.inj user).symm
          · exact (Option.some.inj user).symm
      · rw [sum, about.amount, Option.getD_some]

/-- Entries of the bank change, and keep their users. -/
theorem users_updateMandate
    {mandates : List MandateState} {localMandates : InsertionDict Uuid LocalMandate}
    (users : ∀ mandateId entry, localMandates.get? mandateId = some entry →
      ∃ mandate ∈ mandates, mandate.db.mandate.id = mandateId ∧
        mandate.db.mandate.payerUserId = entry.userId)
    {change : LocalMandate → LocalMandate}
    (user : ∀ entry, (change entry).userId = entry.userId) (changed : Uuid) :
    ∀ mandateId entry, (updateMandate change changed localMandates).get? mandateId = some entry →
      ∃ mandate ∈ mandates, mandate.db.mandate.id = mandateId ∧
        mandate.db.mandate.payerUserId = entry.userId := by
  intro mandateId entry found
  rw [get?_updateMandate] at found
  rcases Option.map_eq_some_iff.mp found with ⟨old, before, rfl⟩
  rcases users mandateId old before with ⟨mandate, member, id, same⟩
  refine ⟨mandate, member, id, ?_⟩
  split
  · rw [user, same]
  · exact same

theorem RunsAgree.received
    (agree : RunsAgree env state) (member : mandate ∈ state.mandates)
    (about : RequestOf payload mandate) (stamp : RunStamp) :
    RunsAgree env (state.received bankZone stamp payload) := by
  have memory := webhookRecurringExecute_memory bankZone stamp payload state.bank
  constructor
  · exact agree.reached
  · exact agree.ids
  · exact agree.executions
  · rw [RecurringState.received, memory, List.map_append,
      runDebit_executionId bankZone stamp]
    exact agree.once.remember _ _
  · have logged := agree.replies.remember payload.executionId
      (some (newResponse bankZone stamp (classifyRun payload state.bank)))
    rw [webhookRecurringExecute_reply, ← memory] at logged
    exact logged
  · simp only [RecurringState.received, webhookRecurringExecute]
    split
    · exact agree.users
    · refine users_updateMandate agree.users ?_ _
      intro entry
      rfl
  · intro debit debitMember
    rcases List.mem_append.mp debitMember with old | new
    · exact agree.debits debit old
    · exact ⟨mandate, member, isOf_runDebit agree member about (Option.mem_toList.mp new)⟩
  · intro other otherMember
    apply (agree.told other otherMember).mono
    intro executionId finalizer told
    apply told.mono
    intro response known
    exact get?_executedRuns_webhook bankZone stamp payload state.bank known

theorem RunsAgree.withLocal
    (agree : RunsAgree env state) {localMandates : InsertionDict Uuid LocalMandate}
    (users : ∀ mandateId entry, localMandates.get? mandateId = some entry →
      ∃ mandate ∈ state.mandates, mandate.db.mandate.id = mandateId ∧
        mandate.db.mandate.payerUserId = entry.userId) :
    RunsAgree env (state.withLocal localMandates) :=
  { agree with users := users }

end Bank

/-! ## All steps -/

/-- KLIK claims a run under a key which no mandate uses. -/
theorem fresh_of_allows
    {now : DateTime} {executionId : Uuid} {refused : Bool}
    (allowed : state.allows (.startRun now executionId refused) = true) :
    executionId ∉ state.mandates.flatMap executionIds := by
  intro held
  rcases List.mem_flatMap.mp held with ⟨owner, ownerMember, key⟩
  rcases List.mem_map.mp key with ⟨execution, executionMember, rfl⟩
  simp only [RecurringState.allows, List.all_eq_true, decide_eq_true_eq] at allowed
  exact allowed owner ownerMember execution executionMember rfl

theorem runsAgree_step
    {after : RecurringState} {action : RecurringAction} (agree : RunsAgree env state)
    (move : (recurringSystem env bankZone).Step state action after) : RunsAgree env after := by
  cases recurringMove_of_step env bankZone move with
  | same => exact agree
  | @klik index action mandate next going allowed step =>
      apply agree.put going step
      · rintro now executionId refused rfl
        exact fresh_of_allows allowed
      · refine shows_step env ?_ (agree.told mandate (List.mem_of_getElem? going)) step
        intro place before finalizer _ comes
        cases comes with
        | aliasGone looking => exact .inr (.inl rfl)
        | uncallable answer recipient calling => exact .inl rfl
        | answered answer recipient finalizer calling goesOn =>
            cases answer with
            | json body => cases allowed
            | failed =>
                simp only [afterCall, readAnswer] at goesOn
                split at goesOn
                · cases goesOn
                  exact .inl rfl
                · cases goesOn
  | @exchanged index attempt stamp mandate next request payload going pending received step =>
      have member := List.mem_of_getElem? going
      rcases requestOf_pending pending received with ⟨about, attempted, calling, same⟩
      have handled : RunsAgree env (state.received bankZone stamp payload) :=
        agree.received member about stamp
      apply handled.put going step
      · rintro now executionId refused label
        cases label
      · refine shows_step env ?_ (handled.told mandate member) step
        intro place before finalizer found comes
        cases comes with
        | uncallable answer recipient calling => exact .inl rfl
        | answered answer recipient finalizer _ goesOn =>
            rw [calling] at found
            cases found
            rw [same]
            exact told_of_afterCall
              (get?_executedRuns_reply bankZone stamp payload state.bank) goesOn
  | @delivered index sent stamp mandate call payload going member received =>
      have mandateMember := List.mem_of_getElem? going
      exact agree.received mandateMember
        (requestOf_sent (agree.reached mandate mandateMember) member received) stamp
  | @recorded index status mandate going =>
      apply agree.withLocal
      intro mandateId entry found
      rw [InsertionDict.get?_set] at found
      split at found
      · rename_i same
        cases found
        exact ⟨mandate, List.mem_of_getElem? going, same, rfl⟩
      · exact agree.users mandateId entry found
  | updated mandateId change user revoked =>
      exact agree.withLocal (users_updateMandate agree.users user mandateId)
  | moved => exact { agree with }

theorem runsAgree_of_reachable (reached : (recurringSystem env bankZone).Reachable state) :
    RunsAgree env state := by
  apply reached.invariant
  · intro start isStart
    exact runsAgree_of_isStart isStart
  · intro source action target _ agree move
    exact runsAgree_step agree move

/-! ## Debits are the executed runs -/

/-- The debit of a run. -/
def debitOf (mandate : MandateState) (execution : RecurringExecution) : Debit where
  executionId := execution.id
  mandateId := mandate.db.mandate.id
  userId := mandate.db.mandate.payerUserId
  amount := cents mandate.db.mandate.amount

/-- The bank has executed the run. -/
def MandateBank.hasExecuted (bank : MandateBank) (execution : RecurringExecution) : Bool :=
  (bank.executedRuns.get? execution.id).any ExecuteResponse.isExecuted

/-- The debits which the runs of KLIK stand for. -/
def RecurringState.executedDebits (state : RecurringState) : List Debit :=
  state.mandates.flatMap fun mandate =>
    (mandate.db.executions.filter state.bank.hasExecuted).map (debitOf mandate)

/-- Each execution is debited at most once, all replies about it are equal,
and the debits are those of the runs which the bank has executed. -/
structure RecurringState.RunsExecutedOnce (state : RecurringState) : Prop where
  once : (state.debits.map Debit.executionId).Nodup
  replies : ∀ first ∈ state.replies, ∀ second ∈ state.replies,
    first.1 = second.1 → first.2 = second.2
  debits : state.debits.Perm state.executedDebits

theorem mem_executedDebits
    {debit : Debit} :
    debit ∈ state.executedDebits ↔ ∃ mandate ∈ state.mandates,
      ∃ execution ∈ mandate.db.executions, state.bank.hasExecuted execution = true ∧
        debit = debitOf mandate execution := by
  simp only [RecurringState.executedDebits, List.mem_flatMap, List.mem_map, List.mem_filter]
  constructor
  · rintro ⟨mandate, member, execution, ⟨row, executed⟩, rfl⟩
    exact ⟨mandate, member, execution, row, executed, rfl⟩
  · rintro ⟨mandate, member, execution, row, executed, rfl⟩
    exact ⟨mandate, member, execution, ⟨row, executed⟩, rfl⟩

theorem RunsAgree.executedDebits_nodup (agree : RunsAgree env state) :
    state.executedDebits.Nodup := by
  apply List.Nodup.of_map Debit.executionId
  refine List.Nodup.sublist ?_ agree.executions
  simp only [RecurringState.executedDebits, List.map_flatMap, List.map_map]
  apply List.Sublist.flatMap_right
  intro mandate _
  exact List.filter_sublist.map _

/-- A run has one mandate. -/
theorem RunsAgree.mandate_unique
    (agree : RunsAgree env state) {first second : MandateState}
    (firstMember : first ∈ state.mandates) (secondMember : second ∈ state.mandates)
    {executionId : Uuid} (firstKey : executionId ∈ executionIds first)
    (secondKey : executionId ∈ executionIds second) : first = second := by
  rcases List.mem_iff_getElem?.mp firstMember with ⟨index, going⟩
  by_contra different
  have others := mem_eraseIdx_of_ne going secondMember (Ne.symm different)
  exact not_held_by_other going agree.executions others firstKey secondKey

theorem RunsAgree.mem_debits_iff
    (agree : RunsAgree env state) {debit : Debit} :
    debit ∈ state.debits ↔ debit ∈ state.executedDebits := by
  rw [mem_executedDebits]
  constructor
  · intro member
    rcases agree.debits debit member with ⟨mandate, mandateMember, isOf⟩
    rcases List.mem_map.mp isOf.executionId with ⟨execution, row, key⟩
    refine ⟨mandate, mandateMember, execution, row, ?_, ?_⟩
    · rw [MandateBank.hasExecuted, key]
      exact (agree.once.mem_iff _).mp (List.mem_map_of_mem member)
    · cases debit
      simp only [debitOf, Debit.mk.injEq]
      exact ⟨key.symm, isOf.mandateId, isOf.userId, isOf.amount⟩
  · rintro ⟨mandate, mandateMember, execution, row, executed, rfl⟩
    rcases List.mem_map.mp ((agree.once.mem_iff execution.id).mpr executed) with
      ⟨debit, member, key⟩
    rcases agree.debits debit member with ⟨owner, ownerMember, isOf⟩
    have unique : owner = mandate := agree.mandate_unique ownerMember mandateMember
      (key ▸ isOf.executionId) (List.mem_map_of_mem row)
    subst unique
    have same : debit = debitOf owner execution := by
      cases debit
      simp only [debitOf, Debit.mk.injEq]
      exact ⟨key, isOf.mandateId, isOf.userId, isOf.amount⟩
    rw [← same]
    exact member

theorem RunsAgree.debits_perm (agree : RunsAgree env state) :
    state.debits.Perm state.executedDebits := by
  rw [List.perm_ext_iff_of_nodup (agree.once.nodup.of_map _) agree.executedDebits_nodup]
  intro debit
  exact agree.mem_debits_iff

/-- In every run, whatever is sent again and whatever is lost. -/
theorem runs_executed_once
    (state : RecurringState) (reached : (recurringSystem env bankZone).Reachable state) :
    state.RunsExecutedOnce := by
  have agree := runsAgree_of_reachable reached
  constructor
  · exact agree.once.nodup
  · rintro ⟨executionId, first⟩ one ⟨_, second⟩ other rfl
    exact agree.replies.same one other
  · exact agree.debits_perm

/-! ## A lost reply -/

/-- A client with a daily mandate over fifty. -/
def mandateStart (balance : Int) : RecurringState where
  opening := [(py "client", balance)]
  mandates := [callableMandate]
  bank :=
    { clients := [(py "client", balance)]
      localMandates := []
      executedRuns := [] }
  replies := []
  debits := []
  moves := []

theorem mandateStart_isStart (balance : Int) : (mandateStart balance).IsStart documentedEnv where
  mandates := by
    intro mandate member
    rw [List.mem_singleton.mp member]
    exact isStart_callableMandate
  ids := List.nodup_singleton _
  clients := rfl
  localMandates := rfl
  executedRuns := rfl
  replies := rfl
  debits := rfl
  moves := rfl

def runStamp (hex : String) : RunStamp := ⟨py hex, py "2026-06-01T08:00:00+00:00"⟩

/-- The first run is claimed and its recipient is found. -/
def firstClaimed : List RecurringAction :=
  (claimFirst 1 ++ [MandateAction.lookUp 0 (some knownRecipient)]).map (RecurringAction.klik 0)

/-- The bank executes the first run, and the reply is lost; it is asked again by
a retry, and by a late copy of the first request. -/
def replyLost : List RecurringAction :=
  [.record 0 (py "ACTIVE")] ++ firstClaimed ++
    [.klik 0 (.callBank 0 .failed), .deliver 0 0 (runStamp "AAAAAAAAAA"),
      .klik 0 (.startRetry 1 1), .exchange 0 0 (runStamp "BBBBBBBBBB"),
      .klik 0 (.finalize 0 (.atHour firstOfJune 8) false),
      .deliver 0 0 (runStamp "CCCCCCCCCC")]

/-- What a state shows of the executions. -/
def RecurringState.statuses (state : RecurringState) :
    List (RecurringExecutionStatus × Option ExecutionFailureReason) :=
  state.mandates.flatMap fun mandate =>
    mandate.db.executions.map fun execution => (execution.status, execution.failureReason)

/-- The client is debited once, and the bank replies three times. -/
theorem runs_executed_once_replyLost :
    ∃ state, TransitionSystem.runLabels (recurringStep documentedEnv (py "PL"))
        (mandateStart 500000) replyLost = some state ∧
      state.replies.length = 3 ∧ state.debits = [⟨1, 1, py "client", 5000⟩] ∧
      state.RunsExecutedOnce := by
  have shown : (TransitionSystem.runLabels (recurringStep documentedEnv (py "PL"))
      (mandateStart 500000) replyLost).map
        (fun state => (state.replies.length, state.debits)) =
      some (3, [⟨1, 1, py "client", 5000⟩]) := by
    decide +kernel
  rcases Option.map_eq_some_iff.mp shown with ⟨state, run, same⟩
  simp only [Prod.mk.injEq] at same
  refine ⟨state, run, same.1, same.2, ?_⟩
  have reached : (recurringSystem documentedEnv (py "PL")).Reachable state :=
    TransitionSystem.reachable_of_runLabels (mandateStart_isStart 500000) run
  exact runs_executed_once state reached

end Klik.BankIO
