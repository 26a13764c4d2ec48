import Klik.Recurring.SlotsOnce

/-!
# An execution is finalised once

Every finalisation is recorded with its outcome.  The effects of a finaliser
on the mandate and on what its bank is told happen in the step which records
it.  An attempt checks the status of its execution before it calls the bank,
and the finaliser takes the lock afterwards without checking it again; the
records of an execution agree with its status as long as every finaliser
finds the execution still running.
-/

namespace Klik.Recurring

open Klik.Banks
open Klik.Common
open Klik.Lib

/-! ## Records of finalisations -/

/-- The records of one execution, in order. -/
def finalizationsOf (executionId : Uuid) (finalized : List Finalization) :
    List Finalization :=
  finalized.filter fun record => record.executionId = executionId

@[simp]
theorem finalizationsOf_append
    (executionId : Uuid) (before added : List Finalization) :
    finalizationsOf executionId (before ++ added) =
      finalizationsOf executionId before ++ finalizationsOf executionId added := by
  simp [finalizationsOf]

theorem finalizationsOf_self (record : Finalization) :
    finalizationsOf record.executionId [record] = [record] := by
  simp [finalizationsOf]

theorem finalizationsOf_other
    {executionId : Uuid} {record : Finalization}
    (other : record.executionId ≠ executionId) :
    finalizationsOf executionId [record] = [] := by
  simp [finalizationsOf, other]

/-- What an execution has to show for its status. -/
def RecurringExecution.outcome (execution : RecurringExecution) : List Finalization :=
  match execution.status with
  | .success => [⟨execution.id, false⟩]
  | .failed => [⟨execution.id, true⟩]
  | .scheduled | .executing | .skipped => []

theorem RecurringExecution.outcome_executing
    {execution : RecurringExecution} (executing : execution.status = .executing) :
    execution.outcome = [] := by
  simp only [RecurringExecution.outcome, executing]

/-- Executions are accounted for: the records of each are its outcome, and
nothing else is recorded. -/
structure Accounted
    (executions : List RecurringExecution) (finalized : List Finalization) : Prop where
  outcome : ∀ execution ∈ executions,
    finalizationsOf execution.id finalized = execution.outcome
  known : ∀ record ∈ finalized, record.executionId ∈
    executions.map RecurringExecution.id

namespace Accounted

variable {executions : List RecurringExecution} {finalized : List Finalization}

/-- Accounts depend on keys and outcomes only. -/
theorem of_map
    (accounted : Accounted executions finalized)
    {after : List RecurringExecution}
    (same : after.map (fun execution => (execution.id, execution.outcome)) =
      executions.map fun execution => (execution.id, execution.outcome)) :
    Accounted after finalized := by
  constructor
  · intro execution member
    have pair := List.mem_map_of_mem
      (f := fun execution : RecurringExecution => (execution.id, execution.outcome)) member
    rw [same] at pair
    rcases List.mem_map.mp pair with ⟨old, oldMember, equal⟩
    have sameId : old.id = execution.id := congrArg Prod.fst equal
    have sameOutcome : old.outcome = execution.outcome := congrArg Prod.snd equal
    rw [← sameId, ← sameOutcome]
    exact accounted.outcome old oldMember
  · have ids := congrArg (List.map Prod.fst) same
    simp only [List.map_map, Function.comp_def] at ids
    rw [show after.map RecurringExecution.id = _ from ids]
    exact accounted.known

/-- Skipping an execution which does not run yet leaves its account. -/
theorem skipScheduled (accounted : Accounted executions finalized) :
    Accounted (Recurring.skipScheduled executions) finalized := by
  apply accounted.of_map
  simp only [Recurring.skipScheduled, List.map_map]
  apply List.map_congr_left
  intro execution _
  simp only [Function.comp_apply]
  split
  · rename_i scheduled
    simp only [RecurringExecution.outcome, scheduled]
  · rfl

/-- A claimed execution has not been finalised. -/
theorem claimed
    (accounted : Accounted executions finalized) {execution : RecurringExecution}
    (fresh : ∀ old ∈ executions, old.id ≠ execution.id)
    (executing : execution.status = .executing) :
    Accounted (executions ++ [execution]) finalized := by
  constructor
  · intro row member
    rcases List.mem_append.mp member with earlier | new
    · exact accounted.outcome row earlier
    · rw [List.mem_singleton.mp new, RecurringExecution.outcome_executing executing]
      apply List.filter_eq_nil_iff.mpr
      intro record recordMember
      rcases List.mem_map.mp (accounted.known record recordMember) with ⟨old, oldMember, id⟩
      rw [← id]
      simpa using fresh old oldMember
  · intro record member
    rw [List.map_append]
    exact List.mem_append_left _ (accounted.known record member)

/-- Finalising a running execution records its outcome. -/
theorem finalize
    (accounted : Accounted executions finalized)
    {execution done : RecurringExecution} {record : Finalization}
    (member : execution ∈ executions)
    (executing : execution.status = .executing)
    (sameId : done.id = execution.id)
    (recordId : record.executionId = execution.id)
    (outcome : done.outcome = [record]) :
    Accounted (saveRow RecurringExecution.id done executions)
      (finalized ++ [record]) := by
  have before : finalizationsOf execution.id finalized = [] := by
    rw [accounted.outcome execution member,
      RecurringExecution.outcome_executing executing]
  constructor
  · intro row rowMember
    rw [finalizationsOf_append]
    rcases mem_saveRow rowMember with rfl | ⟨earlier, other⟩
    · rw [sameId, before, List.nil_append, outcome, ← recordId, finalizationsOf_self]
    · have elsewhere : record.executionId ≠ row.id := by
        rw [recordId, ← sameId]
        exact other.symm
      rw [finalizationsOf_other elsewhere, List.append_nil]
      exact accounted.outcome row earlier
  · intro some recordMember
    rw [keys_saveRow]
    rcases List.mem_append.mp recordMember with earlier | new
    · exact accounted.known some earlier
    · rw [List.mem_singleton.mp new, recordId]
      exact List.mem_map_of_mem member

end Accounted

/-! ## The effects of a finalisation -/

/-- A notification which only a failed run causes. -/
def RecurringTask.ofFailure : RecurringTask → Bool
  | .notifyAutoPaused _ _ => true
  | .notifyCancelled _ .mandateRevokedLocally => true
  | .notifyCancelled _ .accountClosed => true
  | _ => false

/-- The notifications of failed runs, in order. -/
def failureNotices (outbox : List RecurringTask) : List RecurringTask :=
  outbox.filter RecurringTask.ofFailure

@[simp]
theorem failureNotices_append (before after : List RecurringTask) :
    failureNotices (before ++ after) = failureNotices before ++ failureNotices after := by
  simp [failureNotices]

variable (env : RecurringEnv)

/-- What a step which records these finalisations does to the mandate and to
the notifications: without one, no run is counted and no failed run is
reported, and each one has its effects once. -/
inductive FinalizationEffects (state after : MandateState) : List Finalization → Prop where
  | none
      (counted : after.db.mandate.failedRunsCount ≤ state.db.mandate.failedRunsCount)
      (lastRunAt : after.db.mandate.lastRunAt = state.db.mandate.lastRunAt)
      (lastExecution : after.db.mandate.lastExecution = state.db.mandate.lastExecution)
      (notices : failureNotices after.outbox = failureNotices state.outbox) :
      FinalizationEffects state after []
  | success (now : DateTime) (executionId : Uuid)
      (mandate : after.db.mandate = (state.db.mandate.afterSuccess now executionId).1)
      (outbox : after.outbox =
        state.outbox ++ (state.db.mandate.afterSuccess now executionId).2) :
      FinalizationEffects state after [⟨executionId, false⟩]
  | failure (now : DateTime) (executionId : Uuid) (reason : ExecutionFailureReason)
      (mandate : after.db.mandate =
        (state.db.mandate.afterFailure env.threshold now reason).1)
      (outbox : after.outbox =
        state.outbox ++ (state.db.mandate.afterFailure env.threshold now reason).2) :
      FinalizationEffects state after [⟨executionId, true⟩]

/-- A step which changes neither the mandate nor the notifications. -/
theorem FinalizationEffects.of_same
    {state after : MandateState}
    (mandate : after.db.mandate = state.db.mandate)
    (notices : failureNotices after.outbox = failureNotices state.outbox) :
    FinalizationEffects env state after [] := by
  apply FinalizationEffects.none
  · rw [mandate]
  · rw [mandate]
  · rw [mandate]
  · exact notices

/-- A block which finalises nothing. -/
theorem FinalizationEffects.of_block
    {Result : Type} (state : MandateState) (outcome : Outcome Result)
    (counted : outcome.db.mandate.failedRunsCount ≤ state.db.mandate.failedRunsCount)
    (lastRunAt : outcome.db.mandate.lastRunAt = state.db.mandate.lastRunAt)
    (lastExecution : outcome.db.mandate.lastExecution = state.db.mandate.lastExecution)
    (notices : failureNotices outcome.queued = []) :
    FinalizationEffects env state (state.withBlock outcome) [] := by
  refine .none counted lastRunAt lastExecution ?_
  simp only [MandateState.withBlock, failureNotices_append, notices, List.append_nil]

theorem effects_claim
    (now : DateTime) (executionId : Uuid) (refused : Bool) (state : MandateState) :
    FinalizationEffects env state
      (state.withBlock (claimExecution env.schedule now executionId refused state.db))
      [] := by
  have claims := claims_claimExecution env.schedule now executionId refused state.db
  revert claims
  generalize claimExecution env.schedule now executionId refused state.db = outcome
  intro claims
  apply FinalizationEffects.of_block
  · cases claims <;> exact Nat.le_refl _
  · cases claims <;> rfl
  · cases claims <;> rfl
  · cases claims <;> rfl

theorem effects_finalizedBy
    (state : MandateState) (index : Nat) (attempt : Attempt) (finalizer : Finalizer)
    (now : DateTime) (refused : Bool) :
    ∃ added,
      (state.finalizedBy env index attempt finalizer now refused).finalized =
          state.finalized ++ added ∧
        FinalizationEffects env state
          (state.finalizedBy env index attempt finalizer now refused) added := by
  have finalizes :=
    finalizes_finalize env now attempt.executionId finalizer refused state.db
  refine ⟨_, rfl, ?_⟩
  simp only [MandateState.finalizedBy, MandateState.withBlock]
  revert finalizes
  generalize finalize env now attempt.executionId finalizer refused state.db = outcome
  intro finalizes
  cases finalizes with
  | raised finalizer error =>
      exact .of_same env rfl (congrArg failureNotices (List.append_nil _))
  | success rtpReference raw execution time found parsed storable carried =>
      have atId : execution.id = attempt.executionId := (mem_of_rowAt found).2
      rw [← atId]
      exact .success now execution.id rfl rfl
  | failure reason execution found carried =>
      exact .failure now execution.id reason rfl rfl

/-- The effects of every step. -/
theorem effects_of_step
    {state after : MandateState} {action : MandateAction}
    (move : (mandateSystem env).Step state action after) :
    ∃ added, after.finalized = state.finalized ++ added ∧
      FinalizationEffects env state after added := by
  have nothing : ∀ {later : MandateState},
      later.finalized = state.finalized → FinalizationEffects env state later [] →
        ∃ added, later.finalized = state.finalized ++ added ∧
          FinalizationEffects env state later added := by
    intro later same effects
    exact ⟨[], same.trans (List.append_nil _).symm, effects⟩
  simp only [mandateSystem, TransitionSystem.ofStep] at move
  cases action with
  | tick clock =>
      simp only [mandateStep] at move
      split at move
      · cases move
      · cases move
        exact nothing rfl (.of_same env rfl rfl)
  | dispatch now =>
      simp only [mandateStep] at move
      split at move
      · cases move
        simp only [MandateState.dispatched]
        split
        · refine nothing rfl ?_
          refine .of_same env rfl ?_
          rw [failureNotices_append]
          exact List.append_nil _
        · exact nothing rfl (.of_same env rfl rfl)
      · cases move
  | startRun now executionId refused =>
      simp only [mandateStep] at move
      split at move
      · cases move
        refine nothing rfl ?_
        cases effects_claim env now executionId refused state with
        | none counted lastRunAt lastExecution notices =>
            exact .none counted lastRunAt lastExecution notices
      · cases move
  | startRetry executionId retries =>
      cases move
      simp only [MandateState.retryStarted]
      split
      · exact nothing rfl (.of_same env rfl rfl)
      · split
        · exact nothing rfl (.of_same env rfl rfl)
        · exact nothing rfl (.of_same env rfl rfl)
  | lookUp index alias_ =>
      simp only [mandateStep] at move
      split at move
      · split at move
        · cases move
          cases alias_ with
          | none => exact nothing rfl (.of_same env rfl rfl)
          | some recipient =>
              refine nothing rfl ?_
              refine .of_same env ?_ rfl
              simp only [MandateState.lookedUp, RecurringDb.saveSnapshot]
              split
              · rfl
              · rfl
        · cases move
      · cases move
  | callBank index answer =>
      simp only [mandateStep] at move
      split at move
      · split at move
        · cases move
          simp only [MandateState.bankCalled]
          split
          · exact nothing rfl (.of_same env rfl rfl)
          · exact nothing rfl (.of_same env rfl rfl)
        · cases move
      · cases move
  | finalize index now refused =>
      simp only [mandateStep] at move
      split at move
      · rename_i attempt going
        split at move
        · rename_i finalizer stage
          split at move
          · cases move
            exact effects_finalizedBy env state index attempt finalizer now refused
          · cases move
        · cases move
      · cases move
  | pause request =>
      simp only [mandateStep] at move
      split at move
      · cases move
        refine nothing rfl ?_
        rcases pause_cases request state.db with ⟨error, raised⟩ | ⟨active, carried⟩
        · rw [raised]
          exact .of_block env state _ (Nat.le_refl _) rfl rfl rfl
        · rw [carried]
          exact .of_block env state _ (Nat.le_refl _) rfl rfl rfl
      · cases move
  | resume request =>
      simp only [mandateStep] at move
      split at move
      · cases move
        refine nothing rfl ?_
        rcases resume_cases env.schedule request state.db with
          ⟨error, raised⟩ | ⟨next, allowed, paused, computed, carried⟩
        · rw [raised]
          exact .of_block env state _ (Nat.le_refl _) rfl rfl rfl
        · rw [carried]
          exact .of_block env state _ (Nat.zero_le _) rfl rfl rfl
      · cases move
  | cancel request =>
      simp only [mandateStep] at move
      split at move
      · cases move
        refine nothing rfl ?_
        rcases cancel_cases request state.db with ⟨error, raised⟩ | ⟨going, carried⟩
        · rw [raised]
          exact .of_block env state _ (Nat.le_refl _) rfl rfl rfl
        · rw [carried]
          exact .of_block env state _ (Nat.le_refl _) rfl rfl rfl
      · cases move

/-! ## Runs whose finalisers find a running execution -/

/-- Whether a finaliser gets as far as its block. -/
def Finalizer.passes (now : DateTime) : Finalizer → Bool
  | .success rtpReference raw =>
      storableReference rtpReference &&
        match executedAt env.parseDatetime now raw with
        | .ok _ => true
        | .error _ => false
  | .failure _ => true

/-- A finaliser which is carried out finds its execution still running. -/
def finalizesExecuting (state : MandateState) : MandateAction → Bool
  | .finalize index now refused =>
      match state.attempts[index]? with
      | some ⟨executionId, _, _, .finalizing finalizer⟩ =>
          refused || !finalizer.passes env now ||
            (rowAt RecurringExecution.id state.db.executions executionId).all
              fun execution => execution.status = .executing
      | _ => true
  | _ => true

/-- The executions of a state are accounted for. -/
abbrev MandateState.IsAccounted (state : MandateState) : Prop :=
  Accounted state.db.executions state.finalized

theorem executing_of_guard
    {state : MandateState} {index : Nat} {now : DateTime} {attempt : Attempt}
    {finalizer : Finalizer} {execution : RecurringExecution}
    (guard : finalizesExecuting env state (.finalize index now false) = true)
    (going : state.attempts[index]? = some attempt)
    (stage : attempt.stage = .finalizing finalizer)
    (passes : finalizer.passes env now = true)
    (found : rowAt RecurringExecution.id state.db.executions attempt.executionId =
      some execution) :
    execution.status = .executing := by
  rcases attempt with ⟨executionId, retries, startedUnder, attemptStage⟩
  simp only at stage found
  subst stage
  simpa only [finalizesExecuting, going, found, passes, Bool.not_true, Bool.or_self,
    Bool.false_or, Option.all_some, decide_eq_true_eq] using guard

/-- Every guarded step keeps the accounts. -/
theorem accounted_step
    {state after : MandateState} {action : MandateAction}
    (ids : (state.db.executions.map RecurringExecution.id).Nodup)
    (accounted : state.IsAccounted)
    (guard : finalizesExecuting env state action = true)
    (move : (mandateSystem env).Step state action after) :
    after.IsAccounted := by
  have rows : ∀ {mandate executions ended finalized},
      Becomes state after mandate executions ended finalized →
        Accounted executions (state.finalized ++ finalized) → after.IsAccounted := by
    intro mandate executions ended finalized becomes held
    rw [← becomes.executions, ← becomes.finalized] at held
    exact held
  cases effect_of_step env move with
  | idle becomes =>
      apply rows becomes
      rw [List.append_nil]
      exact accounted
  | snapshot execution recipient member becomes =>
      apply rows becomes
      rw [List.append_nil]
      apply accounted.of_map
      exact map_saveRow _ ids member rfl rfl
  | skipped inactive becomes =>
      apply rows becomes
      rw [List.append_nil]
      exact accounted.skipScheduled
  | ended active isOver becomes =>
      apply rows becomes
      rw [List.append_nil]
      exact accounted
  | claimed executionId next active inTime fresh computed becomes =>
      apply rows becomes
      rw [List.append_nil]
      exact accounted.claimed fresh rfl
  | succeeded index now refused attempt rtpReference raw time execution going stage
      found parsed storable carried becomes =>
      subst carried
      have passes : (Finalizer.success rtpReference raw).passes env now = true := by
        simp only [Finalizer.passes, storable, parsed, Bool.and_self]
      have executing := executing_of_guard env guard going stage passes found
      have atId := (mem_of_rowAt found).2
      apply rows becomes
      rw [← atId]
      exact accounted.finalize (mem_of_rowAt found).1 executing rfl rfl rfl
  | failed index now refused attempt reason execution going stage found carried
      becomes =>
      subst carried
      have executing := executing_of_guard env guard going stage rfl found
      have atId := (mem_of_rowAt found).2
      apply rows becomes
      rw [← atId]
      exact accounted.finalize (mem_of_rowAt found).1 executing rfl rfl rfl
  | paused request active becomes =>
      apply rows becomes
      rw [List.append_nil]
      exact accounted
  | resumed request next allowed paused computed becomes =>
      apply rows becomes
      rw [List.append_nil]
      exact accounted
  | cancelled request going becomes =>
      apply rows becomes
      rw [List.append_nil]
      exact accounted

/-- The system whose finalisers find a running execution. -/
abbrev finalizingOnce : TransitionSystem MandateState MandateAction :=
  (mandateSystem env).guarded fun state action =>
    finalizesExecuting env state action = true

theorem accounted_of_reachable
    {state : MandateState} (reached : (finalizingOnce env).Reachable state) :
    state.IsAccounted := by
  apply reached.invariant
  · intro start isStart
    constructor
    · intro execution member
      rw [isStart.executions] at member
      cases member
    · intro record member
      rw [isStart.finalized] at member
      cases member
  · intro source action target sourceReached accounted move
    exact accounted_step env (nodup_executions env sourceReached.of_guarded) accounted
      move.1 move.2

/-- Runs are counted as failed by finalisations only. -/
theorem failedRunsCount_le
    {state : MandateState} (reached : (mandateSystem env).Reachable state) :
    state.db.mandate.failedRunsCount ≤ state.finalized.countP Finalization.failed := by
  apply reached.invariant
  · intro start isStart
    rw [isStart.mandate.failedRunsCount]
    exact Nat.zero_le _
  · intro source action target _ counted move
    rcases effects_of_step env move with ⟨added, history, effects⟩
    rw [history, List.countP_append]
    cases effects with
    | none fewer lastRunAt lastExecution notices =>
        exact Nat.le_trans fewer (Nat.le_trans counted (Nat.le_add_right _ _))
    | success now executionId mandate outbox =>
        have reset : target.db.mandate.failedRunsCount = 0 := by
          rw [mandate]
          simp only [RecurringTransfer.afterSuccess]
          split
          · rfl
          · rfl
        rw [reset]
        exact Nat.zero_le _
    | failure now executionId reason mandate outbox =>
        have raised : target.db.mandate.failedRunsCount =
            source.db.mandate.failedRunsCount + 1 := by
          rw [mandate]
          simp only [RecurringTransfer.afterFailure]
          split
          · rfl
          · split
            · rfl
            · split
              · rfl
              · rfl
        rw [raised]
        exact Nat.succ_le_succ counted

/-- Records stay, and so do executions. -/
theorem history_of_path
    {state after : MandateState} {actions : List MandateAction}
    (path : (finalizingOnce env).Path state actions after)
    (reached : (finalizingOnce env).Reachable state) :
    (∃ added, after.finalized = state.finalized ++ added) ∧
      ∀ execution ∈ state.db.executions,
        ∃ later ∈ after.db.executions, later.id = execution.id := by
  refine path.preserves (fun later =>
    (∃ added, later.finalized = state.finalized ++ added) ∧
      ∀ execution ∈ state.db.executions,
        ∃ row ∈ later.db.executions, row.id = execution.id) ?_ reached ?_
  · rintro source action target _ ⟨⟨added, history⟩, rows⟩ move
    constructor
    · rcases effects_of_step env move.2 with ⟨new, more, _⟩
      exact ⟨added ++ new, by rw [more, history, List.append_assoc]⟩
    · intro execution member
      rcases rows execution member with ⟨row, rowMember, id⟩
      have kept := (executions_of_step env move.2).mem_ids (List.mem_map_of_mem rowMember)
      rcases List.mem_map.mp kept with ⟨later, laterMember, laterId⟩
      exact ⟨later, laterMember, laterId.trans id⟩
  · constructor
    · exact ⟨[], (List.append_nil _).symm⟩
    · intro execution member
      exact ⟨execution, member, rfl⟩

/-- Whether the bank has carried the run out or refused it for good. -/
def RecurringExecution.isFinal (execution : RecurringExecution) : Bool :=
  execution.status = .success || execution.status = .failed

theorem RecurringExecution.outcome_of_isFinal
    {execution : RecurringExecution} (final : execution.isFinal = true) :
    ∃ failed, execution.outcome = [⟨execution.id, failed⟩] := by
  cases status : execution.status <;>
    simp [RecurringExecution.isFinal, RecurringExecution.outcome, status] at final ⊢

/-- Executions which have something to show for have shown the same. -/
theorem RecurringExecution.status_of_outcome
    {execution later : RecurringExecution} (final : execution.isFinal = true)
    (same : later.outcome = execution.outcome) :
    later.status = execution.status := by
  cases status : execution.status <;> cases laterStatus : later.status <;>
    simp [RecurringExecution.isFinal, RecurringExecution.outcome, status,
      laterStatus] at final same ⊢

theorem RecurringExecution.length_outcome_le (execution : RecurringExecution) :
    execution.outcome.length ≤ 1 := by
  simp only [RecurringExecution.outcome]
  split
  · exact Nat.le_refl 1
  · exact Nat.le_refl 1
  · exact Nat.zero_le 1
  · exact Nat.zero_le 1
  · exact Nat.zero_le 1

/-- Every execution has one finalisation if it is final and none before, each
finalisation has its effects once, and a final execution keeps its status and
gets no other finalisation. -/
structure FinalizedOnce
    (system : TransitionSystem MandateState MandateAction) (state : MandateState) :
    Prop where
  outcome : ∀ execution ∈ state.db.executions,
    finalizationsOf execution.id state.finalized = execution.outcome
  counted :
    state.db.mandate.failedRunsCount ≤ state.finalized.countP Finalization.failed
  effects : ∀ (action : MandateAction) (after : MandateState),
    system.Step state action after →
      ∃ added, after.finalized = state.finalized ++ added ∧
        FinalizationEffects env state after added
  final : ∀ execution ∈ state.db.executions, execution.isFinal = true →
    ∀ (actions : List MandateAction) (after : MandateState),
      system.Path state actions after →
        ∃ later, rowAt RecurringExecution.id after.db.executions execution.id =
            some later ∧
          later.status = execution.status ∧
          finalizationsOf execution.id after.finalized =
            finalizationsOf execution.id state.finalized

/-- While finalisers find running executions, each execution is finalised at
most once. -/
theorem execution_finalized_once
    (state : MandateState) (reached : (finalizingOnce env).Reachable state) :
    FinalizedOnce env (finalizingOnce env) state := by
  have accounted := accounted_of_reachable env reached
  constructor
  · exact accounted.outcome
  · exact failedRunsCount_le env reached.of_guarded
  · intro action after move
    exact effects_of_step env move.2
  · intro execution member final actions after path
    have afterReached := path.reachable reached
    rcases history_of_path env path reached with ⟨⟨added, history⟩, rows⟩
    rcases rows execution member with ⟨later, laterMember, id⟩
    -- the records so far fill the outcome, so nothing has been added to them
    rcases RecurringExecution.outcome_of_isFinal final with ⟨failed, shown⟩
    have records := accounted.outcome execution member
    have laterRecords :=
      (accounted_of_reachable env afterReached).outcome later laterMember
    rw [id, history, finalizationsOf_append, records, shown] at laterRecords
    have room := later.length_outcome_le
    rw [← laterRecords] at room
    have nothing : finalizationsOf execution.id added = [] := by
      simpa using room
    have same : later.outcome = execution.outcome := by
      rw [← laterRecords, nothing, List.append_nil, shown]
    refine ⟨later, ?_, RecurringExecution.status_of_outcome final same, ?_⟩
    · rw [← id]
      exact rowAt_of_mem (nodup_executions env afterReached.of_guarded) laterMember
    · rw [history, finalizationsOf_append, nothing, List.append_nil]

/-! ## Two retries of one execution -/

/-- The new mandate of a bank which can be called. -/
def callableMandate : MandateState :=
  { newMandate with
    db :=
      { newMandate.db with
        mandate :=
          { newMandate.db.mandate with
            payerBank := { polishBank 1 with webhookUrl := py "https://bank" } } } }

theorem isStart_callableMandate : callableMandate.IsStart documentedEnv where
  mandate := { isStart_newMandate.mandate with status := rfl }
  executions := rfl
  attempts := rfl
  outbox := rfl
  sent := rfl
  finalized := rfl

def knownRecipient : Recipient where
  phone := py "+48501234567"
  bankId := 2
  bankCode := py "Bank 2"
  accountIdentifier := py "account"

/-- An answer of the bank without further fields. -/
def bareAnswer (status : String) : BankAnswer :=
  .json (.dict [(py "status", .str (py status))])

/-- The first call of the first run fails, and its retry is delivered. -/
def retryDelivered : List MandateAction :=
  claimFirst 1 ++
    [.lookUp 0 (some knownRecipient), .callBank 0 .failed, .startRetry 1 1]

/-- The retry is carried out. -/
def retrySucceeds : List MandateAction :=
  retryDelivered ++
    [.callBank 0 (bareAnswer "EXECUTED"), .finalize 0 (.atHour firstOfJune 8) false]

/-- The execution has its one finalisation. -/
theorem execution_finalized_once_retrySucceeds :
    ∃ state, TransitionSystem.runLabels
        (TransitionSystem.guardStep (mandateStep documentedEnv)
          (finalizesExecuting documentedEnv)) callableMandate retrySucceeds =
          some state ∧
      state.finalized = [⟨1, false⟩] ∧
      FinalizedOnce documentedEnv (finalizingOnce documentedEnv) state := by
  have records : (TransitionSystem.runLabels
      (TransitionSystem.guardStep (mandateStep documentedEnv)
        (finalizesExecuting documentedEnv)) callableMandate retrySucceeds).map
        MandateState.finalized = some [⟨1, false⟩] := by
    decide +kernel
  rcases Option.map_eq_some_iff.mp records with ⟨state, run, finalized⟩
  refine ⟨state, run, finalized, ?_⟩
  apply execution_finalized_once documentedEnv state
  have path : (finalizingOnce documentedEnv).Path callableMandate retrySucceeds state :=
    TransitionSystem.guarded_path_of_runLabels run
  exact path.reachable (.init isStart_callableMandate)

/-- The retry is delivered twice; both deliveries pass the check of the status
and get different answers. -/
def retriedTwice : List MandateAction :=
  retryDelivered ++
    [.startRetry 1 1, .callBank 0 (bareAnswer "EXECUTED"),
      .callBank 1 (bareAnswer "REJECTED"),
      .finalize 0 (.atHour firstOfJune 8) false,
      .finalize 0 (.atHour firstOfJune 8) false]

/-- The execution is finalised as successful and then as failed. -/
theorem execution_finalized_twice :
    ¬ ∀ state, (mandateSystem documentedEnv).Reachable state →
        FinalizedOnce documentedEnv (mandateSystem documentedEnv) state := by
  intro once
  have twice : (TransitionSystem.runLabels (mandateStep documentedEnv) callableMandate
      retriedTwice).map (fun state => state.db.executions.all fun execution =>
        finalizationsOf execution.id state.finalized = execution.outcome) =
          some false := by
    decide +kernel
  rcases Option.map_eq_some_iff.mp twice with ⟨state, run, repeated⟩
  have reached : (mandateSystem documentedEnv).Reachable state :=
    TransitionSystem.reachable_of_runLabels isStart_callableMandate run
  have outcome := (once state reached).outcome
  exact absurd outcome (by simpa using repeated)

end Klik.Recurring
