import Klik.Recurring.RevokedMandates

/-!
# Steps of a run

What one step does to the attempts and to the executions of a mandate, by the
action which does it, and what the requests to the bank are about.
-/

namespace Klik.Recurring

open Klik.Banks
open Klik.Common
open Klik.Lib

variable (env : RecurringEnv)

/-! ## Attempts -/

/-- The next stage of an attempt. -/
inductive NextStage (index : Nat) (before : Attempt) : MandateAction → AttemptStage → Prop where
  | aliasGone (looking : before.stage = .lookingUp) :
      NextStage index before (.lookUp index none) (.finalizing (.failure .recipientAliasGone))
  | aliasFound (recipient : Recipient) (looking : before.stage = .lookingUp) :
      NextStage index before (.lookUp index (some recipient)) (.calling (some recipient))
  | uncallable (answer : BankAnswer) (recipient : Option Recipient)
      (calling : before.stage = .calling recipient) :
      NextStage index before (.callBank index answer)
        (.finalizing (.failure .networkTimeout))
  | answered (answer : BankAnswer) (recipient : Option Recipient) (finalizer : Finalizer)
      (calling : before.stage = .calling recipient)
      (goesOn : afterCall env.runtime before.retries answer = .finalize finalizer) :
      NextStage index before (.callBank index answer) (.finalizing finalizer)

/-- How an attempt begins: with a claim, or with a retry of an execution. -/
inductive Begins (state after : MandateState) (attempt : Attempt) : MandateAction → Prop where
  | claimed (now : DateTime) (refused : Bool)
      (fresh : ∀ old ∈ state.db.executions, old.id ≠ attempt.executionId)
      (keys : after.db.executions.map RecurringExecution.id =
        state.db.executions.map RecurringExecution.id ++ [attempt.executionId])
      (looking : attempt.stage = .lookingUp) :
      Begins state after attempt (.startRun now attempt.executionId refused)
  | retried (retries : Nat) (execution : RecurringExecution)
      (found : rowAt RecurringExecution.id state.db.executions attempt.executionId =
        some execution)
      (calling : attempt.stage = .calling execution.lookupResponseSnapshot) :
      Begins state after attempt (.startRetry attempt.executionId retries)

/-- What a step does to the attempts. -/
inductive AttemptsChange (state after : MandateState) (action : MandateAction) : Prop where
  | same (elsewhere : ∀ index alias_, action ≠ .lookUp index alias_)
      (attempts : after.attempts = state.attempts)
  | begun (attempt : Attempt) (begins : Begins state after attempt action)
      (attempts : after.attempts = state.attempts ++ [attempt])
  | advanced (index : Nat) (before : Attempt) (stage : AttemptStage)
      (going : state.attempts[index]? = some before)
      (next : NextStage env index before action stage)
      (attempts : after.attempts = state.attempts.set index { before with stage := stage })
  | ended (elsewhere : ∀ index alias_, action ≠ .lookUp index alias_)
      (index : Nat) (before : Attempt)
      (going : state.attempts[index]? = some before)
      (searched : before.stage ≠ .lookingUp)
      (attempts : after.attempts = state.attempts.eraseIdx index)

theorem attempts_of_step
    {state after : MandateState} {action : MandateAction}
    (move : (mandateSystem env).Step state action after) :
    AttemptsChange env state after action := by
  simp only [mandateSystem, TransitionSystem.ofStep] at move
  cases action with
  | tick clock =>
      simp only [mandateStep] at move
      split at move
      · cases move
      · cases move
        exact .same (fun _ _ same => by cases same) rfl
  | dispatch now =>
      simp only [mandateStep] at move
      split at move
      · cases move
        simp only [MandateState.dispatched]
        split
        · exact .same (fun _ _ same => by cases same) rfl
        · exact .same (fun _ _ same => by cases same) rfl
      · cases move
  | startRun now executionId refused =>
      simp only [mandateStep] at move
      split at move
      · cases move
        have claims := claims_claimExecution env.schedule now executionId refused state.db
        simp only [MandateState.runStarted, MandateState.withBlock]
        revert claims
        generalize claimExecution env.schedule now executionId refused state.db = outcome
        intro claims
        cases claims with
        | claimed next active due inTime fresh computed =>
            exact .begun ⟨executionId, 0, .active, .lookingUp⟩
              (.claimed now refused fresh List.map_append rfl) rfl
        | raised | skipped | early | ended =>
            exact .same (fun _ _ same => by cases same) (List.append_nil _)
      · cases move
  | startRetry executionId retries =>
      cases move
      simp only [MandateState.retryStarted]
      split
      · exact .same (fun _ _ same => by cases same) rfl
      · rename_i execution found
        split
        · exact .same (fun _ _ same => by cases same) rfl
        · exact .begun
            ⟨executionId, retries, state.db.mandate.status,
              .calling execution.lookupResponseSnapshot⟩
            (.retried retries execution found rfl) rfl
  | lookUp index alias_ =>
      simp only [mandateStep] at move
      split at move
      · rename_i before going
        split at move
        · rename_i looking
          cases move
          cases alias_ with
          | none => exact .advanced index before _ going (.aliasGone looking) rfl
          | some recipient =>
              exact .advanced index before _ going (.aliasFound recipient looking) rfl
        · cases move
      · cases move
  | callBank index answer =>
      simp only [mandateStep] at move
      split at move
      · rename_i before going
        split at move
        · rename_i recipient calling
          have searched : before.stage ≠ .lookingUp := by
            rw [calling]
            intro same
            cases same
          cases move
          simp only [MandateState.bankCalled]
          split
          · exact .advanced index before _ going (.uncallable answer recipient calling) rfl
          · cases goesOn : afterCall env.runtime before.retries answer with
            | finalize finalizer =>
                exact .advanced index before _ going
                  (.answered answer recipient finalizer calling goesOn) rfl
            | retry =>
                exact .ended (fun _ _ same => by cases same) index before going searched rfl
            | raises error =>
                exact .ended (fun _ _ same => by cases same) index before going searched rfl
        · cases move
      · cases move
  | finalize index now refused =>
      simp only [mandateStep] at move
      split at move
      · rename_i before going
        split at move
        · rename_i finalizer finalizing
          split at move
          · cases move
            refine .ended (fun _ _ same => by cases same) index before going ?_ rfl
            rw [finalizing]
            intro same
            cases same
          · cases move
        · cases move
      · cases move
  | pause request | resume request | cancel request =>
      simp only [mandateStep] at move
      split at move
      · cases move
        exact .same (fun _ _ same => by cases same) rfl
      · cases move

/-- Where an attempt after a step comes from. -/
inductive AttemptFrom (state after : MandateState) (action : MandateAction)
    (attempt : Attempt) : Prop where
  | old (member : attempt ∈ state.attempts)
  | begun (begins : Begins state after attempt action)
  | advanced (index : Nat) (before : Attempt) (going : state.attempts[index]? = some before)
      (sameId : attempt.executionId = before.executionId)
      (next : NextStage env index before action attempt.stage)

theorem attempt_of_step
    {state after : MandateState} {action : MandateAction}
    (move : (mandateSystem env).Step state action after)
    {attempt : Attempt} (member : attempt ∈ after.attempts) :
    AttemptFrom env state after action attempt := by
  cases attempts_of_step env move with
  | same elsewhere attempts => exact .old (attempts ▸ member)
  | begun new begins attempts =>
      rw [attempts] at member
      rcases List.mem_append.mp member with old | single
      · exact .old old
      · rw [List.mem_singleton.mp single]
        exact .begun begins
  | advanced index before stage going next attempts =>
      rw [attempts] at member
      rcases List.mem_or_eq_of_mem_set member with old | rfl
      · exact .old old
      · exact .advanced index before going rfl next
  | ended elsewhere index before going searched attempts =>
      rw [attempts] at member
      exact .old (List.mem_of_mem_eraseIdx member)

/-! ## Executions -/

/-- What a finaliser makes of an execution. -/
inductive FinalizedAs (execution : RecurringExecution) :
    Finalizer → RecurringExecution → Prop where
  | success (rtpReference : PyStr) (raw : PyValue) (time : DateTime) :
      FinalizedAs execution (.success rtpReference raw) (execution.succeeded time rtpReference)
  | failure (reason : ExecutionFailureReason) :
      FinalizedAs execution (.failure reason) (execution.failedWith reason)

/-- What a step does to the executions, by the action which does it. -/
inductive ExecutionsBecome (state after : MandateState) : MandateAction → Prop where
  | same {action : MandateAction} (executions : after.db.executions = state.db.executions) :
      ExecutionsBecome state after action
  | skipped {action : MandateAction}
      (executions : after.db.executions = skipScheduled state.db.executions) :
      ExecutionsBecome state after action
  | claimed (now : DateTime) (executionId : Uuid) (refused : Bool)
      (executions : after.db.executions =
        state.db.executions ++ [state.db.mandate.newExecution executionId]) :
      ExecutionsBecome state after (.startRun now executionId refused)
  | snapshot (index : Nat) (attempt : Attempt) (recipient : Recipient)
      (execution : RecurringExecution)
      (going : state.attempts[index]? = some attempt) (looking : attempt.stage = .lookingUp)
      (found : rowAt RecurringExecution.id state.db.executions attempt.executionId =
        some execution)
      (executions : after.db.executions =
        saveRow RecurringExecution.id (execution.withSnapshot recipient)
          state.db.executions) :
      ExecutionsBecome state after (.lookUp index (some recipient))
  | finalized (index : Nat) (now : DateTime) (refused : Bool) (attempt : Attempt)
      (finalizer : Finalizer) (execution row : RecurringExecution)
      (going : state.attempts[index]? = some attempt)
      (stage : attempt.stage = .finalizing finalizer)
      (found : rowAt RecurringExecution.id state.db.executions attempt.executionId =
        some execution)
      (finalizedAs : FinalizedAs execution finalizer row)
      (executions : after.db.executions =
        saveRow RecurringExecution.id row state.db.executions) :
      ExecutionsBecome state after (.finalize index now refused)

theorem executions_become
    {state after : MandateState} {action : MandateAction}
    (move : (mandateSystem env).Step state action after) :
    ExecutionsBecome state after action := by
  simp only [mandateSystem, TransitionSystem.ofStep] at move
  cases action with
  | tick clock =>
      simp only [mandateStep] at move
      split at move
      · cases move
      · cases move
        exact .same rfl
  | dispatch now =>
      simp only [mandateStep] at move
      split at move
      · cases move
        simp only [MandateState.dispatched]
        split
        · exact .same rfl
        · exact .same rfl
      · cases move
  | startRun now executionId refused =>
      simp only [mandateStep] at move
      split at move
      · cases move
        have claims := claims_claimExecution env.schedule now executionId refused state.db
        simp only [MandateState.runStarted, MandateState.withBlock]
        revert claims
        generalize claimExecution env.schedule now executionId refused state.db = outcome
        intro claims
        cases claims with
        | raised error => exact .same rfl
        | early before => exact .same rfl
        | ended active isOver => exact .same rfl
        | skipped inactive => exact .skipped rfl
        | claimed next active due inTime fresh computed =>
            exact .claimed now executionId refused rfl
      · cases move
  | startRetry executionId retries =>
      cases move
      simp only [MandateState.retryStarted]
      split
      · exact .same rfl
      · split
        · exact .same rfl
        · exact .same rfl
  | lookUp index alias_ =>
      simp only [mandateStep] at move
      split at move
      · rename_i attempt going
        split at move
        · rename_i looking
          cases move
          cases alias_ with
          | none => exact .same rfl
          | some recipient =>
              simp only [MandateState.lookedUp, RecurringDb.saveSnapshot]
              split
              · exact .same rfl
              · rename_i execution found
                exact .snapshot index attempt recipient execution going looking found rfl
        · cases move
      · cases move
  | callBank index answer =>
      simp only [mandateStep] at move
      split at move
      · split at move
        · cases move
          simp only [MandateState.bankCalled]
          split
          · exact .same rfl
          · exact .same rfl
        · cases move
      · cases move
  | finalize index now refused =>
      simp only [mandateStep] at move
      split at move
      · rename_i attempt going
        split at move
        · rename_i finalizer stage
          split at move
          · cases move
            have finalizes :=
              finalizes_finalize env now attempt.executionId finalizer refused state.db
            simp only [MandateState.finalizedBy, MandateState.withBlock]
            revert finalizes
            generalize finalize env now attempt.executionId finalizer refused state.db =
              outcome
            intro finalizes
            cases finalizes with
            | raised finalizer error => exact .same rfl
            | success rtpReference raw execution time found parsed storable carried =>
                exact .finalized index now refused attempt _ execution _ going stage found
                  (.success rtpReference raw time) rfl
            | failure reason execution found carried =>
                exact .finalized index now refused attempt _ execution _ going stage found
                  (.failure reason) rfl
          · cases move
        · cases move
      · cases move
  | pause request =>
      simp only [mandateStep] at move
      split at move
      · cases move
        rcases pause_cases request state.db with ⟨error, raised⟩ | ⟨active, carried⟩
        · exact .same (by rw [raised]; rfl)
        · exact .same (by rw [carried]; rfl)
      · cases move
  | resume request =>
      simp only [mandateStep] at move
      split at move
      · cases move
        rcases resume_cases env.schedule request state.db with
          ⟨error, raised⟩ | ⟨next, allowed, paused, computed, carried⟩
        · exact .same (by rw [raised]; rfl)
        · exact .same (by rw [carried]; rfl)
      · cases move
  | cancel request =>
      simp only [mandateStep] at move
      split at move
      · cases move
        rcases cancel_cases request state.db with ⟨error, raised⟩ | ⟨going, carried⟩
        · exact .same (by rw [raised]; rfl)
        · exact .same (by rw [carried]; rfl)
      · cases move

/-- Only a claim adds an execution, under the key which it was given. -/
theorem keys_of_step
    {state after : MandateState} {action : MandateAction}
    (move : (mandateSystem env).Step state action after) :
    after.db.executions.map RecurringExecution.id =
        state.db.executions.map RecurringExecution.id ∨
      ∃ now executionId refused, action = .startRun now executionId refused ∧
        after.db.executions.map RecurringExecution.id =
          state.db.executions.map RecurringExecution.id ++ [executionId] := by
  cases executions_become env move with
  | same executions => exact .inl (by rw [executions])
  | skipped executions =>
      left
      rw [executions]
      exact map_skipScheduled _ (fun _ _ => rfl) _
  | claimed now executionId refused executions =>
      right
      refine ⟨now, executionId, refused, rfl, ?_⟩
      rw [executions, List.map_append]
      rfl
  | snapshot index attempt recipient execution going looking found executions =>
      left
      rw [executions, keys_saveRow]
  | finalized index now refused attempt finalizer execution row going stage found
      finalizedAs executions =>
      left
      rw [executions, keys_saveRow]

/-! ## Requests -/

/-- The columns of a mandate which its requests carry. -/
def RecurringTransfer.charge (mandate : RecurringTransfer) : Uuid × PyStr × Decimal :=
  (mandate.id, mandate.payerUserId, mandate.amount)

theorem charge_afterSuccess
    (now : DateTime) (executionId : Uuid) (mandate : RecurringTransfer) :
    (mandate.afterSuccess now executionId).1.charge = mandate.charge := by
  simp only [RecurringTransfer.afterSuccess]
  split
  · rfl
  · rfl

theorem charge_afterFailure
    (threshold : Int) (now : DateTime) (reason : ExecutionFailureReason)
    (mandate : RecurringTransfer) :
    (mandate.afterFailure threshold now reason).1.charge = mandate.charge := by
  simp only [RecurringTransfer.afterFailure]
  split
  · rfl
  · split
    · rfl
    · split
      · rfl
      · rfl

/-- No step changes what the mandate charges, and whom. -/
theorem charge_of_step
    {state after : MandateState} {action : MandateAction}
    (move : (mandateSystem env).Step state action after) :
    after.db.mandate.charge = state.db.mandate.charge := by
  cases effect_of_step env move with
  | idle becomes => rw [becomes.mandate]
  | snapshot execution recipient member becomes => rw [becomes.mandate]
  | skipped inactive becomes => rw [becomes.mandate]
  | ended active isOver becomes =>
      rw [becomes.mandate]
      rfl
  | claimed executionId next active inTime fresh computed becomes =>
      rw [becomes.mandate]
      rfl
  | succeeded index now refused attempt rtpReference raw time execution going stage
      found parsed storable carried becomes =>
      rw [becomes.mandate]
      exact charge_afterSuccess ..
  | failed index now refused attempt reason execution going stage found carried
      becomes =>
      rw [becomes.mandate]
      exact charge_afterFailure ..
  | paused request active becomes =>
      rw [becomes.mandate]
      rfl
  | resumed request next allowed paused computed becomes =>
      rw [becomes.mandate]
      rfl
  | cancelled request going becomes =>
      rw [becomes.mandate]
      rfl

/-- A request charges what its mandate says. -/
def ExecuteRequest.charge (request : ExecuteRequest) : Uuid × PyStr × Decimal :=
  (request.recurringTransferId, request.payerUserId, request.amount)

/-- Attempts and requests are about executions of the mandate. -/
structure MandateState.Grounded (state : MandateState) : Prop where
  attempts : ∀ attempt ∈ state.attempts,
    attempt.executionId ∈ state.db.executions.map RecurringExecution.id
  sent : ∀ call ∈ state.sent,
    call.2.executionId ∈ state.db.executions.map RecurringExecution.id ∧
      call.2.charge = state.db.mandate.charge

theorem grounded_step
    {state after : MandateState} {action : MandateAction} (grounded : state.Grounded)
    (move : (mandateSystem env).Step state action after) : after.Grounded := by
  have kept {executionId : Uuid}
      (before : executionId ∈ state.db.executions.map RecurringExecution.id) :=
    (executions_of_step env move).mem_ids before
  constructor
  · intro attempt member
    cases attempt_of_step env move member with
    | old same => exact kept (grounded.attempts attempt same)
    | begun begins =>
        cases begins with
        | claimed now refused fresh keys looking =>
            rw [keys]
            exact List.mem_append_right _ (List.mem_singleton_self _)
        | retried retries execution found calling =>
            exact kept (List.mem_map.mpr ⟨execution, mem_of_rowAt found⟩)
    | advanced index before going sameId next =>
        rw [sameId]
        exact kept (grounded.attempts before (List.mem_of_getElem? going))
  · rw [charge_of_step env move]
    rcases sent_of_step env move with
      same | ⟨index, answer, attempt, recipient, webhookBase, rfl, going, stage, url, added⟩
    · rw [same]
      intro call member
      exact ⟨kept (grounded.sent call member).1, (grounded.sent call member).2⟩
    · rw [added, List.forall_mem_append]
      constructor
      · intro call member
        exact ⟨kept (grounded.sent call member).1, (grounded.sent call member).2⟩
      · intro call member
        rcases List.mem_map.mp member with ⟨execution, found, rfl⟩
        have row := mem_of_rowAt (Option.mem_toList.mp found)
        exact ⟨kept (List.mem_map_of_mem row.1), rfl⟩

theorem grounded_of_reachable
    {state : MandateState} (reached : (mandateSystem env).Reachable state) :
    state.Grounded := by
  apply reached.invariant
  · intro start isStart
    constructor
    · rw [isStart.attempts]
      intro attempt member
      cases member
    · rw [isStart.sent]
      intro call member
      cases member
  · intro source action target _ grounded move
    exact grounded_step env grounded move

end Klik.Recurring
