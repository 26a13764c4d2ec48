import Klik.Recurring.RunSteps

/-!
# What an execution shows

An execution shows a success or a failure only as an answer of the bank, or an
answer which did not come, has told it to.
-/

namespace Klik.Recurring

open Klik.Common
open Klik.Lib

variable (env : RecurringEnv)

/-- What one execution shows. -/
structure RecurringExecution.Shows
    (Told : Uuid → Finalizer → Prop) (execution : RecurringExecution) : Prop where
  success : execution.status = .success →
    ∃ rtpReference raw, Told execution.id (.success rtpReference raw) ∧
      execution.rtpReference = rtpReference.take 200
  failure : ∀ reason, execution.failureReason = some reason →
    Told execution.id (.failure reason)

/-- Attempts finalise, and executions show, only what they were told. -/
structure ShowsTold (Told : Uuid → Finalizer → Prop) (state : MandateState) : Prop where
  finalizing : ∀ attempt ∈ state.attempts, ∀ finalizer,
    attempt.stage = .finalizing finalizer → Told attempt.executionId finalizer
  executions : ∀ execution ∈ state.db.executions, execution.Shows Told

/-- More may be told. -/
theorem ShowsTold.mono
    {Told Later : Uuid → Finalizer → Prop} {state : MandateState}
    (shows_ : ShowsTold Told state)
    (later : ∀ executionId finalizer, Told executionId finalizer → Later executionId finalizer) :
    ShowsTold Later state where
  finalizing attempt member finalizer stage :=
    later _ _ (shows_.finalizing attempt member finalizer stage)
  executions execution member := by
    constructor
    · intro status
      rcases (shows_.executions execution member).success status with
        ⟨rtpReference, raw, told, same⟩
      exact ⟨rtpReference, raw, later _ _ told, same⟩
    · intro reason failed
      exact later _ _ ((shows_.executions execution member).failure reason failed)

theorem ShowsTold.of_isStart
    {Told : Uuid → Finalizer → Prop} {state : MandateState} (start : state.IsStart env) :
    ShowsTold Told state where
  finalizing := by
    rw [start.attempts]
    intro attempt member
    cases member
  executions := by
    rw [start.executions]
    intro execution member
    cases member

/-- A saved execution shows what it may, and the others are left. -/
theorem shows_saveRow
    {Told : Uuid → Finalizer → Prop} {executions : List RecurringExecution}
    (shows_ : ∀ execution ∈ executions, execution.Shows Told)
    {row : RecurringExecution} (saved : row.Shows Told) :
    ∀ execution ∈ saveRow RecurringExecution.id row executions, execution.Shows Told := by
  intro execution member
  rcases mem_saveRow member with rfl | ⟨old, _⟩
  · exact saved
  · exact shows_ execution old

/-- What a finaliser leaves shows what it was told. -/
theorem FinalizedAs.shows_
    {Told : Uuid → Finalizer → Prop} {execution row : RecurringExecution} {finalizer : Finalizer}
    (finalizedAs : FinalizedAs execution finalizer row) (shows_ : execution.Shows Told)
    (told : Told execution.id finalizer) : row.Shows Told := by
  cases finalizedAs with
  | success rtpReference raw time =>
      refine ⟨?_, shows_.failure⟩
      intro _
      exact ⟨rtpReference, raw, told, rfl⟩
  | failure reason =>
      constructor
      · intro status
        cases status
      · intro shown failed
        cases failed
        exact told

/-- The executions after a step show what was told. -/
theorem shows_executions
    {Told : Uuid → Finalizer → Prop} {state after : MandateState} {action : MandateAction}
    (shows_ : ShowsTold Told state)
    (move : (mandateSystem env).Step state action after) :
    ∀ execution ∈ after.db.executions, execution.Shows Told := by
  have old := shows_.executions
  cases executions_become env move with
  | same executions =>
      rw [executions]
      exact old
  | skipped executions =>
      rw [executions]
      intro execution member
      rcases List.mem_map.mp member with ⟨row, rowMember, rfl⟩
      split
      · constructor
        · intro status
          cases status
        · exact (old row rowMember).failure
      · exact old row rowMember
  | claimed now executionId refused executions =>
      rw [executions, List.forall_mem_append]
      refine ⟨old, ?_⟩
      intro execution member
      cases List.mem_singleton.mp member
      constructor
      · intro status
        cases status
      · intro reason failed
        cases failed
  | snapshot index attempt recipient execution going looking found executions =>
      have shown := old execution (mem_of_rowAt found).1
      rw [executions]
      exact shows_saveRow old ⟨shown.success, shown.failure⟩
  | finalized index now refused attempt finalizer execution row going stage found
      finalizedAs executions =>
      have told := shows_.finalizing attempt (List.mem_of_getElem? going) finalizer stage
      have atId := mem_of_rowAt found
      rw [← atId.2] at told
      rw [executions]
      exact shows_saveRow old (finalizedAs.shows_ (old execution atId.1) told)

/-- A step keeps it, where what an attempt comes to finalise with is told. -/
theorem shows_step
    {Told : Uuid → Finalizer → Prop} {state after : MandateState} {action : MandateAction}
    (told : ∀ index before finalizer, state.attempts[index]? = some before →
      NextStage env index before action (.finalizing finalizer) →
        Told before.executionId finalizer)
    (shows_ : ShowsTold Told state)
    (move : (mandateSystem env).Step state action after) : ShowsTold Told after := by
  constructor
  · intro attempt member finalizer stage
    cases attempt_of_step env move member with
    | old same => exact shows_.finalizing attempt same finalizer stage
    | begun begins =>
        cases begins with
        | claimed now refused fresh keys looking =>
            rw [looking] at stage
            cases stage
        | retried retries execution found calling =>
            rw [calling] at stage
            cases stage
    | advanced index before going sameId next =>
        rw [stage] at next
        rw [sameId]
        exact told index before finalizer going next
  · exact shows_executions env shows_ move

end Klik.Recurring
