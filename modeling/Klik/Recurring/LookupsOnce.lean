import Klik.Lib.InFlight
import Klik.Lib.RecordedRuns
import Klik.Recurring.AnswersShown

/-!
# One lookup for each run

The lookup of a recipient is charged to the bank.  Only the attempt which has
claimed a run looks its recipient up; retries take what the execution has
saved.  So each execution is looked up at most once, every request about it
names the recipient of that lookup or none, and an execution whose alias was
gone was never sent with a recipient.
-/

namespace Klik.Recurring

open Klik.Common
open Klik.Lib

variable (env : RecurringEnv)

/-- A lookup for an execution, and the alias which it has found. -/
abbrev Lookup := Uuid × Option Recipient

/-- The lookup of a step. -/
def lookupsOf (state : MandateState) : MandateAction → List Lookup
  | .lookUp index alias_ =>
      (state.attempts[index]?.map fun attempt => (attempt.executionId, alias_)).toList
  | _ => []

/-- The execution which an attempt is about to look up. -/
def lookingFor (attempt : Attempt) : List Uuid :=
  match attempt.stage with
  | .lookingUp => [attempt.executionId]
  | .calling _ | .finalizing _ => []

theorem lookingFor_of_stage {attempt : Attempt} (searched : attempt.stage ≠ .lookingUp) :
    lookingFor attempt = [] := by
  simp only [lookingFor]
  split
  · rename_i looking
    exact absurd looking searched
  · rfl
  · rfl

/-- What the lookups so far have to do with the state. -/
structure LookupsKept (state : MandateState) (lookups : List Lookup) : Prop where
  once : (lookups.map Prod.fst ++ state.attempts.flatMap lookingFor).Nodup
  known : ∀ lookup ∈ lookups, lookup.1 ∈ state.db.executions.map RecurringExecution.id
  snapshots : ∀ execution ∈ state.db.executions, ∀ recipient,
    execution.lookupResponseSnapshot = some recipient →
      (execution.id, some recipient) ∈ lookups
  calling : ∀ attempt ∈ state.attempts, ∀ recipient,
    attempt.stage = .calling (some recipient) →
      (attempt.executionId, some recipient) ∈ lookups
  sent : ∀ call ∈ state.sent, ∀ recipient, call.2.recipient = some recipient →
    (call.2.executionId, some recipient) ∈ lookups
  gone : ShowsTold
    (fun executionId finalizer => finalizer = .failure .recipientAliasGone →
      (executionId, none) ∈ lookups) state

/-- The bank never gives the reason which a missing alias has. -/
theorem ne_recipientAliasGone_of_afterCall
    {runtime : PyRuntime} {retries : Nat} {answer : BankAnswer} {finalizer : Finalizer}
    (goesOn : afterCall runtime retries answer = .finalize finalizer) :
    finalizer ≠ .failure .recipientAliasGone := by
  rintro rfl
  simp only [afterCall] at goesOn
  split at goesOn
  · split at goesOn
    · cases goesOn
    · cases goesOn
  · cases goesOn
  · split at goesOn
    · rename_i reason read
      cases goesOn
      simp only [rejectReason] at read
      split at read
      · rename_i text
        simp only [Except.ok.injEq, allowedRejectReason] at read
        repeat' split at read
        all_goals cases read
      · cases read
      · cases read
      · cases read
    · cases goesOn

/-- What the attempts look up, after a step and its lookups. -/
theorem looking_of_step
    {state after : MandateState} {action : MandateAction}
    (move : (mandateSystem env).Step state action after) :
    (∃ executionId, (∀ old ∈ state.db.executions, old.id ≠ executionId) ∧
        lookupsOf state action = [] ∧
        after.attempts.flatMap lookingFor =
          state.attempts.flatMap lookingFor ++ [executionId]) ∨
      ((lookupsOf state action).map Prod.fst ++ after.attempts.flatMap lookingFor).Perm
        (state.attempts.flatMap lookingFor) := by
  have nothing {other : MandateAction} (elsewhere : ∀ index alias_, other ≠ .lookUp index alias_) :
      lookupsOf state other = [] := by
    cases other with
    | lookUp index alias_ => exact absurd rfl (elsewhere index alias_)
    | tick | dispatch | startRun | startRetry | callBank | finalize | pause | resume |
      cancel => rfl
  cases attempts_of_step env move with
  | same elsewhere attempts =>
      right
      rw [nothing elsewhere, attempts]
      exact List.Perm.refl _
  | begun attempt begins attempts =>
      rw [attempts, List.flatMap_append, List.flatMap_singleton]
      cases begins with
      | claimed now refused fresh keys looking =>
          left
          refine ⟨attempt.executionId, fresh, rfl, ?_⟩
          rw [lookingFor, looking]
      | retried retries execution found calling =>
          right
          rw [lookingFor, calling, List.append_nil]
          exact List.Perm.refl _
  | advanced index before stage going next attempts =>
      right
      have parted := flatMap_perm_eraseIdx going lookingFor
      have moved := flatMap_perm_moveOn going (some { before with stage := stage }) lookingFor
      rw [Option.toList_some, List.flatMap_singleton] at moved
      rw [attempts]
      refine (moved.append_left _).trans (List.Perm.trans ?_ parted.symm)
      cases next with
      | aliasGone looking =>
          simp [lookupsOf, going, lookingFor, looking]
      | aliasFound recipient looking =>
          simp [lookupsOf, going, lookingFor, looking]
      | uncallable answer recipient calling =>
          simp [lookupsOf, lookingFor, calling]
      | answered answer recipient finalizer calling goesOn =>
          simp [lookupsOf, lookingFor, calling]
  | ended elsewhere index before going searched attempts =>
      right
      have parted := flatMap_perm_eraseIdx going lookingFor
      rw [lookingFor_of_stage searched, List.nil_append] at parted
      rw [nothing elsewhere, attempts]
      exact parted.symm

/-- A lookup is one for the execution of the attempt which makes it. -/
theorem mem_lookupsOf
    {state : MandateState} {index : Nat} {attempt : Attempt} {alias_ : Option Recipient}
    (going : state.attempts[index]? = some attempt) :
    (attempt.executionId, alias_) ∈ lookupsOf state (.lookUp index alias_) := by
  simp [lookupsOf, going]

namespace LookupsKept

variable {env}
variable {state after : MandateState} {action : MandateAction} {lookups : List Lookup}

theorem once_step
    (kept : LookupsKept state lookups) (grounded : state.Grounded)
    (move : (mandateSystem env).Step state action after) :
    ((lookups ++ lookupsOf state action).map Prod.fst ++
      after.attempts.flatMap lookingFor).Nodup := by
  rw [List.map_append, List.append_assoc]
  rcases looking_of_step env move with ⟨executionId, fresh, none, added⟩ | moved
  · have unknown {key : Uuid}
        (member : key ∈ state.db.executions.map RecurringExecution.id) : key ≠ executionId := by
      rcases List.mem_map.mp member with ⟨execution, row, rfl⟩
      exact fresh execution row
    rw [none, added, List.map_nil, List.nil_append, ← List.append_assoc, List.nodup_append]
    refine ⟨kept.once, List.nodup_singleton _, ?_⟩
    intro key member other single
    rw [List.mem_singleton.mp single]
    rcases List.mem_append.mp member with looked | looking
    · rcases List.mem_map.mp looked with ⟨lookup, lookupMember, rfl⟩
      exact unknown (kept.known lookup lookupMember)
    · rcases List.mem_flatMap.mp looking with ⟨attempt, attemptMember, held⟩
      have own : key = attempt.executionId := by
        simp only [lookingFor] at held
        split at held
        · exact List.mem_singleton.mp held
        · cases held
        · cases held
      rw [own]
      exact unknown (grounded.attempts attempt attemptMember)
  · rw [(moved.append_left _).nodup_iff]
    exact kept.once

theorem known_step
    (kept : LookupsKept state lookups) (grounded : state.Grounded)
    (move : (mandateSystem env).Step state action after) :
    ∀ lookup ∈ lookups ++ lookupsOf state action,
      lookup.1 ∈ after.db.executions.map RecurringExecution.id := by
  intro lookup member
  apply (executions_of_step env move).mem_ids
  rcases List.mem_append.mp member with earlier | new
  · exact kept.known lookup earlier
  · cases action with
    | lookUp index alias_ =>
        rcases Option.map_eq_some_iff.mp (Option.mem_toList.mp new) with ⟨attempt, going, rfl⟩
        exact grounded.attempts attempt (List.mem_of_getElem? going)
    | tick | dispatch | startRun | startRetry | callBank | finalize | pause | resume |
      cancel => cases new

theorem snapshots_step
    (kept : LookupsKept state lookups)
    (move : (mandateSystem env).Step state action after) :
    ∀ execution ∈ after.db.executions, ∀ recipient,
      execution.lookupResponseSnapshot = some recipient →
        (execution.id, some recipient) ∈ lookups ++ lookupsOf state action := by
  have old : ∀ execution ∈ state.db.executions, ∀ recipient,
      execution.lookupResponseSnapshot = some recipient →
        (execution.id, some recipient) ∈ lookups ++ lookupsOf state action :=
    fun execution member recipient saved =>
      List.mem_append_left _ (kept.snapshots execution member recipient saved)
  cases executions_become env move with
  | same executions =>
      rw [executions]
      exact old
  | skipped executions =>
      rw [executions]
      intro execution member
      rcases List.mem_map.mp member with ⟨row, rowMember, rfl⟩
      split
      · exact old row rowMember
      · exact old row rowMember
  | claimed now executionId refused executions =>
      rw [executions, List.forall_mem_append]
      refine ⟨old, ?_⟩
      intro execution member recipient saved
      cases List.mem_singleton.mp member
      cases saved
  | snapshot index attempt recipient execution going looking found executions =>
      rw [executions]
      intro row member named saved
      rcases mem_saveRow member with rfl | ⟨before, _⟩
      · cases saved
        apply List.mem_append_right
        rw [show (execution.withSnapshot recipient).id = attempt.executionId from
          (mem_of_rowAt found).2]
        exact mem_lookupsOf going
      · exact old row before named saved
  | finalized index now refused attempt finalizer execution row going stage found
      finalizedAs executions =>
      rw [executions]
      intro saved member recipient snapshot
      rcases mem_saveRow member with rfl | ⟨before, _⟩
      · have atId := (mem_of_rowAt found).1
        cases finalizedAs with
        | success rtpReference raw time => exact old execution atId recipient snapshot
        | failure reason => exact old execution atId recipient snapshot
      · exact old saved before recipient snapshot

theorem calling_step
    (kept : LookupsKept state lookups)
    (move : (mandateSystem env).Step state action after) :
    ∀ attempt ∈ after.attempts, ∀ recipient, attempt.stage = .calling (some recipient) →
      (attempt.executionId, some recipient) ∈ lookups ++ lookupsOf state action := by
  intro attempt member recipient stage
  cases attempt_of_step env move member with
  | old same => exact List.mem_append_left _ (kept.calling attempt same recipient stage)
  | begun begins =>
      cases begins with
      | claimed now refused fresh keys looking =>
          rw [looking] at stage
          cases stage
      | retried retries execution found calling =>
          rw [calling] at stage
          injection stage with saved
          have row := mem_of_rowAt found
          rw [← row.2]
          exact List.mem_append_left _ (kept.snapshots execution row.1 recipient saved)
  | advanced index before going sameId next =>
      rw [stage] at next
      rw [sameId]
      cases next with
      | aliasFound recipient looking =>
          exact List.mem_append_right _ (mem_lookupsOf going)

theorem sent_step
    (kept : LookupsKept state lookups)
    (move : (mandateSystem env).Step state action after) :
    ∀ call ∈ after.sent, ∀ recipient, call.2.recipient = some recipient →
      (call.2.executionId, some recipient) ∈ lookups ++ lookupsOf state action := by
  have old : ∀ call ∈ state.sent, ∀ recipient, call.2.recipient = some recipient →
      (call.2.executionId, some recipient) ∈ lookups ++ lookupsOf state action :=
    fun call member recipient named =>
      List.mem_append_left _ (kept.sent call member recipient named)
  rcases sent_of_step env move with
    same | ⟨index, answer, attempt, recipient, webhookBase, rfl, going, stage, url, added⟩
  · rw [same]
    exact old
  · rw [added, List.forall_mem_append]
    refine ⟨old, ?_⟩
    intro call member found named
    rcases List.mem_map.mp member with ⟨execution, row, rfl⟩
    have own : recipient = some found := named
    rw [own] at stage
    have looked := kept.calling attempt (List.mem_of_getElem? going) found stage
    rw [← (mem_of_rowAt (Option.mem_toList.mp row)).2] at looked
    exact List.mem_append_left _ looked

theorem gone_step
    (kept : LookupsKept state lookups)
    (move : (mandateSystem env).Step state action after) :
    ShowsTold
      (fun executionId finalizer => finalizer = .failure .recipientAliasGone →
        (executionId, none) ∈ lookups ++ lookupsOf state action) after := by
  refine shows_step env ?_ (kept.gone.mono ?_) move
  · intro index before finalizer going comes gone
    subst gone
    cases comes with
    | aliasGone looking => exact List.mem_append_right _ (mem_lookupsOf going)
    | answered answer recipient finalizer calling goesOn =>
        exact absurd rfl (ne_recipientAliasGone_of_afterCall goesOn)
  · intro executionId finalizer told gone
    exact List.mem_append_left _ (told gone)

theorem step
    (kept : LookupsKept state lookups) (grounded : state.Grounded)
    (move : (mandateSystem env).Step state action after) :
    LookupsKept after (lookups ++ lookupsOf state action) where
  once := kept.once_step grounded move
  known := kept.known_step grounded move
  snapshots := kept.snapshots_step move
  calling := kept.calling_step move
  sent := kept.sent_step move
  gone := kept.gone_step move

theorem of_isStart (start : state.IsStart env) : LookupsKept state [] := by
  constructor
  · rw [start.attempts]
    exact List.nodup_nil
  · intro lookup member
    cases member
  · rw [start.executions]
    intro execution member
    cases member
  · rw [start.attempts]
    intro attempt member
    cases member
  · rw [start.sent]
    intro call member
    cases member
  · exact .of_isStart env start

end LookupsKept

/-- The mandates with a record of their lookups. -/
def recordedLookups : TransitionSystem (MandateState × List Lookup) MandateAction :=
  (mandateSystem env).recording lookupsOf

theorem lookupsKept_of_reachable
    {recorded : MandateState × List Lookup}
    (reached : (recordedLookups env).Reachable recorded) :
    LookupsKept recorded.1 recorded.2 := by
  apply reached.invariant
  · rintro ⟨start, lookups⟩ ⟨isStart, rfl⟩
    exact .of_isStart isStart
  · rintro ⟨source, before⟩ action ⟨target, after⟩ earlier kept ⟨move, rfl⟩
    exact kept.step (grounded_of_reachable env earlier.of_recording) move

/-! ## Runs -/

/-- Each execution was looked up at most once, every request names the alias
which was found for its execution, or nobody, and no request about an
execution whose alias was gone names anybody. -/
structure LookedUpOnce (state : MandateState) (lookups : List Lookup) : Prop where
  once : (lookups.map Prod.fst).Nodup
  sent : ∀ call ∈ state.sent, ∀ recipient, call.2.recipient = some recipient →
    (call.2.executionId, some recipient) ∈ lookups
  gone : ∀ execution ∈ state.db.executions,
    execution.failureReason = some .recipientAliasGone →
      ∀ call ∈ state.sent, call.2.executionId = execution.id → call.2.recipient = none

/-- Whatever the broker delivers, and however often. -/
theorem run_looked_up_once
    (state : MandateState) (lookups : List Lookup)
    (reached : (recordedLookups env).Reachable (state, lookups)) :
    LookedUpOnce state lookups := by
  have kept := lookupsKept_of_reachable env reached
  have once : (lookups.map Prod.fst).Nodup := (List.nodup_append.mp kept.once).1
  constructor
  · exact once
  · exact kept.sent
  · intro execution member failed call sent about
    cases named : call.2.recipient with
    | none => rfl
    | some recipient =>
        have gone := (kept.gone.executions execution member).failure _ failed rfl
        have found := kept.sent call sent recipient named
        rw [about] at found
        -- the execution would have been looked up twice
        have same := List.inj_on_of_nodup_map once gone found rfl
        cases same

/-- The first call of the run fails; its retry names the same recipient without
another lookup. -/
theorem run_looked_up_once_retrySucceeds :
    ∃ state, TransitionSystem.runLabels
        (TransitionSystem.recordStep (mandateStep documentedEnv) lookupsOf)
        (callableMandate, []) retrySucceeds = some (state, [(1, some knownRecipient)]) ∧
      state.sent.map (fun call => call.2.recipient) =
        [some knownRecipient, some knownRecipient] ∧
      LookedUpOnce state [(1, some knownRecipient)] := by
  have shown : (TransitionSystem.runLabels
      (TransitionSystem.recordStep (mandateStep documentedEnv) lookupsOf)
      (callableMandate, []) retrySucceeds).map
        (fun recorded => (recorded.1.sent.map fun call => call.2.recipient, recorded.2)) =
      some ([some knownRecipient, some knownRecipient], [(1, some knownRecipient)]) := by
    decide +kernel
  rcases Option.map_eq_some_iff.mp shown with ⟨⟨state, lookups⟩, run, same⟩
  simp only [Prod.mk.injEq] at same
  rcases same with ⟨recipients, rfl⟩
  refine ⟨state, run, recipients, ?_⟩
  exact run_looked_up_once documentedEnv state _
    (TransitionSystem.reachable_of_recordStep isStart_callableMandate run)

end Klik.Recurring
