import Klik.Recurring.FinalizeOnce
import Klik.Recurring.SnapshotZones

/-!
# Mandates which are paused or cancelled

The claim of a run checks the status of the mandate under its lock.  An
attempt with an execution checks the status of the execution only, so that a
retry which starts after the client has paused or cancelled the mandate still
calls the bank.
-/

namespace Klik.Recurring

open Klik.Banks
open Klik.Common
open Klik.Lib

variable (env : RecurringEnv)

/-! ## Attempts after a revocation -/

/-- The client or the system has revoked the mandate. -/
def RecurringTransferStatus.isRevoked (status : RecurringTransferStatus) : Bool :=
  status = .paused || status = .cancelled

/-- No request has been sent by an attempt which started when the mandate was
paused or cancelled. -/
def NotCharged (state : MandateState) : Prop :=
  ∀ call ∈ state.sent, call.1.isRevoked = false

/-- No retry of a running execution starts while the mandate of a bank which
can be called is paused or cancelled. -/
def startsUnrevoked (state : MandateState) : MandateAction → Bool
  | .startRetry executionId _ =>
      !(state.db.mandate.status.isRevoked && state.db.mandate.effectiveWebhookUrl.isSome &&
        (rowAt RecurringExecution.id state.db.executions executionId).any
          fun execution => execution.status = .executing)
  | _ => true

/-- The system in which no such retry starts. -/
def startingUnrevoked : TransitionSystem MandateState MandateAction :=
  (mandateSystem env).guarded fun state action => startsUnrevoked state action = true

/-! ## What a step adds -/

/-- No step changes the bank of the mandate. -/
theorem terms_of_step
    {state after : MandateState} {action : MandateAction}
    (move : (mandateSystem env).Step state action after) :
    after.db.mandate.terms = state.db.mandate.terms := by
  cases effect_of_step env move with
  | idle becomes => rw [becomes.mandate]
  | snapshot execution recipient member becomes => rw [becomes.mandate]
  | skipped inactive becomes => rw [becomes.mandate]
  | ended active isOver becomes =>
      rw [becomes.mandate]
      rfl
  | claimed executionId next active inTime fresh computed becomes =>
      rw [becomes.mandate]
      rfl
  | succeeded index now refused attempt rtpReference raw time execution going stage
      found parsed storable carried becomes =>
      rw [becomes.mandate]
      exact terms_afterSuccess ..
  | failed index now refused attempt reason execution going stage found carried
      becomes =>
      rw [becomes.mandate]
      exact terms_afterFailure ..
  | paused request active becomes =>
      rw [becomes.mandate]
      rfl
  | resumed request next allowed paused computed becomes =>
      rw [becomes.mandate]
      rfl
  | cancelled request going becomes =>
      rw [becomes.mandate]
      rfl

theorem effectiveWebhookUrl_of_step
    {state after : MandateState} {action : MandateAction}
    (move : (mandateSystem env).Step state action after) :
    after.db.mandate.effectiveWebhookUrl = state.db.mandate.effectiveWebhookUrl := by
  have bank : after.db.mandate.payerBank = state.db.mandate.payerBank :=
    congrArg Prod.fst (terms_of_step env move)
  simp only [RecurringTransfer.effectiveWebhookUrl, bank]

/-- An attempt which has started under a status. -/
def MandateState.HasStarted (state : MandateState) (status : RecurringTransferStatus) :
    Prop :=
  ∃ attempt ∈ state.attempts, attempt.startedUnder = status

/-- An attempt starts under the status which the mandate has: a claim only
under an active mandate, a retry under any. -/
theorem hasStarted_of_step
    {state after : MandateState} {action : MandateAction}
    (move : (mandateSystem env).Step state action after)
    {status : RecurringTransferStatus} (started : after.HasStarted status) :
    state.HasStarted status ∨
      status = state.db.mandate.status ∧
        (status = .active ∨
          ∃ executionId retries, action = .startRetry executionId retries ∧
            ∃ execution,
              rowAt RecurringExecution.id state.db.executions executionId =
                some execution ∧ execution.status = .executing) := by
  rcases started with ⟨attempt, member, rfl⟩
  have kept : attempt ∈ state.attempts → state.HasStarted attempt.startedUnder :=
    fun old => ⟨attempt, old, rfl⟩
  -- an attempt which goes on keeps the status which it started under
  have goesOn : ∀ {index : Nat} {old : Attempt} {stage : AttemptStage},
      state.attempts[index]? = some old →
        attempt ∈ state.attempts.set index { old with stage := stage } →
          state.HasStarted attempt.startedUnder := by
    intro index old stage going later
    rcases List.mem_or_eq_of_mem_set later with same | rfl
    · exact kept same
    · exact ⟨old, List.mem_of_getElem? going, rfl⟩
  simp only [mandateSystem, TransitionSystem.ofStep] at move
  cases action with
  | tick clock =>
      simp only [mandateStep] at move
      split at move
      · cases move
      · cases move
        exact Or.inl (kept member)
  | dispatch now =>
      simp only [mandateStep] at move
      split at move
      · cases move
        simp only [MandateState.dispatched] at member
        split at member
        · exact Or.inl (kept member)
        · exact Or.inl (kept member)
      · cases move
  | startRun now executionId refused =>
      simp only [mandateStep] at move
      split at move
      · cases move
        rcases List.mem_append.mp member with old | new
        · exact Or.inl (kept old)
        · have claims :=
            claims_claimExecution env.schedule now executionId refused state.db
          revert new claims
          generalize claimExecution env.schedule now executionId refused state.db = outcome
          intro new claims
          cases claims with
          | claimed next active due inTime fresh computed =>
              rw [List.mem_singleton.mp new]
              exact Or.inr ⟨active.symm, Or.inl rfl⟩
          | raised | skipped | early | ended => cases new
      · cases move
  | startRetry executionId retries =>
      cases move
      simp only [MandateState.retryStarted] at member
      split at member
      · exact Or.inl (kept member)
      · rename_i execution found
        split at member
        · exact Or.inl (kept member)
        · rename_i executing
          rcases List.mem_append.mp member with old | new
          · exact Or.inl (kept old)
          · rw [List.mem_singleton.mp new]
            exact Or.inr ⟨rfl, Or.inr ⟨executionId, retries, rfl, execution, found,
              not_not.mp executing⟩⟩
  | lookUp index alias_ =>
      simp only [mandateStep] at move
      split at move
      · rename_i old going
        split at move
        · cases move
          cases alias_ with
          | none => exact Or.inl (goesOn going member)
          | some recipient => exact Or.inl (goesOn going member)
        · cases move
      · cases move
  | callBank index answer =>
      simp only [mandateStep] at move
      split at move
      · rename_i old going
        split at move
        · cases move
          simp only [MandateState.bankCalled] at member
          split at member
          · exact Or.inl (goesOn going member)
          · simp only at member
            split at member
            · exact Or.inl (goesOn going member)
            · exact Or.inl (kept (List.mem_of_mem_eraseIdx member))
            · exact Or.inl (kept (List.mem_of_mem_eraseIdx member))
        · cases move
      · cases move
  | finalize index now refused =>
      simp only [mandateStep] at move
      split at move
      · split at move
        · split at move
          · cases move
            exact Or.inl (kept (List.mem_of_mem_eraseIdx member))
          · cases move
        · cases move
      · cases move
  | pause request | resume request | cancel request =>
      simp only [mandateStep] at move
      split at move
      · cases move
        exact Or.inl (kept member)
      · cases move

/-- Only an attempt of a mandate whose bank can be called sends a request. -/
theorem sent_of_step
    {state after : MandateState} {action : MandateAction}
    (move : (mandateSystem env).Step state action after) :
    after.sent = state.sent ∨
      ∃ index answer attempt recipient webhookBase,
        action = .callBank index answer ∧ state.attempts[index]? = some attempt ∧
          attempt.stage = .calling recipient ∧
          state.db.mandate.effectiveWebhookUrl = some webhookBase ∧
          after.sent = state.sent ++
            (rowAt RecurringExecution.id state.db.executions
              attempt.executionId).toList.map fun execution =>
                (attempt.startedUnder,
                  executeRequest webhookBase state.db.mandate execution recipient) := by
  simp only [mandateSystem, TransitionSystem.ofStep] at move
  cases action with
  | callBank index answer =>
      simp only [mandateStep] at move
      split at move
      · rename_i attempt going
        split at move
        · rename_i recipient stage
          cases move
          simp only [MandateState.bankCalled]
          split
          · exact Or.inl rfl
          · rename_i webhookBase url
            exact Or.inr ⟨index, answer, attempt, recipient, webhookBase, rfl, going, stage,
              url, rfl⟩
        · cases move
      · cases move
  | tick | startRun | pause | resume | cancel =>
      simp only [mandateStep] at move
      split at move <;> cases move
      exact Or.inl rfl
  | dispatch now =>
      simp only [mandateStep] at move
      split at move
      · cases move
        simp only [MandateState.dispatched]
        split <;> exact Or.inl rfl
      · cases move
  | startRetry executionId retries =>
      cases move
      simp only [MandateState.retryStarted]
      split
      · exact Or.inl rfl
      · split <;> exact Or.inl rfl
  | lookUp index alias_ =>
      simp only [mandateStep] at move
      split at move
      · split at move
        · cases move
          cases alias_ <;> exact Or.inl rfl
        · cases move
      · cases move
  | finalize index now refused =>
      simp only [mandateStep] at move
      split at move
      · split at move
        · split at move
          · cases move
            exact Or.inl rfl
          · cases move
        · cases move
      · cases move

/-! ## Runs -/

/-- No attempt which started under a revoked mandate can call a bank. -/
structure Uncharged (state : MandateState) : Prop where
  sent : NotCharged state
  started : ∀ status, state.HasStarted status → status.isRevoked = true →
    state.db.mandate.effectiveWebhookUrl = none

/-- A guarded step keeps revoked mandates uncharged. -/
theorem uncharged_step
    {state after : MandateState} {action : MandateAction} (uncharged : Uncharged state)
    (unrevoked : startsUnrevoked state action = true)
    (move : (mandateSystem env).Step state action after) :
    Uncharged after := by
  constructor
  · rcases sent_of_step env move with
      same | ⟨index, answer, attempt, recipient, webhookBase, rfl, going, stage, url, added⟩
    · rw [NotCharged, same]
      exact uncharged.sent
    · rw [NotCharged, added, List.forall_mem_append]
      refine ⟨uncharged.sent, ?_⟩
      intro call member
      rcases List.mem_map.mp member with ⟨execution, _, rfl⟩
      rw [← Bool.not_eq_true]
      intro revoked
      have uncallable := uncharged.started attempt.startedUnder
        ⟨attempt, List.mem_of_getElem? going, rfl⟩ revoked
      rw [url] at uncallable
      cases uncallable
  · intro status started revoked
    rw [effectiveWebhookUrl_of_step env move]
    rcases hasStarted_of_step env move started with
      before | ⟨rfl, active | ⟨executionId, retries, rfl, execution, found, executing⟩⟩
    · exact uncharged.started status before revoked
    · rw [active] at revoked
      cases revoked
    · rw [← Option.not_isSome_iff_eq_none]
      intro callable
      simp [startsUnrevoked, revoked, callable, found, executing] at unrevoked

theorem uncharged_of_reachable
    {state : MandateState} (reached : (startingUnrevoked env).Reachable state) :
    Uncharged state := by
  apply reached.invariant
  · intro start isStart
    constructor
    · rw [NotCharged, isStart.sent]
      exact nofun
    · rintro status ⟨attempt, member, _⟩
      rw [isStart.attempts] at member
      cases member
  · intro source action target _ held move
    exact uncharged_step env held move.1 move.2

/-- A retry which starts under a revoked mandate can call the bank next. -/
theorem charged_of_retry
    {state after : MandateState} {executionId : Uuid} {retries : Nat}
    (revoked : startsUnrevoked state (.startRetry executionId retries) = false)
    (move : (mandateSystem env).Step state (.startRetry executionId retries) after)
    (answer : BankAnswer) :
    ∃ last, (mandateSystem env).Step after (.callBank state.attempts.length answer) last ∧
      ¬ NotCharged last := by
  simp only [startsUnrevoked, Bool.not_eq_false', Bool.and_eq_true, Option.any_eq_true,
    decide_eq_true_eq] at revoked
  rcases revoked with ⟨⟨isRevoked, callable⟩, execution, found, executing⟩
  rcases Option.isSome_iff_exists.mp callable with ⟨webhookBase, url⟩
  cases move
  have started : state.retryStarted executionId retries =
      { state with
        attempts := state.attempts ++
          [⟨executionId, retries, state.db.mandate.status,
            .calling execution.lookupResponseSnapshot⟩] } := by
    simp only [MandateState.retryStarted, found, executing, ne_eq, not_true_eq_false, if_false]
  have going : (state.retryStarted executionId retries).attempts[state.attempts.length]? =
      some ⟨executionId, retries, state.db.mandate.status,
        .calling execution.lookupResponseSnapshot⟩ := by
    rw [started]
    exact List.getElem?_concat_length ..
  refine ⟨(state.retryStarted executionId retries).bankCalled env state.attempts.length
    ⟨executionId, retries, state.db.mandate.status,
      .calling execution.lookupResponseSnapshot⟩
    execution.lookupResponseSnapshot answer, ?_, ?_⟩
  · simp only [mandateSystem, TransitionSystem.ofStep, mandateStep, going]
  · intro uncharged
    simp only [NotCharged, MandateState.bankCalled, started, url, found, Option.toList_some,
      List.map_cons, List.map_nil] at uncharged
    have unrevoked := uncharged _ (List.mem_append_right _ (List.mem_singleton_self _))
    rw [isRevoked] at unrevoked
    cases unrevoked

/-- While no retry starts under a revoked mandate, no such mandate is charged;
and after a step this goes on however the run continues exactly if the step
starts no such retry either. -/
theorem revoked_not_charged_iff
    {state : MandateState} (reached : (startingUnrevoked env).Reachable state) :
    NotCharged state ∧
      ∀ action after, (mandateSystem env).Step state action after →
        ((∀ actions last, (startingUnrevoked env).Path after actions last →
            NotCharged last) ↔
          startsUnrevoked state action = true) := by
  refine ⟨(uncharged_of_reachable env reached).sent, ?_⟩
  intro action after move
  constructor
  · intro always
    rw [← Bool.not_eq_false]
    intro revoked
    cases action with
    | startRetry executionId retries =>
        rcases charged_of_retry env revoked move .failed with ⟨last, called, charged⟩
        exact charged (always _ last (.step (.refl after) ⟨rfl, called⟩))
    | tick | dispatch | startRun | lookUp | callBank | finalize | pause | resume | cancel =>
        cases revoked
  · intro unrevoked actions last path
    have next : (startingUnrevoked env).Reachable after := reached.step ⟨unrevoked, move⟩
    exact (uncharged_of_reachable env (path.reachable next)).sent

/-! ## A retry after a cancellation -/

/-- The retry of the first run starts before the client cancels the mandate,
and calls the bank afterwards. -/
def cancelledInFlight : List MandateAction :=
  retryDelivered ++ [.cancel (requestAt 8), .callBank 0 (bareAnswer "EXECUTED")]

/-- The bank has been called twice, by attempts of an active mandate. -/
theorem revoked_not_charged_iff_cancelledInFlight :
    ∃ state, TransitionSystem.runLabels
        (TransitionSystem.guardStep (mandateStep documentedEnv) startsUnrevoked)
        callableMandate cancelledInFlight = some state ∧
      state.db.mandate.status = .cancelled ∧
      state.sent.map Prod.fst = [.active, .active] ∧ NotCharged state := by
  have calls : (TransitionSystem.runLabels
      (TransitionSystem.guardStep (mandateStep documentedEnv) startsUnrevoked)
      callableMandate cancelledInFlight).map
        (fun state => (state.db.mandate.status, state.sent.map Prod.fst)) =
          some (.cancelled, [.active, .active]) := by
    decide +kernel
  rcases Option.map_eq_some_iff.mp calls with ⟨state, run, same⟩
  have path : (startingUnrevoked documentedEnv).Path callableMandate cancelledInFlight state :=
    TransitionSystem.guarded_path_of_runLabels run
  refine ⟨state, run, congrArg Prod.fst same, congrArg Prod.snd same, ?_⟩
  exact (revoked_not_charged_iff documentedEnv
    (path.reachable (.init isStart_callableMandate))).1

/-- The first call fails, the client cancels the mandate, and the retry
starts. -/
def retriedAfterCancel : List MandateAction :=
  claimFirst 1 ++
    [.lookUp 0 (some knownRecipient), .callBank 0 .failed, .cancel (requestAt 8),
      .startRetry 1 1, .callBank 0 (bareAnswer "EXECUTED")]

/-- The bank is asked to charge a cancelled mandate. -/
theorem cancelled_mandate_charged :
    ¬ ∀ state, (mandateSystem documentedEnv).Reachable state → NotCharged state := by
  intro always
  have calls : (TransitionSystem.runLabels (mandateStep documentedEnv) callableMandate
      retriedAfterCancel).map (fun state => state.sent.map Prod.fst) =
        some [.active, .cancelled] := by
    decide +kernel
  rcases Option.map_eq_some_iff.mp calls with ⟨state, run, statuses⟩
  have charged : RecurringTransferStatus.cancelled ∈ state.sent.map Prod.fst := by
    rw [statuses]
    decide
  rcases List.mem_map.mp charged with ⟨call, member, status⟩
  have uncharged := always state
    (TransitionSystem.reachable_of_runLabels isStart_callableMandate run) call member
  rw [status] at uncharged
  cases uncharged

end Klik.Recurring
