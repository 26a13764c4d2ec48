import Klik.BankIO.RunOutcomes

/-!
# Balances and revocations

The balance of a client is the one at the start with the moves of the other
handlers and without the runs which the bank has executed.  A mandate which
its client has revoked at the bank takes nothing more, whatever KLIK goes on
to ask for.
-/

namespace Klik.BankIO

open Klik.Common
open Klik.Lib
open Klik.Recurring

variable {env : RecurringEnv} {bankZone : PyStr} {state : RecurringState}

/-! ## Balances -/

/-- What the other handlers have moved to a client. -/
def movedTo (userId : PyStr) (moves : List (PyStr × Int)) : Int :=
  ((moves.filter fun move => move.1 = userId).map Prod.snd).sum

/-- What debits have taken from a client. -/
def takenFrom (userId : PyStr) (debits : List Debit) : Int :=
  ((debits.filter fun debit => debit.userId = userId).map Debit.amount).sum

theorem movedTo_append (userId : PyStr) (before after : List (PyStr × Int)) :
    movedTo userId (before ++ after) = movedTo userId before + movedTo userId after := by
  simp [movedTo]

theorem movedTo_perm {first second : List (PyStr × Int)} (same : first.Perm second)
    (userId : PyStr) : movedTo userId first = movedTo userId second :=
  ((same.filter _).map _).sum_eq

theorem takenFrom_append (userId : PyStr) (before after : List Debit) :
    takenFrom userId (before ++ after) = takenFrom userId before + takenFrom userId after := by
  simp [takenFrom]

theorem takenFrom_perm {first second : List Debit} (same : first.Perm second) (userId : PyStr) :
    takenFrom userId first = takenFrom userId second :=
  ((same.filter _).map _).sum_eq

/-- The balances after the moves and the debits. -/
def RecurringState.Balanced (state : RecurringState) : Prop :=
  ∀ userId, state.bank.clients.get? userId =
    (state.opening.get? userId).map fun balance =>
      balance + movedTo userId state.moves - takenFrom userId state.debits

theorem RecurringState.Balanced.move
    (balanced : state.Balanced) (userId : PyStr) (amount : Int) :
    (state.move userId amount).Balanced := by
  intro other
  simp only [RecurringState.move, get?_credit, balanced other, Option.map_map, movedTo_append]
  congr 1
  funext balance
  simp only [Function.comp_apply, movedTo]
  by_cases same : userId = other
  · simp [same]
    omega
  · simp [same]

theorem RecurringState.Balanced.received
    (balanced : state.Balanced) (stamp : RunStamp) (payload : RecurringExecuteWebhookIn) :
    (state.received bankZone stamp payload).Balanced := by
  intro other
  simp only [RecurringState.received, webhookRecurringExecute, runDebit]
  cases known : state.bank.executedRuns.get? payload.executionId with
  | some response => simpa using balanced other
  | none =>
      cases classified : classifyRun payload state.bank with
      | error reason => simpa [newClients] using balanced other
      | ok debit =>
          obtain ⟨userId, amount⟩ := debit
          simp only [newClients, get?_credit, balanced other, Option.map_map,
            Option.toList_some, takenFrom_append]
          congr 1
          funext balance
          simp only [Function.comp_apply, takenFrom]
          by_cases same : userId = other
          · simp [same]
            omega
          · simp [same]

theorem balanced_step
    {after : RecurringState} {action : RecurringAction} (balanced : state.Balanced)
    (move : (recurringSystem env bankZone).Step state action after) : after.Balanced := by
  cases recurringMove_of_step env bankZone move with
  | same => exact balanced
  | klik going allowed step => exact balanced
  | exchanged going pending received step => exact balanced.received _ _
  | delivered going member received => exact balanced.received _ _
  | recorded going => exact balanced
  | updated mandateId change user revoked => exact balanced
  | moved => exact balanced.move _ _

/-- Each balance is the one at the start with the moves of other handlers and
without the amounts of the runs which the bank has executed, each once. -/
theorem balance_of_runs
    (state : RecurringState) (reached : (recurringSystem env bankZone).Reachable state)
    (userId : PyStr) (balance : Int) (opened : state.opening.get? userId = some balance) :
    state.bank.clients.get? userId =
      some (balance + movedTo userId state.moves - takenFrom userId state.executedDebits) := by
  have balanced : state.Balanced := by
    apply reached.invariant
    · intro start isStart other
      rw [isStart.clients, isStart.moves, isStart.debits]
      cases start.opening.get? other with
      | none => rfl
      | some balance => simp [movedTo, takenFrom]
    · intro source action target _ held move
      exact balanced_step held move
  rw [balanced userId, opened, Option.map_some,
    takenFrom_perm (runsAgree_of_reachable reached).debits_perm]

/-- One run, whose first reply was lost, is paid for once. -/
theorem balance_of_runs_replyLost :
    ∃ state, TransitionSystem.runLabels (recurringStep documentedEnv (py "PL"))
        (mandateStart 500000) replyLost = some state ∧
      state.bank.clients.get? (py "client") =
        some (500000 + movedTo (py "client") state.moves -
          takenFrom (py "client") state.executedDebits) ∧
      takenFrom (py "client") state.executedDebits = 5000 := by
  have shown : (TransitionSystem.runLabels (recurringStep documentedEnv (py "PL"))
      (mandateStart 500000) replyLost).map
        (fun state => (state.opening.get? (py "client"),
          takenFrom (py "client") state.executedDebits)) = some (some 500000, 5000) := by
    decide +kernel
  rcases Option.map_eq_some_iff.mp shown with ⟨state, run, same⟩
  simp only [Prod.mk.injEq] at same
  have reached : (recurringSystem documentedEnv (py "PL")).Reachable state :=
    TransitionSystem.reachable_of_runLabels (mandateStart_isStart 500000) run
  exact ⟨state, run, balance_of_runs state reached (py "client") 500000 same.1, same.2⟩

/-! ## Revocations -/

section Revoked

variable (mandateId : Uuid)

/-- Neither is the mandate registered again at the bank, nor resumed there. -/
def RecurringState.leavesRevoked (state : RecurringState) : RecurringAction → Bool
  | .record index _ =>
      (state.mandates[index]?).all fun mandate => mandate.db.mandate.id ≠ mandateId
  | .resumed resumed => resumed ≠ mandateId
  | _ => true

/-- The debits of a mandate. -/
def debitsOf (debits : List Debit) : List Debit :=
  debits.filter fun debit => debit.mandateId = mandateId

/-- The mandate is revoked at the bank. -/
def MandateBank.Revoked (bank : MandateBank) : Prop :=
  ∃ entry, bank.localMandates.get? mandateId = some entry ∧ entry.revokedLocally = true

/-- Since a state in which the mandate was revoked, it takes nothing, and runs
which were not known there are rejected. -/
structure RevokedSince (before state : RecurringState) : Prop where
  revoked : state.bank.Revoked mandateId
  debits : debitsOf mandateId state.debits = debitsOf mandateId before.debits
  rejected : ∀ mandate ∈ state.mandates, mandate.db.mandate.id = mandateId →
    ∀ executionId ∈ executionIds mandate,
      before.bank.executedRuns.get? executionId = none →
        ∀ response, state.bank.executedRuns.get? executionId = some response →
          response = .rejected .mandateRevokedLocally

variable {mandateId} {before : RecurringState}

/-- The bank rejects new runs of a revoked mandate. -/
theorem classifyRun_of_revoked
    {bank : MandateBank} (revoked : bank.Revoked mandateId)
    {payload : RecurringExecuteWebhookIn} (about : payload.recurringTransferId = mandateId) :
    classifyRun payload bank = .error .mandateRevokedLocally := by
  rcases revoked with ⟨entry, found, flagged⟩
  simp only [classifyRun, about, found, Option.any_some, flagged, if_true]

/-- A change of the entries which keeps the revocation. -/
theorem MandateBank.Revoked.update
    {bank : MandateBank} (revoked : bank.Revoked mandateId)
    (change : LocalMandate → LocalMandate) (changed : Uuid)
    (kept : ∀ entry, entry.revokedLocally = true →
      (change entry).revokedLocally = true ∨ changed ≠ mandateId) :
    ∃ entry, (updateMandate change changed bank.localMandates).get? mandateId = some entry ∧
      entry.revokedLocally = true := by
  rcases revoked with ⟨entry, found, flagged⟩
  refine ⟨if changed = mandateId then change entry else entry, ?_, ?_⟩
  · rw [get?_updateMandate, found, Option.map_some]
  · split
    · rename_i same
      exact (kept entry flagged).resolve_right (not_not.mpr same)
    · exact flagged

/-- A run of another mandate leaves the mandate alone, and one of this mandate
is rejected. -/
theorem RevokedSince.received
    (since : RevokedSince mandateId before state) (agree : RunsAgree env state)
    {mandate : MandateState} (member : mandate ∈ state.mandates)
    {payload : RecurringExecuteWebhookIn} (about : RequestOf payload mandate)
    (stamp : RunStamp) :
    RevokedSince mandateId before (state.received bankZone stamp payload) := by
  constructor
  · simp only [RecurringState.received, webhookRecurringExecute]
    split
    · exact since.revoked
    · exact since.revoked.update _ _ fun entry flagged => .inl flagged
  · have nothing : debitsOf mandateId (runDebit payload state.bank).toList = [] := by
      simp only [runDebit]
      split
      · rfl
      · split
        · rfl
        · rename_i executed
          by_cases own : payload.recurringTransferId = mandateId
          · rw [classifyRun_of_revoked since.revoked own] at executed
            cases executed
          · simp [debitsOf, own]
    rw [← since.debits, debitsOf, RecurringState.received, List.filter_append, ← debitsOf,
      ← debitsOf, nothing, List.append_nil]
  · intro owner ownerMember id executionId key unknown response known
    rcases executedRuns_received bankZone stamp payload known with rfl | earlier
    · cases old : state.bank.executedRuns.get? payload.executionId with
      | some first =>
          have same := get?_executedRuns_webhook bankZone stamp payload state.bank old
          simp only [RecurringState.received] at known
          rw [same] at known
          cases known
          exact since.rejected owner ownerMember id _ key unknown response old
      | none =>
          have unique : owner = mandate :=
            agree.mandate_unique ownerMember member key about.executionId
          subst unique
          simp only [RecurringState.received, webhookRecurringExecute, old,
            classifyRun_of_revoked since.revoked (about.mandateId.trans id), newResponse,
            InsertionDict.get?_set, if_pos, Option.some.injEq] at known
          exact known.symm
    · exact since.rejected owner ownerMember id executionId key unknown response earlier

/-- KLIK goes on with a mandate. -/
theorem RevokedSince.put
    (since : RevokedSince mandateId before state)
    {mandate next : MandateState} {index : Nat}
    (going : state.mandates[index]? = some mandate) {action : MandateAction}
    (step : (mandateSystem env).Step mandate action next)
    (unasked : ∀ now executionId refused, action = .startRun now executionId refused →
      state.bank.executedRuns.get? executionId = none) :
    RevokedSince mandateId before (state.putMandate index next) := by
  constructor
  · exact since.revoked
  · exact since.debits
  · intro owner ownerMember id executionId key unknown response known
    rcases List.mem_or_eq_of_mem_set ownerMember with old | rfl
    · exact since.rejected owner old id executionId key unknown response known
    · have member := List.mem_of_getElem? going
      have sameId := (charge_eq_of_step step).1.symm.trans id
      rcases keys_of_step env step with same | ⟨now, claimed, refused, label, added⟩
      · rw [executionIds, same] at key
        exact since.rejected mandate member sameId executionId key unknown response known
      · rw [executionIds, added] at key
        rcases List.mem_append.mp key with old | new
        · exact since.rejected mandate member sameId executionId old unknown response known
        · cases List.mem_singleton.mp new
          rw [RecurringState.putMandate, unasked now executionId refused label] at known
          cases known

/-- The bank was not asked for a run which KLIK has not claimed. -/
theorem executedRuns_of_fresh
    (reached : (recurringSystem env bankZone).Reachable state) {executionId : Uuid}
    (fresh : executionId ∉ state.mandates.flatMap executionIds) :
    state.bank.executedRuns.get? executionId = none := by
  cases known : state.bank.executedRuns.get? executionId with
  | none => rfl
  | some response =>
      rcases repliesAsked_of_reachable reached executionId response known with
        ⟨mandate, member, call, sent, about, _⟩
      have agree := runsAgree_of_reachable reached
      have asked := ((grounded_of_reachable env (agree.reached mandate member)).sent call sent).1
      rw [about] at asked
      exact absurd (List.mem_flatMap.mpr ⟨mandate, member, asked⟩) fresh

theorem revokedSince_step
    {after : RecurringState} {action : RecurringAction}
    (since : RevokedSince mandateId before state)
    (reached : (recurringSystem env bankZone).Reachable state)
    (leaves : state.leavesRevoked mandateId action = true)
    (move : (recurringSystem env bankZone).Step state action after) :
    RevokedSince mandateId before after := by
  have agree := runsAgree_of_reachable reached
  cases recurringMove_of_step env bankZone move with
  | same => exact since
  | klik going allowed step =>
      apply since.put going step
      rintro now executionId refused rfl
      exact executedRuns_of_fresh reached (fresh_of_allows allowed)
  | exchanged going pending received step =>
      have about := (requestOf_pending pending received).1
      apply (since.received agree (List.mem_of_getElem? going) about _).put going step
      rintro now executionId refused label
      cases label
  | delivered going member received =>
      have mandateMember := List.mem_of_getElem? going
      have about := requestOf_sent (agree.reached _ mandateMember) member received
      exact since.received agree mandateMember about _
  | @recorded index status mandate going =>
      simp only [RecurringState.leavesRevoked, going, Option.all_some, decide_eq_true_eq]
        at leaves
      refine ⟨?_, since.debits, since.rejected⟩
      rcases since.revoked with ⟨entry, found, flagged⟩
      refine ⟨entry, ?_, flagged⟩
      simp only [apiCreateRecurringRecord, InsertionDict.get?_set, if_neg leaves, found]
  | updated changed change user revoked =>
      refine ⟨since.revoked.update change changed ?_, since.debits, since.rejected⟩
      intro entry flagged
      rcases revoked entry flagged with kept | rfl
      · exact .inl kept
      · right
        simpa [RecurringState.leavesRevoked] using leaves
  | moved => exact ⟨since.revoked, since.debits, since.rejected⟩

/-- From a state in which the client has revoked the mandate at the bank, until
it is resumed there: nothing more is taken for it, and new runs are answered
that it was revoked. -/
theorem revoked_takes_nothing
    (state : RecurringState) (reached : (recurringSystem env bankZone).Reachable state)
    (mandateId : Uuid) (revoked : state.bank.Revoked mandateId)
    (actions : List RecurringAction) (later : RecurringState)
    (path : ((recurringSystem env bankZone).guarded fun state action =>
      state.leavesRevoked mandateId action = true).Path state actions later) :
    RevokedSince mandateId state later := by
  induction path with
  | refl =>
      refine ⟨revoked, rfl, ?_⟩
      intro mandate member id executionId key unknown response known
      rw [unknown] at known
      cases known
  | step before move since =>
      exact revokedSince_step since (before.of_guarded.reachable reached) move.1 move.2

end Revoked

/-- The client revokes the new mandate. -/
def clientRevokes : List RecurringAction :=
  [.record 0 (py "ACTIVE"), .revokeLocally 1]

/-- The first run is executed at the bank, and again. -/
def runAfterRevocation : List RecurringAction :=
  firstClaimed ++ [.exchange 0 0 (runStamp "AAAAAAAAAA"), .deliver 0 0 (runStamp "BBBBBBBBBB")]

/-- The runs of the revoked mandate are rejected. -/
theorem revoked_takes_nothing_runAfterRevocation :
    ∃ state later, TransitionSystem.runLabels (recurringStep documentedEnv (py "PL"))
        (mandateStart 500000) clientRevokes = some state ∧
      TransitionSystem.runLabels (recurringStep documentedEnv (py "PL")) state
        runAfterRevocation = some later ∧
      later.replies = [(1, .rejected .mandateRevokedLocally),
        (1, .rejected .mandateRevokedLocally)] ∧
      RevokedSince 1 state later := by
  have shown : (TransitionSystem.runLabels (recurringStep documentedEnv (py "PL"))
      (mandateStart 500000) clientRevokes).map (fun state =>
        (state.bank.localMandates,
          (TransitionSystem.runLabels
            (TransitionSystem.guardStep (recurringStep documentedEnv (py "PL"))
              fun state action => state.leavesRevoked 1 action) state runAfterRevocation).map
            RecurringState.replies)) =
      some ([(1, ⟨py "client", py "ACTIVE", true, none, none⟩)],
        some [(1, .rejected .mandateRevokedLocally), (1, .rejected .mandateRevokedLocally)]) := by
    decide +kernel
  rcases Option.map_eq_some_iff.mp shown with ⟨state, run, same⟩
  simp only [Prod.mk.injEq] at same
  rcases same with ⟨entries, answered⟩
  rcases Option.map_eq_some_iff.mp answered with ⟨later, guarded, replies⟩
  have reached : (recurringSystem documentedEnv (py "PL")).Reachable state :=
    TransitionSystem.reachable_of_runLabels (mandateStart_isStart 500000) run
  have revoked : state.bank.Revoked 1 := by
    refine ⟨⟨py "client", py "ACTIVE", true, none, none⟩, ?_, rfl⟩
    rw [entries]
    rfl
  refine ⟨state, later, run, TransitionSystem.runLabels_of_guardStep guarded, replies, ?_⟩
  exact revoked_takes_nothing state reached 1 revoked runAfterRevocation later
    (TransitionSystem.guarded_path_of_runLabels guarded)

end Klik.BankIO
