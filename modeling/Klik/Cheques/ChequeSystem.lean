import Klik.Cheques.Views

/-!
# Cheques under concurrent requests

`expire_due_cheques`, and the system of all requests and runs of the task.
Every change of a cheque happens in an atomic block which holds the lock of
its row, so that one block is one step; drawing codes, selecting the due
cheques, booking a redeemed cheque and the blocks of one run of the task are
steps of their own, between which anything else may happen.
-/

namespace Klik.Cheques

open Klik.Agents
open Klik.Banks
open Klik.Codes
open Klik.Common
open Klik.Ledger
open Klik.Lib

/-! ## The task -/

/-- A run of `expire_due_cheques`: its reading of the clock, and the selected
cheques which it has not come to yet. -/
structure ExpireRun where
  now : Instant
  ids : List Uuid
deriving DecidableEq, Repr

/-- The filter of the selection. -/
def isDue (now : Instant) (cheque : Cheque) : Bool :=
  cheque.status = .active && cheque.expiresAt ≤ now

/-- What the selection may return: due cheques, without those whose row is
locked, at most a thousand. -/
def selectable (now : Instant) (ids : List Uuid) (cheques : List Cheque) : Bool :=
  ids.length ≤ 1000 && decide ids.Nodup &&
    ids.all fun id => (rowAt Cheque.id cheques id).any (isDue now)

/-- The block for one selected cheque; the time is not compared again. -/
def expireBlock (now : Instant) (chequeId : Uuid) (refused : Bool) (db : ChequeDb) :
    Outcome Cheque :=
  match rowAt Cheque.id db.cheques chequeId with
  | none => .raise .doesNotExist db
  | some cheque =>
      if cheque.status ≠ .active then .raise .doesNotExist db
      else if refused then .raise (.database .operational) db
      else
        let expired := cheque.expiredAtTime now
        { result := .ok expired
          db := { db with cheques := saveRow Cheque.id expired db.cheques }
          queued := [] }

/-- One turn of the loop of `expire_due_cheques`; errors are swallowed. -/
def expireOne (now : Instant) (chequeId : Uuid) (refused : Bool) (db : ChequeDb) :
    Outcome Cheque :=
  let outcome := atomic db (expireBlock now chequeId refused db)
  match outcome.result with
  | .error _ => outcome
  | .ok _ =>
      { outcome with queued := outcome.queued ++ [.released chequeId .expired] }

/-! ## The system -/

/-- The tables, the requests and runs which are under way, and every task
which was ever queued, in order. -/
structure ChequeState where
  db : ChequeDb
  issuing : List Issuing
  redemptions : List Redemption
  expiring : List ExpireRun
  outbox : List ChequeNotification
deriving DecidableEq, Repr

inductive ChequeAction where
  | startIssue (request : IssueRequest)
  | drawCode (issuing : Issuing) (code : PyStr)
  | createCheque (issuing : Issuing) (chequeId : Uuid) (refused : Bool)
  | redeem (request : RedeemRequest)
  | finishRedeem (redemption : Redemption) (banks : List Bank) (refused : Bool)
  | cancel (request : CancelRequest)
  | selectDue (now : Instant) (ids : List Uuid)
  | expire (run : ExpireRun) (refused : Bool)
  /-- Another operation books its entries. -/
  | book (created : List LedgerEntry)

/-- The state after the checks of an issue request. -/
def ChequeState.issueStarted (request : IssueRequest) (state : ChequeState) :
    ChequeState :=
  match startIssue request state.db.cheques with
  | .ok (.inr issuing) => { state with issuing := state.issuing ++ [issuing] }
  | _ => state

/-- The state after an issue request has drawn a code. -/
def ChequeState.codeDrawn (issuing : Issuing) (code : PyStr) (state : ChequeState) :
    ChequeState :=
  { state with
    issuing := state.issuing.erase issuing ++ [issuing.draw code state.db.cheques] }

/-- The state after an issue request has inserted its cheque. -/
def ChequeState.chequeCreated
    (issuing : Issuing) (chequeId : Uuid) (refused : Bool) (state : ChequeState) :
    ChequeState :=
  let ended := { state with issuing := state.issuing.erase issuing }
  match createCheque chequeId refused issuing state.db.cheques with
  | .error _ => ended
  | .ok cheques => { ended with db := { state.db with cheques := cheques } }

/-- The state after the block of a redeem request. -/
def ChequeState.redeemed (request : RedeemRequest) (state : ChequeState) :
    ChequeState :=
  let outcome := Cheques.redeem request state.db
  { state with
    db := outcome.db
    redemptions := state.redemptions ++
      match outcome.result with
      | .error _ => []
      | .ok redemption => [redemption]
    outbox := state.outbox ++ outcome.queued }

/-- The state after the entries of a redeemed cheque were booked and its
notification was queued. -/
def ChequeState.redeemFinished
    (redemption : Redemption) (banks : List Bank) (refused : Bool)
    (state : ChequeState) : ChequeState :=
  { state with
    db := { state.db with
      entries := bookRedemption banks refused redemption state.db.entries }
    redemptions := state.redemptions.erase redemption
    outbox := state.outbox ++ [.redeemed redemption.cheque.id] }

/-- The state after a cancel request. -/
def ChequeState.cancelled (request : CancelRequest) (state : ChequeState) :
    ChequeState :=
  let outcome := Cheques.cancel request state.db
  { state with
    db := outcome.db
    outbox := state.outbox ++ outcome.queued }

/-- The state after a run came to its next cheque. -/
def ChequeState.expiredNext (run : ExpireRun) (refused : Bool) (state : ChequeState) :
    ChequeState :=
  match run.ids with
  | [] => { state with expiring := state.expiring.erase run }
  | id :: rest =>
      let outcome := expireOne run.now id refused state.db
      { state with
        db := outcome.db
        expiring := state.expiring.erase run ++ [{ run with ids := rest }]
        outbox := state.outbox ++ outcome.queued }

/-- One step, where it is possible. -/
def chequeStep (state : ChequeState) : ChequeAction → Option ChequeState
  | .startIssue request => some (state.issueStarted request)
  | .drawCode issuing code =>
      if issuing ∈ state.issuing ∧ 0 < issuing.left ∧ isChequeCode code = true then
        some (state.codeDrawn issuing code)
      else none
  | .createCheque issuing chequeId refused =>
      if issuing ∈ state.issuing ∧ issuing.left = 0 then
        some (state.chequeCreated issuing chequeId refused)
      else none
  | .redeem request => some (state.redeemed request)
  | .finishRedeem redemption banks refused =>
      if redemption ∈ state.redemptions then
        some (state.redeemFinished redemption banks refused)
      else none
  | .cancel request => some (state.cancelled request)
  | .selectDue now ids =>
      if selectable now ids state.db.cheques then
        some { state with expiring := state.expiring ++ [⟨now, ids⟩] }
      else none
  | .expire run refused =>
      if run ∈ state.expiring then some (state.expiredNext run refused) else none
  | .book created =>
      some { state with
        db := { state.db with entries := state.db.entries ++ created } }

/-- Before any cheque, with the payments and the entries of other endpoints. -/
def ChequeState.IsStart (state : ChequeState) : Prop :=
  state.db.cheques = [] ∧ state.issuing = [] ∧ state.redemptions = [] ∧
    state.expiring = [] ∧ state.outbox = []

def chequeSystem : TransitionSystem ChequeState ChequeAction :=
  .ofStep ChequeState.IsStart chequeStep

/-! ## What one step does to the tables -/

/-- A cheque as it is inserted. -/
structure Cheque.IsNew (cheque : Cheque) : Prop where
  status : cheque.status = .active
  redeemedAt : cheque.redeemedAt = none
  cancelledAt : cheque.cancelledAt = none
  expiredAt : cheque.expiredAt = none
  transaction : cheque.transaction = none

/-- A run has selected the cheque at the given time. -/
def ChequeState.Selected (state : ChequeState) (now : Instant) (chequeId : Uuid) :
    Prop :=
  ∃ run ∈ state.expiring, run.now = now ∧ chequeId ∈ run.ids

/-- The effect of a step on the cheques and the payments. -/
inductive ChequeEffect (state : ChequeState) : ChequeState → Prop where
  | same {after : ChequeState}
      (cheques : after.db.cheques = state.db.cheques)
      (transactions : after.db.transactions = state.db.transactions) :
      ChequeEffect state after
  | issued {after : ChequeState} (cheque : Cheque)
      (fresh : ∀ old ∈ state.db.cheques, old.id ≠ cheque.id)
      (new : cheque.IsNew)
      (cheques : after.db.cheques = state.db.cheques ++ [cheque])
      (transactions : after.db.transactions = state.db.transactions) :
      ChequeEffect state after
  | redeemed {after : ChequeState} (request : RedeemRequest) (cheque : Cheque)
      (tx : Transaction)
      (redeems : Redeems request state.db cheque tx)
      (cheques : after.db.cheques =
        saveRow Cheque.id (cheque.redeemedWith request.now tx.id) state.db.cheques)
      (transactions : after.db.transactions = state.db.transactions ++ [tx]) :
      ChequeEffect state after
  | cancelled {after : ChequeState} (cheque : Cheque) (now : Instant)
      (member : cheque ∈ state.db.cheques)
      (active : cheque.status = .active)
      (cheques : after.db.cheques =
        saveRow Cheque.id (cheque.cancelledAtTime now) state.db.cheques)
      (transactions : after.db.transactions = state.db.transactions) :
      ChequeEffect state after
  | expired {after : ChequeState} (cheque : Cheque) (now : Instant)
      (found : rowAt Cheque.id state.db.cheques cheque.id = some cheque)
      (active : cheque.status = .active)
      (selected : state.Selected now cheque.id)
      (cheques : after.db.cheques =
        saveRow Cheque.id (cheque.expiredAtTime now) state.db.cheques)
      (transactions : after.db.transactions = state.db.transactions) :
      ChequeEffect state after

/-- Either a turn of the task changes nothing, or it expires its cheque. -/
theorem expireOne_cases
    (now : Instant) (chequeId : Uuid) (refused : Bool) (db : ChequeDb) :
    (∃ error, expireOne now chequeId refused db = .raise error db) ∨
      ∃ cheque, rowAt Cheque.id db.cheques chequeId = some cheque ∧
        cheque.status = .active ∧
        expireOne now chequeId refused db =
          { result := .ok (cheque.expiredAtTime now)
            db := { db with
              cheques := saveRow Cheque.id (cheque.expiredAtTime now) db.cheques }
            queued := [.released chequeId .expired] } := by
  simp only [expireOne, expireBlock]
  cases found : rowAt Cheque.id db.cheques chequeId with
  | none => exact Or.inl ⟨_, rfl⟩
  | some cheque =>
      by_cases active : cheque.status = .active
      · cases refused with
        | true =>
            left
            exact ⟨.database .operational, by simp [active, atomic, Outcome.raise]⟩
        | false =>
            right
            exact ⟨cheque, rfl, active, by simp [active, atomic]⟩
      · left
        exact ⟨.doesNotExist, by simp [active, atomic, Outcome.raise]⟩

/-- What a run does when it comes to its next cheque. -/
theorem effect_expiredNext
    {state : ChequeState} {run : ExpireRun} (refused : Bool)
    (going : run ∈ state.expiring) :
    ChequeEffect state (state.expiredNext run refused) := by
  simp only [ChequeState.expiredNext]
  split
  · exact .same rfl rfl
  · rename_i id rest ids
    rcases expireOne_cases run.now id refused state.db with
      ⟨error, raised⟩ | ⟨cheque, found, active, carried⟩
    · simp only [raised]
      exact .same rfl rfl
    · have atId : cheque.id = id := (mem_of_rowAt found).2
      simp only [carried]
      refine .expired cheque run.now (atId ▸ found) active ⟨run, going, rfl, ?_⟩ rfl rfl
      rw [ids, atId]
      exact List.mem_cons_self

/-- The effect of every step. -/
theorem effect_of_step
    {state after : ChequeState} {action : ChequeAction}
    (move : chequeSystem.Step state action after) :
    ChequeEffect state after := by
  simp only [chequeSystem, TransitionSystem.ofStep] at move
  cases action with
  | startIssue request =>
      cases move
      simp only [ChequeState.issueStarted]
      split
      · exact .same rfl rfl
      · exact .same rfl rfl
  | drawCode issuing code =>
      simp only [chequeStep] at move
      split at move
      · cases move
        exact .same rfl rfl
      · cases move
  | createCheque issuing chequeId refused =>
      simp only [chequeStep] at move
      split at move
      · cases move
        simp only [ChequeState.chequeCreated]
        split
        · exact .same rfl rfl
        · rename_i cheques created
          have inserted := createCheque_ok created
          refine .issued (issuing.cheque chequeId) inserted.2
            ⟨rfl, rfl, rfl, rfl, rfl⟩ inserted.1 rfl
      · cases move
  | redeem request =>
      cases move
      rcases redeem_cases request state.db with
        ⟨error, raised, unchanged⟩ | ⟨cheque, tx, redeems, carried⟩
      · refine .same ?_ ?_
        · exact congrArg ChequeDb.cheques unchanged
        · exact congrArg ChequeDb.transactions unchanged
      · refine .redeemed request cheque tx redeems ?_ ?_
        · exact congrArg (fun outcome => outcome.db.cheques) carried
        · exact congrArg (fun outcome => outcome.db.transactions) carried
  | finishRedeem redemption banks refused =>
      simp only [chequeStep] at move
      split at move
      · cases move
        exact .same rfl rfl
      · cases move
  | cancel request =>
      cases move
      rcases cancel_cases request state.db with
        ⟨error, raised⟩ | ⟨cheque, member, active, _, carried⟩
      · refine .same ?_ ?_
        · exact congrArg (fun outcome => outcome.db.cheques) raised
        · exact congrArg (fun outcome => outcome.db.transactions) raised
      · refine .cancelled cheque request.now member active ?_ ?_
        · exact congrArg (fun outcome => outcome.db.cheques) carried
        · exact congrArg (fun outcome => outcome.db.transactions) carried
  | selectDue now ids =>
      simp only [chequeStep] at move
      split at move
      · cases move
        exact .same rfl rfl
      · cases move
  | expire run refused =>
      simp only [chequeStep] at move
      split at move
      · rename_i going
        cases move
        exact effect_expiredNext refused going
      · cases move
  | book created =>
      cases move
      exact .same rfl rfl

/-- A cheque which a run has selected was selected before, or is due now. -/
theorem selected_of_step
    {state after : ChequeState} {action : ChequeAction}
    (move : chequeSystem.Step state action after)
    {now : Instant} {chequeId : Uuid} (selected : after.Selected now chequeId) :
    state.Selected now chequeId ∨
      ∃ cheque, rowAt Cheque.id state.db.cheques chequeId = some cheque ∧
        cheque.expiresAt ≤ now := by
  rcases selected with ⟨run, member, atTime, waiting⟩
  -- Only the two actions of the task touch the list of its runs.
  have unchanged : after.expiring = state.expiring → state.Selected now chequeId :=
    fun same => ⟨run, same ▸ member, atTime, waiting⟩
  simp only [chequeSystem, TransitionSystem.ofStep] at move
  cases action with
  | startIssue request =>
      cases move
      left
      apply unchanged
      simp only [ChequeState.issueStarted]
      split
      · rfl
      · rfl
  | drawCode issuing code =>
      simp only [chequeStep] at move
      split at move
      · cases move
        exact Or.inl (unchanged rfl)
      · cases move
  | createCheque issuing chequeId refused =>
      simp only [chequeStep] at move
      split at move
      · cases move
        left
        apply unchanged
        simp only [ChequeState.chequeCreated]
        split
        · rfl
        · rfl
      · cases move
  | redeem request =>
      cases move
      exact Or.inl (unchanged rfl)
  | finishRedeem redemption banks refused =>
      simp only [chequeStep] at move
      split at move
      · cases move
        exact Or.inl (unchanged rfl)
      · cases move
  | cancel request =>
      cases move
      exact Or.inl (unchanged rfl)
  | selectDue time ids =>
      simp only [chequeStep] at move
      split at move
      · rename_i allowed
        cases move
        rcases List.mem_append.mp member with earlier | new
        · exact Or.inl ⟨run, earlier, atTime, waiting⟩
        · right
          cases List.mem_singleton.mp new
          subst atTime
          simp only [selectable, Bool.and_eq_true, List.all_eq_true,
            Option.any_eq_true] at allowed
          rcases allowed.2 chequeId waiting with ⟨cheque, found, due⟩
          simp only [isDue, Bool.and_eq_true, decide_eq_true_eq] at due
          exact ⟨cheque, found, due.2⟩
      · cases move
  | expire going refused =>
      simp only [chequeStep] at move
      split at move
      · rename_i isGoing
        cases move
        left
        simp only [ChequeState.expiredNext] at member
        split at member
        · exact ⟨run, List.mem_of_mem_erase member, atTime, waiting⟩
        · rename_i id rest ids
          rcases List.mem_append.mp member with earlier | shortened
          · exact ⟨run, List.mem_of_mem_erase earlier, atTime, waiting⟩
          · cases List.mem_singleton.mp shortened
            refine ⟨going, isGoing, atTime, ?_⟩
            rw [ids]
            exact List.mem_cons_of_mem _ waiting
      · cases move
  | book created =>
      cases move
      exact Or.inl (unchanged rfl)

end Klik.Cheques
