import Klik.Cheques.ChequeSafety

/-!
# What each action does

The effect of a step with the action it belongs to, on the cheques, the
payments, the requests which still have to book, and the queued notifications.
-/

namespace Klik.Cheques

open Klik.Agents
open Klik.Banks
open Klik.Codes
open Klik.Common
open Klik.Ledger
open Klik.Lib

/-- A redeem request comes to an active cheque whose time has passed, and the
server takes the row. -/
structure ReportsOverdue
    (request : RedeemRequest) (db : ChequeDb) (cheque : Cheque) : Prop where
  merchant : ∃ merchant,
    request.merchants.find? (fun merchant => merchant.id = request.merchantId) =
        some merchant ∧
      merchant.zone = request.agent.zone
  locked : lockActive request.chequeCode request.seen db.cheques = .ok cheque
  overdue : cheque.expiresAt ≤ request.now
  carried : request.refused ≠ some .saveCheque

/-- The block of a redeem request queues a notification only where it reports
an overdue cheque. -/
theorem redeemBlock_queued
    (request : RedeemRequest) (merchant : Merchant) (db : ChequeDb) :
    (redeemBlock request merchant db).queued = [] ∨
      ∃ cheque, lockActive request.chequeCode request.seen db.cheques = .ok cheque ∧
        cheque.expiresAt ≤ request.now ∧ request.refused ≠ some .saveCheque ∧
        (redeemBlock request merchant db).result = .error (.api chequeExpiredError) ∧
        (redeemBlock request merchant db).queued = [.released cheque.id .expired] := by
  simp only [redeemBlock]
  cases locked : lockActive request.chequeCode request.seen db.cheques with
  | error error => exact Or.inl rfl
  | ok cheque =>
      simp only
      split
      · rename_i overdue
        split
        · exact Or.inl rfl
        · rename_i carried
          exact Or.inr ⟨cheque, rfl, overdue, carried, rfl, rfl⟩
      · left
        split
        · rfl
        · split
          · rfl
          · split
            · rfl
            · split
              · rfl
              · rfl

theorem redeem_queued (request : RedeemRequest) (db : ChequeDb) :
    (redeem request db).queued = [] ∨
      ∃ cheque, ReportsOverdue request db cheque ∧
        redeem request db =
          { result := .error (.api chequeExpiredError)
            db := db
            queued := [.released cheque.id .expired] } := by
  simp only [redeem]
  split
  · exact Or.inl rfl
  · rename_i merchant found
    split
    · exact Or.inl rfl
    · rename_i zone
      rcases redeemBlock_queued request merchant db with
        quiet | ⟨cheque, locked, overdue, carried, raised, queued⟩
      · left
        rw [queued_atomic, quiet]
      · right
        refine ⟨cheque, ⟨⟨merchant, found, not_not.mp zone⟩, locked, overdue, carried⟩, ?_⟩
        simp only [atomic, raised, queued]

/-- Where a request reports an overdue cheque, it does so. -/
theorem redeem_of_reportsOverdue
    {request : RedeemRequest} {db : ChequeDb} {cheque : Cheque}
    (reports : ReportsOverdue request db cheque) :
    redeem request db =
      { result := .error (.api chequeExpiredError)
        db := db
        queued := [.released cheque.id .expired] } := by
  rcases reports with ⟨⟨merchant, found, zone⟩, locked, overdue, carried⟩
  simp only [redeem, found, zone, ne_eq, not_true_eq_false, if_false, redeemBlock, locked,
    if_pos overdue, if_neg carried, atomic]

/-- What an action does. -/
inductive ChequeEvent (state : ChequeState) : ChequeAction → ChequeState → Prop where
  | quiet {action : ChequeAction} {after : ChequeState}
      (cheques : after.db.cheques = state.db.cheques)
      (transactions : after.db.transactions = state.db.transactions)
      (entries : ∃ created, after.db.entries = state.db.entries ++ created)
      (redemptions : after.redemptions = state.redemptions)
      (outbox : after.outbox = state.outbox) :
      ChequeEvent state action after
  | created {after : ChequeState} (issuing : Issuing) (chequeId : Uuid) (refused : Bool)
      (fresh : ∀ old ∈ state.db.cheques, old.id ≠ chequeId)
      (inserted : createCheque chequeId refused issuing state.db.cheques =
        .ok (state.db.cheques ++ [issuing.cheque chequeId]))
      (cheques : after.db.cheques = state.db.cheques ++ [issuing.cheque chequeId])
      (transactions : after.db.transactions = state.db.transactions)
      (entries : after.db.entries = state.db.entries)
      (redemptions : after.redemptions = state.redemptions)
      (outbox : after.outbox = state.outbox) :
      ChequeEvent state (.createCheque issuing chequeId refused) after
  | redeemed {after : ChequeState} (request : RedeemRequest) (cheque : Cheque)
      (tx : Transaction)
      (redeems : Redeems request state.db cheque tx)
      (cheques : after.db.cheques =
        saveRow Cheque.id (cheque.redeemedWith request.now tx.id) state.db.cheques)
      (transactions : after.db.transactions = state.db.transactions ++ [tx])
      (entries : after.db.entries = state.db.entries)
      (redemptions : after.redemptions =
        state.redemptions ++ [⟨cheque.redeemedWith request.now tx.id, tx⟩])
      (outbox : after.outbox = state.outbox) :
      ChequeEvent state (.redeem request) after
  | overdue {after : ChequeState} (request : RedeemRequest) (cheque : Cheque)
      (reports : ReportsOverdue request state.db cheque)
      (db : after.db = state.db)
      (redemptions : after.redemptions = state.redemptions)
      (outbox : after.outbox = state.outbox ++ [.released cheque.id .expired]) :
      ChequeEvent state (.redeem request) after
  | finished (redemption : Redemption) (banks : List Bank) (refused : Bool)
      (going : redemption ∈ state.redemptions) :
      ChequeEvent state (.finishRedeem redemption banks refused)
        (state.redeemFinished redemption banks refused)
  | cancelled {after : ChequeState} (request : CancelRequest) (cheque : Cheque)
      (member : cheque ∈ state.db.cheques)
      (active : cheque.status = .active)
      (cheques : after.db.cheques =
        saveRow Cheque.id (cheque.cancelledAtTime request.now) state.db.cheques)
      (transactions : after.db.transactions = state.db.transactions)
      (entries : after.db.entries = state.db.entries)
      (redemptions : after.redemptions = state.redemptions)
      (outbox : after.outbox = state.outbox ++ [.released cheque.id .cancelled]) :
      ChequeEvent state (.cancel request) after
  | expired {after : ChequeState} (run : ExpireRun) (refused : Bool) (cheque : Cheque)
      (member : cheque ∈ state.db.cheques)
      (active : cheque.status = .active)
      (cheques : after.db.cheques =
        saveRow Cheque.id (cheque.expiredAtTime run.now) state.db.cheques)
      (transactions : after.db.transactions = state.db.transactions)
      (entries : after.db.entries = state.db.entries)
      (redemptions : after.redemptions = state.redemptions)
      (outbox : after.outbox = state.outbox ++ [.released cheque.id .expired]) :
      ChequeEvent state (.expire run refused) after

theorem event_redeemed (request : RedeemRequest) (state : ChequeState) :
    ChequeEvent state (.redeem request) (state.redeemed request) := by
  rcases redeem_cases request state.db with
    ⟨error, raised, unchanged⟩ | ⟨cheque, tx, redeems, carried⟩
  · rcases redeem_queued request state.db with quiet | ⟨cheque, reports, reported⟩
    · refine .quiet ?_ ?_ ⟨[], ?_⟩ ?_ ?_
      · simp only [ChequeState.redeemed, unchanged]
      · simp only [ChequeState.redeemed, unchanged]
      · simp only [ChequeState.redeemed, unchanged, List.append_nil]
      · simp only [ChequeState.redeemed, raised, List.append_nil]
      · simp only [ChequeState.redeemed, quiet, List.append_nil]
    · refine .overdue request cheque reports ?_ ?_ ?_
      · simp only [ChequeState.redeemed, reported]
      · simp only [ChequeState.redeemed, reported, List.append_nil]
      · simp only [ChequeState.redeemed, reported]
  · refine .redeemed request cheque tx redeems ?_ ?_ ?_ ?_ ?_
    · simp only [ChequeState.redeemed, carried]
    · simp only [ChequeState.redeemed, carried]
    · simp only [ChequeState.redeemed, carried]
    · simp only [ChequeState.redeemed, carried]
    · simp only [ChequeState.redeemed, carried, List.append_nil]

theorem event_cancelled (request : CancelRequest) (state : ChequeState) :
    ChequeEvent state (.cancel request) (state.cancelled request) := by
  rcases cancel_cases request state.db with
    ⟨error, raised⟩ | ⟨cheque, member, active, _, carried⟩
  · refine .quiet ?_ ?_ ⟨[], ?_⟩ rfl ?_
    · simp only [ChequeState.cancelled, raised, Outcome.raise]
    · simp only [ChequeState.cancelled, raised, Outcome.raise]
    · simp only [ChequeState.cancelled, raised, Outcome.raise, List.append_nil]
    · simp only [ChequeState.cancelled, raised, Outcome.raise, List.append_nil]
  · refine .cancelled request cheque member active ?_ ?_ ?_ rfl ?_
    · simp only [ChequeState.cancelled, carried]
    · simp only [ChequeState.cancelled, carried]
    · simp only [ChequeState.cancelled, carried]
    · simp only [ChequeState.cancelled, carried]

theorem event_expiredNext (run : ExpireRun) (refused : Bool) (state : ChequeState) :
    ChequeEvent state (.expire run refused) (state.expiredNext run refused) := by
  simp only [ChequeState.expiredNext]
  split
  · exact .quiet rfl rfl ⟨[], (List.append_nil _).symm⟩ rfl rfl
  · rename_i id rest ids
    rcases expireOne_cases run.now id refused state.db with
      ⟨error, raised⟩ | ⟨cheque, found, active, carried⟩
    · refine .quiet ?_ ?_ ⟨[], ?_⟩ rfl ?_
      · simp only [raised, Outcome.raise]
      · simp only [raised, Outcome.raise]
      · simp only [raised, Outcome.raise, List.append_nil]
      · simp only [raised, Outcome.raise, List.append_nil]
    · have row := mem_of_rowAt found
      refine .expired run refused cheque row.1 active ?_ ?_ ?_ rfl ?_
      · simp only [carried]
      · simp only [carried]
      · simp only [carried]
      · simp only [carried, row.2]

/-- The event of every step. -/
theorem event_of_step
    {state after : ChequeState} {action : ChequeAction}
    (move : chequeSystem.Step state action after) :
    ChequeEvent state action after := by
  have nothing : ∃ created, state.db.entries = state.db.entries ++ created :=
    ⟨[], (List.append_nil _).symm⟩
  simp only [chequeSystem, TransitionSystem.ofStep] at move
  cases action with
  | startIssue request =>
      cases move
      simp only [ChequeState.issueStarted]
      split
      · exact .quiet rfl rfl nothing rfl rfl
      · exact .quiet rfl rfl nothing rfl rfl
  | drawCode issuing code =>
      simp only [chequeStep] at move
      split at move
      · cases move
        exact .quiet rfl rfl nothing rfl rfl
      · cases move
  | createCheque issuing chequeId refused =>
      simp only [chequeStep] at move
      split at move
      · cases move
        simp only [ChequeState.chequeCreated]
        split
        · exact .quiet rfl rfl nothing rfl rfl
        · rename_i cheques created
          have inserted := createCheque_ok created
          cases inserted.1
          exact .created issuing chequeId refused inserted.2 created rfl rfl rfl rfl rfl
      · cases move
  | redeem request =>
      cases move
      exact event_redeemed request state
  | finishRedeem redemption banks refused =>
      simp only [chequeStep] at move
      split at move
      · rename_i going
        cases move
        exact .finished redemption banks refused going
      · cases move
  | cancel request =>
      cases move
      exact event_cancelled request state
  | selectDue now ids =>
      simp only [chequeStep] at move
      split at move
      · cases move
        exact .quiet rfl rfl nothing rfl rfl
      · cases move
  | expire run refused =>
      simp only [chequeStep] at move
      split at move
      · cases move
        exact event_expiredNext run refused state
      · cases move
  | book created =>
      cases move
      exact .quiet rfl rfl ⟨created, rfl⟩ rfl rfl

end Klik.Cheques
