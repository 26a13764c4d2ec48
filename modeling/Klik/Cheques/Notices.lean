import Klik.Cheques.ChequeEvents

/-!
# Notifications of the issuer's bank

The bank releases or keeps the hold of its client as the notifications say.
They agree with the committed cheques as long as no redeem request comes to an
overdue one: this queues the release inside the block which its exception
takes back.
-/

namespace Klik.Cheques

open Klik.Agents
open Klik.Banks
open Klik.Codes
open Klik.Common
open Klik.Ledger
open Klik.Lib

/-! ## What is claimed -/

/-- The status which a release reports. -/
def ReleaseReason.status : ReleaseReason → ChequeStatus
  | .cancelled => .cancelled
  | .expired => .expired

/-- The committed status of a cheque. -/
def statusOf (chequeId : Uuid) (cheques : List Cheque) : Option ChequeStatus :=
  (rowAt Cheque.id cheques chequeId).map Cheque.status

def ChequeNotification.releases (chequeId : Uuid) : ChequeNotification → Bool
  | .released id _ => id = chequeId
  | .redeemed _ => false

/-- How many releases of a cheque were queued. -/
def releasesOf (chequeId : Uuid) (outbox : List ChequeNotification) : Nat :=
  outbox.countP (ChequeNotification.releases chequeId)

/-- Every queued notification reports the committed status, now and in every
run from here, and no cheque is released twice. -/
structure NoticesAgree (state : ChequeState) : Prop where
  released : ∀ chequeId reason, .released chequeId reason ∈ state.outbox →
    ∀ actions after, chequeSystem.Path state actions after →
      statusOf chequeId after.db.cheques = some reason.status
  once : ∀ chequeId, releasesOf chequeId state.outbox ≤ 1
  redeemed : ∀ chequeId, .redeemed chequeId ∈ state.outbox →
    ∀ actions after, chequeSystem.Path state actions after →
      statusOf chequeId after.db.cheques = some .redeemed

/-- No redeem request reports an overdue cheque. -/
def RedeemsInTime (state : ChequeState) (action : ChequeAction) : Prop :=
  match action with
  | .redeem request => ∀ cheque, ¬ ReportsOverdue request state.db cheque
  | _ => True

/-! ## The invariant -/

/-- The notifications, and the ones which redeem requests will queue, report
the committed status. -/
structure NoticesKept (state : ChequeState) : Prop where
  released : ∀ chequeId reason, .released chequeId reason ∈ state.outbox →
    statusOf chequeId state.db.cheques = some reason.status
  once : ∀ chequeId, releasesOf chequeId state.outbox ≤ 1
  redeemed : ∀ chequeId, .redeemed chequeId ∈ state.outbox →
    statusOf chequeId state.db.cheques = some .redeemed
  going : ∀ redemption ∈ state.redemptions,
    statusOf redemption.cheque.id state.db.cheques = some .redeemed

theorem ReleaseReason.status_ne_active (reason : ReleaseReason) :
    reason.status ≠ .active := by
  cases reason with
  | cancelled => exact nofun
  | expired => exact nofun

/-- A status which is not active is the last one. -/
theorem statusOf_of_ended
    {state after : ChequeState} (reached : chequeSystem.Reachable state)
    {actions : List ChequeAction} (path : chequeSystem.Path state actions after)
    {chequeId : Uuid} {status : ChequeStatus}
    (has : statusOf chequeId state.db.cheques = some status) (ended : status ≠ .active) :
    statusOf chequeId after.db.cheques = some status := by
  rcases Option.map_eq_some_iff.mp has with ⟨cheque, found, its⟩
  apply Option.map_eq_some_iff.mpr
  refine ⟨cheque, rowAt_of_ended reached path found ?_, its⟩
  rw [its]
  exact ended

theorem statusOf_of_mem
    {cheques : List Cheque} (ids : (cheques.map Cheque.id).Nodup)
    {cheque : Cheque} (member : cheque ∈ cheques) :
    statusOf cheque.id cheques = some cheque.status := by
  simp only [statusOf, rowAt_of_mem ids member, Option.map_some]

/-- The status of a row which was overwritten. -/
theorem statusOf_saveRow
    {cheques : List Cheque} (ids : (cheques.map Cheque.id).Nodup)
    {cheque : Cheque} (member : cheque ∈ cheques) {row : Cheque}
    (sameId : row.id = cheque.id) :
    statusOf cheque.id (saveRow Cheque.id row cheques) = some row.status := by
  simp only [statusOf, rowAt_saveRow, rowAt_of_mem ids member, Option.map_some, sameId,
    if_true]

/-- The invariant of a step which queues nothing and redeems nothing. -/
theorem NoticesKept.of_step
    {state after : ChequeState} {action : ChequeAction}
    (reached : chequeSystem.Reachable state) (kept : NoticesKept state)
    (move : chequeSystem.Step state action after)
    (outbox : after.outbox = state.outbox)
    (going : ∀ redemption ∈ after.redemptions,
      redemption ∈ state.redemptions ∨
        statusOf redemption.cheque.id after.db.cheques = some .redeemed) :
    NoticesKept after := by
  have path : chequeSystem.Path state _ after := .step (.refl state) move
  constructor
  · intro chequeId reason member
    rw [outbox] at member
    exact statusOf_of_ended reached path (kept.released chequeId reason member)
      reason.status_ne_active
  · rw [outbox]
    exact kept.once
  · intro chequeId member
    rw [outbox] at member
    exact statusOf_of_ended reached path (kept.redeemed chequeId member) nofun
  · intro redemption member
    rcases going redemption member with old | new
    · exact statusOf_of_ended reached path (kept.going redemption old) nofun
    · exact new

/-- The invariant after a release of a cheque which was active. -/
theorem NoticesKept.release
    {state after : ChequeState} {action : ChequeAction}
    (reached : chequeSystem.Reachable state) (kept : NoticesKept state)
    (move : chequeSystem.Step state action after)
    {cheque : Cheque} {reason : ReleaseReason}
    (before : statusOf cheque.id state.db.cheques = some .active)
    (released : statusOf cheque.id after.db.cheques = some reason.status)
    (outbox : after.outbox = state.outbox ++ [.released cheque.id reason])
    (redemptions : after.redemptions = state.redemptions) :
    NoticesKept after := by
  have path : chequeSystem.Path state _ after := .step (.refl state) move
  -- an earlier release would have reported that the cheque is not active
  have first : releasesOf cheque.id state.outbox = 0 := by
    apply List.countP_eq_zero.mpr
    intro notice member releases
    cases notice with
    | redeemed id => cases releases
    | released id earlier =>
        cases of_decide_eq_true releases
        rw [kept.released cheque.id earlier member] at before
        exact earlier.status_ne_active (Option.some.inj before)
  constructor
  · intro chequeId its member
    rw [outbox] at member
    rcases List.mem_append.mp member with old | new
    · exact statusOf_of_ended reached path (kept.released chequeId its old)
        its.status_ne_active
    · cases List.mem_singleton.mp new
      exact released
  · intro chequeId
    rw [outbox, releasesOf, List.countP_append, List.countP_singleton]
    by_cases same : cheque.id = chequeId
    · rw [← same]
      have none := first
      rw [releasesOf] at none
      rw [none, Nat.zero_add]
      split
      · exact Nat.le_refl 1
      · exact Nat.zero_le 1
    · have other : ChequeNotification.releases chequeId (.released cheque.id reason) = false :=
        decide_eq_false same
      rw [other]
      exact kept.once chequeId
  · intro chequeId member
    rw [outbox] at member
    rcases List.mem_append.mp member with old | new
    · exact statusOf_of_ended reached path (kept.redeemed chequeId old) nofun
    · cases List.mem_singleton.mp new
  · intro redemption member
    rw [redemptions] at member
    exact statusOf_of_ended reached path (kept.going redemption member) nofun

theorem noticesKept_step
    {state after : ChequeState} {action : ChequeAction}
    (reached : chequeSystem.Reachable state) (kept : NoticesKept state)
    (inTime : RedeemsInTime state action)
    (move : chequeSystem.Step state action after) : NoticesKept after := by
  have ids := (chequeInvariant reached).ids
  cases event_of_step move with
  | quiet cheques transactions entries redemptions outbox =>
      apply kept.of_step reached move outbox
      intro redemption member
      rw [redemptions] at member
      exact Or.inl member
  | created issuing chequeId refused fresh inserted cheques transactions entries
      redemptions outbox =>
      apply kept.of_step reached move outbox
      intro redemption member
      rw [redemptions] at member
      exact Or.inl member
  | redeemed request cheque tx redeems cheques transactions entries redemptions outbox =>
      apply kept.of_step reached move outbox
      intro redemption member
      rw [redemptions] at member
      rcases List.mem_append.mp member with old | new
      · exact Or.inl old
      · right
        rw [List.mem_singleton.mp new, cheques]
        exact statusOf_saveRow ids redeems.member rfl
  | overdue request cheque reports db redemptions outbox => exact absurd reports (inTime cheque)
  | finished redemption banks refused going =>
      constructor
      · intro chequeId reason member
        rcases List.mem_append.mp member with old | new
        · exact kept.released chequeId reason old
        · cases List.mem_singleton.mp new
      · intro chequeId
        simp only [ChequeState.redeemFinished, releasesOf, List.countP_append]
        exact kept.once chequeId
      · intro chequeId member
        rcases List.mem_append.mp member with old | new
        · exact kept.redeemed chequeId old
        · cases List.mem_singleton.mp new
          exact kept.going redemption going
      · intro other member
        exact kept.going other (List.mem_of_mem_erase member)
  | cancelled request cheque member active cheques transactions entries redemptions outbox =>
      refine kept.release reached move ?_ ?_ outbox redemptions
      · rw [statusOf_of_mem ids member, active]
      · rw [cheques]
        exact statusOf_saveRow ids member rfl
  | expired run refused cheque member active cheques transactions entries redemptions
      outbox =>
      refine kept.release reached move ?_ ?_ outbox redemptions
      · rw [statusOf_of_mem ids member, active]
      · rw [cheques]
        exact statusOf_saveRow ids member rfl

theorem noticesKept_of_reachable
    {state : ChequeState}
    (reached : (chequeSystem.guarded RedeemsInTime).Reachable state) :
    NoticesKept state := by
  apply reached.invariant
  · rintro start ⟨noCheques, _, noRedemptions, _, noNotices⟩
    constructor
    · intro chequeId reason member
      rw [noNotices] at member
      cases member
    · intro chequeId
      rw [noNotices]
      exact Nat.zero_le 1
    · intro chequeId member
      rw [noNotices] at member
      cases member
    · intro redemption member
      rw [noRedemptions] at member
      cases member
  · intro source action target sourceReached kept move
    exact noticesKept_step sourceReached.of_guarded kept move.1 move.2

theorem noticesAgree_of_kept
    {state : ChequeState} (reached : chequeSystem.Reachable state)
    (kept : NoticesKept state) : NoticesAgree state := by
  constructor
  · intro chequeId reason member actions after path
    exact statusOf_of_ended reached path (kept.released chequeId reason member)
      reason.status_ne_active
  · exact kept.once
  · intro chequeId member actions after path
    exact statusOf_of_ended reached path (kept.redeemed chequeId member) nofun

/-- A reported overdue cheque is still active. -/
theorem not_noticesAgree_of_step
    {state after : ChequeState} {action : ChequeAction}
    (reached : chequeSystem.Reachable state)
    (late : ¬ RedeemsInTime state action)
    (move : chequeSystem.Step state action after) : ¬ NoticesAgree after := by
  intro agree
  simp only [chequeSystem, TransitionSystem.ofStep] at move
  cases action with
  | redeem request =>
      simp only [RedeemsInTime, not_forall, not_not] at late
      rcases late with ⟨cheque, reports⟩
      cases move
      have row := lockActive_ok reports.locked
      have reported := redeem_of_reportsOverdue reports
      have queued : .released cheque.id .expired ∈ (state.redeemed request).outbox := by
        simp only [ChequeState.redeemed, reported]
        exact List.mem_append_right _ (List.mem_singleton_self _)
      have status := agree.released cheque.id .expired queued [] _ (.refl _)
      simp only [ChequeState.redeemed, reported] at status
      rw [statusOf_of_mem (chequeInvariant reached).ids row.1, row.2.2] at status
      cases status
  | _ => exact late trivial

/-- While no redeem request reports an overdue cheque, notifications agree with
the committed cheques; such a request ends this at once. -/
theorem notices_agree (state : ChequeState) :
    ((chequeSystem.guarded RedeemsInTime).Reachable state → NoticesAgree state) ∧
      ∀ action after, chequeSystem.Reachable state → ¬ RedeemsInTime state action →
        chequeSystem.Step state action after → ¬ NoticesAgree after := by
  constructor
  · intro reached
    exact noticesAgree_of_kept reached.of_guarded (noticesKept_of_reachable reached)
  · intro action after reached late move
    exact not_noticesAgree_of_step reached late move

/-! ## Cheques which are redeemed, cancelled or overdue -/

/-- One of two cheques is redeemed and the other one cancelled. -/
def redeemAndCancel : List ChequeAction :=
  issueActions (py "a") (py "123456789") 1 ++ issueActions (py "b") (py "987654321") 2 ++
    [.redeem (redeemRequest (py "123456789") 5 [1]), .finishRedeem soldRedemption [] false,
      .cancel ⟨polishBank 1, 2, 6, none⟩]

/-- The redeem requests queue nothing. -/
def queuesNothing (state : ChequeState) (action : ChequeAction) : Bool :=
  match action with
  | .redeem request => (redeem request state.db).queued.isEmpty
  | _ => true

theorem redeemsInTime_of_queuesNothing
    {state : ChequeState} {action : ChequeAction}
    (nothing : queuesNothing state action = true) : RedeemsInTime state action := by
  cases action with
  | redeem request =>
      intro cheque reports
      simp only [queuesNothing, redeem_of_reportsOverdue reports] at nothing
      cases nothing
  | _ => trivial

/-- A redeem request comes to the cheque after its hour. -/
def lateRedeem : RedeemRequest := redeemRequest (py "123456789") 4000000000 [1]

theorem lateRedeem_queued :
    (TransitionSystem.runLabels chequeStep noCheques
      (issueActions (py "a") (py "123456789") 1)).map
        (fun state => ((redeem lateRedeem state.db).queued, statusOf 1 state.db.cheques)) =
      some ([.released 1 .expired], some .active) := by
  decide +kernel

/-- Both notifications agree with the cheques, and the one of the late request
does not. -/
theorem notices_agree_redeemAndCancel :
    (∃ state, TransitionSystem.runLabels chequeStep noCheques redeemAndCancel = some state ∧
      state.outbox = [.redeemed 1, .released 2 .cancelled] ∧ NoticesAgree state) ∧
      ∃ state, chequeSystem.Reachable state ∧ ¬ NoticesAgree (state.redeemed lateRedeem) := by
  constructor
  · have queued : (TransitionSystem.runLabels
        (TransitionSystem.guardStep chequeStep queuesNothing) noCheques redeemAndCancel).map
          ChequeState.outbox = some [.redeemed 1, .released 2 .cancelled] := by
      decide +kernel
    rcases Option.map_eq_some_iff.mp queued with ⟨state, run, outbox⟩
    refine ⟨state, TransitionSystem.runLabels_of_guardStep run, outbox, ?_⟩
    apply (notices_agree state).1
    have path : (chequeSystem.guarded fun state action =>
        queuesNothing state action = true).Path noCheques redeemAndCancel state :=
      TransitionSystem.guarded_path_of_runLabels run
    have guarded : (chequeSystem.guarded RedeemsInTime).Path
        noCheques redeemAndCancel state := by
      apply path.mono
      intro before action after move
      exact ⟨redeemsInTime_of_queuesNothing move.1, move.2⟩
    exact guarded.reachable (.init ⟨rfl, rfl, rfl, rfl, rfl⟩)
  · rcases Option.map_eq_some_iff.mp lateRedeem_queued with ⟨state, run, shown⟩
    have reached : chequeSystem.Reachable state :=
      TransitionSystem.reachable_of_runLabels ⟨rfl, rfl, rfl, rfl, rfl⟩ run
    refine ⟨state, reached, ?_⟩
    apply (notices_agree state).2 (.redeem lateRedeem) _ reached
    · intro inTime
      rcases redeem_queued lateRedeem state.db with quiet | ⟨cheque, reports, _⟩
      · rw [quiet] at shown
        cases (Prod.mk.injEq .. ▸ shown).1
      · exact inTime cheque reports
    · rfl

/-- The overdue cheque is released and stays active. -/
theorem overdue_cheque_released_active :
    ¬ ∀ state, chequeSystem.Reachable state → NoticesAgree state := by
  intro agree
  rcases Option.map_eq_some_iff.mp lateRedeem_queued with ⟨state, run, shown⟩
  have reached : chequeSystem.Reachable state :=
    TransitionSystem.reachable_of_runLabels ⟨rfl, rfl, rfl, rfl, rfl⟩ run
  have move : chequeSystem.Step state (.redeem lateRedeem) (state.redeemed lateRedeem) := rfl
  simp only [Prod.mk.injEq] at shown
  rcases redeem_queued lateRedeem state.db with quiet | ⟨cheque, _, reported⟩
  · rw [quiet] at shown
    cases shown.1
  · have notices := agree _ (reached.step move)
    have status := notices.released 1 .expired
      (List.mem_append_right _ (by rw [shown.1]; exact List.mem_singleton_self _))
      [] _ (.refl _)
    simp only [ChequeState.redeemed, reported] at status
    rw [shown.2] at status
    cases status

end Klik.Cheques
