import Klik.Cheques.ChequeSystem

/-!
# A cheque is spent at most once

What can become of a cheque is a value which carries its own timeliness: a
cheque is redeemed before it expires, and expires no earlier.  The row of a
cheque shows such a value, every change of a row ends a live one, and
therefore the status, the timestamps and the payment of a row always agree.
-/

namespace Klik.Cheques

open Klik.Agents
open Klik.Banks
open Klik.Codes
open Klik.Common
open Klik.Ledger
open Klik.Lib

/-! ## What becomes of a cheque -/

/-- What has become of a cheque with a given time of expiry. -/
inductive Fate (expiresAt : Instant) where
  | live
  | redeemed (at_ : Instant) (early : at_ < expiresAt) (transactionId : Uuid)
  | cancelled (at_ : Instant)
  | expired (at_ : Instant) (due : expiresAt ≤ at_)

namespace Fate

variable {expiresAt : Instant}

def status : Fate expiresAt → ChequeStatus
  | .live => .active
  | .redeemed _ _ _ => .redeemed
  | .cancelled _ => .cancelled
  | .expired _ _ => .expired

def redeemedAt : Fate expiresAt → Option Instant
  | .redeemed at_ _ _ => some at_
  | _ => none

def cancelledAt : Fate expiresAt → Option Instant
  | .cancelled at_ => some at_
  | _ => none

def expiredAt : Fate expiresAt → Option Instant
  | .expired at_ _ => some at_
  | _ => none

def transaction : Fate expiresAt → Option Uuid
  | .redeemed _ _ transactionId => some transactionId
  | _ => none

end Fate

/-- The columns of a cheque show what has become of it. -/
structure Cheque.Shows (cheque : Cheque) (fate : Fate cheque.expiresAt) : Prop where
  status : cheque.status = fate.status
  redeemedAt : cheque.redeemedAt = fate.redeemedAt
  cancelledAt : cheque.cancelledAt = fate.cancelledAt
  expiredAt : cheque.expiredAt = fate.expiredAt
  transaction : cheque.transaction = fate.transaction

/-- Only the timestamp of the status is set, at a time which fits it, and
there is a payment exactly when the cheque is redeemed. -/
structure Cheque.Consistent (cheque : Cheque) : Prop where
  redeemedAt_iff : cheque.redeemedAt.isSome ↔ cheque.status = .redeemed
  cancelledAt_iff : cheque.cancelledAt.isSome ↔ cheque.status = .cancelled
  expiredAt_iff : cheque.expiredAt.isSome ↔ cheque.status = .expired
  transaction_iff : cheque.transaction.isSome ↔ cheque.status = .redeemed
  redeemed_early : ∀ at_, cheque.redeemedAt = some at_ → at_ < cheque.expiresAt
  expired_late : ∀ at_, cheque.expiredAt = some at_ → cheque.expiresAt ≤ at_

theorem Cheque.Shows.consistent
    {cheque : Cheque} {fate : Fate cheque.expiresAt} (shows_ : cheque.Shows fate) :
    cheque.Consistent := by
  constructor
  · rw [shows_.redeemedAt, shows_.status]
    cases fate <;> simp [Fate.redeemedAt, Fate.status]
  · rw [shows_.cancelledAt, shows_.status]
    cases fate <;> simp [Fate.cancelledAt, Fate.status]
  · rw [shows_.expiredAt, shows_.status]
    cases fate <;> simp [Fate.expiredAt, Fate.status]
  · rw [shows_.transaction, shows_.status]
    cases fate <;> simp [Fate.transaction, Fate.status]
  · intro time redeemed
    rw [shows_.redeemedAt] at redeemed
    cases fate with
    | redeemed at_ early transactionId =>
        cases redeemed
        exact early
    | live => cases redeemed
    | cancelled at_ => cases redeemed
    | expired at_ due => cases redeemed
  · intro time expired
    rw [shows_.expiredAt] at expired
    cases fate with
    | expired at_ due =>
        cases expired
        exact due
    | live => cases expired
    | cancelled at_ => cases expired
    | redeemed at_ early transactionId => cases expired

/-- An active cheque is live. -/
theorem Cheque.Shows.live
    {cheque : Cheque} {fate : Fate cheque.expiresAt} (shows_ : cheque.Shows fate)
    (active : cheque.status = .active) : fate = .live := by
  have status := shows_.status
  rw [active] at status
  cases fate with
  | live => rfl
  | redeemed at_ early transactionId => cases status
  | cancelled at_ => cases status
  | expired at_ due => cases status

theorem Cheque.IsNew.shows_live
    {cheque : Cheque} (new : cheque.IsNew) : cheque.Shows .live :=
  ⟨new.status, new.redeemedAt, new.cancelledAt, new.expiredAt, new.transaction⟩

/-! ## Changes of a row -/

/-- How the row of a cheque may change: it is active, and ends in one of three
ways. -/
inductive ChequeChange (cheque : Cheque) : Cheque → Prop where
  | redeemed (now : Instant) (transactionId : Uuid)
      (active : cheque.status = .active)
      (early : now < cheque.expiresAt) :
      ChequeChange cheque (cheque.redeemedWith now transactionId)
  | cancelled (now : Instant)
      (active : cheque.status = .active) :
      ChequeChange cheque (cheque.cancelledAtTime now)
  | expired (now : Instant)
      (active : cheque.status = .active)
      (due : cheque.expiresAt ≤ now) :
      ChequeChange cheque (cheque.expiredAtTime now)

theorem ChequeChange.active
    {cheque next : Cheque} (change : ChequeChange cheque next) :
    cheque.status = .active := by
  cases change with
  | redeemed now transactionId active early => exact active
  | cancelled now active => exact active
  | expired now active due => exact active

theorem ChequeChange.ended
    {cheque next : Cheque} (change : ChequeChange cheque next) : next.status ≠ .active := by
  cases change <;> exact nofun

theorem ChequeChange.expiresAt
    {cheque next : Cheque} (change : ChequeChange cheque next) :
    next.expiresAt = cheque.expiresAt := by
  cases change <;> rfl

/-- A change of the row ends a live cheque. -/
theorem ChequeChange.ends
    {cheque next : Cheque} (change : ChequeChange cheque next)
    {fate : Fate cheque.expiresAt} (shows_ : cheque.Shows fate) :
    fate = .live ∧ ∃ ended : Fate next.expiresAt, ended ≠ .live ∧ next.Shows ended := by
  have live := shows_.live change.active
  subst live
  refine ⟨rfl, ?_⟩
  cases change with
  | redeemed now transactionId active early =>
      exact ⟨.redeemed now early transactionId, nofun,
        rfl, rfl, shows_.cancelledAt, shows_.expiredAt, rfl⟩
  | cancelled now active =>
      exact ⟨.cancelled now, nofun,
        rfl, shows_.redeemedAt, rfl, shows_.expiredAt, shows_.transaction⟩
  | expired now active due =>
      exact ⟨.expired now due, nofun,
        rfl, shows_.redeemedAt, shows_.cancelledAt, rfl, shows_.transaction⟩

/-! ## The invariant -/

/-- The payment of a cheque is completed over its amount. -/
def Cheque.Linked (cheque : Cheque) (transactions : List Transaction) : Prop :=
  ∀ transactionId, cheque.transaction = some transactionId →
    ∃ tx, rowAt Transaction.id transactions transactionId = some tx ∧
      tx.status = .completed ∧ tx.amountGross = cheque.amount

/-- No payment belongs to two cheques. -/
def Unshared (cheques : List Cheque) : Prop :=
  ∀ first ∈ cheques, ∀ second ∈ cheques, ∀ transactionId,
    first.transaction = some transactionId →
      second.transaction = some transactionId → first.id = second.id

structure ChequeInvariant (state : ChequeState) : Prop where
  ids : (state.db.cheques.map Cheque.id).Nodup
  shown : ∀ cheque ∈ state.db.cheques, ∃ fate, cheque.Shows fate
  linked : ∀ cheque ∈ state.db.cheques, cheque.Linked state.db.transactions
  unshared : Unshared state.db.cheques
  due : ∀ now chequeId, state.Selected now chequeId →
    ∃ cheque, rowAt Cheque.id state.db.cheques chequeId = some cheque ∧
      cheque.expiresAt ≤ now

/-- An active cheque has no payment. -/
theorem ChequeInvariant.transaction_of_active
    {state : ChequeState} (invariant : ChequeInvariant state)
    {cheque : Cheque} (member : cheque ∈ state.db.cheques)
    (active : cheque.status = .active) : cheque.transaction = none := by
  rcases invariant.shown cheque member with ⟨fate, shows_⟩
  rw [shows_.transaction, shows_.live active]
  rfl

/-- Every step is one statement on the table of cheques. -/
theorem table_of_step
    {state after : ChequeState} {action : ChequeAction}
    (invariant : ChequeInvariant state)
    (move : chequeSystem.Step state action after) :
    TableStep Cheque.id Cheque.IsNew ChequeChange
      state.db.cheques after.db.cheques := by
  cases effect_of_step move with
  | same cheques transactions =>
      rw [cheques]
      exact .same
  | issued cheque fresh new cheques transactions =>
      rw [cheques]
      exact .insert cheque fresh new
  | redeemed request cheque tx redeems cheques transactions =>
      rw [cheques]
      exact .update cheque _ redeems.member rfl
        (.redeemed request.now tx.id redeems.active redeems.early)
  | cancelled cheque now member active cheques transactions =>
      rw [cheques]
      exact .update cheque _ member rfl (.cancelled now active)
  | expired cheque now found active selected cheques transactions =>
      rw [cheques]
      rcases invariant.due now cheque.id selected with ⟨row, atId, due⟩
      have same : row = cheque := Option.some.inj (atId.symm.trans found)
      exact .update cheque _ (mem_of_rowAt found).1 rfl
        (.expired now active (same ▸ due))

theorem Cheque.Linked.append
    {cheque : Cheque} {transactions : List Transaction}
    (linked : cheque.Linked transactions) (added : List Transaction) :
    cheque.Linked (transactions ++ added) := by
  intro transactionId link
  rcases linked transactionId link with ⟨tx, found, completed⟩
  exact ⟨tx, rowAt_append found added, completed⟩

/-- Every payment of a cheque is kept by a step. -/
theorem linked_step
    {state after : ChequeState} {action : ChequeAction}
    (invariant : ChequeInvariant state)
    (move : chequeSystem.Step state action after) :
    ∀ cheque ∈ after.db.cheques, cheque.Linked after.db.transactions := by
  -- A row which is overwritten without a payment has none to look for.
  have overwritten : ∀ row : Cheque, row.transaction = none →
      ∀ cheque ∈ saveRow Cheque.id row state.db.cheques,
        cheque.Linked state.db.transactions := by
    intro row unlinked cheque member transactionId link
    rcases mem_saveRow member with rfl | ⟨earlier, _⟩
    · rw [unlinked] at link
      cases link
    · exact invariant.linked cheque earlier transactionId link
  cases effect_of_step move with
  | same cheques transactions =>
      rw [cheques, transactions]
      exact invariant.linked
  | issued cheque fresh new cheques transactions =>
      rw [cheques, transactions]
      intro row member
      rcases List.mem_append.mp member with earlier | added
      · exact invariant.linked row earlier
      · cases List.mem_singleton.mp added
        intro transactionId link
        rw [new.transaction] at link
        cases link
  | redeemed request cheque tx redeems cheques transactions =>
      rw [cheques, transactions]
      intro row member
      rcases mem_saveRow member with rfl | ⟨earlier, _⟩
      · intro transactionId link
        cases link
        exact ⟨tx, rowAt_append_fresh redeems.fresh, redeems.completed, redeems.amount⟩
      · exact (invariant.linked row earlier).append [tx]
  | cancelled cheque now member active cheques transactions =>
      rw [cheques, transactions]
      have unlinked := invariant.transaction_of_active member active
      exact overwritten _ unlinked
  | expired cheque now found active selected cheques transactions =>
      rw [cheques, transactions]
      have unlinked := invariant.transaction_of_active (mem_of_rowAt found).1 active
      exact overwritten _ unlinked

/-- A row without a payment shares none. -/
theorem Unshared.saveRow
    {cheques : List Cheque} (unshared : Unshared cheques)
    {row : Cheque} (unlinked : row.transaction = none) :
    Unshared (saveRow Cheque.id row cheques) := by
  intro first firstMember second secondMember transactionId firstLink secondLink
  rcases mem_saveRow firstMember with rfl | ⟨firstEarlier, _⟩
  · rw [unlinked] at firstLink
    cases firstLink
  · rcases mem_saveRow secondMember with rfl | ⟨secondEarlier, _⟩
    · rw [unlinked] at secondLink
      cases secondLink
    · exact unshared first firstEarlier second secondEarlier transactionId
        firstLink secondLink

theorem unshared_step
    {state after : ChequeState} {action : ChequeAction}
    (invariant : ChequeInvariant state)
    (move : chequeSystem.Step state action after) :
    Unshared after.db.cheques := by
  cases effect_of_step move with
  | same cheques transactions =>
      rw [cheques]
      exact invariant.unshared
  | issued cheque fresh new cheques transactions =>
      rw [cheques]
      have linked_earlier : ∀ row ∈ state.db.cheques ++ [cheque],
          ∀ transactionId, row.transaction = some transactionId →
            row ∈ state.db.cheques := by
        intro row member transactionId link
        rcases List.mem_append.mp member with earlier | added
        · exact earlier
        · cases List.mem_singleton.mp added
          rw [new.transaction] at link
          cases link
      intro first firstMember second secondMember transactionId firstLink secondLink
      exact invariant.unshared first
        (linked_earlier first firstMember _ firstLink) second
        (linked_earlier second secondMember _ secondLink) transactionId
        firstLink secondLink
  | redeemed request cheque tx redeems cheques transactions =>
      rw [cheques]
      -- The key of the payment is new, so that no earlier cheque has it.
      have unused : ∀ row ∈ state.db.cheques, row.transaction ≠ some tx.id := by
        intro row member link
        rcases invariant.linked row member tx.id link with ⟨old, found, _⟩
        have atId := mem_of_rowAt found
        exact redeems.fresh old atId.1 atId.2
      intro first firstMember second secondMember transactionId firstLink secondLink
      rcases mem_saveRow firstMember with rfl | ⟨firstEarlier, _⟩
      · cases firstLink
        rcases mem_saveRow secondMember with rfl | ⟨secondEarlier, _⟩
        · rfl
        · exact absurd secondLink (unused second secondEarlier)
      · rcases mem_saveRow secondMember with rfl | ⟨secondEarlier, _⟩
        · cases secondLink
          exact absurd firstLink (unused first firstEarlier)
        · exact invariant.unshared first firstEarlier second secondEarlier
            transactionId firstLink secondLink
  | cancelled cheque now member active cheques transactions =>
      rw [cheques]
      have unlinked := invariant.transaction_of_active member active
      exact invariant.unshared.saveRow unlinked
  | expired cheque now found active selected cheques transactions =>
      rw [cheques]
      have unlinked := invariant.transaction_of_active (mem_of_rowAt found).1 active
      exact invariant.unshared.saveRow unlinked

theorem invariant_step
    {state after : ChequeState} {action : ChequeAction}
    (invariant : ChequeInvariant state)
    (move : chequeSystem.Step state action after) :
    ChequeInvariant after := by
  have table := table_of_step invariant move
  constructor
  · exact table.nodup invariant.ids
  · refine table.forall_mem ?_ ?_ invariant.shown
    · intro cheque new
      exact ⟨.live, new.shows_live⟩
    · rintro cheque next ⟨fate, shows_⟩ change
      rcases (change.ends shows_).2 with ⟨ended, _, endedShows⟩
      exact ⟨ended, endedShows⟩
  · exact linked_step invariant move
  · exact unshared_step invariant move
  · intro now chequeId selected
    have before : ∃ cheque,
        rowAt Cheque.id state.db.cheques chequeId = some cheque ∧
          cheque.expiresAt ≤ now := by
      rcases selected_of_step move selected with earlier | due
      · exact invariant.due now chequeId earlier
      · exact due
    rcases before with ⟨cheque, found, due⟩
    rcases table.rowAt invariant.ids found with same | ⟨next, atId, change⟩
    · exact ⟨cheque, same, due⟩
    · refine ⟨next, atId, ?_⟩
      rw [change.expiresAt]
      exact due

theorem chequeInvariant
    {state : ChequeState} (reached : chequeSystem.Reachable state) :
    ChequeInvariant state := by
  apply reached.invariant
  · rintro start ⟨noCheques, _, _, noRuns, _⟩
    have absent : ∀ cheque, cheque ∉ start.db.cheques := by
      intro cheque member
      rw [noCheques] at member
      cases member
    constructor
    · rw [noCheques]
      exact List.nodup_nil
    · intro cheque member
      exact absurd member (absent cheque)
    · intro cheque member
      exact absurd member (absent cheque)
    · intro first member
      exact absurd member (absent first)
    · rintro now chequeId ⟨run, member, _⟩
      rw [noRuns] at member
      cases member
  · intro source action target _ invariant move
    exact invariant_step invariant move

/-- A cheque which is no longer active stays as it is. -/
theorem rowAt_of_ended
    {state after : ChequeState} (reached : chequeSystem.Reachable state)
    {actions : List ChequeAction} (path : chequeSystem.Path state actions after)
    {chequeId : Uuid} {cheque : Cheque}
    (found : rowAt Cheque.id state.db.cheques chequeId = some cheque)
    (ended : cheque.status ≠ .active) :
    rowAt Cheque.id after.db.cheques chequeId = some cheque := by
  have statement : ∀ source action target,
      chequeSystem.Reachable source → chequeSystem.Step source action target →
        (source.db.cheques.map Cheque.id).Nodup ∧
          TableStep Cheque.id Cheque.IsNew ChequeChange
            source.db.cheques target.db.cheques := by
    intro source action target sourceReached move
    have held := chequeInvariant sourceReached
    exact ⟨held.ids, table_of_step held move⟩
  have final : ∀ next, ¬ ChequeChange cheque next := by
    intro next change
    exact ended change.active
  exact path.rowAt_of_final (fun state => state.db.cheques) statement reached final found

/-- In every reachable state the columns of every cheque agree, no payment
belongs to two cheques, and a cheque which is no longer active stays as it
is in every run from there. -/
theorem cheque_state_machine_safe
    (state : ChequeState) (reached : chequeSystem.Reachable state) :
    (state.db.cheques.map Cheque.id).Nodup ∧
      (∀ cheque ∈ state.db.cheques,
        cheque.Consistent ∧ cheque.Linked state.db.transactions) ∧
      Unshared state.db.cheques ∧
        ∀ (actions : List ChequeAction) (after : ChequeState),
          chequeSystem.Path state actions after →
            ∀ cheque ∈ state.db.cheques, cheque.status ≠ .active →
              rowAt Cheque.id after.db.cheques cheque.id = some cheque := by
  have invariant := chequeInvariant reached
  refine ⟨invariant.ids, ?_, invariant.unshared, ?_⟩
  · intro cheque member
    rcases invariant.shown cheque member with ⟨fate, shows_⟩
    exact ⟨shows_.consistent, invariant.linked cheque member⟩
  · intro actions after path cheque member ended
    exact rowAt_of_ended reached path (rowAt_of_mem invariant.ids member) ended

/-! ## A redeemed cheque -/

/-- No cheque and no payment. -/
def noCheques : ChequeState := ⟨⟨[], [], []⟩, [], [], [], []⟩

/-- Bank 1 issues a cheque of 100 for one hour. -/
def issueRequest (key : PyStr) : IssueRequest where
  bank := polishBank 1
  data :=
    { userId := py "client"
      amount := 100
      currency := "PLN"
      zone := .PL
      ttlSeconds := 3600
      amount_min := cent_le_hundred
      amount_fits := hundred_fits
      ttl_min := by decide
      ttl_max := by decide }
  idempotencyKey := key
  now := 0

/-- The actions which issue a cheque with the given key and code. -/
def issueActions (key code : PyStr) (chequeId : Uuid) : List ChequeAction :=
  [.startIssue (issueRequest key),
    .drawCode ⟨issueRequest key, [], 10⟩ code,
    .createCheque ⟨issueRequest key, code, 0⟩ chequeId false]

/-- An agent of bank 3 redeems a cheque for a merchant of bank 2. -/
def redeemRequest (code : PyStr) (now : Instant) (seen : List Uuid) :
    RedeemRequest where
  agent := ⟨5, polishBank 3, .PL⟩
  chequeCode := code
  merchantId := 6
  idempotencyKey := py "sale-1"
  merchants := [⟨6, polishBank 2, .PL⟩]
  now := now
  splitAt := now
  agreements := [⟨1, 5, 1, 1, 0, none⟩]
  seen := seen
  transactionId := 7
  refused := none

/-- What the request leaves to be done for the cheque which was issued first. -/
def soldRedemption : Redemption :=
  let cheque := Issuing.cheque 1 ⟨issueRequest (py "a"), py "123456789", 0⟩
  let request := redeemRequest (py "123456789") 5 [1]
  { cheque := cheque.redeemedWith request.now request.transactionId
    transaction := request.transaction ⟨6, polishBank 2, .PL⟩ cheque ⟨1, 1, 98, 1⟩ }

/-- A run of the task which has selected the cheque. -/
def lateRun : ExpireRun := ⟨4000000000, [1]⟩

/-- A cheque is issued, selected by the task, and redeemed by a request which
has read the clock before it expired. -/
def spentCheque : Option ChequeState :=
  TransitionSystem.runLabels chequeStep noCheques
    (issueActions (py "a") (py "123456789") 1 ++
      [.selectDue lateRun.now lateRun.ids,
        .redeem (redeemRequest (py "123456789") 5 [1])])

/-- The run of the task comes to the cheque after it was redeemed. -/
theorem cheque_state_machine_safe_spentCheque :
    ∃ state, spentCheque = some state ∧
      (∀ cheque ∈ state.db.cheques, cheque.status = .redeemed ∧ cheque.Consistent) ∧
        ∀ after, chequeStep state (.expire lateRun false) = some after →
          ∀ cheque ∈ state.db.cheques,
            rowAt Cheque.id after.db.cheques cheque.id = some cheque := by
  have issued : (spentCheque.map fun state =>
      (state.db.cheques.map Cheque.status).all (· = .redeemed)) = some true := by
    decide +kernel
  rcases Option.map_eq_some_iff.mp issued with ⟨state, run, redeemed⟩
  have reached : chequeSystem.Reachable state :=
    TransitionSystem.reachable_of_runLabels ⟨rfl, rfl, rfl, rfl, rfl⟩ run
  have status : ∀ cheque ∈ state.db.cheques, cheque.status = .redeemed := by
    simpa using redeemed
  have safe := cheque_state_machine_safe state reached
  refine ⟨state, run, ?_, ?_⟩
  · intro cheque member
    exact ⟨status cheque member, (safe.2.1 cheque member).1⟩
  · intro after move cheque member
    have path : chequeSystem.Path state _ after := .step (.refl state) move
    apply safe.2.2.2 _ after path cheque member
    rw [status cheque member]
    decide

end Klik.Cheques
