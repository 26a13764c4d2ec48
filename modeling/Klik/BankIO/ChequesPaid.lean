import Klik.BankIO.ChequesRefined
import Klik.BankIO.HoldsOnce

/-!
# What the cheques of a client cost

Once the bank has heard of everything, a client has paid for the cheques which
an agent has redeemed, each by one completed payment, and the cheques which can
still be redeemed are held.  Nothing else is missing from the balance.
-/

namespace Klik.BankIO

open Klik.Banks
open Klik.Cheques
open Klik.Codes
open Klik.Common
open Klik.Lib
open Klik.Lib.InsertionDict

/-! ## What is claimed -/

/-- The cheques of the bank for a client which have a status. -/
def chequesOf (bankId : Uuid) (userId : PyStr) (status : ChequeStatus) (cheques : List Cheque) :
    List Cheque :=
  cheques.filter fun cheque =>
    isOwn bankId cheque && cheque.issuerUserId = userId && cheque.status = status

/-- The payment on which a cheque was spent. -/
def chequePayment (transactions : List Transaction) (cheque : Cheque) : Option Transaction :=
  cheque.transaction.bind (rowAt Transaction.id transactions)

/-- The payments on which the cheques for a client were spent. -/
def chequePayments (bankId : Uuid) (userId : PyStr) (db : ChequeDb) : List Transaction :=
  (chequesOf bankId userId .redeemed db.cheques).filterMap (chequePayment db.transactions)

/-- No request is under way, and the bank was told of each of its cheques which
has ended. -/
structure JointState.Settled (bankId : Uuid) (state : JointState) : Prop where
  requests : state.requests = []
  told : ∀ cheque ∈ state.klik.db.cheques, cheque.issuerBank.id = bankId →
    cheque.status ≠ .active → cheque.id ∈ state.told

/-- What the books of a settled bank and KLIK's payments have to do with each
other. -/
structure ChequesPaid (bankId : Uuid) (state : JointState) : Prop where
  balances : ∀ userId opening, state.opening.get? userId = some opening →
    ∃ balance, state.bank.clients.get? userId = some balance ∧
      (balance : Decimal) / 100 = (opening : Decimal) / 100
        - ((chequesOf bankId userId .active state.klik.db.cheques).map Cheque.amount).sum
        - ((chequePayments bankId userId state.klik.db).map Transaction.amountGross).sum
  payments : ∀ userId,
    ((chequePayments bankId userId state.klik.db).map Transaction.id).Nodup ∧
      ∀ tx ∈ chequePayments bankId userId state.klik.db, tx.status = .completed
  returned : ∀ cheque ∈ state.klik.db.cheques, cheque.issuerBank.id = bankId →
    (state.bank.issuedCheques.get? cheque.id).isSome →
      state.returned.count cheque.id = if isReleased cheque.status then 1 else 0

/-! ## Holds and payments -/

variable {bankId : Uuid} {userId : PyStr}

section Holds

variable {told : List Uuid} {cheque : Cheque} {rest : List Cheque}

theorem total_shown_cons (counts : KlikCheque → Int) :
    total counts (shownCheques bankId told (cheque :: rest)) =
      (if isOwn bankId cheque then counts (shownCheque told cheque) else 0) +
        total counts (shownCheques bankId told rest) := by
  simp only [total, shownCheques, tableDict, List.filter_cons]
  split
  · rw [List.map_cons, List.map_cons, List.sum_cons]
  · rw [zero_add]

theorem worth_cons (status : ChequeStatus) :
    ((chequesOf bankId userId status (cheque :: rest)).map Cheque.amount).sum =
      (if isOwn bankId cheque && cheque.issuerUserId = userId && cheque.status = status then
        cheque.amount else 0) +
        ((chequesOf bankId userId status rest).map Cheque.amount).sum := by
  simp only [chequesOf, List.filter_cons]
  split
  · rw [List.map_cons, List.sum_cons]
  · rw [zero_add]

/-- The hold of one cheque. -/
theorem hold_worth
    (cents : cheque.issuerBank.id = bankId →
      cheque.amount = (chequeCents cheque : Decimal) / 100) :
    (((if isOwn bankId cheque then (shownCheque told cheque).held userId else 0 : Int)) :
        Decimal) / 100 =
      (if isOwn bankId cheque && cheque.issuerUserId = userId && cheque.status = .active then
        cheque.amount else 0) +
      (if isOwn bankId cheque && cheque.issuerUserId = userId && cheque.status = .redeemed then
        cheque.amount else 0) := by
  cases own : isOwn bankId cheque with
  | false => simp
  | true =>
      have here := cents (of_decide_eq_true own)
      by_cases user : cheque.issuerUserId = userId
      · cases status : cheque.status with
        | active => simp [user, KlikCheque.held, shownCheque, status, isReleased, here]
        | redeemed => simp [user, KlikCheque.held, shownCheque, status, isReleased, here]
        | cancelled => simp [user, KlikCheque.held, shownCheque, status, isReleased]
        | expired => simp [user, KlikCheque.held, shownCheque, status, isReleased]
      · simp [user, KlikCheque.held, shownCheque]

/-- The holds for a client are over the cheques which are active or redeemed. -/
theorem held_worth
    {cheques : List Cheque}
    (cents : ∀ cheque ∈ cheques, cheque.issuerBank.id = bankId →
      cheque.amount = (chequeCents cheque : Decimal) / 100) :
    ((total (KlikCheque.held userId) (shownCheques bankId told cheques) : Int) : Decimal) / 100 =
      ((chequesOf bankId userId .active cheques).map Cheque.amount).sum +
        ((chequesOf bankId userId .redeemed cheques).map Cheque.amount).sum := by
  induction cheques with
  | nil => simp [shownCheques, tableDict, total, chequesOf]
  | cons cheque rest ih =>
      have later := ih fun other among => cents other (List.mem_cons_of_mem _ among)
      have here := @hold_worth bankId userId told cheque (cents cheque List.mem_cons_self)
      rw [total_shown_cons, worth_cons, worth_cons, Int.cast_add, add_div, here, later]
      ring

end Holds

section Payments

variable {klik : ChequeState} {cheque : Cheque}

/-- A redeemed cheque has its payment, over its amount. -/
theorem payment_of_redeemed
    (invariant : ChequeInvariant klik) (member : cheque ∈ klik.db.cheques)
    (redeemed : cheque.status = .redeemed) :
    ∃ tx, chequePayment klik.db.transactions cheque = some tx ∧
      cheque.transaction = some tx.id ∧ tx.status = .completed ∧
        tx.amountGross = cheque.amount := by
  rcases invariant.shown cheque member with ⟨fate, shows_⟩
  have linked := shows_.consistent.transaction_iff.mpr redeemed
  rcases Option.isSome_iff_exists.mp linked with ⟨transactionId, link⟩
  rcases invariant.linked cheque member transactionId link with ⟨tx, found, completed, amount⟩
  have same : tx.id = transactionId := (mem_of_rowAt found).2
  refine ⟨tx, ?_, ?_, completed, amount⟩
  · rw [chequePayment, link]
    exact found
  · rw [same]
    exact link

/-- The cheques for a client are the bank's, of the given status. -/
theorem mem_chequesOf {status : ChequeStatus} {cheques : List Cheque} :
    cheque ∈ chequesOf bankId userId status cheques ↔
      cheque ∈ cheques ∧ cheque.issuerBank.id = bankId ∧ cheque.issuerUserId = userId ∧
        cheque.status = status := by
  simp only [chequesOf, isOwn, List.mem_filter, Bool.and_eq_true, decide_eq_true_eq, and_assoc]

/-- Redeemed cheques are worth their payments. -/
theorem payments_worth
    (invariant : ChequeInvariant klik) {spent : List Cheque}
    (among : ∀ cheque ∈ spent, cheque ∈ klik.db.cheques ∧ cheque.status = .redeemed) :
    ((spent.filterMap (chequePayment klik.db.transactions)).map Transaction.amountGross).sum =
      (spent.map Cheque.amount).sum := by
  induction spent with
  | nil => rfl
  | cons cheque rest ih =>
      rcases among cheque List.mem_cons_self with ⟨member, redeemed⟩
      rcases payment_of_redeemed invariant member redeemed with ⟨tx, found, _, _, amount⟩
      have later := ih fun other further => among other (List.mem_cons_of_mem _ further)
      rw [List.filterMap_cons_some found, List.map_cons, List.sum_cons, List.map_cons,
        List.sum_cons, amount, later]

/-- Each of them has a payment of its own. -/
theorem nodup_payments
    (invariant : ChequeInvariant klik) {spent : List Cheque}
    (ids : (spent.map Cheque.id).Nodup)
    (among : ∀ cheque ∈ spent, cheque ∈ klik.db.cheques ∧ cheque.status = .redeemed) :
    ((spent.filterMap (chequePayment klik.db.transactions)).map Transaction.id).Nodup := by
  induction spent with
  | nil => exact List.nodup_nil
  | cons cheque rest ih =>
      rw [List.map_cons, List.nodup_cons] at ids
      have further : ∀ other ∈ rest, other ∈ klik.db.cheques ∧ other.status = .redeemed :=
        fun other member => among other (List.mem_cons_of_mem _ member)
      rcases among cheque List.mem_cons_self with ⟨member, redeemed⟩
      rcases payment_of_redeemed invariant member redeemed with ⟨tx, found, link, _⟩
      rw [List.filterMap_cons_some found, List.map_cons, List.nodup_cons]
      refine ⟨?_, ih ids.2 further⟩
      intro again
      rcases List.mem_map.mp again with ⟨other, otherMember, same⟩
      rcases List.mem_filterMap.mp otherMember with ⟨row, rowMember, paid⟩
      rcases further row rowMember with ⟨known, spentToo⟩
      rcases payment_of_redeemed invariant known spentToo with ⟨its, itsFound, itsLink, _⟩
      have one : its = other := Option.some.inj (itsFound.symm.trans paid)
      rw [one, same] at itsLink
      apply ids.1
      rw [invariant.unshared cheque member row known tx.id link itsLink]
      exact List.mem_map_of_mem rowMember

end Payments

/-! ## What cheques cost -/

variable {state : JointState}

/-- The cheque as the bank deals with it. -/
theorem get?_shown
    (ids : (state.klik.db.cheques.map Cheque.id).Nodup) {cheque : Cheque}
    (member : cheque ∈ state.klik.db.cheques) (own : cheque.issuerBank.id = bankId) :
    (state.shown bankId).klik.get? cheque.id = some (shownCheque state.told cheque) :=
  (get?_tableDict ids).mpr ⟨cheque, member, decide_eq_true own, rfl, rfl⟩

theorem JointState.Settled.shown (settled : state.Settled bankId) :
    (state.shown bankId).Settled where
  calls := by
    simp only [JointState.shown, settled.requests]
    rfl
  notified := by
    rintro ⟨chequeId, shown⟩ among ended
    rcases mem_tableDict.mp among with ⟨cheque, member, own, _, rfl⟩
    exact List.contains_iff_mem.mpr
      (settled.told cheque member (of_decide_eq_true own) ended)

theorem redeemed_among {userId : PyStr} {cheques : List Cheque} :
    ∀ cheque ∈ chequesOf bankId userId .redeemed cheques,
      cheque ∈ cheques ∧ cheque.status = .redeemed :=
  fun _ member =>
    have spent := mem_chequesOf.mp member
    ⟨spent.1, spent.2.2.2⟩

/-- Each balance is the one at the start without the amounts of the active
cheques and of the payments of the redeemed ones. -/
theorem balance_of_settled
    (invariant : ChequeInvariant state.klik) (joined : Joined bankId state)
    (kept : Kept (state.shown bankId)) (settled : state.Settled bankId)
    {userId : PyStr} {opening : Int} (opened : state.opening.get? userId = some opening) :
    ∃ balance, state.bank.clients.get? userId = some balance ∧
      (balance : Decimal) / 100 = (opening : Decimal) / 100
        - ((chequesOf bankId userId .active state.klik.db.cheques).map Cheque.amount).sum
        - ((chequePayments bankId userId state.klik.db).map Transaction.amountGross).sum := by
  have balance := kept.books.balance userId
  have start : (state.shown bankId).opening.get? userId = some opening := opened
  rw [kept.held_eq settled.shown userId, start, Option.map_some] at balance
  have worth : ((total (KlikCheque.held userId) (state.shown bankId).klik : Int) : Decimal) / 100 =
      ((chequesOf bankId userId .active state.klik.db.cheques).map Cheque.amount).sum +
        ((chequesOf bankId userId .redeemed state.klik.db.cheques).map Cheque.amount).sum :=
    held_worth joined.cents
  have paid := payments_worth invariant (@redeemed_among bankId userId _)
  refine ⟨_, balance, ?_⟩
  rw [Int.cast_sub, sub_div, worth, chequePayments, paid, sub_sub]

/-- The payments of the redeemed cheques are completed, one for each cheque. -/
theorem completed_payments (invariant : ChequeInvariant state.klik) (userId : PyStr) :
    ((chequePayments bankId userId state.klik.db).map Transaction.id).Nodup ∧
      ∀ tx ∈ chequePayments bankId userId state.klik.db, tx.status = .completed := by
  constructor
  · apply nodup_payments invariant _ redeemed_among
    exact (List.filter_sublist.map Cheque.id).nodup invariant.ids
  · intro tx member
    rcases List.mem_filterMap.mp member with ⟨cheque, spent, paid⟩
    rcases redeemed_among cheque spent with ⟨among, redeemed⟩
    rcases payment_of_redeemed invariant among redeemed with ⟨its, found, _, completed, _⟩
    have same : its = tx := Option.some.inj (found.symm.trans paid)
    rw [← same]
    exact completed

/-- In every run of steps in time, once no request is under way and the bank was
told of every end, each balance is the one at the start without the amounts of
the active cheques and of the payments of the redeemed ones. -/
theorem cheques_paid
    (bankId : Uuid) (state : JointState) (reached : (timelySystem bankId).Reachable state)
    (settled : state.Settled bankId) : ChequesPaid bankId state := by
  have reporting := reporting_of_timely reached
  have klik := (refines_chequeSystem bankId).reachable reporting
  have invariant := chequeInvariant klik.of_guarded
  have kept := kept_of_reachable ((refines_holdSystem_inTime bankId).reachable reached)
  constructor
  · intro userId opening opened
    exact balance_of_settled invariant (joined_of_reachable reporting) kept settled opened
  · intro userId
    exact completed_payments invariant userId
  · intro cheque member own recorded
    rcases Option.isSome_iff_exists.mp recorded with ⟨row, found⟩
    exact kept.count_returned settled.shown (get?_shown invariant.ids member own) found

/-! ## Holds given back -/

/-- In every run in which KLIK reports no overdue cheque, however early or late
the bank is, a hold is given back at most once, and the cheque of a hold which
was given back is never spent. -/
theorem returned_never_spent
    (bankId : Uuid) (state : JointState) (reached : (reportingSystem bankId).Reachable state)
    (chequeId : Uuid) :
    state.returned.count chequeId ≤ 1 ∧
      (chequeId ∈ state.returned → ∀ actions after,
        (reportingSystem bankId).Path state actions after →
          ∃ cheque ∈ after.klik.db.cheques, cheque.id = chequeId ∧
            cheque.issuerBank.id = bankId ∧ isReleased cheque.status = true ∧
              cheque.transaction = none) := by
  have klik := (refines_chequeSystem bankId).reachable reached
  have invariant := chequeInvariant klik.of_guarded
  have given := givenOnce_of_reachable ((refines_holdSystem bankId).reachable reached)
  constructor
  · exact List.nodup_iff_count_le_one.mp given.nodup chequeId
  · intro member actions after path
    rcases given.released chequeId member with ⟨shown, found, released⟩
    rcases (get?_tableDict invariant.ids).mp found with ⟨cheque, among, own, rfl, rfl⟩
    have gone : isReleased cheque.status = true := released
    have ended : cheque.status ≠ .active := by
      intro active
      rw [active] at gone
      cases gone
    rcases (refines_chequeSystem bankId).path reached path with ⟨moves, run⟩
    have stays := rowAt_of_ended klik.of_guarded run.of_guarded
      (rowAt_of_mem invariant.ids among) ended
    refine ⟨cheque, (mem_of_rowAt stays).1, rfl, of_decide_eq_true own, gone, ?_⟩
    rcases invariant.shown cheque among with ⟨fate, shows_⟩
    cases linked : cheque.transaction with
    | none => rfl
    | some transactionId =>
        have redeemed : cheque.status = .redeemed :=
          shows_.consistent.transaction_iff.mp (by rw [linked]; rfl)
        rw [redeemed] at gone
        cases gone

/-! ## A client with two cheques -/

/-- The bank before any cheque of its one client. -/
def jointStart : JointState where
  opening := [(py "client", 50000)]
  bank := { clients := [(py "client", 50000)], issuedCheques := [] }
  klik := noCheques
  requests := []
  told := []
  returned := []

theorem jointStart_isStart : jointStart.IsStart where
  clients := rfl
  named := by decide
  issuedCheques := rfl
  klik := ⟨rfl, rfl, rfl, rfl, rfl⟩
  requests := rfl
  told := rfl
  returned := rfl

/-- The client gets a cheque over a hundred. -/
def chequeFor (key code : PyStr) (chequeId : Uuid) : List JointAction :=
  [.startIssue (py "client") 10000, .issueArrives 0 (issueRequest key), .drawCode 0 code,
    .createCheque 0 chequeId false, .finish 0]

/-- One cheque is cancelled, and its webhook comes twice, first before the
handler of the cancel goes on; the other one is redeemed. -/
def redeemedAndCancelled : List JointAction :=
  chequeFor (py "a") (py "123456789") 1 ++ chequeFor (py "b") (py "987654321") 2 ++
    [.startCancel 2, .cancelArrives 0 ⟨polishBank 1, 2, 6, none⟩,
      .deliver (.released 2 .cancelled), .finish 0, .deliver (.released 2 .cancelled),
      .klik (.redeem (redeemRequest (py "123456789") 5 [1])),
      .klik (.finishRedeem soldRedemption [] false), .deliver (.redeemed 1)]

/-- What a state shows of the client, and whether it is settled for the bank. -/
def JointState.shows (state : JointState) : Option Int × List Uuid × Bool :=
  (state.bank.clients.get? (py "client"), state.returned,
    state.requests.isEmpty && state.klik.db.cheques.all fun cheque =>
      cheque.status = .active || state.told.contains cheque.id)

theorem settled_of_shows {balance : Option Int} {returned : List Uuid}
    (shows_ : state.shows = (balance, returned, true)) : state.Settled bankId := by
  simp only [JointState.shows, Prod.mk.injEq, Bool.and_eq_true, List.isEmpty_iff,
    List.all_eq_true, Bool.or_eq_true, decide_eq_true_eq, List.contains_iff_mem] at shows_
  exact ⟨shows_.2.2.1, fun cheque member _ ended =>
    (shows_.2.2.2 cheque member).resolve_left ended⟩

theorem run_redeemedAndCancelled :
    ∃ state, (timelySystem 1).Path jointStart redeemedAndCancelled state ∧
      state.shows = (some 40000, [2], true) := by
  have shown : (TransitionSystem.runLabels
      (TransitionSystem.guardStep (jointStep 1) (JointState.inTime 1)) jointStart
        redeemedAndCancelled).map JointState.shows = some (some 40000, [2], true) := by
    decide +kernel
  rcases Option.map_eq_some_iff.mp shown with ⟨state, run, shows_⟩
  exact ⟨state, TransitionSystem.guarded_path_of_runLabels run, shows_⟩

/-- The client has paid for the redeemed cheque, and for nothing else. -/
theorem cheques_paid_redeemed :
    ∃ state, state.shows = (some 40000, [2], true) ∧ ChequesPaid 1 state := by
  rcases run_redeemedAndCancelled with ⟨state, path, shows_⟩
  exact ⟨state, shows_, cheques_paid 1 state (path.reachable (.init jointStart_isStart))
    (settled_of_shows shows_)⟩

/-- The cancelled cheque is never spent. -/
theorem returned_never_spent_cancelled :
    ∃ state : JointState, state.returned = [2] ∧ state.returned.count 2 ≤ 1 ∧
      ∃ cheque ∈ state.klik.db.cheques, cheque.id = 2 ∧ cheque.transaction = none := by
  rcases run_redeemedAndCancelled with ⟨state, path, shows_⟩
  have returned : state.returned = [2] := congrArg (fun shown => shown.2.1) shows_
  have reached := reporting_of_timely (path.reachable (.init jointStart_isStart))
  rcases returned_never_spent 1 state reached 2 with ⟨once, never⟩
  rcases never (by rw [returned]; exact List.mem_singleton_self 2) [] state (.refl state) with
    ⟨cheque, member, named, _, _, unspent⟩
  exact ⟨state, returned, once, cheque, member, named, unspent⟩

end Klik.BankIO
