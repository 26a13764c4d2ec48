import Klik.BankIO.AuthorizationBooks

/-!
# What the bank and KLIK agree on

A delivery of a webhook leads to one debit at most.  A payment which was
rejected or has timed out is never debited.  Where the decisions about a
payment were answered, it was debited if and only if KLIK has completed it.
-/

namespace Klik.BankIO

open Klik.Codes
open Klik.Common
open Klik.Lib

variable {bankId : Uuid} {createdAt : Uuid → Instant} {state after : AuthorizationState}
  {label : AuthorizationAction} {transactionId : Uuid}

/-! ## Debits and deliveries -/

def AuthorizationState.debitsOf (transactionId : Uuid) (state : AuthorizationState) : Nat :=
  (state.debits.map AuthorizedDebit.transactionId).count transactionId

def AuthorizationState.deliveriesOf (transactionId : Uuid) (state : AuthorizationState) : Nat :=
  state.delivered.count transactionId

/-- The payment may still be debited: its authorization is there, or a handler
has read it. -/
def AuthorizationState.IsOpen (transactionId : Uuid) (state : AuthorizationState) : Prop :=
  (∃ pending, state.bank.pendingAuthorizations.get? transactionId = some pending) ∨
    ∃ call reply, state.call = some (call, reply) ∧ call.transactionId = transactionId

/-- Each debit has used up a delivery, and what is open has one left. -/
def AuthorizationState.EachDelivered (state : AuthorizationState) : Prop :=
  ∀ transactionId, state.debitsOf transactionId ≤ state.deliveriesOf transactionId ∧
    (state.IsOpen transactionId →
      state.debitsOf transactionId < state.deliveriesOf transactionId)

/-- A step which opens nothing and debits nothing. -/
theorem AuthorizationState.EachDelivered.keep
    (each : state.EachDelivered) (debits : after.debits = state.debits)
    (delivered : after.delivered = state.delivered)
    (opens : ∀ transactionId, after.IsOpen transactionId → state.IsOpen transactionId) :
    after.EachDelivered := by
  intro transactionId
  simp only [debitsOf, deliveriesOf, debits, delivered]
  exact ⟨(each transactionId).1, fun isOpen => (each transactionId).2 (opens _ isOpen)⟩

/-- A webhook opens its payment once more. -/
theorem AuthorizationState.EachDelivered.deliver
    (each : state.EachDelivered) (idle : state.call = none) (readings : Nat → Instant)
    (payload : AuthorizePayload) :
    AuthorizationState.EachDelivered
      { state with
        bank := webhookAuthorize readings (receivedWebhook payload) state.bank
        delivered := state.delivered ++ [payload.transactionId] } := by
  intro transactionId
  have before := each transactionId
  simp only [debitsOf, deliveriesOf, List.count_append, List.count_singleton] at before ⊢
  constructor
  · omega
  · rintro (⟨pending, found⟩ | ⟨call, reply, waiting, _⟩)
    · rcases get?_webhookAuthorize found with ⟨same, _⟩ | earlier
      · have here : (payload.transactionId == transactionId) = true := by
          rw [same]
          exact beq_self_eq_true _
        rw [if_pos here]
        omega
      · have less := before.2 (.inl ⟨pending, earlier⟩)
        omega
    · rw [idle] at waiting
      cases waiting

/-- A handler which has its reply closes the payment, debited or not. -/
theorem AuthorizationState.EachDelivered.finish
    (each : state.EachDelivered) {call : ConfirmCall}
    (answered : state.call = some (call, some .ok))
    (own : ∀ debit, call.debit = some debit → debit.transactionId = call.transactionId) :
    AuthorizationState.EachDelivered
      { state with
        bank := state.bank.confirmed call
        call := none
        debits := state.debits ++ call.debit.toList } := by
  intro transactionId
  have before := each transactionId
  simp only [debitsOf, deliveriesOf, List.map_append, List.count_append] at before ⊢
  by_cases same : call.transactionId = transactionId
  · have less := before.2 (.inr ⟨call, _, answered, same⟩)
    have atMost : ((call.debit.toList.map AuthorizedDebit.transactionId).count
        transactionId) ≤ 1 := by
      cases call.debit with
      | none => exact Nat.zero_le 1
      | some debit => exact List.count_le_length
    constructor
    · omega
    · rintro (⟨pending, found⟩ | ⟨other, reply, waiting, _⟩)
      · simp only [AuthorizationBank.confirmed, InsertionDict.get?_pop, if_pos same] at found
        cases found
      · cases waiting
  · have none : ((call.debit.toList.map AuthorizedDebit.transactionId).count
        transactionId) = 0 := by
      cases debit : call.debit with
      | none => rfl
      | some made =>
          apply List.count_eq_zero_of_not_mem
          intro member
          rw [Option.toList_some, List.map_singleton, List.mem_singleton] at member
          exact same ((own made debit).symm.trans member.symm)
    rw [none, Nat.add_zero]
    refine ⟨before.1, ?_⟩
    rintro (⟨pending, found⟩ | ⟨other, reply, waiting, _⟩)
    · simp only [AuthorizationBank.confirmed, InsertionDict.get?_pop, if_neg same] at found
      exact before.2 (.inl ⟨pending, found⟩)
    · cases waiting

theorem eachDelivered_step
    (all : AllAsked bankId state) (each : state.EachDelivered)
    (move : AuthorizationMove bankId createdAt state label after) : after.EachDelivered := by
  cases move with
  | klik going foreign step => exact each.keep rfl rfl fun _ isOpen => isOpen
  | delivered idle sent => exact each.deliver idle _ _
  | pruned less =>
      refine each.keep rfl rfl ?_
      rintro transactionId (⟨pending, found⟩ | waiting)
      · exact .inl ⟨pending, less.kept _ _ found⟩
      · exact .inr waiting
  | asked idle less sent =>
      refine each.keep rfl rfl ?_
      rintro transactionId (⟨pending, found⟩ | ⟨call, reply, waiting, sameId⟩)
      · exact .inl ⟨pending, less.kept _ _ found⟩
      · cases waiting
        left
        cases sent with
        | accept asked pin accepts =>
            rcases accepts.pending with ⟨pending, found, _⟩
            rw [← accepts.sameId, sameId] at found
            exact ⟨pending, less.kept _ _ found⟩
        | reject pending found declines noDebit =>
            rw [sameId] at found
            exact ⟨pending, less.kept _ _ found⟩
  | handled waiting going sent sameId =>
      refine each.keep rfl rfl ?_
      rintro transactionId (⟨pending, found⟩ | ⟨call, reply, replied, same⟩)
      · exact .inl ⟨pending, found⟩
      · cases replied
        exact .inr ⟨_, _, waiting, same⟩
  | handledLate member going sent sameId => exact each.keep rfl rfl fun _ isOpen => isOpen
  | finished answered =>
      apply each.finish answered
      intro debit made
      rcases all.call _ _ answered with ⟨terms, member, decides⟩
      exact (decides.debit debit made).2.transactionId.trans decides.transactionId.symm
  | raised answered =>
      refine each.keep rfl rfl ?_
      rintro transactionId (⟨pending, found⟩ | ⟨call, reply, waiting, sameId⟩)
      · exact .inl ⟨pending, found⟩
      · cases waiting
  | ended waiting given =>
      refine each.keep rfl rfl ?_
      rintro transactionId (⟨pending, found⟩ | ⟨call, reply, waiting, sameId⟩)
      · exact .inl ⟨pending, found⟩
      · cases waiting
  | moved idle => exact each.keep rfl rfl fun _ isOpen => isOpen

/-- No payment is debited more often than its webhook was delivered. -/
theorem debits_le_deliveries
    (reached : (authorizationSystem bankId createdAt).Reachable state) (transactionId : Uuid) :
    state.debitsOf transactionId ≤ state.deliveriesOf transactionId := by
  have each : state.EachDelivered := by
    apply reached.invariant
    · intro start isStart transactionId
      have noDebits : start.debitsOf transactionId = 0 := by
        simp only [AuthorizationState.debitsOf, isStart.debits, List.map_nil, List.count_nil]
      refine ⟨noDebits ▸ Nat.zero_le _, ?_⟩
      rintro (⟨pending, found⟩ | ⟨call, reply, waiting, _⟩)
      · rw [isStart.pendingAuthorizations] at found
        cases found
      · rw [isStart.call] at waiting
        cases waiting
    · intro source action target reached each move
      exact eachDelivered_step (allAsked_of_reachable reached) each
        (authorizationMove_of_step bankId createdAt move)
  exact (each transactionId).1

/-- Every debit is one of a completed payment, from its client and with his
PIN, and the payment is debited no more often than its webhook was
delivered. -/
theorem debit_pays_for
    (state : AuthorizationState)
    (reached : (authorizationSystem bankId createdAt).Reachable state)
    (debit : AuthorizedDebit) (made : debit ∈ state.debits) :
    ∃ payment ∈ state.payments, state.PaysFor debit payment ∧
      state.debitsOf payment.db.row.id ≤ state.deliveriesOf payment.db.row.id := by
  rcases paysFor_of_mem reached made with ⟨payment, member, pays⟩
  exact ⟨payment, member, pays, debits_le_deliveries reached _⟩

/-- The operator gives a wrong PIN and then the right one.  The bank gives the
first request up, which KLIK handles late, and gets an answer to the
second. -/
def acceptedAgain : List AuthorizationAction :=
  [.klik 0 .start, .webhook 0 (fun _ => 0), .accept 7 (py "4321") 0,
    .accept 7 (py "1234") 0, .giveUp, .handleLate 0 0 (confirmRequest .accepted 10),
    .accept 7 (py "1234") 20, .handle 0 (confirmRequest .accepted 30) true, .finish]

/-- The client pays once. -/
theorem debit_pays_for_acceptedAgain :
    ∃ state debit, TransitionSystem.runLabels (authorizationStep 1 fun _ => 0)
        authorizationStart acceptedAgain = some state ∧
      state.debits = [debit] ∧ ∃ payment ∈ state.payments, state.PaysFor debit payment ∧
        state.debitsOf payment.db.row.id ≤ state.deliveriesOf payment.db.row.id := by
  have shown : (TransitionSystem.runLabels (authorizationStep 1 fun _ => 0)
      authorizationStart acceptedAgain).map AuthorizationState.debits =
      some [⟨7, py "user-1", 10000, py "1234"⟩] := by
    decide +kernel
  rcases Option.map_eq_some_iff.mp shown with ⟨state, run, debits⟩
  have reached : (authorizationSystem 1 fun _ => 0).Reachable state :=
    TransitionSystem.reachable_of_runLabels authorizationStart_isStart run
  refine ⟨state, _, run, debits, ?_⟩
  apply debit_pays_for state reached
  rw [debits]
  exact List.mem_singleton_self _

/-! ## Payments which were turned down -/

/-- The payment was decided or marked without being completed. -/
def TurnedDown (payments : List PaymentState) (transactionId : Uuid) : Prop :=
  ∀ payment ∈ payments, payment.db.row.id = transactionId →
    payment.db.row.status ≠ .pending ∧ payment.db.row.wasCompleted = false

theorem TurnedDown.of_move
    (down : TurnedDown state.payments transactionId)
    (move : AuthorizationMove bankId createdAt state label after) :
    TurnedDown after.payments transactionId := by
  rcases payments_of_move move with same | ⟨index, before, next, klik, going, step, same, _⟩
  · rw [same]
    exact down
  · rw [same]
    intro payment member sameId
    rcases List.mem_or_eq_of_mem_set member with old | rfl
    · exact down payment old sameId
    · have row := rowMove_of_step step
      have closed := down before (List.mem_of_getElem? going) (row.samePayment.id ▸ sameId)
      rcases row.closed closed.1 with ⟨status, completed⟩
      exact ⟨status, completed.trans closed.2⟩

/-- A payment which has left the pending status without being completed is not
debited in any later state. -/
theorem turned_down_never_debited
    (state : AuthorizationState)
    (reached : (authorizationSystem bankId createdAt).Reachable state)
    (payment : PaymentState) (member : payment ∈ state.payments)
    (closed : payment.db.row.status ≠ .pending)
    (incomplete : payment.db.row.wasCompleted = false)
    (actions : List AuthorizationAction) (later : AuthorizationState)
    (path : (authorizationSystem bankId createdAt).Path state actions later) :
    later.debitsOf payment.db.row.id = 0 := by
  have down : TurnedDown state.payments payment.db.row.id := by
    intro other inState sameId
    rw [(allAsked_of_reachable reached).payment_unique inState member sameId]
    exact ⟨closed, incomplete⟩
  have laterDown : TurnedDown later.payments payment.db.row.id := by
    apply path.preserves (fun state => TurnedDown state.payments payment.db.row.id) _ reached down
    intro source action target _ held move
    exact held.of_move (authorizationMove_of_step bankId createdAt move)
  apply List.count_eq_zero_of_not_mem
  intro made
  rcases List.mem_map.mp made with ⟨debit, inLater, sameId⟩
  rcases (allCompleted_of_reachable (path.reachable reached)).debits debit inLater with
    ⟨other, otherMember, otherId, completed⟩
  rw [(laterDown other otherMember (otherId.trans sameId)).2] at completed
  cases completed

/-- The client declines. -/
def declined : List AuthorizationAction :=
  [.klik 0 .start, .webhook 0 (fun _ => 0), .reject 7 (py "USER_DECLINED") 0,
    .handle 0 (confirmRequest (.rejected .userDeclined) 10) true, .finish]

/-- The webhook comes again, and the client wants to pay. -/
def acceptedLater : List AuthorizationAction :=
  [.webhook 0 (fun _ => 20), .accept 7 (py "1234") 20,
    .handle 0 (confirmRequest .accepted 30) true, .finish]

/-- The declined payment is not debited. -/
theorem turned_down_never_debited_acceptedLater :
    ∃ state later, TransitionSystem.runLabels (authorizationStep 1 fun _ => 0)
        authorizationStart declined = some state ∧
      TransitionSystem.runLabels (authorizationStep 1 fun _ => 0) state acceptedLater =
        some later ∧
      ∃ payment ∈ state.payments, later.debitsOf payment.db.row.id = 0 := by
  have shown : (TransitionSystem.runLabels (authorizationStep 1 fun _ => 0)
      authorizationStart (declined ++ acceptedLater)).isSome = true := by
    decide +kernel
  have before : (TransitionSystem.runLabels (authorizationStep 1 fun _ => 0)
      authorizationStart declined).map (fun state => state.payments.map fun payment =>
        (payment.db.row.status, payment.db.row.wasCompleted)) =
      some [(.rejected, false)] := by
    decide +kernel
  rcases Option.isSome_iff_exists.mp shown with ⟨later, run⟩
  rcases TransitionSystem.runLabels_append run with ⟨state, first, second⟩
  rw [first, Option.map_some, Option.some.injEq] at before
  have reached : (authorizationSystem 1 fun _ => 0).Reachable state :=
    TransitionSystem.reachable_of_runLabels authorizationStart_isStart first
  rcases List.map_eq_singleton_iff.mp before with ⟨payment, payments, seen⟩
  have member : payment ∈ state.payments := by
    rw [payments]
    exact List.mem_singleton_self _
  refine ⟨state, later, first, second, payment, member, ?_⟩
  apply turned_down_never_debited state reached payment member _ (congrArg Prod.snd seen)
    acceptedLater later (TransitionSystem.path_of_runLabels second)
  rw [show payment.db.row.status = .rejected from congrArg Prod.fst seen]
  intro same
  cases same

/-! ## Payments which were answered -/

/-- How a completed payment stands at the bank. -/
inductive Accounted (state : AuthorizationState) (transactionId : Uuid) : Prop where
  | debited (made : transactionId ∈ state.debits.map AuthorizedDebit.transactionId)
  | unanswered (lost : transactionId ∈ state.unanswered)
  | answered (call : ConfirmCall) (reply : ConfirmReply)
      (waiting : state.call = some (call, some reply))
      (sameId : call.transactionId = transactionId) (accepted : call.decision = .accepted)
      (replied : reply ≠ .raised)

/-- Every completed payment of a client of the bank is accounted for, and so is
every request which was given up. -/
structure AllAccounted (state : AuthorizationState) : Prop where
  completed : ∀ terms ∈ state.terms, terms.PaidBy state.opening →
    CompletedIn state.payments terms.transactionId → Accounted state terms.transactionId
  late : ∀ call ∈ state.late, call.transactionId ∈ state.unanswered

theorem Accounted.keep
    (accounted : Accounted state transactionId)
    (debits : ∀ made ∈ state.debits, made ∈ after.debits)
    (unanswered : ∀ lost ∈ state.unanswered, lost ∈ after.unanswered)
    (call : ∀ call reply, state.call = some (call, some reply) →
      after.call = some (call, some reply)) : Accounted after transactionId := by
  cases accounted with
  | debited made =>
      rcases List.mem_map.mp made with ⟨debit, member, sameId⟩
      exact .debited (List.mem_map.mpr ⟨debit, debits debit member, sameId⟩)
  | unanswered lost => exact .unanswered (unanswered _ lost)
  | answered pending reply waiting sameId accepted replied =>
      exact .answered pending reply (call _ _ waiting) sameId accepted replied

/-- A client is known at the bank as he was at the start. -/
theorem paidBy_of_opening
    (reached : (authorizationSystem bankId createdAt).Reachable state) {terms : PaymentTerms}
    (paidBy : terms.PaidBy state.opening) : terms.PaidBy state.bank.clients := by
  refine ⟨paidBy.1, ?_⟩
  rw [balanced_of_authorizations reached, Option.isSome_map]
  exact paidBy.2

/-- A request which raises changes nothing. -/
theorem confirmed_of_raised
    {request : ConfirmRequest} {cached : Bool} {payment : PaymentState}
    (raised : confirmReply request cached payment.db = .raised) :
    (payment.confirmed request).db = payment.db := by
  simp only [confirmReply] at raised
  cases result : confirm request payment.db with
  | error error => simp only [PaymentState.confirmed, afterConfirm, result]
  | ok answer =>
      rw [result] at raised
      dsimp only at raised
      split at raised
      · cases raised
      · cases raised

/-- What a step completes, the bank has asked for. -/
theorem completed_of_move
    (all : AllAsked bankId state)
    (move : AuthorizationMove bankId createdAt state label after)
    (completed : CompletedIn after.payments transactionId) :
    CompletedIn state.payments transactionId ∨
      ∃ call, call.transactionId = transactionId ∧ call.decision = .accepted ∧
        (call ∈ state.late ∨
          ∃ reply, after.call = some (call, some reply) ∧ reply ≠ .raised) := by
  rcases payments_of_move move with same | ⟨index, before, next, klik, going, step, same, origin⟩
  · rw [same] at completed
    exact .inl completed
  · rw [same] at completed
    rcases completed with ⟨payment, member, sameId, done⟩
    have inState : before ∈ state.payments := List.mem_of_getElem? going
    rcases List.mem_or_eq_of_mem_set member with old | rfl
    · exact .inl ⟨payment, old, sameId, done⟩
    · have row := rowMove_of_step step
      rw [row.samePayment.id] at sameId
      cases already : before.db.row.wasCompleted with
      | true => exact .inl ⟨before, inState, sameId, already⟩
      | false =>
          right
          rcases row.completed_by already done with ⟨request, rfl, accepted, sender⟩
          rcases origin with foreign | ⟨call, sent, cached, confirms, sentAs, about, stage⟩
          · have own : request.bankId = bankId :=
              sender.trans (all.senders _ (List.mem_map_of_mem inState))
            simp only [ownConfirm, own, decide_true] at foreign
            cases foreign
          · cases confirms
            refine ⟨call, about.symm.trans sameId, sentAs.2.2.symm.trans accepted, ?_⟩
            rcases stage with late | ⟨waiting, replied⟩
            · exact .inl late
            · refine .inr ⟨_, replied, ?_⟩
              intro raised
              have unchanged := confirmed_of_raised raised
              rw [show payment = before.confirmed request from step, unchanged, already] at done
              cases done

theorem unanswered_of_move (move : AuthorizationMove bankId createdAt state label after) :
    ∀ lost ∈ state.unanswered, lost ∈ after.unanswered := by
  intro lost member
  cases move with
  | klik going foreign step => exact member
  | delivered idle sent => exact member
  | pruned less => exact member
  | asked idle less sent => exact member
  | handled waiting going sent sameId => exact member
  | handledLate inLate going sent sameId => exact member
  | finished answered => exact member
  | raised answered => exact member
  | ended waiting given => exact List.mem_append_left _ member
  | moved idle => exact member

/-- An account of a payment stays one: the handler which waits debits, or ends
without an answer. -/
theorem Accounted.of_move
    (all : AllAsked bankId state) {terms : PaymentTerms} (member : terms ∈ state.terms)
    (paidBy : terms.PaidBy state.bank.clients) (accounted : Accounted state terms.transactionId)
    (move : AuthorizationMove bankId createdAt state label after) :
    Accounted after terms.transactionId := by
  have lost := unanswered_of_move move
  cases move with
  | klik going foreign step => exact accounted.keep (fun _ made => made) lost fun _ _ same => same
  | delivered idle sent => exact accounted.keep (fun _ made => made) lost fun _ _ same => same
  | pruned less => exact accounted.keep (fun _ made => made) lost fun _ _ same => same
  | asked idle less sent =>
      refine accounted.keep (fun _ made => made) lost ?_
      intro call reply waiting
      rw [idle] at waiting
      cases waiting
  | handled waiting going sent sameId =>
      refine accounted.keep (fun _ made => made) lost ?_
      intro call reply replied
      rw [waiting] at replied
      cases replied
  | handledLate inLate going sent sameId =>
      exact accounted.keep (fun _ made => made) lost fun _ _ same => same
  | @finished call answered =>
      cases accounted with
      | debited made =>
          rw [List.mem_map] at made
          rcases made with ⟨debit, inState, sameId⟩
          exact .debited (List.mem_map.mpr ⟨debit, List.mem_append_left _ inState, sameId⟩)
      | unanswered gone => exact .unanswered gone
      | answered other reply waiting sameId accepted replied =>
          rw [answered] at waiting
          cases waiting
          rcases all.call _ _ answered with ⟨own, ownMember, decides⟩
          have unique : own = terms :=
            List.inj_on_of_nodup_map all.ids ownMember member
              (decides.transactionId.symm.trans sameId)
          subst unique
          rcases Option.isSome_iff_exists.mp (decides.debits paidBy accepted) with ⟨debit, made⟩
          refine .debited (List.mem_map.mpr ⟨debit, ?_, (decides.debit debit made).2.transactionId⟩)
          exact List.mem_append_right _ (Option.mem_toList.mpr made)
  | @raised call answered =>
      cases accounted with
      | debited made => exact .debited made
      | unanswered gone => exact .unanswered gone
      | answered other reply waiting sameId accepted replied =>
          rw [answered] at waiting
          cases waiting
          exact absurd rfl replied
  | @ended call reply late label waiting given =>
      cases accounted with
      | debited made => exact .debited made
      | unanswered gone => exact .unanswered (lost _ gone)
      | answered other replied same sameId accepted fine =>
          rw [waiting] at same
          cases same
          rw [← sameId]
          exact .unanswered (List.mem_append_right _ (List.mem_singleton_self _))
  | moved idle => exact accounted.keep (fun _ made => made) lost fun _ _ same => same

theorem allAccounted_step
    (reached : (authorizationSystem bankId createdAt).Reachable state)
    (accounts : AllAccounted state)
    (move : AuthorizationMove bankId createdAt state label after) : AllAccounted after := by
  have all := allAsked_of_reachable reached
  have lost := unanswered_of_move move
  constructor
  · rw [terms_of_move move, opening_of_move move]
    intro terms member paidBy completed
    rcases completed_of_move all move completed with
      earlier | ⟨call, sameId, accepted, late | ⟨reply, replied, notRaised⟩⟩
    · exact (accounts.completed terms member paidBy earlier).of_move all member
        (paidBy_of_opening reached paidBy) move
    · exact .unanswered (lost _ (sameId ▸ accounts.late call late))
    · exact .answered call reply replied sameId accepted notRaised
  · intro call inLate
    cases move with
    | klik going foreign step => exact accounts.late call inLate
    | delivered idle sent => exact accounts.late call inLate
    | pruned less => exact accounts.late call inLate
    | asked idle less sent => exact accounts.late call inLate
    | handled waiting going sent sameId => exact accounts.late call inLate
    | handledLate member going sent sameId =>
        exact accounts.late call (List.mem_of_mem_eraseIdx inLate)
    | finished answered => exact accounts.late call inLate
    | raised answered => exact accounts.late call inLate
    | ended waiting given =>
        rcases given call inLate with old | rfl
        · exact List.mem_append_left _ (accounts.late call old)
        · exact List.mem_append_right _ (List.mem_singleton_self _)
    | moved idle => exact accounts.late call inLate

theorem allAccounted_of_reachable
    (reached : (authorizationSystem bankId createdAt).Reachable state) :
    AllAccounted state := by
  apply reached.invariant
  · intro start isStart
    constructor
    · intro terms member paidBy completed
      rcases completed with ⟨payment, inState, sameId, done⟩
      rw [Transaction.wasCompleted, (isStart.payments payment inState).2.2.1] at done
      cases done
    · rw [isStart.late]
      intro call member
      cases member
  · intro source action target reached accounts move
    exact allAccounted_step reached accounts (authorizationMove_of_step bankId createdAt move)

/-- A payment is settled between the two: no handler waits with it, and every
decision about it was answered. -/
structure AuthorizationState.Answered
    (state : AuthorizationState) (transactionId : Uuid) : Prop where
  idle : ∀ call reply, state.call = some (call, reply) → call.transactionId ≠ transactionId
  answered : transactionId ∉ state.unanswered

theorem mem_debits_iff_completed
    (reached : (authorizationSystem bankId createdAt).Reachable state)
    {payment : PaymentState} (member : payment ∈ state.payments)
    (paidBy : (termsOf payment).PaidBy state.opening)
    (answered : state.Answered payment.db.row.id) :
    payment.db.row.id ∈ state.debits.map AuthorizedDebit.transactionId ↔
      payment.db.row.wasCompleted = true := by
  constructor
  · intro made
    rcases List.mem_map.mp made with ⟨debit, inDebits, sameId⟩
    rcases (allCompleted_of_reachable reached).debits debit inDebits with
      ⟨other, inState, otherId, completed⟩
    rw [← (allAsked_of_reachable reached).payment_unique inState member (otherId.trans sameId)]
    exact completed
  · intro completed
    have accounted : Accounted state payment.db.row.id :=
      (allAccounted_of_reachable reached).completed (termsOf payment)
        (List.mem_map_of_mem member) paidBy ⟨payment, member, rfl, completed⟩
    cases accounted with
    | debited made => exact made
    | unanswered lost => exact absurd lost answered.answered
    | answered call reply waiting sameId accepted replied =>
        exact absurd sameId (answered.idle call _ waiting)

/-- The bank has debited a payment of its client, whose decisions were
answered, if and only if KLIK has completed it, and once if its webhook came
once. -/
theorem debited_iff_completed
    (state : AuthorizationState)
    (reached : (authorizationSystem bankId createdAt).Reachable state)
    (payment : PaymentState) (member : payment ∈ state.payments)
    (paidBy : (termsOf payment).PaidBy state.opening)
    (answered : state.Answered payment.db.row.id) :
    (0 < state.debitsOf payment.db.row.id ↔ payment.db.row.wasCompleted = true) ∧
      (state.deliveriesOf payment.db.row.id ≤ 1 →
        state.debitsOf payment.db.row.id = if payment.db.row.wasCompleted then 1 else 0) := by
  have positive : 0 < state.debitsOf payment.db.row.id ↔
      payment.db.row.wasCompleted = true := by
    rw [← mem_debits_iff_completed reached member paidBy answered]
    exact List.count_pos_iff
  refine ⟨positive, ?_⟩
  intro once
  have atMost := (debits_le_deliveries reached payment.db.row.id).trans once
  split
  · rename_i completed
    have least := positive.mpr completed
    omega
  · rename_i incomplete
    have none := mt positive.mp incomplete
    omega

/-- The payments are all of clients of the bank, whose webhooks came at most
once, and every decision was answered. -/
def AuthorizationState.AllSettled (state : AuthorizationState) : Prop :=
  ∀ payment ∈ state.payments, (termsOf payment).PaidBy state.opening ∧
    state.Answered payment.db.row.id ∧ state.deliveriesOf payment.db.row.id ≤ 1

/-- The payment is accepted and answered. -/
def acceptedOnce : List AuthorizationAction :=
  [.klik 0 .start, .webhook 0 (fun _ => 0), .accept 7 (py "1234") 0,
    .handle 0 (confirmRequest .accepted 10) true, .finish]

theorem run_acceptedOnce :
    ∃ state payment, TransitionSystem.runLabels (authorizationStep 1 fun _ => 0)
        authorizationStart acceptedOnce = some state ∧
      state.opening = [(py "user-1", 500000)] ∧ payment ∈ state.payments ∧
      state.AllSettled := by
  have shown : (TransitionSystem.runLabels (authorizationStep 1 fun _ => 0)
      authorizationStart acceptedOnce).map (fun state => (state.opening, state.terms)) =
      some ([(py "user-1", 500000)], [⟨7, 1, py "user-1", 10000⟩]) := by
    decide +kernel
  have ended : (TransitionSystem.runLabels (authorizationStep 1 fun _ => 0)
      authorizationStart acceptedOnce).map (fun state =>
        (state.call.isNone, state.unanswered, state.delivered)) = some (true, [], [7]) := by
    decide +kernel
  rcases Option.map_eq_some_iff.mp shown with ⟨state, run, seen⟩
  rw [run, Option.map_some, Option.some.injEq] at ended
  simp only [Prod.mk.injEq] at seen ended
  rcases seen with ⟨opening, terms⟩
  rcases ended with ⟨idle, unanswered, delivered⟩
  rcases List.map_eq_singleton_iff.mp terms with ⟨payment, payments, _⟩
  refine ⟨state, payment, run, opening, payments ▸ List.mem_singleton_self _, ?_⟩
  intro payment member
  have its : termsOf payment = ⟨7, 1, py "user-1", 10000⟩ := by
    rw [← List.mem_singleton, ← terms]
    exact List.mem_map_of_mem member
  refine ⟨?_, ⟨?_, ?_⟩, ?_⟩
  · rw [its, opening]
    exact ⟨by decide, rfl⟩
  · rw [Option.isNone_iff_eq_none.mp idle]
    intro other reply waiting
    cases waiting
  · rw [unanswered]
    exact List.not_mem_nil
  · rw [AuthorizationState.deliveriesOf, delivered]
    exact List.count_le_length

/-- The payment is debited. -/
theorem debited_iff_completed_acceptedOnce :
    ∃ state payment, TransitionSystem.runLabels (authorizationStep 1 fun _ => 0)
        authorizationStart acceptedOnce = some state ∧ payment ∈ state.payments ∧
      (0 < state.debitsOf payment.db.row.id ↔ payment.db.row.wasCompleted = true) ∧
      state.debitsOf payment.db.row.id = if payment.db.row.wasCompleted then 1 else 0 := by
  rcases run_acceptedOnce with ⟨state, payment, run, opening, member, settled⟩
  have reached : (authorizationSystem 1 fun _ => 0).Reachable state :=
    TransitionSystem.reachable_of_runLabels authorizationStart_isStart run
  rcases settled payment member with ⟨paidBy, answered, once⟩
  have agree := debited_iff_completed state reached payment member paidBy answered
  exact ⟨state, payment, run, member, agree.1, agree.2 once⟩

/-! ## Balances of completed payments -/

/-- What a payment takes, and from whom. -/
def chargeOf (payment : PaymentState) : PyStr × Int :=
  (payment.db.row.userId, cents payment.db.row.amountGross)

/-- The payments which KLIK has completed. -/
def AuthorizationState.completed (state : AuthorizationState) : List PaymentState :=
  state.payments.filter fun payment => payment.db.row.wasCompleted

theorem charge_of_paysFor
    {debit : AuthorizedDebit} {payment : PaymentState} (pays : state.PaysFor debit payment)
    (named : payment.db.row.userId ≠ []) :
    (debit.transactionId, debit.charge) = (payment.db.row.id, chargeOf payment) := by
  simp only [AuthorizedDebit.charge, chargeOf, pays.transactionId, pays.userId named, pays.amount]

/-- The debits are those of the completed payments. -/
theorem charges_perm
    (reached : (authorizationSystem bankId createdAt).Reachable state)
    (settled : state.AllSettled) :
    (state.debits.map AuthorizedDebit.charge).Perm (state.completed.map chargeOf) := by
  have all := allAsked_of_reachable reached
  have ids := all.ids
  rw [AuthorizationState.terms, List.map_map] at ids
  have once : (state.debits.map AuthorizedDebit.transactionId).Nodup := by
    rw [List.nodup_iff_count_le_one]
    intro transactionId
    by_cases made : transactionId ∈ state.debits.map AuthorizedDebit.transactionId
    · rcases List.mem_map.mp made with ⟨debit, inDebits, rfl⟩
      rcases paysFor_of_mem reached inDebits with ⟨payment, member, pays⟩
      rw [pays.transactionId]
      exact (debits_le_deliveries reached payment.db.row.id).trans (settled payment member).2.2
    · rw [List.count_eq_zero_of_not_mem made]
      exact Nat.zero_le 1
  -- compared with their keys, neither list repeats an entry
  have perm : (state.debits.map fun debit => (debit.transactionId, debit.charge)).Perm
      (state.completed.map fun payment => (payment.db.row.id, chargeOf payment)) := by
    rw [List.perm_ext_iff_of_nodup]
    · intro entry
      constructor
      · intro member
        rcases List.mem_map.mp member with ⟨debit, inDebits, rfl⟩
        rcases paysFor_of_mem reached inDebits with ⟨payment, inState, pays⟩
        rw [charge_of_paysFor pays (settled payment inState).1.1]
        exact List.mem_map_of_mem (List.mem_filter.mpr ⟨inState, pays.completed⟩)
      · intro member
        rcases List.mem_map.mp member with ⟨payment, inCompleted, rfl⟩
        rcases List.mem_filter.mp inCompleted with ⟨inState, completed⟩
        rcases settled payment inState with ⟨paidBy, answered, _⟩
        rcases List.mem_map.mp
          ((mem_debits_iff_completed reached inState paidBy answered).mpr completed) with
          ⟨debit, inDebits, sameId⟩
        rcases paysFor_of_mem reached inDebits with ⟨other, otherMember, pays⟩
        have unique := all.payment_unique otherMember inState
          (pays.transactionId.symm.trans sameId)
        subst unique
        rw [← charge_of_paysFor pays paidBy.1]
        exact List.mem_map_of_mem inDebits
    · apply List.Nodup.of_map Prod.fst
      rw [List.map_map]
      exact once
    · apply List.Nodup.of_map Prod.fst
      rw [List.map_map]
      exact List.Nodup.sublist (List.filter_sublist.map _) ids
  have charges := perm.map Prod.snd
  rw [List.map_map, List.map_map] at charges
  exact charges

/-- When every decision was answered, a balance is the one at the start with the
moves of the other handlers and without the payments which KLIK has
completed. -/
theorem balance_of_completed
    (state : AuthorizationState)
    (reached : (authorizationSystem bankId createdAt).Reachable state)
    (settled : state.AllSettled)
    (userId : PyStr) (balance : Int) (opened : state.opening.get? userId = some balance) :
    state.bank.clients.get? userId =
      some (balance + movedTo userId state.moves -
        movedTo userId (state.completed.map chargeOf)) := by
  rw [balanced_of_authorizations reached, opened, Option.map_some,
    AuthorizationState.changeOf, movedTo_perm (charges_perm reached settled), Int.add_sub_assoc]

/-- The balance is short of the payment. -/
theorem balance_of_completed_acceptedOnce :
    ∃ state, TransitionSystem.runLabels (authorizationStep 1 fun _ => 0)
        authorizationStart acceptedOnce = some state ∧
      state.bank.clients.get? (py "user-1") =
        some (500000 + movedTo (py "user-1") state.moves -
          movedTo (py "user-1") (state.completed.map chargeOf)) := by
  rcases run_acceptedOnce with ⟨state, payment, run, opening, _, settled⟩
  have reached : (authorizationSystem 1 fun _ => 0).Reachable state :=
    TransitionSystem.reachable_of_runLabels authorizationStart_isStart run
  refine ⟨state, run, ?_⟩
  apply balance_of_completed state reached settled
  rw [opening]
  rfl

end Klik.BankIO
