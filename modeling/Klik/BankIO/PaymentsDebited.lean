import Klik.BankIO.ConfirmSystem
import Klik.BankIO.MandateBooks
import Klik.Codes.WebhookRetries

/-!
# Payments debited at the bank

Whatever is delivered late or again, whatever replies are lost and whatever
expires meanwhile, a debit of the bank is one of a payment which KLIK has
completed, from the client who is to pay it and with his PIN.  One delivery of
a webhook leads to one debit at most, and where every decision was answered
the bank and KLIK agree about what was paid.
-/

namespace Klik.BankIO

open Klik.Codes
open Klik.Common
open Klik.Lib

/-! ## Terms of a payment -/

/-- What a payment asks for, and which bank decides it. -/
structure PaymentTerms where
  transactionId : Uuid
  bankId : Uuid
  userId : PyStr
  amount : Int
deriving DecidableEq, Repr

def termsOf (payment : PaymentState) : PaymentTerms where
  transactionId := payment.db.row.id
  bankId := payment.db.row.senderBank.id
  userId := payment.db.row.userId
  amount := cents payment.db.row.amountGross

def AuthorizationState.terms (state : AuthorizationState) : List PaymentTerms :=
  state.payments.map termsOf

theorem termsOf_eq {row next : PaymentState} (same : SamePayment row.db.row next.db.row) :
    termsOf next = termsOf row := by
  simp only [termsOf, same.id, same.senderBank, same.userId, same.amountGross]

namespace PaymentTerms

variable (terms : PaymentTerms)

/-- The webhook asks for the payment. -/
structure Sends (payload : AuthorizePayload) : Prop where
  transactionId : payload.transactionId = terms.transactionId
  userId : payload.userId = terms.userId
  amount : cents payload.amount = terms.amount

/-- The authorization is one of the payment. -/
structure Asks (pending : PendingAuthorization) : Prop where
  amount : pending.amount = some terms.amount
  userId : terms.userId ≠ [] → pending.userId = some terms.userId

/-- The debit is one of the payment, with the PIN of its client. -/
structure Debits (pins : InsertionDict PyStr PyStr) (debit : AuthorizedDebit) : Prop where
  transactionId : debit.transactionId = terms.transactionId
  amount : debit.amount = terms.amount
  userId : terms.userId ≠ [] → debit.userId = terms.userId
  pin : debit.pin = pins.getD debit.userId (py "1234")

/-- The client who is to pay is one of the bank. -/
def PaidBy (clients : InsertionDict PyStr Int) : Prop :=
  terms.userId ≠ [] ∧ (clients.get? terms.userId).isSome = true

/-- The request of a handler is one about the payment: it debits where it
accepts, unless nobody is known who could be debited. -/
structure Decides (bank : AuthorizationBank) (call : ConfirmCall) : Prop where
  transactionId : call.transactionId = terms.transactionId
  debit : ∀ debit, call.debit = some debit →
    call.decision = .accepted ∧ terms.Debits bank.pins debit
  debits : terms.PaidBy bank.clients → call.decision = .accepted → call.debit.isSome = true

end PaymentTerms

/-! ## What the handlers know -/

variable {bankId : Uuid} {createdAt : Uuid → Instant} {state after : AuthorizationState}
  {label : AuthorizationAction} {terms : PaymentTerms}

/-- A client is found under the key of his payment. -/
theorem clientOf_paidBy
    {clients : InsertionDict PyStr Int} {pending : PendingAuthorization}
    (asks : terms.Asks pending) (paidBy : terms.PaidBy clients) :
    ∃ balance, clientOf clients pending.userId = some (terms.userId, balance) := by
  rcases Option.isSome_iff_exists.mp paidBy.2 with ⟨balance, known⟩
  refine ⟨balance, ?_⟩
  rw [asks.userId paidBy.1]
  simp only [clientOf, if_neg paidBy.1, known, Option.map_some]

/-- An acceptance is one of the payment whose authorization it has found. -/
theorem decides_of_accepts
    {bank : AuthorizationBank} {transactionId : Uuid} {pin : PyStr} {call : ConfirmCall}
    (accepts : Accepts bank transactionId pin call)
    (known : ∀ pending, bank.pendingAuthorizations.get? transactionId = some pending →
      terms.transactionId = transactionId ∧ terms.Asks pending) :
    terms.Decides bank call := by
  rcases accepts.pending with ⟨pending, found, outcome⟩
  rcases known pending found with ⟨sameId, asks⟩
  have paid : terms.PaidBy bank.clients →
      ∃ balance, clientOf bank.clients pending.userId = some (terms.userId, balance) :=
    clientOf_paidBy asks
  cases client : clientOf bank.clients pending.userId with
  | none =>
      rw [client] at outcome paid
      constructor
      · rw [accepts.sameId, sameId]
      · intro debit made
        rw [outcome.2] at made
        cases made
      · intro paidBy _
        rcases paid paidBy with ⟨balance, absent⟩
        cases absent
  | some account =>
      rcases account with ⟨userId, balance⟩
      rw [client] at outcome
      rcases outcome with ⟨samePin, ⟨_, declined, noDebit⟩ | ⟨_, accepted, made⟩⟩
      · constructor
        · rw [accepts.sameId, sameId]
        · intro debit made
          rw [noDebit] at made
          cases made
        · intro _ accepted
          rw [declined] at accepted
          cases accepted
      · constructor
        · rw [accepts.sameId, sameId]
        · intro debit its
          rw [made] at its
          cases its
          refine ⟨accepted, sameId.symm, ?_, ?_, samePin⟩
          · rw [asks.amount]
            rfl
          · intro named
            have user := (clientOf_eq_some client).1
            rw [asks.userId named] at user
            exact (Option.some.inj user).symm
        · intro _ _
          rw [made]
          rfl

/-- A request is about the payment whose authorization it has found. -/
theorem decides_of_sent
    {bank : AuthorizationBank} {call : ConfirmCall} (sent : CallSent bank call)
    {known : List PaymentTerms}
    (pending : ∀ transactionId pending,
      bank.pendingAuthorizations.get? transactionId = some pending →
        ∃ terms ∈ known, terms.transactionId = transactionId ∧ terms.Asks pending) :
    ∃ terms ∈ known, terms.Decides bank call := by
  cases sent with
  | accept transactionId pin accepts =>
      rcases accepts.pending with ⟨entry, found, _⟩
      rcases pending transactionId entry found with ⟨terms, member, about⟩
      refine ⟨terms, member, decides_of_accepts accepts ?_⟩
      intro other same
      rw [found] at same
      cases same
      exact about
  | reject entry found declines noDebit =>
      rcases pending _ entry found with ⟨terms, member, sameId, _⟩
      refine ⟨terms, member, sameId.symm, ?_, ?_⟩
      · intro debit made
        rw [noDebit] at made
        cases made
      · intro _ accepted
        exact absurd accepted declines

/-! ## Everything is about a payment -/

/-- All which goes between the two is about payments which KLIK has. -/
structure AllAsked (bankId : Uuid) (state : AuthorizationState) : Prop where
  ids : (state.terms.map PaymentTerms.transactionId).Nodup
  senders : ∀ terms ∈ state.terms, terms.bankId = bankId
  webhooks : ∀ payload ∈ state.webhooks, ∃ terms ∈ state.terms, terms.Sends payload
  pending : ∀ transactionId pending,
    state.bank.pendingAuthorizations.get? transactionId = some pending →
      ∃ terms ∈ state.terms, terms.transactionId = transactionId ∧ terms.Asks pending
  call : ∀ call reply, state.call = some (call, reply) →
    ∃ terms ∈ state.terms, terms.Decides state.bank call
  debits : ∀ debit ∈ state.debits, ∃ terms ∈ state.terms, terms.Debits state.bank.pins debit

theorem allAsked_of_isStart (start : state.IsStart bankId) : AllAsked bankId state where
  ids := by
    rw [AuthorizationState.terms, List.map_map]
    exact start.ids
  senders := by
    intro terms member
    rcases List.mem_map.mp member with ⟨payment, inState, rfl⟩
    exact (start.payments payment inState).2.1
  webhooks := by
    rw [start.webhooks]
    intro payload member
    cases member
  pending := by
    rw [start.pendingAuthorizations]
    intro transactionId pending found
    cases found
  call := by
    rw [start.call]
    intro call reply waiting
    cases waiting
  debits := by
    rw [start.debits]
    intro debit member
    cases member

/-- A payment in the place of an earlier state of it. -/
theorem terms_set {payments : List PaymentState} {index : Nat} {payment next : PaymentState}
    (going : payments[index]? = some payment)
    (same : SamePayment payment.db.row next.db.row) :
    (payments.set index next).map termsOf = payments.map termsOf := by
  rw [List.map_set, termsOf_eq same]
  apply List.ext_getElem?
  intro place
  rw [List.getElem?_set]
  split
  · rename_i here
    subst here
    split
    · rw [List.getElem?_map, going, Option.map_some]
    · rename_i outside
      rw [List.length_map] at outside
      rw [List.getElem?_map, List.getElem?_eq_none (Nat.not_lt.mp outside), Option.map_none]
  · rfl

theorem samePayment_confirmed (request : ConfirmRequest) (payment : PaymentState) :
    SamePayment payment.db.row (payment.confirmed request).db.row := by
  have step : paymentSystem.Step payment (.confirm request) (payment.confirmed request) := rfl
  exact (rowMove_of_step step).samePayment

/-- No step changes what payments ask for. -/
theorem terms_of_move (move : AuthorizationMove bankId createdAt state label after) :
    after.terms = state.terms := by
  cases move with
  | klik going foreign step => exact terms_set going (rowMove_of_step step).samePayment
  | delivered idle sent => rfl
  | pruned less => rfl
  | asked idle less sent => rfl
  | handled waiting going sent sameId => exact terms_set going (samePayment_confirmed _ _)
  | handledLate member going sent sameId => exact terms_set going (samePayment_confirmed _ _)
  | finished answered => rfl
  | raised answered => rfl
  | ended waiting given => rfl
  | moved idle => rfl

theorem pins_of_move (move : AuthorizationMove bankId createdAt state label after) :
    after.bank.pins = state.bank.pins := by
  cases move with
  | klik going foreign step => rfl
  | delivered idle sent => exact pruneExpired_pins
  | pruned less => exact less.pins
  | asked idle less sent => exact less.pins
  | handled waiting going sent sameId => rfl
  | handledLate member going sent sameId => rfl
  | finished answered => rfl
  | raised answered => rfl
  | ended waiting given => rfl
  | moved idle => rfl

/-- A webhook is sent for the payment whose attempt reads it. -/
theorem sends_of_sentWebhook
    {payment : PaymentState} {action : PaymentAction} {payload : AuthorizePayload}
    (sent : payload ∈ sentWebhook createdAt payment action) :
    (termsOf payment).Sends payload := by
  cases action with
  | start =>
      simp only [sentWebhook, startAttempt] at sent
      split at sent
      · rename_i held started
        split at started
        · cases started
        · split at started
          · cases started
          · cases started
            rw [List.mem_singleton.mp sent]
            exact ⟨rfl, rfl, rfl⟩
      · cases sent
  | confirm request => cases sent
  | book created => cases sent
  | answer attempt answer => cases sent
  | timeOut attempt => cases sent

theorem PaymentTerms.Decides.of_pruned
    {before bank : AuthorizationBank} {call : ConfirmCall} (decides : terms.Decides before call)
    (clients : bank.clients = before.clients) (pins : bank.pins = before.pins) :
    terms.Decides bank call := by
  constructor
  · exact decides.transactionId
  · rw [pins]
    exact decides.debit
  · rw [clients]
    exact decides.debits

theorem allAsked_step
    (all : AllAsked bankId state) (move : AuthorizationMove bankId createdAt state label after) :
    AllAsked bankId after := by
  have sameTerms := terms_of_move move
  have samePins := pins_of_move move
  constructor
  · rw [sameTerms]
    exact all.ids
  · rw [sameTerms]
    exact all.senders
  · rw [sameTerms]
    cases move with
    | klik going foreign step =>
        intro payload member
        rcases List.mem_append.mp member with earlier | new
        · exact all.webhooks payload earlier
        · exact ⟨_, List.mem_map_of_mem (List.mem_of_getElem? going), sends_of_sentWebhook new⟩
    | delivered idle sent => exact all.webhooks
    | pruned less => exact all.webhooks
    | asked idle less sent => exact all.webhooks
    | handled waiting going sent sameId => exact all.webhooks
    | handledLate member going sent sameId => exact all.webhooks
    | finished answered => exact all.webhooks
    | raised answered => exact all.webhooks
    | ended waiting given => exact all.webhooks
    | moved idle => exact all.webhooks
  · rw [sameTerms]
    intro transactionId pending found
    cases move with
    | klik going foreign step => exact all.pending _ _ found
    | @delivered place readings payload idle sent =>
        rcases get?_webhookAuthorize found with ⟨sameId, amount, userId⟩ | before
        · rcases all.webhooks payload sent with ⟨terms, member, sends⟩
          refine ⟨terms, member, sends.transactionId.symm.trans sameId.symm, ?_, ?_⟩
          · rw [amount, ← sends.amount]
            rfl
          · intro named
            exact userId _ (congrArg some sends.userId) named
        · exact all.pending _ _ before
    | pruned less => exact all.pending _ _ (less.kept _ _ found)
    | asked idle less sent => exact all.pending _ _ (less.kept _ _ found)
    | handled waiting going sent sameId => exact all.pending _ _ found
    | handledLate member going sent sameId => exact all.pending _ _ found
    | finished answered =>
        simp only [AuthorizationBank.confirmed, InsertionDict.get?_pop] at found
        split at found
        · cases found
        · exact all.pending _ _ found
    | raised answered => exact all.pending _ _ found
    | ended waiting given => exact all.pending _ _ found
    | moved idle => exact all.pending _ _ found
  · rw [sameTerms]
    intro call reply waiting
    cases move with
    | klik going foreign step => exact all.call _ _ waiting
    | delivered idle sent =>
        rw [idle] at waiting
        cases waiting
    | pruned less =>
        rcases all.call _ _ waiting with ⟨terms, member, decides⟩
        exact ⟨terms, member, decides.of_pruned less.clients less.pins⟩
    | asked idle less sent =>
        cases waiting
        apply decides_of_sent sent
        intro transactionId pending found
        exact all.pending _ _ (less.kept _ _ found)
    | handled before going sent sameId =>
        cases waiting
        exact all.call _ _ before
    | handledLate member going sent sameId => exact all.call _ _ waiting
    | finished answered => cases waiting
    | raised answered => cases waiting
    | ended before given => cases waiting
    | moved idle =>
        rw [idle] at waiting
        cases waiting
  · rw [sameTerms, samePins]
    cases move with
    | klik going foreign step => exact all.debits
    | delivered idle sent => exact all.debits
    | pruned less => exact all.debits
    | asked idle less sent => exact all.debits
    | handled waiting going sent sameId => exact all.debits
    | handledLate member going sent sameId => exact all.debits
    | finished answered =>
        intro debit member
        rcases List.mem_append.mp member with earlier | new
        · exact all.debits debit earlier
        · rcases all.call _ _ answered with ⟨terms, inState, decides⟩
          exact ⟨terms, inState, (decides.debit debit (Option.mem_toList.mp new)).2⟩
    | raised answered => exact all.debits
    | ended waiting given => exact all.debits
    | moved idle => exact all.debits

theorem allAsked_of_reachable
    (reached : (authorizationSystem bankId createdAt).Reachable state) :
    AllAsked bankId state := by
  apply reached.invariant
  · intro start isStart
    exact allAsked_of_isStart isStart
  · intro source action target _ all move
    exact allAsked_step all (authorizationMove_of_step bankId createdAt move)

/-- One row has the key of a payment. -/
theorem AllAsked.payment_unique
    (all : AllAsked bankId state) {first second : PaymentState} (one : first ∈ state.payments)
    (other : second ∈ state.payments) (sameId : first.db.row.id = second.db.row.id) :
    first = second := by
  have ids := all.ids
  rw [AuthorizationState.terms, List.map_map] at ids
  exact List.inj_on_of_nodup_map ids one other sameId

/-! ## Completed payments -/

/-- A payment was completed at KLIK. -/
def CompletedIn (payments : List PaymentState) (transactionId : Uuid) : Prop :=
  ∃ payment ∈ payments, payment.db.row.id = transactionId ∧
    payment.db.row.wasCompleted = true

/-- What a step at KLIK does to the payments, wherever it comes from. -/
theorem payments_of_move (move : AuthorizationMove bankId createdAt state label after) :
    after.payments = state.payments ∨
      ∃ index payment next action, state.payments[index]? = some payment ∧
        paymentSystem.Step payment action next ∧
        after.payments = state.payments.set index next ∧
        (ownConfirm bankId action = false ∨
          ∃ call request cached, action = .confirm request ∧ call.sentAs bankId request ∧
            payment.db.row.id = call.transactionId ∧
            (call ∈ state.late ∨
              state.call = some (call, none) ∧
                after.call = some (call, some (confirmReply request cached payment.db)))) := by
  cases move with
  | klik going foreign step => exact .inr ⟨_, _, _, _, going, step, rfl, .inl foreign⟩
  | delivered idle sent => exact .inl rfl
  | pruned less => exact .inl rfl
  | asked idle less sent => exact .inl rfl
  | handled waiting going sent sameId =>
      exact .inr ⟨_, _, _, .confirm _, going, rfl, rfl,
        .inr ⟨_, _, _, rfl, sent, sameId, .inr ⟨waiting, rfl⟩⟩⟩
  | handledLate member going sent sameId =>
      exact .inr ⟨_, _, _, .confirm _, going, rfl, rfl,
        .inr ⟨_, _, true, rfl, sent, sameId, .inl member⟩⟩
  | finished answered => exact .inl rfl
  | raised answered => exact .inl rfl
  | ended waiting given => exact .inl rfl
  | moved idle => exact .inl rfl

/-- The times of every payment agree with its status. -/
def AuthorizationState.AllDated (state : AuthorizationState) : Prop :=
  ∀ payment ∈ state.payments, payment.db.row.Dated

theorem allDated_of_reachable
    (reached : (authorizationSystem bankId createdAt).Reachable state) :
    state.AllDated := by
  apply reached.invariant
  · intro start isStart payment member
    rcases isStart.payments payment member with ⟨⟨pending, _⟩, _, completedAt, rejectedAt⟩
    exact .of_new pending completedAt rejectedAt
  · intro source action target _ dated move payment member
    rcases payments_of_move (authorizationMove_of_step bankId createdAt move) with
      same | ⟨index, before, next, klik, going, step, same, _⟩
    · rw [same] at member
      exact dated payment member
    · rw [same] at member
      rcases List.mem_or_eq_of_mem_set member with old | rfl
      · exact dated payment old
      · exact (rowMove_of_step step).dated (dated before (List.mem_of_getElem? going))

/-- What was completed stays completed. -/
theorem CompletedIn.of_move {transactionId : Uuid}
    (completed : CompletedIn state.payments transactionId)
    (move : AuthorizationMove bankId createdAt state label after) :
    CompletedIn after.payments transactionId := by
  rcases payments_of_move move with same | ⟨index, before, next, klik, going, step, same, _⟩
  · rw [same]
    exact completed
  · rw [same]
    rcases completed with ⟨payment, member, sameId, done⟩
    by_cases here : payment = before
    · subst here
      have row := rowMove_of_step step
      refine ⟨next, mem_moveOn_self going next, ?_, ?_⟩
      · rw [row.samePayment.id, sameId]
      · exact row.wasCompleted done
    · have stays : payment ∈ moveOn index (some next) state.payments :=
        (mem_moveOn going).mpr (.inr (mem_eraseIdx_of_ne going member here))
      exact ⟨payment, stays, sameId, done⟩

/-- A debit was made for a completed payment, and the reply which a handler
has got to an acceptance says that its payment is completed. -/
structure AllCompleted (state : AuthorizationState) : Prop where
  call : ∀ call, state.call = some (call, some .ok) → call.decision = .accepted →
    CompletedIn state.payments call.transactionId
  debits : ∀ debit ∈ state.debits, CompletedIn state.payments debit.transactionId

/-- KLIK replies well to an acceptance when the payment is completed. -/
theorem completed_of_confirmReply
    {request : ConfirmRequest} {cached : Bool} {payment : PaymentState}
    (dated : payment.db.row.Dated) (accepted : request.decision = .accepted)
    (replied : confirmReply request cached payment.db = .ok) :
    (payment.confirmed request).db.row.wasCompleted = true := by
  simp only [confirmReply] at replied
  cases result : confirm request payment.db with
  | error error =>
      rw [result] at replied
      cases replied
  | ok answer =>
      have committed : afterConfirm request payment.db = answer.2 := by
        simp only [afterConfirm, result]
      rw [PaymentState.confirmed, committed]
      exact wasCompleted_of_accepted dated accepted result

theorem allCompleted_step
    (all : AllAsked bankId state) (dated : state.AllDated)
    (completed : AllCompleted state) (move : AuthorizationMove bankId createdAt state label after) :
    AllCompleted after := by
  have keep {transactionId : Uuid} (done : CompletedIn state.payments transactionId) :
      CompletedIn after.payments transactionId := done.of_move move
  cases move with
  | klik going foreign step =>
      exact ⟨fun call ok accepted => keep (completed.call call ok accepted),
        fun debit member => keep (completed.debits debit member)⟩
  | delivered idle sent => exact ⟨completed.call, completed.debits⟩
  | pruned less => exact ⟨completed.call, completed.debits⟩
  | asked idle less sent =>
      refine ⟨?_, completed.debits⟩
      intro call ok
      cases ok
  | @handled index request cached call payment waiting going sent sameId =>
      refine ⟨?_, fun debit member => keep (completed.debits debit member)⟩
      intro other ok accepted
      cases replied : confirmReply request cached payment.db with
      | ok =>
          rw [replied] at ok
          cases ok
          have member : payment ∈ state.payments := List.mem_of_getElem? going
          refine ⟨payment.confirmed request,
            mem_moveOn_self going (payment.confirmed request), ?_, ?_⟩
          · rw [(samePayment_confirmed request payment).id, sameId]
          · exact completed_of_confirmReply (dated payment member)
              (sent.2.2.trans accepted) replied
      | raised =>
          rw [replied] at ok
          cases ok
      | cacheFailed =>
          rw [replied] at ok
          cases ok
  | handledLate member going sent sameId =>
      exact ⟨fun call ok accepted => keep (completed.call call ok accepted),
        fun debit member => keep (completed.debits debit member)⟩
  | @finished call answered =>
      constructor
      · intro other ok
        cases ok
      · intro debit member
        rcases List.mem_append.mp member with earlier | new
        · exact completed.debits debit earlier
        · rcases all.call _ _ answered with ⟨terms, inState, decides⟩
          rcases decides.debit debit (Option.mem_toList.mp new) with ⟨accepted, its⟩
          rw [its.transactionId, ← decides.transactionId]
          exact completed.call call answered accepted
  | raised answered =>
      refine ⟨?_, completed.debits⟩
      intro call ok
      cases ok
  | ended waiting given =>
      refine ⟨?_, completed.debits⟩
      intro call ok
      cases ok
  | moved idle => exact ⟨completed.call, completed.debits⟩

theorem allCompleted_of_reachable
    (reached : (authorizationSystem bankId createdAt).Reachable state) :
    AllCompleted state := by
  apply reached.invariant
  · intro start isStart
    constructor
    · intro call ok
      rw [isStart.call] at ok
      cases ok
    · rw [isStart.debits]
      intro debit member
      cases member
  · intro source action target reached completed move
    exact allCompleted_step (allAsked_of_reachable reached) (allDated_of_reachable reached)
      completed (authorizationMove_of_step bankId createdAt move)

/-! ## Debits are paid for -/

/-- The debit was made for a payment which KLIK has completed, from the client
who is to pay and with his PIN. -/
structure AuthorizationState.PaysFor
    (state : AuthorizationState) (debit : AuthorizedDebit) (payment : PaymentState) :
    Prop where
  transactionId : debit.transactionId = payment.db.row.id
  completed : payment.db.row.wasCompleted = true
  notRejected : payment.db.row.wasRejected = false
  amount : debit.amount = cents payment.db.row.amountGross
  userId : payment.db.row.userId ≠ [] → debit.userId = payment.db.row.userId
  pin : debit.pin = state.bank.pins.getD debit.userId (py "1234")

/-- Every debit pays for a payment. -/
theorem paysFor_of_mem
    (reached : (authorizationSystem bankId createdAt).Reachable state)
    {debit : AuthorizedDebit} (made : debit ∈ state.debits) :
    ∃ payment ∈ state.payments, state.PaysFor debit payment := by
  have all := allAsked_of_reachable reached
  rcases all.debits debit made with ⟨terms, member, debits⟩
  rcases (allCompleted_of_reachable reached).debits debit made with
    ⟨payment, inState, sameId, completed⟩
  have unique : termsOf payment = terms := by
    apply List.inj_on_of_nodup_map all.ids (List.mem_map_of_mem inState) member
    exact sameId.trans debits.transactionId
  subst unique
  refine ⟨payment, inState, sameId.symm, completed, ?_, debits.amount, debits.userId, debits.pin⟩
  exact (allDated_of_reachable reached payment inState).apart completed

/-! ## A payment of a client -/

/-- The pending payment of a client of bank 1. -/
def clientPayment : Transaction :=
  { awaitingPayment with userId := py "user-1" }

/-- The payment before it is asked for, and a bank where the client has an
account. -/
def authorizationStart : AuthorizationState where
  opening := [(py "user-1", 500000)]
  payments := [⟨⟨clientPayment, []⟩, [], []⟩]
  webhooks := []
  bank :=
    { clients := [(py "user-1", 500000)]
      pins := [(py "user-1", py "1234")]
      codeQueue := []
      pendingAuthorizations := [] }
  expired := []
  call := none
  late := []
  unanswered := []
  delivered := []
  debits := []
  moves := []

theorem authorizationStart_isStart : authorizationStart.IsStart 1 where
  payments := by
    intro payment member
    rw [List.mem_singleton.mp member]
    exact ⟨⟨rfl, rfl, rfl⟩, rfl, rfl, rfl⟩
  ids := List.nodup_singleton _
  webhooks := rfl
  clients := rfl
  pendingAuthorizations := rfl
  call := rfl
  late := rfl
  unanswered := rfl
  delivered := rfl
  debits := rfl
  moves := rfl

end Klik.BankIO
