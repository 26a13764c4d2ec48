import Klik.Codes.PaymentDeadline
import Klik.Codes.PaymentRow

/-!
# Reading a payment

`PaymentStatusView.get`: the two parties of a payment read its row.  The status
of a payment which was decided may be overwritten by a time-out; what an answer
says of the money never is.
-/

namespace Klik.Codes

open Klik.Agents
open Klik.Banks
open Klik.Common
open Klik.Ledger
open Klik.Lib

/-! ## The view -/

/-- Who reads: `request.user`. -/
inductive StatusReader where
  | bank (bank : Bank)
  | agent (agent : Agent)
  | anonymous

/-- The fields of `PaymentStatusResponseSerializer`. -/
structure PaymentStatusResponse where
  transactionId : Uuid
  status : TransactionStatus
  amountGross : Decimal
  merchantNet : Option Decimal
  currency : Currency
  createdAt : Instant
  completedAt : Option Instant
deriving DecidableEq, Repr

def paymentStatusResponse (createdAt : Instant) (tx : Transaction) : PaymentStatusResponse where
  transactionId := tx.id
  status := tx.status
  amountGross := tx.amountGross
  merchantNet := tx.merchantNet
  currency := tx.currency
  createdAt := createdAt
  completedAt := tx.completedAt

/-- `_is_party_to_transaction`. -/
def isPartyToTransaction (tx : Transaction) : StatusReader → Bool
  | .bank bank => tx.senderBank.id = bank.id
  | .agent agent => tx.agent.id = agent.id
  | .anonymous => false

/-- `PaymentStatusView.get` for the payment which was created at a time.  The
status in the cache is read and not used. -/
def paymentStatusView (reader : StatusReader) (transactionId : Uuid) (createdAt : Instant)
    (tx : Transaction) : Except ConfirmError PaymentStatusResponse :=
  if tx.id ≠ transactionId then .error (.api transactionNotFoundError)
  else if isPartyToTransaction tx reader then .ok (paymentStatusResponse createdAt tx)
  else .error (.api transactionNotFoundError)

theorem paymentStatusView_eq_ok
    {reader : StatusReader} {transactionId : Uuid} {createdAt : Instant} {tx : Transaction}
    {response : PaymentStatusResponse} :
    paymentStatusView reader transactionId createdAt tx = .ok response ↔
      tx.id = transactionId ∧ isPartyToTransaction tx reader = true ∧
        paymentStatusResponse createdAt tx = response := by
  simp only [paymentStatusView]
  constructor
  · intro answered
    split at answered
    · cases answered
    · rename_i same
      split at answered
      · rename_i party
        cases answered
        exact ⟨not_not.mp same, party, rfl⟩
      · cases answered
  · rintro ⟨same, party, rfl⟩
    rw [if_neg (not_not.mpr same), if_pos party]

/-! ## What is claimed -/

/-- An answer shows the net amount with the time of the completion, which it
shows of every payment which is booked, and the payment expires two minutes
after the time of its creation. -/
structure PaymentStatusResponse.Backed (response : PaymentStatusResponse)
    (state : DeadlineState) : Prop where
  net : response.merchantNet.isSome ↔ response.completedAt.isSome
  completed : response.status = .completed → response.completedAt.isSome
  pending : response.status = .pending → response.completedAt = none
  booked : state.payment.booked ≠ [] → response.completedAt.isSome
  expiresAt : state.expiresAt = response.createdAt + 120 * 1000000

/-- A later answer about the same payment. -/
structure PaymentStatusResponse.Follows (later response : PaymentStatusResponse) : Prop where
  transactionId : later.transactionId = response.transactionId
  amountGross : later.amountGross = response.amountGross
  currency : later.currency = response.currency
  createdAt : later.createdAt = response.createdAt
  status : later.status = response.status ∨ response.status = .pending ∨
    later.status = .timeout
  money : response.completedAt.isSome →
    later.completedAt = response.completedAt ∧ later.merchantNet = response.merchantNet

/-! ## The row behind the answers -/

/-- What the row of a payment may become. -/
structure Transaction.Becomes (row next : Transaction) : Prop where
  senderBank : next.senderBank = row.senderBank
  agent : next.agent = row.agent
  answer : ∀ createdAt,
    (paymentStatusResponse createdAt next).Follows (paymentStatusResponse createdAt row)

theorem Transaction.Becomes.refl (row : Transaction) : row.Becomes row :=
  ⟨rfl, rfl, fun _ => ⟨rfl, rfl, rfl, rfl, .inl rfl, fun _ => ⟨rfl, rfl⟩⟩⟩

theorem RowMove.becomes
    {row next : Transaction} {action : PaymentAction}
    (move : RowMove row action next) (dated : row.Dated) : row.Becomes next := by
  cases move with
  | same => exact .refl row
  | completed split pending sender accepted =>
      refine ⟨rfl, rfl, fun _ => ⟨rfl, rfl, rfl, rfl, .inr (.inl pending), fun shown => ?_⟩⟩
      have undecided : row.completedAt.isSome = false := (dated.undecided pending).1
      rw [show row.completedAt.isSome = true from shown] at undecided
      cases undecided
  | rejected reason pending sender declined =>
      exact ⟨rfl, rfl, fun _ =>
        ⟨rfl, rfl, rfl, rfl, .inr (.inl pending), fun _ => ⟨rfl, rfl⟩⟩⟩
  | timedOut =>
      exact ⟨rfl, rfl, fun _ => ⟨rfl, rfl, rfl, rfl, .inr (.inr rfl), fun _ => ⟨rfl, rfl⟩⟩⟩

theorem PaymentStatusResponse.Follows.trans
    {first second third : PaymentStatusResponse}
    (later : third.Follows second) (earlier : second.Follows first) : third.Follows first where
  transactionId := later.transactionId.trans earlier.transactionId
  amountGross := later.amountGross.trans earlier.amountGross
  currency := later.currency.trans earlier.currency
  createdAt := later.createdAt.trans earlier.createdAt
  status := by
    rcases later.status with same | pending | timeout
    · rw [same]
      exact earlier.status
    · rcases earlier.status with same | before | timeout
      · exact .inr (.inl (same ▸ pending))
      · exact .inr (.inl before)
      · rw [timeout] at pending
        cases pending
    · exact .inr (.inr timeout)
  money := by
    intro shown
    rcases earlier.money shown with ⟨completedAt, merchantNet⟩
    have still := later.money (by rw [completedAt]; exact shown)
    exact ⟨still.1.trans completedAt, still.2.trans merchantNet⟩

theorem Transaction.Becomes.trans
    {first second third : Transaction}
    (earlier : first.Becomes second) (later : second.Becomes third) : first.Becomes third :=
  ⟨later.senderBank.trans earlier.senderBank, later.agent.trans earlier.agent,
    fun createdAt => (later.answer createdAt).trans (earlier.answer createdAt)⟩

/-! ## The invariant -/

/-- The columns of the row agree with each other and with what is booked. -/
structure PaymentShown (payment : PaymentState) : Prop where
  dated : payment.db.row.Dated
  net : payment.db.row.merchantNet.isSome ↔ payment.db.row.completedAt.isSome
  booked : payment.booked ≠ [] → payment.db.row.wasCompleted = true

theorem row_of_initiate
    {now : Nat} {store : CodeStore} {transactions : List Transaction} {request : InitiateRequest}
    {response : InitiateResponse} {row : Transaction}
    (answered : (initiate now store transactions request).1.result = .ok response)
    (inserted : (initiate now store transactions request).1.transactions =
      transactions ++ [row]) :
    ∃ merchant senderBank payload, row = request.transaction merchant senderBank payload := by
  simp only [initiate] at answered inserted
  cases marked : request.mark now store with
  | mk result after =>
      rw [marked] at answered inserted
      cases result with
      | error error => cases answered
      | ok found =>
          rcases found with ⟨merchant, payload⟩
          rcases request.create_cases merchant payload transactions with
            ⟨senderBank, _, _, created⟩ | ⟨error, _, raised⟩
          · simp only [created] at inserted
            have same := List.singleton_inj.mp (List.append_cancel_left inserted)
            exact ⟨merchant, senderBank, payload, same.symm⟩
          · simp only [raised] at answered
            cases answered

theorem paymentShown_of_isStart {state : DeadlineState} (start : state.IsStart) :
    PaymentShown state.payment := by
  rcases start.created with
    ⟨now, store, transactions, request, response, answered, inserted, _, _⟩
  rcases row_of_initiate answered inserted with ⟨merchant, senderBank, payload, new⟩
  constructor
  · apply Transaction.Dated.of_new
    · rw [new]
      rfl
    · rw [new]
      rfl
    · rw [new]
      rfl
  · rw [new]
    exact Iff.rfl
  · intro booked
    exact absurd start.booked booked

theorem RowMove.net
    {row next : Transaction} {action : PaymentAction} (move : RowMove row action next)
    (net : row.merchantNet.isSome ↔ row.completedAt.isSome) :
    next.merchantNet.isSome ↔ next.completedAt.isSome := by
  cases move with
  | same => exact net
  | completed split pending sender accepted => exact ⟨fun _ => rfl, fun _ => rfl⟩
  | rejected reason pending sender declined => exact net
  | timedOut => exact net

variable {state after : DeadlineState}

theorem paymentShown_step
    {action : PaymentAction} {payment : PaymentState} (shown : PaymentShown state.payment)
    (move : paymentSystem.Step state.payment action payment) : PaymentShown payment := by
  have moves := rowMove_of_step move
  have dated := moves.dated shown.dated
  constructor
  · exact dated
  · exact moves.net shown.net
  · intro booked
    rcases paid_histories move with ⟨_, _, same⟩ | ⟨_, _, _, done⟩
    · rw [same] at booked
      exact moves.wasCompleted (shown.booked booked)
    · exact dated.completed (completesRow_eq_true.mp done).2

theorem paymentShown_of_reachable (reached : deadlineSystem.Reachable state) :
    PaymentShown state.payment := by
  apply reached.invariant
  · intro start isStart
    exact paymentShown_of_isStart isStart
  · intro source action target _ shown move
    cases action with
    | tick clock =>
        rw [move.2]
        exact shown
    | pay action =>
        rcases move.2 with ⟨payment, paid, rfl⟩
        exact paymentShown_step shown paid

/-- Over a run, the row becomes another one. -/
theorem becomes_of_path
    (reached : deadlineSystem.Reachable state) {actions : List DeadlineAction}
    (path : deadlineSystem.Path state actions after) :
    state.payment.db.row.Becomes after.payment.db.row ∧ after.createdAt = state.createdAt := by
  apply path.preserves fun between =>
    state.payment.db.row.Becomes between.payment.db.row ∧ between.createdAt = state.createdAt
  · rintro source action target sourceReached ⟨becomes, createdAt⟩ move
    cases action with
    | tick clock =>
        rw [move.2]
        exact ⟨becomes, createdAt⟩
    | pay action =>
        rcases move.2 with ⟨payment, paid, rfl⟩
        have dated := (paymentShown_of_reachable sourceReached).dated
        exact ⟨becomes.trans ((rowMove_of_step paid).becomes dated), createdAt⟩
  · exact reached
  · exact ⟨.refl _, rfl⟩

/-! ## The answers -/

theorem backed_of_shown
    (shown : PaymentShown state.payment) (minutes : state.TwoMinutes) :
    (paymentStatusResponse state.createdAt state.payment.db.row).Backed state where
  net := shown.net
  completed := shown.dated.completed
  pending := fun pending => Option.isSome_eq_false_iff.mp (shown.dated.undecided pending).1 |>
    Option.isNone_iff_eq_none.mp
  booked := shown.booked
  expiresAt := minutes

/-- Who is a party to a payment stays one. -/
theorem Transaction.Becomes.isParty
    {row next : Transaction} (becomes : row.Becomes next) (reader : StatusReader) :
    isPartyToTransaction next reader = isPartyToTransaction row reader := by
  cases reader with
  | bank bank => simp only [isPartyToTransaction, becomes.senderBank]
  | agent agent => simp only [isPartyToTransaction, becomes.agent]
  | anonymous => rfl

/-- In every run, what a party is told of a payment is so, the party is answered
ever after, and each later answer to either party follows: its status is
another one only where the payment was pending or has timed out, and the time
and the net amount of a completion stay. -/
theorem payment_answers_kept
    (state : DeadlineState) (reached : deadlineSystem.Reachable state)
    (reader : StatusReader) (transactionId : Uuid) (response : PaymentStatusResponse)
    (answered : paymentStatusView reader transactionId state.createdAt state.payment.db.row =
      .ok response) :
    response.Backed state ∧
      ∀ actions after, deadlineSystem.Path state actions after →
        (∃ later, paymentStatusView reader transactionId after.createdAt
            after.payment.db.row = .ok later) ∧
          ∀ other later, paymentStatusView other transactionId after.createdAt
              after.payment.db.row = .ok later → later.Follows response := by
  rcases paymentStatusView_eq_ok.mp answered with ⟨named, party, rfl⟩
  constructor
  · exact backed_of_shown (paymentShown_of_reachable reached) (twoMinutes_of_reachable reached)
  · intro actions after path
    rcases becomes_of_path reached path with ⟨becomes, createdAt⟩
    have follows := becomes.answer state.createdAt
    constructor
    · refine ⟨_, paymentStatusView_eq_ok.mpr ⟨follows.transactionId.trans named, ?_, rfl⟩⟩
      rw [becomes.isParty]
      exact party
    · intro other later told
      rcases paymentStatusView_eq_ok.mp told with ⟨_, _, rfl⟩
      rw [createdAt]
      exact follows

/-- The bank is told that the payment is pending, and the agent of its
completion. -/
theorem payment_answers_kept_accepted :
    ∃ response later : PaymentStatusResponse,
      paymentStatusView (.bank (polishBank 1)) deadlineRequest.transactionId 0
          deadlineState.payment.db.row = .ok response ∧
        response.status = .pending ∧ response.Backed deadlineState ∧
        paymentStatusView (.agent deadlineRequest.agent) deadlineRequest.transactionId 0
          (acceptedAt 5).payment.db.row = .ok later ∧
        later.completedAt = some 5 ∧ later.Follows response := by
  have path := path_acceptedAt (fun _ _ => True) (show 0 ≤ (5 : Instant) by norm_num)
    (fun _ _ _ => trivial) trivial
  have answered : paymentStatusView (.bank (polishBank 1)) deadlineRequest.transactionId 0
      deadlineState.payment.db.row = .ok (paymentStatusResponse 0 deadlineState.payment.db.row) :=
    paymentStatusView_eq_ok.mpr ⟨rfl, by decide +kernel, rfl⟩
  have told : paymentStatusView (.agent deadlineRequest.agent) deadlineRequest.transactionId 0
      (acceptedAt 5).payment.db.row =
        .ok (paymentStatusResponse 0 (acceptedAt 5).payment.db.row) :=
    paymentStatusView_eq_ok.mpr ⟨by decide +kernel, by decide +kernel, rfl⟩
  rcases payment_answers_kept deadlineState (.init isStart_deadlineState) _ _ _ answered with
    ⟨backed, kept⟩
  exact ⟨_, _, answered, rfl, backed, told, by decide +kernel,
    (kept _ _ path.of_guarded).2 _ _ told⟩

end Klik.Codes
