import Klik.Codes.CodesPaid
import Klik.Codes.ConfirmBooks
import Klik.Codes.WebhookTask

/-!
# The deadline of a payment

`/payments/initiate` tells the agent when a payment expires, and the webhook
tells the bank.  Both compute it from the time at which the row was created.
Nothing looks at it again: a request confirms a pending payment whatever the
time is.
-/

namespace Klik.Codes

open Klik.Agents
open Klik.Banks
open Klik.Common
open Klik.Ledger
open Klik.Lib

/-! ## What the bank is told -/

/-- The body of the webhook, without the name of the merchant. -/
structure AuthorizePayload where
  transactionId : Uuid
  userId : PyStr
  amount : Decimal
  currency : Currency
  isOnUs : Bool
  expiryTime : Instant
  zone : Zone
deriving DecidableEq, Repr

/-- The body which `authorize_webhook_task` sends for a payment created at a
time. -/
def authorizePayload (createdAt : Instant) (tx : Transaction) : AuthorizePayload where
  transactionId := tx.id
  userId := tx.userId
  amount := tx.amountGross
  currency := tx.currency
  isOnUs := tx.isOnUs
  expiryTime := createdAt + 120 * 1000000
  zone := tx.zone

/-! ## The payment over time -/

/-- The payment with its attempts, the times of its creation and of its
expiry, the clock, the bodies sent to the bank, and when the row became
completed and when entries were created for it. -/
structure DeadlineState where
  payment : PaymentState
  createdAt : Instant
  expiresAt : Instant
  clock : Instant
  webhooks : List AuthorizePayload
  completions : List Instant
  bookings : List Instant
deriving DecidableEq, Repr

inductive DeadlineAction where
  | tick (clock : Instant)
  | pay (action : PaymentAction)

/-- The bodies which an action sends. -/
def DeadlineState.sends (state : DeadlineState) : PaymentAction → List AuthorizePayload
  | .start =>
      match startAttempt state.payment.db.row with
      | some ⟨held, .calling⟩ => [authorizePayload state.createdAt held]
      | _ => []
  | _ => []

/-- Whether an action makes the row completed. -/
def completesRow (before after : PaymentState) : Bool :=
  before.db.row.status != .completed && after.db.row.status == .completed

/-- The state after an action of the payment. -/
def DeadlineState.paid
    (action : PaymentAction) (after : PaymentState) (state : DeadlineState) :
    DeadlineState :=
  { state with
    payment := after
    webhooks := state.webhooks ++ state.sends action
    completions :=
      if completesRow state.payment after then state.completions ++ [state.clock]
      else state.completions
    bookings :=
      if after.booked = state.payment.booked then state.bookings
      else state.bookings ++ [state.clock] }

/-- A request has read the clock before it commits. -/
def DeadlineState.HasRead (state : DeadlineState) (action : PaymentAction) : Prop :=
  match action with
  | .confirm request => request.splitAt ≤ state.clock ∧ request.now ≤ state.clock
  | _ => True

/-- The payment which a request to `/payments/initiate` has just created. -/
structure DeadlineState.IsStart (state : DeadlineState) : Prop where
  created : ∃ now store transactions request response,
    (initiate now store transactions request).1.result = .ok response ∧
      (initiate now store transactions request).1.transactions =
        transactions ++ [state.payment.db.row] ∧
      request.createdAt = state.createdAt ∧
      response.expiresAt = state.expiresAt
  booked : state.payment.booked = []
  attempts : state.payment.attempts = []
  clock : state.createdAt ≤ state.clock
  webhooks : state.webhooks = []
  completions : state.completions = []
  bookings : state.bookings = []

def deadlineSystem : TransitionSystem DeadlineState DeadlineAction where
  Init := DeadlineState.IsStart
  Step state action after :=
    match action with
    | .tick clock => state.clock ≤ clock ∧ after = { state with clock := clock }
    | .pay action =>
        state.HasRead action ∧
          ∃ payment, paymentSystem.Step state.payment action payment ∧
            after = state.paid action payment

/-! ## When a confirm request completes the payment -/

/-- An acceptance of a pending payment by its bank, with an agreement in force,
which passes the checks of the row and of its entries and is not refused by
the server. -/
structure Completes (request : ConfirmRequest) (db : PaymentDb) : Prop where
  transactionId : db.row.id = request.transactionId
  sender : db.row.senderBank.id = request.bankId
  pending : db.row.status = .pending
  accepted : request.decision = .accepted
  carriedOut : request.refused = none
  booked : ∃ split,
    calculateSplit request.agreements db.row.agent db.row.amountGross request.splitAt =
        .ok split ∧
      (db.row.completedWith split request.now).fullClean = .ok () ∧
      (entriesOf db.row.idempotencyKey db.entries ≠ [] ∨
        ∀ draft ∈ c2bDrafts request.banks (db.row.completedWith split request.now)
          split.merchantNet split.klikFee split.agentFee, draft.Valid)

/-- The entries of a completed payment are recorded exactly if there are some
already or all of them are acceptable. -/
theorem recordC2bTransaction_succeeds_iff
    {banks : List Bank} {tx : Transaction} {split : Split} {now : Instant}
    {entries : List LedgerEntry} :
    (∃ recorded, recordC2bTransaction banks (tx.completedWith split now) entries =
        .ok recorded) ↔
      entriesOf tx.idempotencyKey entries ≠ [] ∨
        ∀ draft ∈ c2bDrafts banks (tx.completedWith split now) split.merchantNet
          split.klikFee split.agentFee, draft.Valid := by
  rw [recordC2bTransaction_completedWith]
  by_cases existing : entriesOf tx.idempotencyKey entries ≠ []
  · rw [if_pos existing]
    exact ⟨fun _ => Or.inl existing, fun _ => ⟨_, rfl⟩⟩
  · rw [if_neg existing]
    constructor
    · rintro ⟨recorded, succeeded⟩
      split at succeeded
      · cases succeeded
      · rename_i created
        exact Or.inr (valid_of_createEntries created)
    · intro either
      rw [createEntries_of_valid (either.resolve_left existing)]
      exact ⟨_, rfl⟩

/-- An acceptance is processed exactly if it passes its checks. -/
theorem processDecision_succeeds_iff
    {request : ConfirmRequest} {db : PaymentDb} (accepted : request.decision = .accepted) :
    (∃ after, processDecision request db = .ok after) ↔
      request.refused = none ∧ ∃ split,
        calculateSplit request.agreements db.row.agent db.row.amountGross
            request.splitAt = .ok split ∧
          (db.row.completedWith split request.now).fullClean = .ok () ∧
          ∃ recorded, recordC2bTransaction request.banks
            (db.row.completedWith split request.now) db.entries = .ok recorded := by
  simp only [processDecision, accepted, processAccepted]
  cases computed : calculateSplit request.agreements db.row.agent db.row.amountGross
      request.splitAt with
  | error error => simp
  | ok split =>
      simp only [saveTransaction]
      cases checked : (db.row.completedWith split request.now).fullClean with
      | error error => simp [checked]
      | ok done =>
          cases recorded : recordC2bTransaction request.banks
              (db.row.completedWith split request.now) db.entries with
          | error error =>
              rcases request.refused with _ | _ | _ | _ <;> simp [recorded]
          | ok result =>
              rcases result with ⟨returned, entries⟩
              rcases request.refused with _ | _ | _ | _ <;> simp [checked, recorded]

/-- A request completes a payment which is not completed exactly if it is an
acceptance which passes. -/
theorem afterConfirm_completed_iff
    {request : ConfirmRequest} {db : PaymentDb} (before : db.row.status ≠ .completed) :
    (afterConfirm request db).row.status = .completed ↔ Completes request db := by
  constructor
  · intro completed
    simp only [afterConfirm] at completed
    cases confirmed : confirm request db with
    | error error =>
        rw [confirmed] at completed
        exact absurd completed before
    | ok answer =>
        rcases answer with ⟨response, after⟩
        rw [confirmed] at completed
        simp only at completed
        rcases confirm_ok confirmed with ⟨sameId, sender, _, status, same | ⟨pending, _⟩⟩
        · rw [same] at completed
          exact absurd completed before
        · rw [completed] at status
          have accepted : request.decision = .accepted := by
            cases decision : request.decision with
            | accepted => rfl
            | rejected reason =>
                rw [decision] at status
                cases status
          have processed : ∃ after, processDecision request db = .ok after := by
            simp only [confirm, sameId, sender, ne_eq, not_true_eq_false, if_false,
              pending] at confirmed
            split at confirmed
            · cases confirmed
            · rename_i processed
              exact ⟨_, processed⟩
          rcases (processDecision_succeeds_iff accepted).mp processed with
            ⟨carriedOut, split, computed, checked, recorded⟩
          exact ⟨sameId.symm, sender.symm, pending, accepted, carriedOut, split, computed,
            checked, recordC2bTransaction_succeeds_iff.mp recorded⟩
  · intro completes
    rcases completes.booked with ⟨split, computed, checked, entries⟩
    rcases (processDecision_succeeds_iff completes.accepted).mpr
        ⟨completes.carriedOut, split, computed, checked,
          recordC2bTransaction_succeeds_iff.mpr entries⟩ with ⟨after, processed⟩
    have status := (processDecision_processed processed).status
    rw [completes.accepted] at status
    simp only [afterConfirm, confirm, completes.transactionId, completes.sender, ne_eq,
      not_true_eq_false, if_false, completes.pending, processed]
    exact status

/-! ## Keeping the deadline -/

/-- The bank was told the time which the agent was told, and the payment was
neither completed nor booked after it. -/
structure DeadlineKept (state : DeadlineState) : Prop where
  announced : ∀ payload ∈ state.webhooks, payload.expiryTime = state.expiresAt
  completed : ∀ time ∈ state.completions, time ≤ state.expiresAt
  booked : ∀ time ∈ state.bookings, time ≤ state.expiresAt

instance (state : DeadlineState) : Decidable (DeadlineKept state) :=
  decidable_of_iff
    ((∀ payload ∈ state.webhooks, payload.expiryTime = state.expiresAt) ∧
      (∀ time ∈ state.completions, time ≤ state.expiresAt) ∧
      ∀ time ∈ state.bookings, time ≤ state.expiresAt)
    ⟨fun all => ⟨all.1, all.2.1, all.2.2⟩, fun kept => ⟨kept.1, kept.2, kept.3⟩⟩

/-- A request which completes the payment comes in time. -/
def ConfirmsInTime (state : DeadlineState) (action : DeadlineAction) : Prop :=
  match action with
  | .pay (.confirm request) =>
      Completes request state.payment.db → state.clock ≤ state.expiresAt
  | _ => True

/-- Both deadlines are 120 seconds after the creation. -/
def DeadlineState.TwoMinutes (state : DeadlineState) : Prop :=
  state.expiresAt = state.createdAt + 120 * 1000000

theorem twoMinutes_of_isStart {state : DeadlineState} (start : state.IsStart) :
    state.TwoMinutes := by
  rcases start.created with
    ⟨now, store, transactions, request, response, answered, _, created, expires⟩
  simp only [initiate] at answered
  split at answered
  · cases answered
  · rename_i merchant payload after _
    rcases request.create_cases merchant payload transactions with
      ⟨senderBank, _, _, result⟩ | ⟨error, _, result⟩
    · rw [result] at answered
      cases answered
      rw [DeadlineState.TwoMinutes, ← expires, ← created]
      rfl
    · rw [result] at answered
      cases answered

theorem twoMinutes_of_reachable
    {state : DeadlineState} (reached : deadlineSystem.Reachable state) :
    state.TwoMinutes := by
  apply reached.invariant
  · intro start isStart
    exact twoMinutes_of_isStart isStart
  · intro source action target _ minutes move
    cases action with
    | tick clock =>
        rw [move.2]
        exact minutes
    | pay action =>
        rcases move.2 with ⟨payment, _, rfl⟩
        exact minutes

theorem completesRow_eq_true {before after : PaymentState} :
    completesRow before after = true ↔
      before.db.row.status ≠ .completed ∧ after.db.row.status = .completed := by
  simp [completesRow]

theorem completesRow_of_same
    {before after : PaymentState} (same : after.db.row.status = before.db.row.status) :
    completesRow before after = false := by
  rw [← Bool.not_eq_true, completesRow_eq_true, same]
  exact fun both => both.1 both.2

/-- Only a request which completes the payment completes its row or creates
entries for it. -/
theorem paid_histories
    {state : DeadlineState} {action : PaymentAction} {after : PaymentState}
    (move : paymentSystem.Step state.payment action after) :
    ((∀ request, action = .confirm request → ¬ Completes request state.payment.db) ∧
        completesRow state.payment after = false ∧
        after.booked = state.payment.booked) ∨
      ∃ request, action = .confirm request ∧ Completes request state.payment.db ∧
        completesRow state.payment after = true := by
  cases action with
  | confirm request =>
      rw [show after = state.payment.confirmed request from move]
      by_cases completes : Completes request state.payment.db
      · right
        have before : state.payment.db.row.status ≠ .completed := by
          rw [completes.pending]
          decide
        have completed := (afterConfirm_completed_iff before).mpr completes
        exact ⟨request, rfl, completes, completesRow_eq_true.mpr ⟨before, completed⟩⟩
      · left
        have uncompleted :
            completesRow state.payment (state.payment.confirmed request) = false := by
          rw [← Bool.not_eq_true, completesRow_eq_true]
          rintro ⟨before, completed⟩
          exact completes ((afterConfirm_completed_iff before).mp completed)
        refine ⟨?_, uncompleted, ?_⟩
        · rintro other same
          cases same
          exact completes
        rcases confirmed_effect request state.payment with
          ⟨_, unbooked⟩ | ⟨pending, unbooked | completed⟩
        · exact unbooked
        · exact unbooked
        · rw [← Bool.not_eq_true, completesRow_eq_true] at uncompleted
          refine absurd ⟨?_, completed⟩ uncompleted
          rw [pending]
          decide
  | book created =>
      left
      rw [show after = _ from move]
      exact ⟨nofun, completesRow_of_same rfl, rfl⟩
  | start =>
      left
      rw [show after = state.payment.started from move]
      exact ⟨nofun, completesRow_of_same rfl, rfl⟩
  | answer attempt answer =>
      left
      rw [move.2.2]
      exact ⟨nofun, completesRow_of_same rfl, rfl⟩
  | timeOut attempt =>
      left
      rw [move.2.2]
      refine ⟨nofun, ?_, rfl⟩
      rcases status_afterTimeout attempt.held state.payment.db.row with same | ⟨_, marked⟩
      · exact completesRow_of_same (congrArg Transaction.status same)
      · rw [← Bool.not_eq_true, completesRow_eq_true]
        rintro ⟨_, completed⟩
        cases marked.symm.trans completed

theorem expiryTime_sends
    {state : DeadlineState} (minutes : state.TwoMinutes) (action : PaymentAction) :
    ∀ payload ∈ state.sends action, payload.expiryTime = state.expiresAt := by
  intro payload member
  cases action with
  | start =>
      simp only [DeadlineState.sends] at member
      split at member
      · rw [List.mem_singleton.mp member, minutes]
        rfl
      · cases member
  | confirm | book | answer | timeOut => cases member

/-- A step keeps the deadline exactly if it is in time. -/
theorem deadlineKept_step_iff
    {state after : DeadlineState} {action : DeadlineAction}
    (minutes : state.TwoMinutes) (kept : DeadlineKept state)
    (move : deadlineSystem.Step state action after) :
    DeadlineKept after ↔ ConfirmsInTime state action := by
  cases action with
  | tick clock =>
      rw [move.2]
      exact ⟨fun _ => trivial, fun _ => ⟨kept.announced, kept.completed, kept.booked⟩⟩
  | pay action =>
      rcases move.2 with ⟨payment, paid, rfl⟩
      have announced : ∀ payload ∈ state.webhooks ++ state.sends action,
          payload.expiryTime = state.expiresAt := by
        rw [List.forall_mem_append]
        exact ⟨kept.announced, expiryTime_sends minutes action⟩
      rcases paid_histories paid with
        ⟨others, uncompleted, unbooked⟩ | ⟨request, rfl, completes, done⟩
      · have keeps : DeadlineKept (state.paid action payment) := by
          constructor
          · exact announced
          · simp only [DeadlineState.paid, uncompleted, Bool.false_eq_true, if_false]
            exact kept.completed
          · simp only [DeadlineState.paid, unbooked, if_true]
            exact kept.booked
        refine ⟨fun _ => ?_, fun _ => keeps⟩
        cases action with
        | confirm request => exact fun completes => absurd completes (others request rfl)
        | book | start | answer | timeOut => trivial
      · have histories : (state.paid (.confirm request) payment).completions =
            state.completions ++ [state.clock] := by
          simp only [DeadlineState.paid, done, if_true]
        constructor
        · intro later _
          apply later.completed
          rw [histories]
          exact List.mem_append_right _ (List.mem_singleton_self _)
        · intro inTime
          have early : state.clock ≤ state.expiresAt := inTime completes
          constructor
          · exact announced
          · rw [histories, List.forall_mem_append, List.forall_mem_singleton]
            exact ⟨kept.completed, early⟩
          · simp only [DeadlineState.paid]
            split
            · exact kept.booked
            · rw [List.forall_mem_append, List.forall_mem_singleton]
              exact ⟨kept.booked, early⟩

/-- In every run whose completing requests all come in time the deadline is
kept, and the next step keeps it exactly if it is in time too. -/
theorem deadline_kept_iff
    {state : DeadlineState}
    (reached : (deadlineSystem.guarded ConfirmsInTime).Reachable state) :
    DeadlineKept state ∧
      ∀ action after, deadlineSystem.Step state action after →
        (DeadlineKept after ↔ ConfirmsInTime state action) := by
  have kept : DeadlineKept state := by
    apply reached.invariant
    · intro start isStart
      constructor
      · simp [isStart.webhooks]
      · simp [isStart.completions]
      · simp [isStart.bookings]
    · intro source action target before held move
      have minutes := twoMinutes_of_reachable before.of_guarded
      exact (deadlineKept_step_iff minutes held move.2).mpr move.1
  refine ⟨kept, ?_⟩
  intro action after move
  exact deadlineKept_step_iff (twoMinutes_of_reachable reached.of_guarded) kept move

/-! ## A late acceptance -/

/-- Bank 1 with a webhook. -/
def webhookBank : Bank := { polishBank 1 with webhookUrl := py "https://bank.example" }

/-- The record of an active code of the bank. -/
def activeRecord : CodePayload := newPayload 1 (py "client") .PL (py "now")

/-- An agent asks for 100 with the code of the bank. -/
def deadlineRequest : InitiateRequest := { polishRequest with banks := [webhookBank] }

/-- The payment which the request creates. -/
def deadlineState : DeadlineState where
  payment :=
    ⟨⟨deadlineRequest.transaction ⟨6, polishBank 2, .PL⟩ webhookBank activeRecord.used,
      []⟩, [], []⟩
  createdAt := 0
  expiresAt := 120 * 1000000
  clock := 0
  webhooks := []
  completions := []
  bookings := []

theorem isStart_deadlineState : deadlineState.IsStart where
  created := by
    refine ⟨0, (ExpiringStore.empty : CodeStore).set (codeKey (py "123456")) activeRecord
      (some 120000), [], deadlineRequest, ?_⟩
    refine ⟨initiateResponse 0 deadlineState.payment.db.row, ?_, ?_, rfl, rfl⟩
    · decide +kernel
    · decide +kernel
  booked := rfl
  attempts := rfl
  clock := le_refl _
  webhooks := rfl
  completions := rfl
  bookings := rfl

/-- The bank has been called at once, and it is a later time. -/
def calledAndWaited (time : Instant) : DeadlineState :=
  { deadlineState.paid .start deadlineState.payment.started with clock := time }

/-- The bank accepts the payment at a time. -/
def acceptedAt (time : Instant) : DeadlineState :=
  (calledAndWaited time).paid (.confirm (confirmRequest .accepted time))
    ((calledAndWaited time).payment.confirmed (confirmRequest .accepted time))

/-- A guard which lets the acceptance through lets the whole run through. -/
theorem path_acceptedAt
    (Guard : DeadlineState → DeadlineAction → Prop) {time : Instant} (later : 0 ≤ time)
    (others : ∀ state action, (∀ request, action ≠ .pay (.confirm request)) →
      Guard state action)
    (accepts : Guard (calledAndWaited time)
      (.pay (.confirm (confirmRequest .accepted time)))) :
    (deadlineSystem.guarded Guard).Path deadlineState
      [.pay .start, .tick time, .pay (.confirm (confirmRequest .accepted time))]
      (acceptedAt time) := by
  have called : (deadlineSystem.guarded Guard).Step deadlineState (.pay .start)
      (deadlineState.paid .start deadlineState.payment.started) :=
    ⟨others _ _ nofun, trivial, _, rfl, rfl⟩
  have waited : (deadlineSystem.guarded Guard).Step
      (deadlineState.paid .start deadlineState.payment.started) (.tick time)
      (calledAndWaited time) :=
    ⟨others _ _ nofun, later, rfl⟩
  have accepted : (deadlineSystem.guarded Guard).Step (calledAndWaited time)
      (.pay (.confirm (confirmRequest .accepted time))) (acceptedAt time) :=
    ⟨accepts, ⟨le_refl _, le_refl _⟩, _, rfl, rfl⟩
  exact .step (.step (.step (.refl _) called) waited) accepted

/-- An acceptance in the last microsecond. -/
theorem deadline_kept_iff_lastMicrosecond :
    (acceptedAt (120 * 1000000)).completions = [120 * 1000000] ∧
      DeadlineKept (acceptedAt (120 * 1000000)) := by
  refine ⟨by decide +kernel, ?_⟩
  have path := path_acceptedAt ConfirmsInTime
    (show 0 ≤ (120 * 1000000 : Instant) by norm_num)
    (by
      rintro state (clock | action) other
      · trivial
      · cases action with
        | confirm request => exact absurd rfl (other request)
        | book | start | answer | timeOut => trivial)
    (fun _ => le_refl _)
  exact (deadline_kept_iff (path.reachable (.init isStart_deadlineState))).1

/-- The bank accepts the payment one microsecond after it has expired. -/
theorem payment_completed_late :
    ¬ ∀ state, deadlineSystem.Reachable state → DeadlineKept state := by
  intro always
  have path := path_acceptedAt (fun _ _ => True)
    (show 0 ≤ (120 * 1000000 + 1 : Instant) by norm_num)
    (fun _ _ _ => trivial) trivial
  have kept := always _ (path.of_guarded.reachable (.init isStart_deadlineState))
  exact absurd kept (by decide +kernel)

end Klik.Codes
