import Klik.Codes.PaymentConfirm
import Klik.Lib.TransitionSystem

/-!
# The webhook task and the confirm requests

`authorize_webhook_task` reads the payment, calls the sender's bank, and may
mark the payment as timed out.  Reading and marking are separate database
steps without a lock, so that requests confirm the payment in between.  Any
number of attempts may be going on.
-/

namespace Klik.Codes

open Klik.Agents
open Klik.Banks
open Klik.Common
open Klik.Ledger
open Klik.Lib

/-! ## Attempts -/

/-- Where an attempt stands after its reading step. -/
inductive AttemptStage where
  /-- The bank is being called. -/
  | calling
  /-- `_mark_timeout` comes next. -/
  | timingOut
deriving DecidableEq, Repr

/-- An attempt going on, with the row it has read. -/
structure Attempt where
  held : Transaction
  stage : AttemptStage
deriving DecidableEq, Repr

/-- How the call of the bank ends for the task. -/
inductive WebhookAnswer where
  | ok
  /-- The call failed and `retry` raises, or lets another exception out. -/
  | failed
  /-- The call failed and `retry` raises `MaxRetriesExceededError`. -/
  | exhausted
deriving DecidableEq, Repr

/-- The reading step: none where the attempt ends at once. -/
def startAttempt (tx : Transaction) : Option Attempt :=
  if tx.status ≠ .pending then none
  else if tx.senderBank.webhookUrl = [] then some ⟨tx, .timingOut⟩
  else some ⟨tx, .calling⟩

/-- The attempt after the call: none where it ends. -/
def Attempt.afterAnswer (attempt : Attempt) : WebhookAnswer → Option Attempt
  | .ok => none
  | .failed => none
  | .exhausted => some { attempt with stage := .timingOut }

/-- The two columns which `_mark_timeout` sets. -/
def Transaction.timedOut (tx : Transaction) : Transaction :=
  { tx with status := .timeout, rejectReason := some .other }

/-- `_mark_timeout`: the row object which was read is validated, and the two
columns of the stored row are overwritten. -/
def markTimeout (held row : Transaction) : Except ValidationError Transaction :=
  match held.timedOut.fullClean with
  | .error error => .error error
  | .ok () => .ok row.timedOut

/-- The row after `_mark_timeout`. -/
def afterTimeout (held row : Transaction) : Transaction :=
  match markTimeout held row with
  | .error _ => row
  | .ok after => after

/-! ## The system -/

/-- The tables, the entries which were created for the payment, and the
attempts going on. -/
structure PaymentState where
  db : PaymentDb
  booked : List LedgerEntry
  attempts : List Attempt
deriving DecidableEq, Repr

inductive PaymentAction where
  | confirm (request : ConfirmRequest)
  /-- Another operation books its entries. -/
  | book (created : List LedgerEntry)
  | start
  | answer (attempt : Attempt) (answer : WebhookAnswer)
  | timeOut (attempt : Attempt)

/-- The state after a confirm request. -/
def PaymentState.confirmed
    (request : ConfirmRequest) (state : PaymentState) : PaymentState :=
  let after := afterConfirm request state.db
  { state with
    db := after
    booked := state.booked ++ after.entries.drop state.db.entries.length }

/-- The state after the reading step of a new attempt. -/
def PaymentState.started (state : PaymentState) : PaymentState :=
  { state with
    attempts := state.attempts ++ (startAttempt state.db.row).toList }

/-- The state after the bank answered an attempt. -/
def PaymentState.answered
    (attempt : Attempt) (answer : WebhookAnswer) (state : PaymentState) :
    PaymentState :=
  { state with
    attempts := state.attempts.erase attempt ++ (attempt.afterAnswer answer).toList }

/-- The state after an attempt marked the payment. -/
def PaymentState.timedOut (attempt : Attempt) (state : PaymentState) :
    PaymentState :=
  { state with
    db := { state.db with row := afterTimeout attempt.held state.db.row }
    attempts := state.attempts.erase attempt }

/-- A pending payment without entries, its attempts and its requests. -/
def paymentSystem : TransitionSystem PaymentState PaymentAction where
  Init state :=
    state.db.row.status = .pending ∧ state.booked = [] ∧ state.attempts = []
  Step state action after :=
    match action with
    | .confirm request => after = state.confirmed request
    | .book created =>
        after = { state with
          db := { state.db with entries := state.db.entries ++ created } }
    | .start => after = state.started
    | .answer attempt answer =>
        attempt ∈ state.attempts ∧ attempt.stage = .calling ∧
          after = state.answered attempt answer
    | .timeOut attempt =>
        attempt ∈ state.attempts ∧ attempt.stage = .timingOut ∧
          after = state.timedOut attempt

/-- No attempt marks a payment which was decided since it read the row. -/
def MarksUndecided (state : PaymentState) (action : PaymentAction) : Prop :=
  match action with
  | .timeOut attempt =>
      attempt.held.timedOut.fullClean = .ok () →
        state.db.row.status ≠ .completed ∧ state.db.row.status ≠ .rejected
  | _ => True

/-! ## Terminal statuses -/

/-- The statuses in which a payment ends. -/
def TransactionStatus.isTerminal : TransactionStatus → Bool
  | .completed | .rejected | .timeout => true
  | .pending | .authorized => false

/-- Entries of the payment exist only when it is completed. -/
def BookedWhenCompleted (state : PaymentState) : Prop :=
  state.booked ≠ [] → state.db.row.status = .completed

instance (state : PaymentState) : Decidable (BookedWhenCompleted state) :=
  inferInstanceAs (Decidable (state.booked ≠ [] → state.db.row.status = .completed))

/-- What a confirm request does to the status and to the entries. -/
theorem confirmed_effect (request : ConfirmRequest) (state : PaymentState) :
    (state.confirmed request).db.row.status = state.db.row.status ∧
        (state.confirmed request).booked = state.booked ∨
      state.db.row.status = .pending ∧
        ((state.confirmed request).booked = state.booked ∨
          (state.confirmed request).db.row.status = .completed) := by
  cases result : confirm request state.db with
  | error error =>
      have unchanged : afterConfirm request state.db = state.db := by
        simp only [afterConfirm]
        rw [result]
      left
      simp [PaymentState.confirmed, unchanged]
  | ok answer =>
      rcases answer with ⟨response, after⟩
      have committed : afterConfirm request state.db = after := by
        simp only [afterConfirm]
        rw [result]
      rcases confirm_ok result with ⟨_, _, _, _, same | ⟨pending, processed⟩⟩
      · left
        simp [PaymentState.confirmed, committed, same]
      · right
        refine ⟨pending, ?_⟩
        cases processed with
        | accepted split returned decision computed row_eq recorded =>
            right
            simp [PaymentState.confirmed, committed, row_eq,
              Transaction.completedWith]
        | rejected reason decision row_eq entries_eq =>
            left
            simp [PaymentState.confirmed, committed, entries_eq]

/-- What marking does to the status. -/
theorem status_afterTimeout (held row : Transaction) :
    afterTimeout held row = row ∨
      held.timedOut.fullClean = .ok () ∧
        (afterTimeout held row).status = .timeout := by
  simp only [afterTimeout, markTimeout]
  cases held.timedOut.fullClean with
  | error error => exact Or.inl rfl
  | ok done => exact Or.inr ⟨rfl, rfl⟩

/-- A guarded step changes no terminal status. -/
theorem terminal_step
    {state after : PaymentState} {action : PaymentAction}
    (guard : MarksUndecided state action)
    (move : paymentSystem.Step state action after)
    (terminal : state.db.row.status.isTerminal = true) :
    after.db.row.status = state.db.row.status := by
  cases action with
  | confirm request =>
      rw [move]
      rcases confirmed_effect request state with ⟨same, _⟩ | ⟨pending, _⟩
      · exact same
      · rw [pending] at terminal
        cases terminal
  | book created =>
      rw [move]
  | start =>
      rw [move]
      rfl
  | answer attempt answer =>
      rw [move.2.2]
      rfl
  | timeOut attempt =>
      rw [move.2.2]
      rcases status_afterTimeout attempt.held state.db.row with same | ⟨clean, marked⟩
      · exact congrArg Transaction.status same
      · have undecided := guard clean
        have status : state.db.row.status = .timeout := by
          cases current : state.db.row.status with
          | timeout => rfl
          | completed => exact absurd current undecided.1
          | rejected => exact absurd current undecided.2
          | pending =>
              rw [current] at terminal
              cases terminal
          | authorized =>
              rw [current] at terminal
              cases terminal
        exact marked.trans status.symm

/-- A guarded step keeps the entries with the status. -/
theorem booked_step
    {state after : PaymentState} {action : PaymentAction}
    (guard : MarksUndecided state action)
    (move : paymentSystem.Step state action after)
    (held : BookedWhenCompleted state) :
    BookedWhenCompleted after := by
  cases action with
  | confirm request =>
      rw [move]
      intro booked
      rcases confirmed_effect request state with ⟨same, noEntries⟩ | ⟨pending, effect⟩
      · rw [noEntries] at booked
        exact same.trans (held booked)
      · rcases effect with noEntries | completed
        · rw [noEntries] at booked
          have status := held booked
          rw [pending] at status
          cases status
        · exact completed
  | book created =>
      rw [move]
      exact held
  | start =>
      rw [move]
      exact held
  | answer attempt answer =>
      rw [move.2.2]
      exact held
  | timeOut attempt =>
      rw [move.2.2]
      intro booked
      have completed := held booked
      rcases status_afterTimeout attempt.held state.db.row with same | ⟨clean, _⟩
      · exact (congrArg Transaction.status same).trans completed
      · exact absurd completed (guard clean).1

/-- While no attempt marks a decided payment, terminal statuses never change
and the entries agree with them. -/
theorem terminal_statuses_absorbing
    (state : PaymentState)
    (reached : (paymentSystem.guarded MarksUndecided).Reachable state) :
    BookedWhenCompleted state ∧
      ∀ (actions : List PaymentAction) (after : PaymentState),
        (paymentSystem.guarded MarksUndecided).Path state actions after →
          state.db.row.status.isTerminal = true →
            after.db.row.status = state.db.row.status := by
  constructor
  · apply reached.invariant
    · rintro start ⟨_, noEntries, _⟩ booked
      exact absurd noEntries booked
    · intro source action target _ held move
      exact booked_step move.1 move.2 held
  · intro actions after path terminal
    refine path.preserves (fun later =>
      later.db.row.status = state.db.row.status) ?_ reached rfl
    intro source action target _ same move
    rw [← same] at terminal
    exact (terminal_step move.1 move.2 terminal).trans same

/-! ## A bank without a webhook -/

/-- The payment before any request. -/
def pendingState : PaymentState := ⟨⟨pendingPayment, []⟩, [], []⟩

/-- The attempt which has read the payment. -/
def webhookAttempt : Attempt := ⟨pendingPayment, .timingOut⟩

/-- The payment is accepted after an attempt has read it. -/
def acceptedState : PaymentState :=
  pendingState.started.confirmed (confirmRequest .accepted 10)

theorem reachable_acceptedState :
    (paymentSystem.guarded MarksUndecided).Reachable acceptedState := by
  have start : (paymentSystem.guarded MarksUndecided).Reachable pendingState :=
    .init ⟨rfl, rfl, rfl⟩
  have reads : (paymentSystem.guarded MarksUndecided).Step pendingState .start
      pendingState.started := ⟨trivial, rfl⟩
  have accepts : (paymentSystem.guarded MarksUndecided).Step pendingState.started
      (.confirm (confirmRequest .accepted 10)) acceptedState := ⟨trivial, rfl⟩
  exact .step (.step start reads) accepts

/-- The accepted payment is read by another attempt. -/
theorem terminal_statuses_absorbing_acceptedState :
    BookedWhenCompleted acceptedState ∧
      acceptedState.started.db.row.status = acceptedState.db.row.status := by
  have absorbing := terminal_statuses_absorbing acceptedState reachable_acceptedState
  have reads : (paymentSystem.guarded MarksUndecided).Step acceptedState .start
      acceptedState.started := ⟨trivial, rfl⟩
  exact ⟨absorbing.1,
    absorbing.2 [.start] _ (.step (.refl _) reads) (by decide +kernel)⟩

/-- The attempt marks the payment which was accepted in between: it is booked
and timed out. -/
theorem completed_payment_timed_out :
    ¬ ∀ state : PaymentState, paymentSystem.Reachable state →
        BookedWhenCompleted state ∧
          ∀ (actions : List PaymentAction) (after : PaymentState),
            paymentSystem.Path state actions after →
              state.db.row.status.isTerminal = true →
                after.db.row.status = state.db.row.status := by
  intro always
  have reached := reachable_acceptedState.of_guarded
  have marks : paymentSystem.Step acceptedState (.timeOut webhookAttempt)
      (acceptedState.timedOut webhookAttempt) :=
    ⟨by decide +kernel, rfl, rfl⟩
  have agrees := (always _ (.step reached marks)).1
  exact absurd agrees (by decide +kernel)

end Klik.Codes
