import Klik.Codes.WebhookTask

/-!
# The row of a payment over its steps

A confirm request may decide a pending payment, and an attempt may mark any
payment as timed out.  Nothing else changes the row, and no step touches the
columns which say what is paid and by whom.  The times at which a payment was
completed or rejected are written once: they tell its decision also where the
status was overwritten.
-/

namespace Klik.Codes

open Klik.Agents
open Klik.Banks
open Klik.Common
open Klik.Ledger
open Klik.Lib

/-! ## Executable steps -/

/-- One step of the payment, where it is possible. -/
def paymentStep (state : PaymentState) : PaymentAction → Option PaymentState
  | .confirm request => some (state.confirmed request)
  | .book created =>
      some { state with db := { state.db with entries := state.db.entries ++ created } }
  | .start => some state.started
  | .answer attempt answer =>
      if attempt ∈ state.attempts ∧ attempt.stage = .calling then
        some (state.answered attempt answer)
      else none
  | .timeOut attempt =>
      if attempt ∈ state.attempts ∧ attempt.stage = .timingOut then
        some (state.timedOut attempt)
      else none

theorem step_of_paymentStep
    {state after : PaymentState} {action : PaymentAction}
    (moved : paymentStep state action = some after) : paymentSystem.Step state action after := by
  cases action with
  | confirm request => exact (Option.some.inj moved).symm
  | book created => exact (Option.some.inj moved).symm
  | start => exact (Option.some.inj moved).symm
  | answer attempt answer =>
      simp only [paymentStep] at moved
      split at moved
      · rename_i going
        exact ⟨going.1, going.2, (Option.some.inj moved).symm⟩
      · cases moved
  | timeOut attempt =>
      simp only [paymentStep] at moved
      split at moved
      · rename_i going
        exact ⟨going.1, going.2, (Option.some.inj moved).symm⟩
      · cases moved

/-! ## What a step does to the row -/

inductive RowMove (row : Transaction) : PaymentAction → Transaction → Prop where
  | same {action : PaymentAction} : RowMove row action row
  | completed {request : ConfirmRequest} (split : Split)
      (pending : row.status = .pending)
      (sender : request.bankId = row.senderBank.id)
      (accepted : request.decision = .accepted) :
      RowMove row (.confirm request) (row.completedWith split request.now)
  | rejected {request : ConfirmRequest} (reason : RejectReason)
      (pending : row.status = .pending)
      (sender : request.bankId = row.senderBank.id)
      (declined : request.decision = .rejected reason) :
      RowMove row (.confirm request) (row.rejectedWith reason request.now)
  | timedOut {attempt : Attempt} : RowMove row (.timeOut attempt) row.timedOut

theorem rowMove_of_step
    {state after : PaymentState} {action : PaymentAction}
    (move : paymentSystem.Step state action after) :
    RowMove state.db.row action after.db.row := by
  cases action with
  | confirm request =>
      rw [move]
      simp only [PaymentState.confirmed, afterConfirm]
      split
      · exact .same
      · rename_i response committed result
        rcases confirm_ok result with ⟨_, sender, _, _, unchanged | ⟨pending, processed⟩⟩
        · rw [unchanged]
          exact .same
        · cases processed with
          | accepted split returned decision computed row_eq recorded =>
              rw [row_eq]
              exact .completed split pending sender decision
          | rejected reason decision row_eq entries_eq =>
              rw [row_eq]
              exact .rejected reason pending sender decision
  | book created =>
      rw [move]
      exact .same
  | start =>
      rw [move]
      exact .same
  | answer attempt answer =>
      rw [move.2.2]
      exact .same
  | timeOut attempt =>
      rw [move.2.2]
      simp only [PaymentState.timedOut, afterTimeout, markTimeout]
      cases attempt.held.timedOut.fullClean with
      | error error => exact .same
      | ok done => exact .timedOut

variable {row next : Transaction} {action : PaymentAction}

/-- Two rows of one payment: the same columns but for the decision. -/
structure SamePayment (row next : Transaction) : Prop where
  id : next.id = row.id
  senderBank : next.senderBank = row.senderBank
  userId : next.userId = row.userId
  amountGross : next.amountGross = row.amountGross

theorem RowMove.samePayment (move : RowMove row action next) : SamePayment row next := by
  cases move with
  | same => exact ⟨rfl, rfl, rfl, rfl⟩
  | completed split pending sender accepted => exact ⟨rfl, rfl, rfl, rfl⟩
  | rejected reason pending sender declined => exact ⟨rfl, rfl, rfl, rfl⟩
  | timedOut => exact ⟨rfl, rfl, rfl, rfl⟩

/-! ## When it was decided -/

/-- The payment was completed, whatever its status is by now. -/
def Transaction.wasCompleted (tx : Transaction) : Bool := tx.completedAt.isSome

/-- The payment was rejected, whatever its status is by now. -/
def Transaction.wasRejected (tx : Transaction) : Bool := tx.rejectedAt.isSome

/-- The times agree with the status. -/
structure Transaction.Dated (tx : Transaction) : Prop where
  undecided : tx.status = .pending → tx.wasCompleted = false ∧ tx.wasRejected = false
  completed : tx.status = .completed → tx.wasCompleted = true
  rejected : tx.status = .rejected → tx.wasRejected = true
  apart : tx.wasCompleted = true → tx.wasRejected = false

/-- A new payment has no times. -/
theorem Transaction.Dated.of_new
    {tx : Transaction} (pending : tx.status = .pending) (completedAt : tx.completedAt = none)
    (rejectedAt : tx.rejectedAt = none) : tx.Dated := by
  have notCompleted : tx.wasCompleted = false := by rw [wasCompleted, completedAt]; rfl
  have notRejected : tx.wasRejected = false := by rw [wasRejected, rejectedAt]; rfl
  constructor
  · intro _
    exact ⟨notCompleted, notRejected⟩
  · intro completed
    rw [pending] at completed
    cases completed
  · intro rejected
    rw [pending] at rejected
    cases rejected
  · intro _
    exact notRejected

theorem RowMove.dated (move : RowMove row action next) (dated : row.Dated) : next.Dated := by
  cases move with
  | same => exact dated
  | completed split pending sender accepted =>
      constructor
      · intro same
        cases same
      · intro _
        rfl
      · intro same
        cases same
      · intro _
        exact (dated.undecided pending).2
  | rejected reason pending sender declined =>
      constructor
      · intro same
        cases same
      · intro same
        cases same
      · intro _
        rfl
      · intro completed
        rw [show (row.rejectedWith reason _).wasCompleted = row.wasCompleted from rfl,
          (dated.undecided pending).1] at completed
        cases completed
  | timedOut =>
      constructor
      · intro same
        cases same
      · intro same
        cases same
      · intro same
        cases same
      · exact dated.apart

/-- A completed payment stays one. -/
theorem RowMove.wasCompleted (move : RowMove row action next)
    (completed : row.wasCompleted = true) : next.wasCompleted = true := by
  cases move with
  | same => exact completed
  | completed split pending sender accepted => rfl
  | rejected reason pending sender declined => exact completed
  | timedOut => exact completed

/-- A payment which is no longer pending is not completed any more. -/
theorem RowMove.closed (move : RowMove row action next)
    (closed : row.status ≠ .pending) :
    next.status ≠ .pending ∧ next.wasCompleted = row.wasCompleted := by
  cases move with
  | same => exact ⟨closed, rfl⟩
  | completed split pending sender accepted => exact absurd pending closed
  | rejected reason pending sender declined => exact absurd pending closed
  | timedOut =>
      constructor
      · intro same
        cases same
      · rfl

/-- Only an acceptance of the sender's bank completes a payment. -/
theorem RowMove.completed_by (move : RowMove row action next)
    (before : row.wasCompleted = false) (after : next.wasCompleted = true) :
    ∃ request, action = .confirm request ∧ request.decision = .accepted ∧
      request.bankId = row.senderBank.id := by
  cases move with
  | same =>
      rw [before] at after
      cases after
  | completed split pending sender accepted => exact ⟨_, rfl, accepted, sender⟩
  | rejected reason pending sender declined =>
      rw [show (row.rejectedWith reason _).wasCompleted = row.wasCompleted from rfl,
        before] at after
      cases after
  | timedOut =>
      rw [show row.timedOut.wasCompleted = row.wasCompleted from rfl, before] at after
      cases after

/-- An acceptance which is answered has found or made the payment
completed. -/
theorem wasCompleted_of_accepted
    {request : ConfirmRequest} {db after : PaymentDb} {response : ConfirmResponse}
    (dated : db.row.Dated) (accepted : request.decision = .accepted)
    (answered : confirm request db = .ok (response, after)) :
    after.row.wasCompleted = true := by
  rcases confirm_ok answered with ⟨_, _, _, status, unchanged | ⟨_, processed⟩⟩
  · rw [accepted, unchanged] at status
    rw [unchanged]
    exact dated.completed status.symm
  · cases processed with
    | accepted split returned decision computed row_eq recorded =>
        rw [row_eq]
        rfl
    | rejected reason decision row_eq entries_eq =>
        rw [accepted] at decision
        cases decision

end Klik.Codes
