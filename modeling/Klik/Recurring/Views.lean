import Klik.Recurring.Models

/-!
# The endpoints of a mandate

`RecurringPauseView.post`, `RecurringResumeView.post` and
`RecurringCancelView.post`: each reads the clock, waits for the row of the
mandate, and changes it under the lock.
-/

namespace Klik.Recurring

open Klik.Banks
open Klik.Common
open Klik.Lib

/-- A request of a bank: its reading of the clock, and whether the server
refuses a statement of its block. -/
structure MandateRequest where
  bank : Bank
  now : DateTime
  refused : Bool
deriving DecidableEq, Repr

/-- `check_bank`. -/
def checkBank (bank : Bank) : Except RecurringError Unit :=
  if bank.active = false then .error (.api bankInactiveError)
  else if bank.recurringEnabled = false then .error (.api recurringNotEnabledError)
  else if bank.p2pEnabled = false then .error (.api p2pNotEnabledError)
  else .ok ()

/-- A request on an owned mandate: the checks which the three endpoints share,
then the change of the row. -/
def changeMandate
    (request : MandateRequest) (db : RecurringDb)
    (change : RecurringTransfer → Except RecurringError RecurringTransfer) :
    Outcome RecurringTransfer :=
  match checkBank request.bank with
  | .error error => .raise error db
  | .ok () =>
      if db.mandate.payerBank.id ≠ request.bank.id then
        .raise (.api insufficientPermissionsError) db
      else if db.mandate.status.isTerminal then
        .raise (.api recurringTerminatedError) db
      else
        match change db.mandate with
        | .error error => .raise error db
        | .ok mandate =>
            if request.refused then .raise (.database .operational) db
            else ⟨.ok mandate, { db with mandate := mandate }, []⟩

/-- `RecurringPauseView.post`. -/
def pause (request : MandateRequest) (db : RecurringDb) : Outcome RecurringTransfer :=
  changeMandate request db fun mandate =>
    if mandate.status ≠ .active then .error (.api recurringNotActiveError)
    else .ok (mandate.pausedNow request.now)

/-- `RecurringResumeView.post`: the next run is the first slot after the
reading of the clock. -/
def resume (env : ScheduleEnv) (request : MandateRequest) (db : RecurringDb) :
    Outcome RecurringTransfer :=
  changeMandate request db fun mandate =>
    if mandate.status ≠ .paused then .error (.api recurringNotPausedError)
    else
      match computeNextRunAt env mandate.startDate mandate.cycle request.now with
      | none => .error .overflow
      | some next => .ok (mandate.resumedTo next)

/-- `RecurringCancelView.post`: the notification is queued after the block. -/
def cancel (request : MandateRequest) (db : RecurringDb) : Outcome RecurringTransfer :=
  let outcome :=
    changeMandate request db fun mandate => .ok (mandate.cancelledNow request.now)
  match outcome.result with
  | .error _ => outcome
  | .ok mandate =>
      { outcome with
        queued := outcome.queued ++ [.notifyCancelled mandate.id .userRequest] }

/-- The mandate is owned by the bank of the request and has not ended, and the
server takes the statements. -/
structure MandateRequest.Allowed
    (request : MandateRequest) (mandate : RecurringTransfer) : Prop where
  checked : checkBank request.bank = .ok ()
  owner : mandate.payerBank.id = request.bank.id
  going : mandate.status.isTerminal = false
  carried : request.refused = false

/-- Either a request changes nothing, or it is allowed and makes its
change. -/
theorem changeMandate_cases
    (request : MandateRequest) (db : RecurringDb)
    (change : RecurringTransfer → Except RecurringError RecurringTransfer) :
    (∃ error, changeMandate request db change = .raise error db) ∨
      ∃ mandate, request.Allowed db.mandate ∧
        change db.mandate = .ok mandate ∧
        changeMandate request db change =
          ⟨.ok mandate, { db with mandate := mandate }, []⟩ := by
  simp only [changeMandate]
  split
  · exact Or.inl ⟨_, rfl⟩
  · rename_i checked
    split
    · exact Or.inl ⟨_, rfl⟩
    · rename_i owner
      split
      · exact Or.inl ⟨_, rfl⟩
      · rename_i going
        cases changed : change db.mandate with
        | error error => exact Or.inl ⟨_, rfl⟩
        | ok mandate =>
            simp only
            split
            · exact Or.inl ⟨_, rfl⟩
            · rename_i carried
              right
              exact ⟨mandate, ⟨checked, not_not.mp owner, by simpa using going,
                by simpa using carried⟩, rfl, rfl⟩

theorem pause_cases (request : MandateRequest) (db : RecurringDb) :
    (∃ error, pause request db = .raise error db) ∨
      db.mandate.status = .active ∧
        pause request db =
          ⟨.ok (db.mandate.pausedNow request.now),
            { db with mandate := db.mandate.pausedNow request.now }, []⟩ := by
  simp only [pause]
  rcases changeMandate_cases request db _ with raised | ⟨mandate, _, changed, carried⟩
  · exact Or.inl raised
  · right
    split at changed
    · cases changed
    · rename_i active
      cases changed
      exact ⟨not_not.mp active, carried⟩

theorem resume_cases (env : ScheduleEnv) (request : MandateRequest) (db : RecurringDb) :
    (∃ error, resume env request db = .raise error db) ∨
      ∃ next, request.Allowed db.mandate ∧ db.mandate.status = .paused ∧
        computeNextRunAt env db.mandate.startDate db.mandate.cycle request.now =
          some next ∧
        resume env request db =
          ⟨.ok (db.mandate.resumedTo next),
            { db with mandate := db.mandate.resumedTo next }, []⟩ := by
  simp only [resume]
  rcases changeMandate_cases request db _ with
    raised | ⟨mandate, allowed, changed, carried⟩
  · exact Or.inl raised
  · right
    split at changed
    · cases changed
    · rename_i paused
      split at changed
      · cases changed
      · rename_i next computed
        cases changed
        exact ⟨next, allowed, not_not.mp paused, computed, carried⟩

theorem cancel_cases (request : MandateRequest) (db : RecurringDb) :
    (∃ error, cancel request db = .raise error db) ∨
      db.mandate.status.isTerminal = false ∧
        cancel request db =
          ⟨.ok (db.mandate.cancelledNow request.now),
            { db with mandate := db.mandate.cancelledNow request.now },
            [.notifyCancelled db.mandate.id .userRequest]⟩ := by
  simp only [cancel]
  rcases changeMandate_cases request db
      (fun mandate => .ok (mandate.cancelledNow request.now)) with
    ⟨error, raised⟩ | ⟨mandate, allowed, changed, carried⟩
  · left
    rw [raised]
    exact ⟨error, rfl⟩
  · right
    cases changed
    rw [carried]
    exact ⟨allowed.going, rfl⟩

end Klik.Recurring
