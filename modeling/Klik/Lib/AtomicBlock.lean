/-!
# Atomic blocks

A block of statements on a database ends with a result or an exception.  An
exception takes back what the statements have written, but not the tasks
which the block has queued: the broker is not part of the database
transaction.
-/

namespace Klik.Lib

universe u

/-- How a block ends: its result, the tables as its statements left them, and
the tasks which it queued. -/
structure Outcome (Error Db Task Result : Type u) where
  result : Except Error Result
  db : Db
  queued : List Task

variable {Error Db Task Result : Type u}

/-- A block which raises before it has written or queued anything. -/
def Outcome.raise (error : Error) (db : Db) : Outcome Error Db Task Result :=
  ⟨.error error, db, []⟩

/-- `transaction.atomic`: when the block raises, the tables are those from
before it.  What was queued is not taken back. -/
def atomic (before : Db) (outcome : Outcome Error Db Task Result) :
    Outcome Error Db Task Result :=
  match outcome.result with
  | .error _ => { outcome with db := before }
  | .ok _ => outcome

/-- A block which raises leaves the tables as they were. -/
theorem atomic_of_error
    {before : Db} {outcome : Outcome Error Db Task Result}
    {error : Error} (raised : outcome.result = .error error) :
    (atomic before outcome).db = before := by
  simp only [atomic, raised]

/-- A block which ends well is carried out. -/
theorem atomic_of_ok
    {before : Db} {outcome : Outcome Error Db Task Result}
    {value : Result} (returned : outcome.result = .ok value) :
    atomic before outcome = outcome := by
  simp only [atomic, returned]

@[simp]
theorem result_atomic
    (before : Db) (outcome : Outcome Error Db Task Result) :
    (atomic before outcome).result = outcome.result := by
  simp only [atomic]
  split
  · rfl
  · rfl

@[simp]
theorem queued_atomic
    (before : Db) (outcome : Outcome Error Db Task Result) :
    (atomic before outcome).queued = outcome.queued := by
  simp only [atomic]
  split
  · rfl
  · rfl

/-- What comes after a check which raises is reached when the check passes. -/
theorem check_eq_ok
    {failed : Prop} [Decidable failed] {error : Error} {rest : Except Error Result}
    {value : Result} :
    (if failed then .error error else rest) = .ok value ↔ ¬ failed ∧ rest = .ok value := by
  by_cases raises : failed
  · simp [raises]
  · simp [raises]

end Klik.Lib
