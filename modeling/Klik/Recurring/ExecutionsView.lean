import Klik.Lib.Paging
import Klik.Recurring.MandateSystem

/-!
# The history of a mandate

`RecurringExecutionsView.get`: the executions of a mandate, newest first, in
pages behind a cursor.  The database may return executions for the same time
in any order.
-/

namespace Klik.Recurring

open Klik.Banks
open Klik.Common
open Klik.Lib

/-! ## Requests -/

def executionsDefaultLimit : Nat := 20

def executionsMaxLimit : Nat := 100

/-- The parameter `limit`, as `int` reads it. -/
inductive LimitParam where
  | absent
  | notANumber
  | number (value : Int)
deriving DecidableEq, Repr

/-- A request of a bank; `before` is blank where it is not given. -/
structure ExecutionsRequest where
  bank : Bank
  recurringTransferId : Uuid
  limit : LimitParam
  before : PyStr

def recurringNotFoundError : KlikAPIException where
  statusCode := 404
  code := "404_RECURRING_NOT_FOUND"
  detail := "Zlecenie stałe nie istnieje."

def badRequestError (detail : String) : KlikAPIException where
  statusCode := 400
  code := "400_BAD_REQUEST"
  detail := detail

/-- `_parse_limit`. -/
def parseLimit : LimitParam → Except RecurringError Nat
  | .absent => .ok executionsDefaultLimit
  | .notANumber => .error (.api (badRequestError "Parametr limit musi być liczbą."))
  | .number value =>
      if value < 1 then .error (.api (badRequestError "Parametr limit musi być >= 1."))
      else .ok (min value.toNat executionsMaxLimit)

/-! ## Responses -/

/-- A `DateTimeField` in UTC: microseconds are written where there are some. -/
def isoformat (time : DateTime) : PyStr :=
  let second := time.micros / 1000000
  let micros := time.micros % 1000000
  zeroPadded 4 time.date.year ++ py "-" ++ zeroPadded 2 time.date.month ++ py "-"
    ++ zeroPadded 2 time.date.day ++ py "T" ++ zeroPadded 2 (second / 3600) ++ py ":"
    ++ zeroPadded 2 (second / 60 % 60) ++ py ":" ++ zeroPadded 2 (second % 60)
    ++ (if micros = 0 then [] else py "." ++ zeroPadded 6 micros) ++ py "Z"

/-- `RecurringExecutionItemSerializer`. -/
structure ExecutionItem where
  executionId : Uuid
  scheduledFor : PyStr
  executedAt : Option PyStr
  status : RecurringExecutionStatus
  rtpReference : Option PyStr
  failureReason : Option ExecutionFailureReason
deriving DecidableEq, Repr

def RecurringExecution.item (execution : RecurringExecution) : ExecutionItem where
  executionId := execution.id
  scheduledFor := isoformat execution.scheduledFor
  executedAt := execution.executedAt.map isoformat
  status := execution.status
  rtpReference := if execution.rtpReference = [] then none else some execution.rtpReference
  failureReason := execution.failureReason

/-- The column by which executions are ordered. -/
def RecurringExecution.instant (execution : RecurringExecution) : Nat :=
  execution.scheduledFor.instant

/-- `RecurringExecutionsView.get`, with the order in which the database returns
the executions. -/
def executionsView
    (env : RecurringEnv) (order : DescendingOrder RecurringExecution.instant)
    (request : ExecutionsRequest) (db : RecurringDb) :
    Except RecurringError (List ExecutionItem) :=
  match checkBank request.bank with
  | .error error => .error error
  | .ok () =>
      if db.mandate.id ≠ request.recurringTransferId then
        .error (.api recurringNotFoundError)
      else if db.mandate.payerBank.id ≠ request.bank.id then
        .error (.api recurringNotFoundError)
      else
        match parseLimit request.limit with
        | .error error => .error error
        | .ok size =>
            let items (cursor : Option Nat) :=
              (pageBefore order size cursor db.executions).map RecurringExecution.item
            if request.before = [] then .ok (items none)
            else
              match env.parseDatetime request.before with
              | .raises => .error .valueError
              | .none =>
                  .error (.api (badRequestError
                    "Parametr before musi być datetime ISO 8601."))
              | .parsed time => .ok (items (some time.instant))

theorem isoformat_ne_nil (time : DateTime) : isoformat time ≠ [] := by
  intro blank
  have parts := List.append_eq_nil_iff.mp blank
  exact absurd parts.2 (by decide)

theorem parseLimit_number {limit : Nat} (limit_pos : 1 ≤ limit) :
    parseLimit (.number limit) = .ok (min limit executionsMaxLimit) := by
  have positive : ¬ (limit : Int) < 1 := by omega
  rw [parseLimit, if_neg positive, Int.toNat_natCast]

end Klik.Recurring
