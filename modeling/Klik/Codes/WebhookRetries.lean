import Klik.Codes.WebhookTask

/-!
# The retries of the webhook task

`authorize_webhook_task` calls `self.retry` itself when the bank cannot be
reached, and is registered with `autoretry_for` the same exceptions.  What
`retry` raises is a parameter with its documented behaviour.  Once the retries
are exhausted it raises the exception which it was given, so that the handler
of `MaxRetriesExceededError` is never reached.
-/

namespace Klik.Codes

open Klik.Banks
open Klik.Common
open Klik.Lib

/-! ## Exceptions and retries -/

/-- How a call of the bank ends. -/
inductive BankCall where
  | ok
  /-- `requests.post` raises. -/
  | unreachable
  /-- `raise_for_status` raises. -/
  | httpError (statusCode : Nat)
deriving DecidableEq, Repr

/-- The `RequestException` of a failed call. -/
inductive RequestException where
  | connection
  | http (statusCode : Nat)
deriving DecidableEq, Repr

def BankCall.exception : BankCall → Option RequestException
  | .ok => none
  | .unreachable => some .connection
  | .httpError statusCode => some (.http statusCode)

/-- An exception which leaves the body of the task or of its wrapper. -/
inductive TaskException where
  | request (exc : RequestException)
  /-- Celery queues the task again. -/
  | retry
  | maxRetriesExceeded
  | validation (error : ValidationError)
deriving DecidableEq, Repr

/-- What `self.retry` raises in an attempt with a number of retries before it,
of at most `maxRetries`, when it is called with `exc`. -/
structure Celery where
  retry : (retries maxRetries : Nat) → (exc : Option RequestException) → TaskException

/-- `retry` raises `Retry` while there are retries left; after that it raises
`exc`, or `MaxRetriesExceededError` when it has none. -/
structure Celery.Documented (celery : Celery) : Prop where
  remaining : ∀ retries maxRetries exc, retries < maxRetries →
    celery.retry retries maxRetries exc = .retry
  exhausted : ∀ retries maxRetries exc, maxRetries ≤ retries →
    celery.retry retries maxRetries (some exc) = .request exc
  exhaustedBare : ∀ retries maxRetries, maxRetries ≤ retries →
    celery.retry retries maxRetries none = .maxRetriesExceeded

/-- `max_retries` of the task. -/
def webhookMaxRetries : Nat := 3

/-! ## One attempt -/

/-- How the body ends, and the row after it. -/
structure AttemptEnd where
  raised : Option TaskException
  row : Transaction

/-- `_mark_timeout` of the row which the attempt has read, with no other write
in between. -/
def endWithTimeout (row : Transaction) : AttemptEnd :=
  match markTimeout row row with
  | .error error => ⟨some (.validation error), row⟩
  | .ok after => ⟨none, after⟩

/-- The body of `authorize_webhook_task`. -/
def authorizeWebhookTask (celery : Celery) (retries : Nat) (call : BankCall)
    (transaction : Transaction) : AttemptEnd :=
  if transaction.status ≠ .pending then ⟨none, transaction⟩
  else if transaction.senderBank.webhookUrl = [] then endWithTimeout transaction
  else
    match call.exception with
    | none => ⟨none, transaction⟩
    | some exc =>
        match celery.retry retries webhookMaxRetries (some exc) with
        | .maxRetriesExceeded => endWithTimeout transaction
        | raised => ⟨some raised, transaction⟩

/-- The wrapper of `autoretry_for=(requests.RequestException,)`. -/
def autoretry (celery : Celery) (retries : Nat) (ended : AttemptEnd) : AttemptEnd :=
  match ended.raised with
  | some (.request exc) =>
      { ended with raised := some (celery.retry retries webhookMaxRetries (some exc)) }
  | _ => ended

/-! ## All attempts -/

/-- The attempts made for a payment. -/
structure TaskRun where
  attempts : Nat
  raised : Option TaskException
  row : Transaction

/-- The attempts from a number of retries on, of which `left` may still be
queued; `calls` are the results of the calls by number. -/
def runAttempts (celery : Celery) (calls : Nat → BankCall) :
    (left retries : Nat) → Transaction → TaskRun
  | left, retries, transaction =>
      let ended := autoretry celery retries
        (authorizeWebhookTask celery retries (calls retries) transaction)
      match ended.raised, left with
      | some .retry, left + 1 => runAttempts celery calls left (retries + 1) ended.row
      | raised, _ => ⟨retries + 1, raised, ended.row⟩

/-- The initial run of the task and its retries. -/
def webhookRun (celery : Celery) (calls : Nat → BankCall) (transaction : Transaction) :
    TaskRun :=
  runAttempts celery calls webhookMaxRetries 0 transaction

/-- A pending payment whose bank has a webhook. -/
structure Transaction.AwaitsBank (transaction : Transaction) : Prop where
  pending : transaction.status = .pending
  webhook : transaction.senderBank.webhookUrl ≠ []

section Attempts

variable {celery : Celery} {calls : Nat → BankCall} {transaction : Transaction}

/-- An attempt in which the bank answers ends the run. -/
theorem runAttempts_ok (awaits : transaction.AwaitsBank) {left retries : Nat}
    (answered : (calls retries).exception = none) :
    runAttempts celery calls left retries transaction =
      ⟨retries + 1, none, transaction⟩ := by
  have ended : autoretry celery retries
      (authorizeWebhookTask celery retries (calls retries) transaction) =
        ⟨none, transaction⟩ := by
    simp only [authorizeWebhookTask, awaits.pending, awaits.webhook, answered, ne_eq,
      not_true_eq_false, if_false, autoretry]
  rw [runAttempts.eq_def]
  simp only [ended]

/-- A failed attempt is retried while retries remain. -/
theorem runAttempts_retry (documented : celery.Documented)
    (awaits : transaction.AwaitsBank) {left retries : Nat}
    (failed : (calls retries).exception ≠ none) (remaining : retries < webhookMaxRetries) :
    runAttempts celery calls (left + 1) retries transaction =
      runAttempts celery calls left (retries + 1) transaction := by
  rcases Option.ne_none_iff_exists'.mp failed with ⟨exc, raises⟩
  have ended : autoretry celery retries
      (authorizeWebhookTask celery retries (calls retries) transaction) =
        ⟨some .retry, transaction⟩ := by
    simp only [authorizeWebhookTask, awaits.pending, awaits.webhook, raises, ne_eq,
      not_true_eq_false, if_false, documented.remaining retries _ _ remaining, autoretry]
  rw [runAttempts.eq_def]
  simp only [ended]

/-- The last failed attempt raises the exception of the call twice: out of the
body, and again out of the wrapper. -/
theorem runAttempts_exhausted (documented : celery.Documented)
    (awaits : transaction.AwaitsBank) {left retries : Nat} {exc : RequestException}
    (raises : (calls retries).exception = some exc) (exhausted : webhookMaxRetries ≤ retries) :
    runAttempts celery calls left retries transaction =
      ⟨retries + 1, some (.request exc), transaction⟩ := by
  have ended : autoretry celery retries
      (authorizeWebhookTask celery retries (calls retries) transaction) =
        ⟨some (.request exc), transaction⟩ := by
    simp only [authorizeWebhookTask, awaits.pending, awaits.webhook, raises, ne_eq,
      not_true_eq_false, if_false, documented.exhausted retries _ _ exhausted, autoretry]
  rw [runAttempts.eq_def]
  simp only [ended]

/-- As long as the calls fail, the run goes on with the payment as it was. -/
theorem webhookRun_skip (documented : celery.Documented)
    (awaits : transaction.AwaitsBank) {n : Nat} (le : n ≤ webhookMaxRetries)
    (failed : ∀ m < n, (calls m).exception ≠ none) :
    webhookRun celery calls transaction =
      runAttempts celery calls (webhookMaxRetries - n) n transaction := by
  induction n with
  | zero => rfl
  | succ n induction =>
      rw [induction (Nat.le_of_succ_le le) fun m less => failed m (Nat.lt_succ_of_lt less)]
      have left : webhookMaxRetries - n = (webhookMaxRetries - (n + 1)) + 1 := by omega
      rw [left]
      exact runAttempts_retry documented awaits (failed n (Nat.lt_succ_self n)) le

end Attempts

/-! ## What the run should do -/

/-- The payment is timed out if all attempts fail, and pending after the first
one which succeeds and is the last one. -/
structure TimesOutUnreachable (celery : Celery) (calls : Nat → BankCall)
    (transaction : Transaction) : Prop where
  timeout : (∀ n ≤ webhookMaxRetries, (calls n).exception ≠ none) →
    (webhookRun celery calls transaction).row.status = .timeout
  pending : ∀ n ≤ webhookMaxRetries, (∀ m < n, (calls m).exception ≠ none) →
    (calls n).exception = none →
      (webhookRun celery calls transaction).attempts = n + 1 ∧
        (webhookRun celery calls transaction).row.status = .pending

/-- The first attempt which succeeds is the last one. -/
theorem webhookRun_first_ok {celery : Celery} (documented : celery.Documented)
    {calls : Nat → BankCall} {transaction : Transaction}
    (awaits : transaction.AwaitsBank) {n : Nat} (le : n ≤ webhookMaxRetries)
    (failed : ∀ m < n, (calls m).exception ≠ none) (ok : (calls n).exception = none) :
    webhookRun celery calls transaction = ⟨n + 1, none, transaction⟩ := by
  rw [webhookRun_skip documented awaits le failed]
  exact runAttempts_ok awaits ok

/-- When all attempts fail, the run ends with the exception of the last call
and leaves the payment as it was. -/
theorem webhookRun_all_failed {celery : Celery} (documented : celery.Documented)
    {calls : Nat → BankCall} {transaction : Transaction}
    (awaits : transaction.AwaitsBank)
    (failed : ∀ n ≤ webhookMaxRetries, (calls n).exception ≠ none) :
    (webhookRun celery calls transaction).row = transaction := by
  rcases Option.ne_none_iff_exists'.mp (failed webhookMaxRetries le_rfl) with ⟨exc, raises⟩
  rw [webhookRun_skip documented awaits le_rfl fun m less => failed m less.le,
    runAttempts_exhausted documented awaits raises le_rfl]

/-- The run does what it should exactly if one of the attempts succeeds. -/
theorem timesOutUnreachable_iff {celery : Celery} (documented : celery.Documented)
    {calls : Nat → BankCall} {transaction : Transaction}
    (awaits : transaction.AwaitsBank) :
    TimesOutUnreachable celery calls transaction ↔
      ∃ n ≤ webhookMaxRetries, (calls n).exception = none := by
  constructor
  · intro timesOut
    by_contra none_ok
    have failed : ∀ n ≤ webhookMaxRetries, (calls n).exception ≠ none := by
      intro n le ok
      exact none_ok ⟨n, le, ok⟩
    have timeout := timesOut.timeout failed
    rw [webhookRun_all_failed documented awaits failed, awaits.pending] at timeout
    cases timeout
  · rintro ⟨n, le, ok⟩
    constructor
    · intro failed
      exact absurd ok (failed n le)
    · intro first firstLe failed firstOk
      rw [webhookRun_first_ok documented awaits firstLe failed firstOk]
      exact ⟨rfl, awaits.pending⟩

/-! ## A bank which does not answer -/

/-- `retry` as it is documented. -/
def documentedCelery : Celery where
  retry retries maxRetries exc :=
    if retries < maxRetries then .retry
    else
      match exc with
      | some exc => .request exc
      | none => .maxRetriesExceeded

theorem documented_documentedCelery : documentedCelery.Documented where
  remaining := fun _ _ _ less => if_pos less
  exhausted := fun _ _ _ le => if_neg (not_lt.mpr le)
  exhaustedBare := fun _ _ le => if_neg (not_lt.mpr le)

/-- The pending payment of a bank with a webhook. -/
def awaitingPayment : Transaction :=
  { pendingPayment with
    senderBank := { polishBank 1 with webhookUrl := py "https://bank.example" } }

theorem awaitsBank_awaitingPayment : awaitingPayment.AwaitsBank :=
  ⟨rfl, by decide⟩

/-- The second call is answered. -/
theorem timesOutUnreachable_second :
    TimesOutUnreachable documentedCelery
      (fun n => if n = 0 then .unreachable else .ok) awaitingPayment :=
  (timesOutUnreachable_iff documented_documentedCelery awaitsBank_awaitingPayment).mpr
    ⟨1, by decide, rfl⟩

/-- All four calls fail, and the payment is pending for good. -/
theorem unreachable_bank_stays_pending :
    ¬ ∀ celery : Celery, celery.Documented →
        ∀ (calls : Nat → BankCall) (transaction : Transaction),
          transaction.AwaitsBank → TimesOutUnreachable celery calls transaction := by
  intro always
  have timesOut := always documentedCelery documented_documentedCelery
    (fun _ => .unreachable) awaitingPayment awaitsBank_awaitingPayment
  have timeout := timesOut.timeout fun n _ => by decide
  exact absurd timeout (by decide +kernel)

end Klik.Codes
