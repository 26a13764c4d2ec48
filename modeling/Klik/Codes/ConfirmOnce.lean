import Klik.Codes.PaymentConfirm
import Klik.Lib.TransitionSystem

/-!
# Confirming exactly once

Any number of requests confirm one pending payment, each block under the lock
of its row, while other operations book entries under other keys.  The first
request which is processed without raising decides; whatever comes later is
answered with the same response or refused, and changes nothing.
-/

namespace Klik.Codes

open Klik.Agents
open Klik.Banks
open Klik.Common
open Klik.Ledger
open Klik.Lib

/-! ## Runs -/

/-- A request which was made, with the tables before and after its block. -/
structure ConfirmEvent where
  request : ConfirmRequest
  before : PaymentDb
  result : Except ConfirmError ConfirmResponse
  after : PaymentDb

/-- The event of a request. -/
def confirmEvent (request : ConfirmRequest) (db : PaymentDb) : ConfirmEvent where
  request := request
  before := db
  result := (confirm request db).map Prod.fst
  after := afterConfirm request db

/-- The tables, and all requests so far. -/
structure ConfirmRun where
  db : PaymentDb
  history : List ConfirmEvent

inductive ConfirmAction where
  | confirm (request : ConfirmRequest)
  /-- Another operation books its entries. -/
  | book (created : List LedgerEntry)

/-- Requests for a payment whose key no other operation uses. -/
def confirmSystem (tx : Transaction) :
    TransitionSystem ConfirmRun ConfirmAction where
  Init run :=
    run.db.row = tx ∧ entriesOf tx.idempotencyKey run.db.entries = [] ∧
      run.history = []
  Step run action after :=
    match action with
    | .confirm request =>
        after = ⟨afterConfirm request run.db,
          run.history ++ [confirmEvent request run.db]⟩
    | .book created =>
        (∀ entry ∈ created, entry.sourceRef ≠ tx.idempotencyKey) ∧
          after = ⟨⟨run.db.row, run.db.entries ++ created⟩, run.history⟩

/-! ## What exactly once means -/

/-- The request raises and changes nothing. -/
def ConfirmEvent.Raises (event : ConfirmEvent) (error : ConfirmError) : Prop :=
  event.result = .error error ∧ event.after = event.before

/-- The entries which a payment is booked by. -/
def bookedRows (first : ConfirmEvent) : List LedgerEntry :=
  match first.request.decision with
  | .accepted => c2bRows first.request.banks first.after.row
  | .rejected _ => []

/-- The request which decides. -/
structure Decides
    (tx : Transaction) (first : ConfirmEvent) (response : ConfirmResponse) :
    Prop where
  sender : first.request.bankId = tx.senderBank.id
  result : first.result = .ok response
  status : first.after.row.status = first.request.decision.status
  response_eq : response = buildConfirmResponse first.after.row
  booked : first.after.entries = first.before.entries ++ bookedRows first

/-- How a request after the decision is answered. -/
structure Answers
    (tx : Transaction) (first : ConfirmEvent) (response : ConfirmResponse)
    (event : ConfirmEvent) : Prop where
  unchanged : event.after = event.before
  repeated : event.request.transactionId = tx.id →
    event.request.bankId = tx.senderBank.id →
      event.request.decision.status = first.request.decision.status →
        event.result = .ok response
  conflicting : event.request.transactionId = tx.id →
    event.request.bankId = tx.senderBank.id →
      event.request.decision.status ≠ first.request.decision.status →
        event.result = .error (.api confirmDecisionConflictError)

/-- Either every request so far raised and the payment is as it was, or one
request decided and all others changed nothing. -/
inductive DecidedOnce (tx : Transaction) (run : ConfirmRun) : Prop where
  | undecided
      (raised : ∀ event ∈ run.history, ∃ error, event.Raises error)
      (row_eq : run.db.row = tx)
      (unbooked : entriesOf tx.idempotencyKey run.db.entries = [])
  | decided (earlier later : List ConfirmEvent) (first : ConfirmEvent)
      (response : ConfirmResponse)
      (history_eq : run.history = earlier ++ first :: later)
      (raised : ∀ event ∈ earlier, ∃ error, event.Raises error)
      (decides : Decides tx first response)
      (answered : ∀ event ∈ later, Answers tx first response event)
      (row_eq : run.db.row = first.after.row)
      (booked : entriesOf tx.idempotencyKey run.db.entries =
        (bookedRows first).reverse)

/-- Requests of other banks find nothing. -/
def OthersFindNothing (tx : Transaction) (run : ConfirmRun) : Prop :=
  ∀ event ∈ run.history, event.request.bankId ≠ tx.senderBank.id →
    event.Raises (.api transactionNotFoundError)

/-! ## One request -/

theorem confirmEvent_of_error
    {request : ConfirmRequest} {db : PaymentDb} {error : ConfirmError}
    (raised : confirm request db = .error error) :
    (confirmEvent request db).Raises error ∧ afterConfirm request db = db := by
  have unchanged : afterConfirm request db = db := by
    simp only [afterConfirm]
    rw [raised]
  refine ⟨⟨?_, unchanged⟩, unchanged⟩
  simp only [confirmEvent, raised]
  rfl

theorem confirmEvent_of_ok
    {request : ConfirmRequest} {db after : PaymentDb} {response : ConfirmResponse}
    (confirmed : confirm request db = .ok (response, after)) :
    (confirmEvent request db).result = .ok response ∧
      afterConfirm request db = after := by
  constructor
  · simp only [confirmEvent, confirmed]
    rfl
  · simp only [afterConfirm]
    rw [confirmed]

/-- The first request which is processed decides. -/
theorem Processed.decides
    {request : ConfirmRequest} {before after : PaymentDb}
    {response : ConfirmResponse}
    (unbooked : entriesOf before.row.idempotencyKey before.entries = [])
    (confirmed : confirm request before = .ok (response, after))
    (processed : Processed request before after) :
    Decides before.row (confirmEvent request before) response ∧
      ∀ entry ∈ bookedRows (confirmEvent request before),
        entry.sourceRef = before.row.idempotencyKey := by
  have event := confirmEvent_of_ok confirmed
  have eventAfter : (confirmEvent request before).after = after := event.2
  rcases confirm_ok confirmed with ⟨_, sender, response_eq, status, _⟩
  have sameKey := processed.keeps.2.2
  have rows : after.entries =
      before.entries ++ bookedRows (confirmEvent request before) ∧
        ∀ entry ∈ bookedRows (confirmEvent request before),
          entry.sourceRef = before.row.idempotencyKey := by
    simp only [bookedRows]
    rw [eventAfter]
    cases processed with
    | accepted split returned decision computed row_eq recorded =>
        have decided : (confirmEvent request before).request.decision =
            .accepted := decision
        rw [decided]
        rw [← sameKey] at unbooked
        refine ⟨(recordC2bTransaction_first unbooked recorded).2, ?_⟩
        rw [← sameKey]
        exact c2bRows_sourceRef _ _
    | rejected reason decision row_eq entries_eq =>
        have decided : (confirmEvent request before).request.decision =
            .rejected reason := decision
        rw [decided]
        refine ⟨?_, fun _ member => nomatch member⟩
        rw [entries_eq]
        exact (List.append_nil _).symm
  refine ⟨⟨sender, event.1, ?_, ?_, ?_⟩, rows.2⟩
  · rw [eventAfter]
    exact status.symm
  · rw [eventAfter]
    exact response_eq
  · rw [eventAfter]
    exact rows.1

/-- A decided payment only answers. -/
theorem answers_of_decided
    {tx : Transaction} {first : ConfirmEvent} {response : ConfirmResponse}
    {db : PaymentDb} (decides : Decides tx first response)
    (row_eq : db.row = first.after.row)
    (sameId : db.row.id = tx.id) (sameBank : db.row.senderBank = tx.senderBank)
    (request : ConfirmRequest) :
    Answers tx first response (confirmEvent request db) ∧
      afterConfirm request db = db := by
  have status : db.row.status = first.request.decision.status := by
    rw [row_eq, decides.status]
  have closed : db.row.status = .completed ∨ db.row.status = .rejected := by
    rw [status]
    cases first.request.decision with
    | accepted => exact Or.inl rfl
    | rejected reason => exact Or.inr rfl
  have unchanged : afterConfirm request db = db := by
    cases result : confirm request db with
    | error error => exact (confirmEvent_of_error result).2
    | ok answer =>
        rcases answer with ⟨response, after⟩
        rcases confirm_ok result with ⟨_, _, _, _, same | ⟨pending, _⟩⟩
        · rw [(confirmEvent_of_ok result).2, same]
        · rw [pending] at closed
          rcases closed with impossible | impossible <;> cases impossible
  have answered (transaction : request.transactionId = tx.id)
      (bank : request.bankId = tx.senderBank.id) :
      confirm request db =
        if request.decision.status = db.row.status then
          .ok (buildConfirmResponse db.row, db)
        else .error (.api confirmDecisionConflictError) :=
    confirm_of_decided (transaction.trans sameId.symm)
      (bank.trans (congrArg Bank.id sameBank).symm) closed
  refine ⟨⟨unchanged, ?_, ?_⟩, unchanged⟩
  · intro transaction bank same
    have answer := answered transaction bank
    have equal : request.decision.status = db.row.status := same.trans status.symm
    rw [if_pos equal] at answer
    rw [(confirmEvent_of_ok answer).1, decides.response_eq, row_eq]
  · intro transaction bank other
    have answer := answered transaction bank
    have different : request.decision.status ≠ db.row.status :=
      fun equal => other (equal.trans status)
    rw [if_neg different] at answer
    exact (confirmEvent_of_error answer).1.1

/-! ## Whole runs -/

/-- The parties of the row stay those of the payment. -/
theorem parties_of_reachable
    {tx : Transaction} {run : ConfirmRun}
    (reached : (confirmSystem tx).Reachable run) :
    run.db.row.id = tx.id ∧ run.db.row.senderBank = tx.senderBank := by
  apply reached.invariant
  · rintro run ⟨row_eq, _, _⟩
    rw [row_eq]
    exact ⟨rfl, rfl⟩
  · intro run action after _ parties move
    cases action with
    | book created =>
        rw [move.2]
        exact parties
    | confirm request =>
        rw [move]
        cases result : confirm request run.db with
        | error error =>
            rw [(confirmEvent_of_error result).2]
            exact parties
        | ok answer =>
            rcases answer with ⟨response, changed⟩
            rw [(confirmEvent_of_ok result).2]
            rcases confirm_ok result with ⟨_, _, _, _, same | ⟨_, processed⟩⟩
            · rw [same]
              exact parties
            · have keeps := processed.keeps
              exact ⟨keeps.1.trans parties.1, keeps.2.1.trans parties.2⟩

theorem othersFindNothing_of_reachable
    {tx : Transaction} {run : ConfirmRun}
    (reached : (confirmSystem tx).Reachable run) :
    OthersFindNothing tx run := by
  apply reached.invariant
  · rintro run ⟨_, _, noHistory⟩ event member
    rw [noHistory] at member
    cases member
  · intro run action after before held move
    cases action with
    | book created =>
        rw [move.2]
        exact held
    | confirm request =>
        rw [move]
        intro event member other
        rcases List.mem_append.mp member with old | new
        · exact held event old other
        · rw [List.mem_singleton.mp new] at other ⊢
          have stranger : request.bankId ≠ run.db.row.senderBank.id := by
            rw [(parties_of_reachable before).2]
            exact other
          exact (confirmEvent_of_error (confirm_of_other_bank stranger)).1

/-- One step keeps the decision. -/
theorem DecidedOnce.step
    {tx : Transaction} (pending : tx.status = .pending)
    {run after : ConfirmRun} {action : ConfirmAction}
    (before : (confirmSystem tx).Reachable run)
    (once : DecidedOnce tx run)
    (move : (confirmSystem tx).Step run action after) :
    DecidedOnce tx after := by
  cases action with
  | book created =>
      rcases move with ⟨others, rfl⟩
      have apart := entriesOf_eq_nil others
      cases once with
      | undecided raised row_eq unbooked =>
          refine .undecided raised row_eq ?_
          simp [apart, unbooked]
      | decided earlier later first response history_eq raised decides answered
          row_eq booked =>
          refine .decided earlier later first response history_eq raised decides
            answered row_eq ?_
          simp [apart, booked]
  | confirm request =>
      cases move
      cases once with
      | undecided raised row_eq unbooked =>
          cases result : confirm request run.db with
          | error error =>
              have event := confirmEvent_of_error result
              rw [event.2]
              refine .undecided ?_ row_eq unbooked
              intro other member
              rcases List.mem_append.mp member with old | new
              · exact raised other old
              · rw [List.mem_singleton.mp new]
                exact ⟨error, event.1⟩
          | ok answer =>
              rcases answer with ⟨response, changed⟩
              rcases confirm_ok result with
                ⟨_, _, _, status, same | ⟨_, processed⟩⟩
              · -- A pending payment is never answered again.
                rw [same, row_eq, pending] at status
                cases decision : request.decision with
                | accepted => simp [decision, Decision.status] at status
                | rejected reason => simp [decision, Decision.status] at status
              · subst row_eq
                have decided := processed.decides unbooked result
                have event := confirmEvent_of_ok result
                refine .decided run.history [] _ response rfl raised decided.1
                  (fun _ member => nomatch member) rfl ?_
                have entries := decided.1.booked
                simp only [confirmEvent] at entries
                rw [entries, entriesOf_append, unbooked, List.append_nil]
                exact entriesOf_of_all decided.2
      | decided earlier later first response history_eq raised decides answered
          row_eq booked =>
          have parties := parties_of_reachable before
          have answer := answers_of_decided decides row_eq parties.1 parties.2 request
          rw [answer.2]
          refine .decided earlier (later ++ [confirmEvent request run.db]) first
            response ?_ raised decides ?_ row_eq booked
          · rw [history_eq, List.append_assoc, List.cons_append]
          · intro event member
            rcases List.mem_append.mp member with old | new
            · exact answered event old
            · rw [List.mem_singleton.mp new]
              exact answer.1

/-- However requests and other bookings follow each other, a pending payment
is decided at most once. -/
theorem confirm_exactly_once
    (tx : Transaction) (pending : tx.status = .pending)
    (run : ConfirmRun) (reached : (confirmSystem tx).Reachable run) :
    DecidedOnce tx run ∧ OthersFindNothing tx run := by
  refine ⟨?_, othersFindNothing_of_reachable reached⟩
  apply reached.invariant
  · rintro run ⟨row_eq, unbooked, noHistory⟩
    refine .undecided ?_ row_eq unbooked
    rw [noHistory]
    exact fun _ member => nomatch member
  · intro run action after before once move
    exact once.step pending before move

/-- The run after one more request. -/
def ConfirmRun.ask (request : ConfirmRequest) (run : ConfirmRun) : ConfirmRun where
  db := afterConfirm request run.db
  history := run.history ++ [confirmEvent request run.db]

/-- Two acceptances of a payment, one after the other. -/
def acceptedTwice : ConfirmRun :=
  (ConfirmRun.ask (confirmRequest .accepted 10) ⟨⟨pendingPayment, []⟩, []⟩).ask
    (confirmRequest .accepted 20)

theorem confirm_exactly_once_acceptedTwice :
    DecidedOnce pendingPayment acceptedTwice ∧
      OthersFindNothing pendingPayment acceptedTwice := by
  have asked : ∀ run request, (confirmSystem pendingPayment).Reachable run →
      (confirmSystem pendingPayment).Reachable (run.ask request) := by
    intro run request reached
    have move : (confirmSystem pendingPayment).Step run (.confirm request)
        (run.ask request) := rfl
    exact .step reached move
  exact confirm_exactly_once pendingPayment rfl acceptedTwice
    (asked _ _ (asked _ _ (.init ⟨rfl, rfl, rfl⟩)))

/-- The payment is booked by three entries, and by no more after the second
acceptance. -/
example : (acceptedTwice.db.entries.map LedgerEntry.amount) = [98, 1, 1] := by
  decide +kernel

end Klik.Codes
