import Klik.Ledger.Recording
import Klik.Ledger.SettlementRuns
import Klik.Lib.TransitionSystem

/-!
# The ledger as a system of calls

From the empty ledger, payments and lookup fees are recorded and settlement
runs are completed in any order.  A run may find any answer of the RTGS
systems, as long as every transfer gets one result or the system as a whole
is unavailable.
-/

namespace Klik.Ledger

open Klik.Banks
open Klik.Codes
open Klik.Common
open Klik.Ledger.Rtgs
open Klik.Lib

/-! ## The system -/

/-- What does not change while the ledger runs. -/
structure LedgerContext where
  banks : List Bank
  bankOf : Uuid → Bank
  runtime : PyRuntime

/-- A call of one of the services. -/
inductive LedgerAction where
  | recordC2b (tx : Transaction)
  | recordP2p (day : Date) (scanned : List Uuid) (counters : LookupCounters)
  | settle (now : Instant) (zone : PyStr)
      (dispatch : Zone → Uuid → List TransferRequest → DispatchOutcome)

/-- The ledger after a payment was recorded; an exception rolls back. -/
def afterC2b (banks : List Bank) (tx : Transaction) (db : LedgerDb) : LedgerDb :=
  match recordC2bTransaction banks tx db.entries with
  | .ok (_, entries) => { db with entries := entries }
  | .error _ => db

/-- The ledger after lookup fees were recorded; an exception rolls back. -/
def afterP2p
    (banks : List Bank) (day : Date) (scanned : List Uuid)
    (counters : LookupCounters) (db : LedgerDb) : LedgerDb :=
  match recordP2pLookupFees banks day scanned counters db.entries with
  | .ok after => { db with entries := after.entries }
  | .error _ => db

/-- The environment of a settlement run. -/
def LedgerContext.env
    (context : LedgerContext)
    (dispatch : Zone → Uuid → List TransferRequest → DispatchOutcome) :
    SettlementEnv where
  bankOf := context.bankOf
  runtime := context.runtime
  dispatch := dispatch

/-- A settlement run which ends without an exception. -/
structure CompleteRun
    (context : LedgerContext) (now : Instant) (zone : PyStr)
    (dispatch : Zone → Uuid → List TransferRequest → DispatchOutcome)
    (db after : LedgerDb) : Prop where
  answers : ∀ zone sessionId requests,
    (dispatch zone sessionId requests).AnswersEach requests
  ends : (runSettlementSession (context.env dispatch) now zone db).outcome.isOk = true
  after_eq : after = (runSettlementSession (context.env dispatch) now zone db).db

/-- Calls of the services on a ledger which starts empty. -/
def ledgerSystem (context : LedgerContext) :
    TransitionSystem LedgerDb LedgerAction where
  Init db := db = ⟨[], [], []⟩
  Step db action after :=
    match action with
    | .recordC2b tx => after = afterC2b context.banks tx db
    | .recordP2p day scanned counters =>
        after = afterP2p context.banks day scanned counters db
    | .settle now zone dispatch => CompleteRun context now zone dispatch db after

/-- The RTGS system confirms every transfer of the run. -/
def AllConfirmed
    (context : LedgerContext) (db : LedgerDb) (action : LedgerAction) : Prop :=
  match action with
  | .settle _ text dispatch =>
      ∀ zone, zoneOfText text = some zone →
        plannedTransfers zone db ≠ [] →
          DispatchOutcome.Succeeded (plannedOutcome (context.env dispatch) zone db)
  | _ => True

/-! ## What a call can do -/

/-- Everything a call can do to the tables: append fresh entries, or close
one session. -/
inductive Outcome (context : LedgerContext) (action : LedgerAction)
    (db after : LedgerDb) : Prop where
  | appended (created : List LedgerEntry)
      (fresh : ∀ entry ∈ created, entry.Fresh)
      (after_eq : after = { db with entries := db.entries ++ created })
  | closed (zone : Zone) (now : Instant) (row : SettlementSession)
      (made : List SettlementTransfer)
      (closes : Closes db zone now row made after)
      (confirmed : AllConfirmed context db action →
        ∀ transfer ∈ made, transfer.status = .completed)

theorem Outcome.unchanged
    {context : LedgerContext} {action : LedgerAction} (db : LedgerDb) :
    Outcome context action db db :=
  .appended [] (by simp) (by simp)

theorem outcome_of_complete
    {context : LedgerContext} {now : Instant} {text : PyStr}
    {dispatch : Zone → Uuid → List TransferRequest → DispatchOutcome}
    {db after : LedgerDb} (wellFormed : db.WellFormed)
    (complete : CompleteRun context now text dispatch db after) :
    Outcome context (.settle now text dispatch) db after := by
  rcases complete with ⟨answers, ends, rfl⟩
  cases known : zoneOfText text with
  | none =>
      rw [runSettlementSession_unknown _ now db known]
      exact .unchanged db
  | some zone =>
      by_cases idle : ZoneIdle zone db
      · by_cases clean : SettlesCleanly (context.env dispatch) zone db
        · rcases runSettlementSession_closes wellFormed now known idle clean
            (fun _ => answers _ _ _) with ⟨row, made, report, _, closes, succeeded⟩
          refine .closed zone now row made closes ?_
          intro confirmed
          by_cases transfers : plannedTransfers zone db = []
          · have none : made = [] := by
              have ids := closes.ended.ids
              rw [transfers] at ids
              exact List.map_eq_nil_iff.mp ids
            rw [none]
            exact fun _ member => nomatch member
          · exact succeeded (confirmed zone known transfers)
        · rcases runSettlementSession_strands wellFormed now known idle clean
            (fun _ _ => answers _ _ _) with ⟨entries, row, made, error, shape, _⟩
          rw [shape] at ends
          cases ends
      · rw [runSettlementSession_busy now known idle]
        exact .unchanged db

/-- The inversion lemma of the system. -/
theorem outcome_of_step
    {context : LedgerContext} {action : LedgerAction} {db after : LedgerDb}
    (wellFormed : db.WellFormed)
    (move : (ledgerSystem context).Step db action after) :
    Outcome context action db after := by
  cases action with
  | recordC2b tx =>
      cases move
      simp only [afterC2b]
      split
      · rename_i returned entries recorded
        rcases recordC2bTransaction_appends recorded with ⟨created, rfl, fresh⟩
        exact .appended created fresh rfl
      · exact .unchanged db
  | recordP2p day scanned counters =>
      cases move
      simp only [afterP2p]
      split
      · rename_i result recorded
        rcases recordP2pLookupFees_appends recorded with ⟨created, same, fresh⟩
        exact .appended created fresh (by rw [same])
      · exact .unchanged db
  | settle now zone dispatch => exact outcome_of_complete wellFormed move

/-! ## Entries and transfers of a closed run -/

/-- An entry after a run closed its session. -/
def closedEntry
    (zone : Zone) (now : Instant) (row : SettlementSession)
    (made : List SettlementTransfer) (entry : LedgerEntry) : LedgerEntry :=
  (entry.assignTo zone row.id).markIf row.id now (settles row made)

section Closed

variable {db after : LedgerDb} {zone : Zone} {now : Instant}
variable {row : SettlementSession} {made : List SettlementTransfer}

theorem Closes.entries (closes : Closes db zone now row made after) :
    after.entries = db.entries.map (closedEntry zone now row made) := by
  rw [closes.after_eq, LedgerDb.closeWith, LedgerDb.extend, List.map_map,
    ← closes.row_id]
  rfl

theorem Closes.sessions (closes : Closes db zone now row made after) :
    after.sessions = db.sessions ++ [row] := by
  rw [closes.after_eq]
  rfl

theorem Closes.transfers (closes : Closes db zone now row made after) :
    after.transfers = db.transfers ++ made := by
  rw [closes.after_eq]
  rfl

theorem Closes.owns (closes : Closes db zone now row made after) :
    db.Owns made :=
  (owns_plannedTransfers zone db).congr closes.ended.ids closes.ended.sessions

theorem Closes.nets (closes : Closes db zone now row made after) :
    made.map SettlementTransfer.net =
      netObligations (pendingObligations zone db) := by
  rw [closes.ended.nets, plannedTransfers, transferRows_net]

/-- Entries which the run did not take are as before. -/
theorem Closes.entry_of_not_pending
    (closes : Closes db zone now row made after) (wellFormed : db.WellFormed)
    {entry : LedgerEntry} (member : entry ∈ db.entries)
    (kept : entry.isPending zone = false) :
    closedEntry zone now row made entry = entry := by
  have opened := isOpenIn_assignTo wellFormed zone member
  rw [kept, ← closes.row_id] at opened
  simp only [closedEntry]
  rw [markIf_of_false (by rw [opened, Bool.false_and])]
  simp only [LedgerEntry.assignTo]
  rw [if_neg (by simp [kept])]

/-- Entries which the run took are in its session. -/
theorem closedEntry_of_pending
    (now : Instant) (row : SettlementSession) (made : List SettlementTransfer)
    {entry : LedgerEntry} (taken : entry.isPending zone = true) :
    (closedEntry zone now row made entry).session = some row.id ∧
      (closedEntry zone now row made entry).settled = settles row made entry := by
  have assigned :
      entry.assignTo zone row.id = { entry with session := some row.id } :=
    if_pos taken
  have unsettled : entry.settled = false := by
    simp only [LedgerEntry.isPending, Bool.and_eq_true] at taken
    simpa using taken.1.2
  have same : settles row made { entry with session := some row.id } =
      settles row made entry := rfl
  have opened :
      LedgerEntry.isOpenIn row.id { entry with session := some row.id } = true := by
    simp [LedgerEntry.isOpenIn, unsettled]
  simp only [closedEntry]
  rw [assigned]
  simp only [LedgerEntry.markIf]
  rw [opened, same, Bool.true_and]
  cases settles row made entry with
  | false => exact ⟨rfl, unsettled⟩
  | true => exact ⟨rfl, rfl⟩

@[simp]
theorem closedEntry_obligation
    (zone : Zone) (now : Instant) (row : SettlementSession)
    (made : List SettlementTransfer) (entry : LedgerEntry) :
    (closedEntry zone now row made entry).obligation = entry.obligation := by
  simp only [closedEntry, LedgerEntry.markIf]
  split
  · exact obligation_assignTo zone row.id entry
  · exact obligation_assignTo zone row.id entry

theorem settles_of_all_completed
    (closes : Closes db zone now row made after)
    (completed : ∀ transfer ∈ made, transfer.status = .completed)
    (entry : LedgerEntry) :
    settles row made entry = true := by
  have all : (made.all fun transfer => transfer.status = .completed) = true := by
    rw [List.all_eq_true]
    intro transfer member
    simpa using completed transfer member
  simp [settles, closes.row_status, endStatus, all]

theorem settles_of_some_failed
    (closes : Closes db zone now row made after)
    {failing : SettlementTransfer} (member : failing ∈ made)
    (failed : failing.status = .failed) (entry : LedgerEntry) :
    settles row made entry = pairSettled made entry := by
  have some : (made.all fun transfer => transfer.status = .completed) = false := by
    rw [List.all_eq_false]
    exact ⟨failing, member, by simp [failed]⟩
  simp [settles, closes.row_status, endStatus, some]

end Closed

/-! ## References stay sound -/

theorem LedgerDb.WellFormed.empty : LedgerDb.WellFormed ⟨[], [], []⟩ where
  session_ids := by simp
  transfer_ids := by simp
  transfer_nodup := by simp
  transfer_session := by simp
  entry_session := by simp
  entry_amount := by simp
  entry_settled := by simp

theorem LedgerDb.WellFormed.append
    {db : LedgerDb} (wellFormed : db.WellFormed)
    {created : List LedgerEntry} (fresh : ∀ entry ∈ created, entry.Fresh) :
    LedgerDb.WellFormed { db with entries := db.entries ++ created } where
  session_ids := wellFormed.session_ids
  transfer_ids := wellFormed.transfer_ids
  transfer_nodup := wellFormed.transfer_nodup
  transfer_session := wellFormed.transfer_session
  entry_session := by
    intro entry member sessionId assigned
    rcases List.mem_append.mp member with old | new
    · exact wellFormed.entry_session entry old sessionId assigned
    · rw [(fresh entry new).1] at assigned
      cases assigned
  entry_amount := by
    intro entry member
    rcases List.mem_append.mp member with old | new
    · exact wellFormed.entry_amount entry old
    · exact (fresh entry new).2.2
  entry_settled := by
    intro entry member settled
    rcases List.mem_append.mp member with old | new
    · exact wellFormed.entry_settled entry old settled
    · rw [(fresh entry new).2.1] at settled
      cases settled

theorem Closes.wellFormed
    {db after : LedgerDb} {zone : Zone} {now : Instant}
    {row : SettlementSession} {made : List SettlementTransfer}
    (closes : Closes db zone now row made after) (wellFormed : db.WellFormed) :
    after.WellFormed := by
  have sessionCount : after.sessions.length = db.sessions.length + 1 := by
    simp [closes.sessions]
  have entryCases : ∀ entry ∈ after.entries, ∃ old ∈ db.entries,
      entry.obligation = old.obligation ∧
        (entry = old ∨ entry.session = some db.sessions.length) := by
    intro entry member
    rw [closes.entries] at member
    rcases List.mem_map.mp member with ⟨old, oldMember, rfl⟩
    refine ⟨old, oldMember, closedEntry_obligation _ _ _ _ old, ?_⟩
    cases taken : old.isPending zone with
    | false => exact Or.inl (closes.entry_of_not_pending wellFormed oldMember taken)
    | true =>
        right
        rw [(closedEntry_of_pending now row made taken).1, closes.row_id]
  refine ⟨?_, ?_, ?_, ?_, ?_, ?_, ?_⟩
  · intro session member
    rw [closes.sessions] at member
    rw [sessionCount]
    rcases List.mem_append.mp member with old | new
    · exact (wellFormed.session_ids session old).trans (Nat.lt_succ_self _)
    · rw [List.mem_singleton.mp new, closes.row_id]
      exact Nat.lt_succ_self _
  · intro transfer member
    have count : made.length =
        (netObligations (pendingObligations zone db)).length := by
      rw [← closes.nets, List.length_map]
    rw [closes.transfers] at member ⊢
    rw [List.length_append]
    rcases List.mem_append.mp member with old | new
    · exact Nat.lt_add_right _ (wellFormed.transfer_ids transfer old)
    · have listed := List.mem_map_of_mem (f := SettlementTransfer.id) new
      rw [closes.ended.ids, plannedTransfers, transferRows_ids] at listed
      have bound := (List.mem_range'_1.mp listed).2
      rw [← count] at bound
      exact bound
  · rw [closes.after_eq]
    exact LedgerDb.extend_nodup wellFormed closes.owns _ _
  · intro transfer member
    rw [closes.transfers] at member
    rw [sessionCount]
    rcases List.mem_append.mp member with old | new
    · exact (wellFormed.transfer_session transfer old).trans (Nat.lt_succ_self _)
    · rw [closes.owns.session transfer new]
      exact Nat.lt_succ_self _
  · intro entry member sessionId assigned
    rw [sessionCount]
    rcases entryCases entry member with ⟨old, oldMember, _, same | here⟩
    · rw [same] at assigned
      exact (wellFormed.entry_session old oldMember _ assigned).trans
        (Nat.lt_succ_self _)
    · rw [here] at assigned
      cases assigned
      exact Nat.lt_succ_self _
  · intro entry member
    rcases entryCases entry member with ⟨old, oldMember, same, _⟩
    have amount : entry.amount = old.amount := congrArg Obligation.amount same
    rw [amount]
    exact wellFormed.entry_amount old oldMember
  · intro entry member settled
    rcases entryCases entry member with ⟨old, oldMember, _, same | here⟩
    · rw [same] at settled ⊢
      exact wellFormed.entry_settled old oldMember settled
    · rw [here]
      simp

/-- The tables of every reachable ledger refer to each other soundly. -/
theorem wellFormed_of_reachable
    {context : LedgerContext} {db : LedgerDb}
    (reached : (ledgerSystem context).Reachable db) :
    db.WellFormed := by
  apply reached.invariant
  · rintro state rfl
    exact .empty
  · intro source action target _ wellFormed move
    cases outcome_of_step wellFormed move with
    | appended created fresh after_eq =>
        rw [after_eq]
        exact wellFormed.append fresh
    | closed zone now row made closes confirmed =>
        exact closes.wellFormed wellFormed

/-! ## A ledger of Polish banks -/

/-- Polish banks only. -/
def polishContext : LedgerContext where
  banks := []
  bankOf := polishBank
  runtime := .ascii

/-- An RTGS system which confirms the transfers that `confirmed` selects. -/
def confirming (confirmed : Uuid → Bool) :
    Zone → Uuid → List TransferRequest → DispatchOutcome :=
  fun _ _ requests =>
    .returned (requests.map fun request =>
      { transferId := request.transferId
        status := if confirmed request.transferId then .success else .failed
        rtgsReference := .str []
        failureReason := .str [] })

theorem confirming_answers
    (confirmed : Uuid → Bool) (zone : Zone) (sessionId : Uuid)
    (requests : List TransferRequest) :
    (confirming confirmed zone sessionId requests).AnswersEach requests := by
  simp only [confirming, DispatchOutcome.AnswersEach, List.map_map]
  exact List.Perm.refl _

/-- Payments recorded one after the other from the empty ledger. -/
def polishLedger (payments : List Transaction) : LedgerDb :=
  payments.foldl (fun db tx => afterC2b polishContext.banks tx db) ⟨[], [], []⟩

/-- A payment of 100 from bank 1 to bank 2. -/
def onePayment : LedgerDb := polishLedger [polishPayment (py "a") 1 2 100]

theorem confirmed_polishLedger (payments : List Transaction) :
    ((ledgerSystem polishContext).guarded (AllConfirmed polishContext)).Reachable
      (polishLedger payments) := by
  have general : ∀ db,
      ((ledgerSystem polishContext).guarded (AllConfirmed polishContext)).Reachable
        db →
      ((ledgerSystem polishContext).guarded (AllConfirmed polishContext)).Reachable
        (payments.foldl (fun db tx => afterC2b polishContext.banks tx db) db) := by
    induction payments with
    | nil =>
        intro db reached
        exact reached
    | cons tx rest induction =>
        intro db reached
        have move :
            ((ledgerSystem polishContext).guarded
              (AllConfirmed polishContext)).Step db (.recordC2b tx)
                (afterC2b polishContext.banks tx db) := ⟨trivial, rfl⟩
        exact induction _ (.step reached move)
  exact general _ (.init rfl)

theorem reachable_polishLedger (payments : List Transaction) :
    (ledgerSystem polishContext).Reachable (polishLedger payments) :=
  (confirmed_polishLedger payments).of_guarded

/-- The ledger after one more settlement run. -/
def polishSettled (confirmed : Uuid → Bool) (db : LedgerDb) : LedgerDb :=
  (runSettlementSession (polishContext.env (confirming confirmed)) 0 (py "PL")
    db).db

theorem complete_polishSettled
    (confirmed : Uuid → Bool) (db : LedgerDb)
    (ends : (runSettlementSession (polishContext.env (confirming confirmed)) 0
      (py "PL") db).outcome.isOk = true) :
    (ledgerSystem polishContext).Step db
      (.settle 0 (py "PL") (confirming confirmed)) (polishSettled confirmed db) :=
  ⟨confirming_answers confirmed, ends, rfl⟩

theorem confirmed_polishSettled (db : LedgerDb) :
    AllConfirmed polishContext db
      (.settle 0 (py "PL") (confirming fun _ => true)) := by
  intro zone _ _ result member
  rcases List.mem_map.mp member with ⟨request, _, rfl⟩
  rfl

end Klik.Ledger
