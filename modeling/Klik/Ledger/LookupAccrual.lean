import Klik.Ledger.Recording
import Klik.Lib.TransitionSystem

/-!
# Lookups and accrual runs

Lookups increment a counter in Redis.  An accrual run reads each counter of a
day, books a fee in its database transaction, and deletes the counter.  These
are separate steps: other lookups and other runs come in between, and a run
which fails takes back its entries but none of its deletions.
-/

namespace Klik.Ledger

open Klik.Banks
open Klik.Common
open Klik.Lib

/-! ## Runs in progress -/

/-- Where a run stands in the body of its loop. -/
inductive AccrualStage where
  /-- Before the next key. -/
  | between
  /-- The counter of a bank was read. -/
  | read (bankId : Uuid) (count : Nat)
  /-- The key is deleted next, after its entry was created, if any. -/
  | deleting (bankId : Uuid) (count : Nat) (inserted : Option LedgerEntry)
deriving DecidableEq, Repr

/-- A run of `record_p2p_lookup_fees` which is not committed yet.  `billed`
are the entries whose counters it has deleted. -/
structure AccrualRun where
  day : Date
  remaining : List Uuid
  billed : List LedgerEntry
  stage : AccrualStage
deriving DecidableEq, Repr

/-- The run after the checks on the counter it has read, and the insertion;
none when an exception ends it.  It sees the committed entries and its own. -/
def AccrualRun.decided
    (banks : List Bank) (entries : List LedgerEntry) (bankId : Uuid) (count : Nat)
    (run : AccrualRun) : Option AccrualRun :=
  match decideCounter banks (entries ++ run.billed) bankId run.day count with
  | .skip => some { run with stage := .between }
  | .drop => some { run with stage := .deleting bankId count none }
  | .bill draft =>
      match draft.create with
      | .error _ => none
      | .ok entry => some { run with stage := .deleting bankId count (some entry) }

/-! ## Steps -/

/-- The counters in Redis, the lookups so far, the committed entries and the
runs in progress. -/
structure LookupState where
  counters : LookupCounters
  lookups : LookupCounters
  entries : List LedgerEntry
  runs : List AccrualRun

inductive AccrualAction where
  | lookup (bankId : Uuid) (day : Date)
  /-- The daily counter passes its time to live. -/
  | expire (bankId : Uuid) (day : Date)
  /-- Another operation books its entries. -/
  | book (created : List LedgerEntry)
  /-- A run starts with the keys which its scan returned. -/
  | start (day : Date) (scanned : List Uuid)
  /-- The run at a position of the list takes a step. -/
  | fetch (index : Nat)
  | decide (index : Nat)
  | delete (index : Nat)
  | finish (index : Nat)
  /-- An exception ends the run. -/
  | fail (index : Nat)
deriving DecidableEq, Repr

/-- One step, where it is possible. -/
def accrualStep
    (banks : List Bank) (state : LookupState) : AccrualAction → Option LookupState
  | .lookup bankId day =>
      (getBank banks bankId).map fun _ =>
        { state with
          counters := state.counters.increment bankId day
          lookups := state.lookups.increment bankId day }
  | .expire bankId day =>
      some { state with counters := state.counters.delete bankId day }
  | .book created =>
      if created.all fun entry => entry.entryType ≠ .p2pLookupFee then
        some { state with entries := state.entries ++ created }
      else none
  | .start day scanned =>
      if banks.all fun bank => state.counters bank.id day = 0 || bank.id ∈ scanned then
        some { state with runs := state.runs ++ [⟨day, scanned, [], .between⟩] }
      else none
  | .fetch index =>
      match state.runs[index]? with
      | some ⟨day, bankId :: rest, billed, .between⟩ =>
          let stage := .read bankId (state.counters bankId day)
          some { state with runs := state.runs.set index ⟨day, rest, billed, stage⟩ }
      | _ => none
  | .decide index =>
      match state.runs[index]? with
      | some ⟨day, remaining, billed, .read bankId count⟩ =>
          let run : AccrualRun := ⟨day, remaining, billed, .read bankId count⟩
          match run.decided banks state.entries bankId count with
          | some after => some { state with runs := state.runs.set index after }
          | none => some { state with runs := state.runs.eraseIdx index }
      | _ => none
  | .delete index =>
      match state.runs[index]? with
      | some ⟨day, remaining, billed, .deleting bankId _ inserted⟩ =>
          some { state with
            counters := state.counters.delete bankId day
            runs := state.runs.set index
              ⟨day, remaining, billed ++ inserted.toList, .between⟩ }
      | _ => none
  | .finish index =>
      match state.runs[index]? with
      | some ⟨_, [], billed, .between⟩ =>
          some { state with
            entries := state.entries ++ billed
            runs := state.runs.eraseIdx index }
      | _ => none
  | .fail index =>
      match state.runs[index]? with
      | some _ => some { state with runs := state.runs.eraseIdx index }
      | none => none

/-- Lookups and accrual runs from empty counters and a ledger without lookup
fees. -/
def accrualSystem (banks : List Bank) :
    TransitionSystem LookupState AccrualAction :=
  .ofStep
    (fun state =>
      (∀ bankId day, state.counters bankId day = 0) ∧
        (∀ bankId day, state.lookups bankId day = 0) ∧
        (∀ entry ∈ state.entries, entry.entryType ≠ .p2pLookupFee) ∧
        state.runs = [])
    (accrualStep banks)

/-- An accrual run of a day from its start to its commit, while nothing else
happens. -/
structure FinalRun
    (system : TransitionSystem LookupState AccrualAction) (day : Date)
    (state after : LookupState) : Prop where
  idle : state.runs = []
  run : ∃ (scanned : List Uuid) (actions : List AccrualAction)
      (started ended : LookupState),
    system.Step state (.start day scanned) started ∧
      system.Path started actions ended ∧
      (∀ action ∈ actions, action ∈ [.fetch 0, .decide 0, .delete 0]) ∧
      system.Step ended (.finish 0) after

/-- The deletion which comes next removes just the lookups which the run has
billed. -/
def AccrualRun.deletesBilled (counters : LookupCounters) (run : AccrualRun) : Bool :=
  match run.stage with
  | .deleting bankId count inserted =>
      counters bankId run.day = if inserted = none then 0 else count
  | _ => true

/-- An exception in the checks comes before the first deletion. -/
def AccrualRun.raisesEarly
    (banks : List Bank) (entries : List LedgerEntry) (run : AccrualRun) : Bool :=
  match run.stage with
  | .read bankId count =>
      (run.decided banks entries bankId count).isSome || run.billed = []
  | _ => true

/-- Every deletion removes just the lookups which the run has billed, no
counter with lookups expires, and no run fails after its first deletion. -/
def countsKept (banks : List Bank) (state : LookupState) : AccrualAction → Bool
  | .expire bankId day => state.counters bankId day = 0
  | .decide index =>
      (state.runs[index]?).all fun run => run.raisesEarly banks state.entries
  | .delete index =>
      (state.runs[index]?).all fun run => run.deletesBilled state.counters
  | .fail index => (state.runs[index]?).all fun run => run.billed = []
  | _ => true

/-- The runs whose every step keeps the counts. -/
def countedSystem (banks : List Bank) :
    TransitionSystem LookupState AccrualAction :=
  (accrualSystem banks).guarded fun state action => countsKept banks state action = true

/-! ## Fees -/

/-- Whether an entry is a lookup fee of a bank and a day. -/
def LedgerEntry.isLookupFee (bankId : Uuid) (day : Date) (entry : LedgerEntry) : Bool :=
  entry.entryType = .p2pLookupFee && entry.fromBankId = bankId
    && entry.sourceRef = p2pSourceRef bankId day

theorem isLookupFee_iff (bankId : Uuid) (day : Date) (entry : LedgerEntry) :
    entry.isLookupFee bankId day = true ↔
      entry.entryType = .p2pLookupFee ∧ entry.fromBankId = bankId ∧
        entry.sourceRef = p2pSourceRef bankId day := by
  simp only [LedgerEntry.isLookupFee, Bool.and_eq_true, decide_eq_true_eq, and_assoc]

/-- Sum of the lookup fees of a bank and a day. -/
def feesOf (bankId : Uuid) (day : Date) (entries : List LedgerEntry) : Decimal :=
  ((entries.filter (LedgerEntry.isLookupFee bankId day)).map LedgerEntry.amount).sum

@[simp]
theorem feesOf_nil (bankId : Uuid) (day : Date) : feesOf bankId day [] = 0 := rfl

@[simp]
theorem feesOf_append
    (bankId : Uuid) (day : Date) (before after : List LedgerEntry) :
    feesOf bankId day (before ++ after) =
      feesOf bankId day before + feesOf bankId day after := by
  simp [feesOf]

theorem feesOf_eq_zero
    (bankId : Uuid) (day : Date) {entries : List LedgerEntry}
    (others : ∀ entry ∈ entries, entry.entryType ≠ .p2pLookupFee) :
    feesOf bankId day entries = 0 := by
  have none : entries.filter (LedgerEntry.isLookupFee bankId day) = [] := by
    apply List.filter_eq_nil_iff.mpr
    intro entry member fee
    exact others entry member ((isLookupFee_iff bankId day entry).mp fee).1
  rw [feesOf, none]
  rfl

/-- The entry of a run counts for its own bank and day only. -/
theorem feesOf_p2pDraft
    (banks : List Bank) (bank : Bank) (runDay : Date) (total : Decimal)
    (bankId : Uuid) (day : Date) :
    feesOf bankId day [(p2pDraft banks bank runDay total).row] =
      if bank.id = bankId ∧ runDay = day then total else 0 := by
  have isFee : ((p2pDraft banks bank runDay total).row).isLookupFee bankId day = true ↔
      bank.id = bankId ∧ runDay = day := by
    rw [isLookupFee_iff]
    constructor
    · rintro ⟨_, sameBank, sameRef⟩
      cases sameBank
      exact ⟨rfl, p2pSourceRef_injective bank.id sameRef⟩
    · rintro ⟨rfl, rfl⟩
      exact ⟨rfl, rfl, rfl⟩
  simp only [feesOf, List.filter_cons, List.filter_nil, isFee]
  split
  · simp [p2pDraft, EntryDraft.row]
  · rfl

end Klik.Ledger
