import Klik.Ledger.OwnEntries
import Klik.Lib.KeyedJournal

/-!
# Source operations and their entries

Payments and daily lookup fees are booked under one reference, a text.  Both
producers skip an operation whose reference has entries already, so the
ledger is a journal which is idempotent by this reference.  Operations are
booked on their own exactly as long as different ones have different
references.
-/

namespace Klik.Ledger

open Klik.Banks
open Klik.Codes
open Klik.Common
open Klik.Lib

/-! ## Operations -/

/-- What entries come from: a payment, or the lookups which an accrual run
found in the counter of a bank and a day. -/
inductive SourceOperation where
  | payment (tx : Transaction)
  | lookupFees (bank : Bank) (day : Date) (count : Nat)
deriving DecidableEq

/-- The reference of an operation. -/
def SourceOperation.sourceRef : SourceOperation → PyStr
  | .payment tx => tx.idempotencyKey
  | .lookupFees bank day _ => p2pSourceRef bank.id day

/-- The rows which booking an operation creates. -/
def SourceOperation.rows (banks : List Bank) : SourceOperation → List LedgerEntry
  | .payment tx => c2bRows banks tx
  | .lookupFees bank day count =>
      if billable bank count then
        [(p2pDraft banks bank day (lookupTotal bank count)).row]
      else []

/-- The entries are those of the operation. -/
def SourceOperation.Owns
    (banks : List Bank) (operation : SourceOperation) (entries : List LedgerEntry) :
    Prop :=
  match operation with
  | .payment tx => PaymentEntries banks tx entries
  | .lookupFees bank day count => LookupFeeEntries banks bank day count entries

/-- The operation has entries: an off-us payment or a positive fee, or lookups to
bill. -/
def SourceOperation.HasEntries : SourceOperation → Prop
  | .payment tx =>
      tx.isOnUs = false ∨ (∃ fee, tx.klikFee = some fee ∧ 0 < fee) ∨
        ∃ fee, tx.agentFee = some fee ∧ 0 < fee
  | .lookupFees bank _ count => billable bank count = true

/-- Whether booking the operation looks for its reference in the ledger. -/
def SourceOperation.checksRef : SourceOperation → Bool
  | .payment _ => true
  | .lookupFees bank _ count => billable bank count

/-- The ledger as a journal. -/
def sourceJournal (banks : List Bank) :
    KeyedJournal SourceOperation LedgerEntry PyStr where
  key := SourceOperation.sourceRef
  entryKey := LedgerEntry.sourceRef
  rows := SourceOperation.rows banks
  rows_key := by
    intro operation entry member
    cases operation with
    | payment tx => exact c2bRows_sourceRef banks tx entry member
    | lookupFees bank day count =>
        simp only [SourceOperation.rows] at member
        split at member
        · rw [List.mem_singleton.mp member]
          rfl
        · cases member

theorem rows_of_not_checksRef
    {banks : List Bank} {operation : SourceOperation}
    (unchecked : operation.checksRef = false) : operation.rows banks = [] := by
  cases operation with
  | payment tx => cases unchecked
  | lookupFees bank day count =>
      simp only [SourceOperation.checksRef] at unchecked
      simp [SourceOperation.rows, unchecked]

/-! ## Booking -/

/-- Counters of which one was read as `count`. -/
def counterOf (bankId : Uuid) (day : Date) (count : Nat) : LookupCounters :=
  fun otherBank otherDay =>
    if otherBank = bankId ∧ otherDay = day then count else 0

/-- Book an operation: the entries which the service returns and the new
table.  An accrual run over several counters books one operation for each. -/
def SourceOperation.book
    (banks : List Bank) (entries : List LedgerEntry) :
    SourceOperation → Except LedgerError (List LedgerEntry × List LedgerEntry)
  | .payment tx => recordC2bTransaction banks tx entries
  | .lookupFees bank day count =>
      match recordP2pLookupFees banks day [bank.id] (counterOf bank.id day count)
          entries with
      | .error (_, error) => .error error
      | .ok after => .ok (after.created, after.entries)

/-- What booking returned for each operation so far, and the ledger. -/
structure Booking where
  returned : List (SourceOperation × List LedgerEntry)
  entries : List LedgerEntry

/-- Book operations one after the other; the first exception ends this. -/
def bookAll (banks : List Bank) (operations : List SourceOperation) :
    Except LedgerError Booking :=
  operations.foldlM
    (fun booking operation =>
      match operation.book banks booking.entries with
      | .error error => .error error
      | .ok (returned, entries) =>
          .ok ⟨booking.returned ++ [(operation, returned)], entries⟩)
    ⟨[], []⟩

/-! ## Operations which can be booked -/

/-- A completed payment as the database holds it. -/
structure StoredPayment (tx : Transaction) : Prop where
  completed : tx.status = .completed
  clean : tx.fullClean = .ok ()
  key_encodable : encodable tx.idempotencyKey = true
  merchant_zone : tx.merchant.settlementBank.zone = tx.merchant.zone
  agent_zone : tx.agent.settlementBank.zone = tx.agent.zone
  amounts : ∃ merchantNet klikFee agentFee,
    tx.merchantNet = some merchantNet ∧ tx.klikFee = some klikFee ∧
      tx.agentFee = some agentFee ∧ 0 ≤ klikFee ∧ 0 ≤ agentFee ∧
        klikFee + agentFee + merchantNet = tx.amountGross ∧
          (tx.isOnUs = false → 0 < merchantNet)

/-- Lookups of a bank as the database holds it, with a fee which the column
of the amount takes. -/
structure StoredLookupFees
    (banks : List Bank) (bank : Bank) (day : Date) (count : Nat) : Prop where
  known : getBank banks bank.id = some bank
  currency_eq : bank.currency = zoneCurrency bank.zone
  year_le : day.year ≤ 9999
  total_fits : fitsDecimalField 12 2 (lookupTotal bank count) = true

/-- What the database ensures of an operation. -/
def SourceOperation.Stored (banks : List Bank) : SourceOperation → Prop
  | .payment tx => StoredPayment tx
  | .lookupFees bank day count => StoredLookupFees banks bank day count

theorem operatorBank_zone
    (banks : List Bank) {bank : Bank} {zone : Zone} (sameZone : bank.zone = zone) :
    ((resolveKlikOperatorBank banks zone).getD bank).zone = zone := by
  simp only [resolveKlikOperatorBank]
  cases klikOperatorBankByZone zone with
  | none => exact sameZone
  | some name =>
      simp only
      cases found : banks.find? fun bank => bank.name = name && bank.zone = zone with
      | none => exact sameZone
      | some operator =>
          have selected := List.find?_some found
          simp only [Bool.and_eq_true, decide_eq_true_eq] at selected
          exact selected.2

/-- The entries of a stored payment are accepted. -/
theorem c2bDrafts_valid
    (banks : List Bank) {tx : Transaction} (stored : StoredPayment tx)
    {merchantNet klikFee agentFee : Decimal}
    (net_eq : tx.merchantNet = some merchantNet) (klik_eq : tx.klikFee = some klikFee)
    (agent_eq : tx.agentFee = some agentFee)
    (net_pos : tx.isOnUs = false → 0 < merchantNet) :
    ∀ draft ∈ c2bDrafts banks tx merchantNet klikFee agentFee, draft.Valid := by
  have clean := Transaction.clean_of_fullClean stored.clean
  have nonempty := clean.key_nonempty
  have short := clean.key_length
  have encoded := stored.key_encodable
  intro draft member
  simp only [c2bDrafts, List.mem_append] at member
  rcases member with (net | klik) | agent
  · split at net
    · cases net
    · rename_i offUs
      rw [List.mem_singleton.mp net]
      exact ⟨clean.merchantNet_fits _ net_eq, net_pos (by simpa using offUs),
        nonempty, short, encoded, clean.currency_eq, clean.sender_zone,
        stored.merchant_zone.trans clean.merchant_zone, by simp⟩
  · split at klik
    · rename_i positive
      rw [List.mem_singleton.mp klik]
      exact ⟨clean.klikFee_fits _ klik_eq, positive, nonempty, short, encoded,
        clean.currency_eq, clean.sender_zone,
        operatorBank_zone banks clean.sender_zone, by simp⟩
    · cases klik
  · split at agent
    · rename_i positive
      rw [List.mem_singleton.mp agent]
      exact ⟨clean.agentFee_fits _ agent_eq, positive, nonempty, short, encoded,
        clean.currency_eq, clean.sender_zone,
        stored.agent_zone.trans clean.agent_zone, by simp⟩
    · cases agent

/-- The entries of an off-us payment add up to its gross amount. -/
theorem c2bRows_total
    (banks : List Bank) {tx : Transaction} (stored : StoredPayment tx)
    (offUs : tx.isOnUs = false) :
    ((c2bRows banks tx).map LedgerEntry.amount).sum = tx.amountGross := by
  rcases stored.amounts with ⟨merchantNet, klikFee, agentFee, net_eq, klik_eq,
    agent_eq, klik_nonneg, agent_nonneg, total, _⟩
  have positivePart : ∀ (fee : Decimal) (draft : EntryDraft), 0 ≤ fee →
      draft.amount = fee →
        (((if 0 < fee then [draft] else []).map EntryDraft.row).map
          LedgerEntry.amount).sum = fee := by
    intro fee draft nonneg same
    split
    · simp [EntryDraft.row, same]
    · rename_i notPositive
      simp [le_antisymm (not_lt.mp notPositive) nonneg]
  simp only [c2bRows, net_eq, klik_eq, agent_eq, c2bDrafts, offUs, Bool.false_eq_true,
    if_false, List.map_append, List.sum_append]
  rw [positivePart klikFee _ klik_nonneg rfl, positivePart agentFee _ agent_nonneg rfl,
    ← total]
  simp [EntryDraft.row]
  ring

/-- A draft which is created under a condition is the one entry of its type. -/
theorem oneEntryIf_row
    {due condition : Prop} [Decidable condition] {draft : EntryDraft}
    {entryType : LedgerEntryType} {described : LedgerEntry → Prop}
    (when : due ↔ condition) (type_eq : draft.entryType = entryType)
    (fits : described draft.row) :
    OneEntryIf due entryType described
      ((if condition then [draft] else []).map EntryDraft.row) where
  present isDue := by
    have holds := when.mp isDue
    exact ⟨draft.row, by simp [holds, entriesOfType, EntryDraft.row, type_eq], fits⟩
  absent notDue := by
    have fails : ¬ condition := fun holds => notDue (when.mpr holds)
    simp [fails, entriesOfType]

theorem row_of_optional
    {condition : Prop} [Decidable condition] {draft : EntryDraft} {entry : LedgerEntry}
    (member : entry ∈ (if condition then [draft] else []).map EntryDraft.row) :
    entry = draft.row := by
  split at member
  · exact List.mem_singleton.mp member
  · cases member

/-- The code creates the entries of a payment. -/
theorem paymentEntries_c2bRows
    (banks : List Bank) {tx : Transaction} (stored : StoredPayment tx) :
    PaymentEntries banks tx (c2bRows banks tx) := by
  have total := c2bRows_total banks stored
  rcases stored.amounts with ⟨merchantNet, klikFee, agentFee, net_eq, klik_eq,
    agent_eq, _⟩
  have otherType {condition : Prop} [Decidable condition] {draft : EntryDraft}
      (own : LedgerEntryType) (own_eq : draft.entryType = own) {entryType : LedgerEntryType}
      (other : own ≠ entryType) :
      ∀ entry ∈ (if condition then [draft] else []).map EntryDraft.row,
        entry.entryType ≠ entryType := by
    intro entry member same
    rw [row_of_optional member] at same
    exact other (own_eq.symm.trans same)
  refine ⟨?_, ?_, ?_, ?_, ?_, total⟩
  all_goals
    simp only [c2bRows, net_eq, klik_eq, agent_eq, c2bDrafts, ← ite_not (tx.isOnUs = true),
      List.map_append]
  · intro entry member
    simp only [List.mem_append] at member
    rcases member with (net | klik) | agent
    · rw [row_of_optional net]
      exact ⟨rfl, rfl, rfl, rfl, rfl, rfl⟩
    · rw [row_of_optional klik]
      exact ⟨rfl, rfl, rfl, rfl, rfl, rfl⟩
    · rw [row_of_optional agent]
      exact ⟨rfl, rfl, rfl, rfl, rfl, rfl⟩
  · intro entry member
    simp only [List.mem_append] at member
    rcases member with (net | klik) | agent
    · exact Or.inl (by rw [row_of_optional net]; rfl)
    · exact Or.inr (Or.inl (by rw [row_of_optional klik]; rfl))
    · exact Or.inr (Or.inr (by rw [row_of_optional agent]; rfl))
  · apply OneEntryIf.append
    · apply OneEntryIf.append
      · exact oneEntryIf_row (by simp) rfl ⟨rfl, rfl, rfl, rfl, rfl⟩
      · exact otherType .klikFeeC2b rfl (by decide)
    · exact otherType .agentFee rfl (by decide)
  · apply OneEntryIf.append
    · apply OneEntryIf.append_left
      · exact oneEntryIf_row (by simp) rfl ⟨rfl, rfl, rfl, rfl, rfl⟩
      · exact otherType .bankToBank rfl (by decide)
    · exact otherType .agentFee rfl (by decide)
  · apply OneEntryIf.append_left
    · exact oneEntryIf_row (by simp) rfl ⟨rfl, rfl, rfl, rfl, rfl⟩
    · exact List.forall_mem_append.mpr ⟨otherType .bankToBank rfl (by decide),
        otherType .klikFeeC2b rfl (by decide)⟩

/-- The code creates the entries of the lookups of a day. -/
theorem lookupFeeEntries_rows
    (banks : List Bank) (bank : Bank) (day : Date) (count : Nat) :
    LookupFeeEntries banks bank day count
      ((SourceOperation.lookupFees bank day count).rows banks) := by
  simp only [SourceOperation.rows]
  split
  · rename_i bills
    refine ⟨?_, ?_, ?_, ?_⟩
    · intro entry member
      rw [List.mem_singleton.mp member]
      exact ⟨rfl, rfl, rfl, rfl, rfl, rfl⟩
    · intro entry member
      rw [List.mem_singleton.mp member]
      rfl
    · intro _
      exact ⟨_, rfl, rfl, rfl, rfl, rfl, rfl⟩
    · intro unbilled
      exact absurd bills unbilled
  · rename_i unbilled
    exact ⟨by simp, by simp, fun bills => absurd bills unbilled, fun _ => rfl⟩

/-- The entries which booking creates are those of the operation. -/
theorem SourceOperation.Stored.owns_rows
    {banks : List Bank} {operation : SourceOperation}
    (stored : operation.Stored banks) : operation.Owns banks (operation.rows banks) := by
  cases operation with
  | payment tx => exact paymentEntries_c2bRows banks stored
  | lookupFees bank day count => exact lookupFeeEntries_rows banks bank day count

/-- An operation has no other entries than those which booking creates. -/
theorem SourceOperation.Stored.perm_rows
    {banks : List Bank} {operation : SourceOperation}
    (stored : operation.Stored banks) {entries : List LedgerEntry}
    (own : operation.Owns banks entries) : entries.Perm (operation.rows banks) := by
  cases operation with
  | payment tx => exact PaymentEntries.perm own stored.owns_rows
  | lookupFees bank day count => exact LookupFeeEntries.perm own stored.owns_rows

/-- The operations with entries are those for which booking creates some. -/
theorem SourceOperation.Stored.rows_ne_nil_iff
    {banks : List Bank} {operation : SourceOperation}
    (stored : operation.Stored banks) :
    operation.rows banks ≠ [] ↔ operation.HasEntries := by
  cases operation with
  | payment tx => exact PaymentEntries.ne_nil_iff stored.owns_rows
  | lookupFees bank day count => exact LookupFeeEntries.ne_nil_iff stored.owns_rows

/-! ## Booking is posting -/

theorem entriesOf_perm_under
    (banks : List Bank) (operation : SourceOperation) (entries : List LedgerEntry) :
    (entriesOf operation.sourceRef entries).Perm
      ((sourceJournal banks).under operation.sourceRef entries) :=
  List.reverse_perm _

theorem under_eq_nil_iff
    (banks : List Bank) (operation : SourceOperation) (entries : List LedgerEntry) :
    (sourceJournal banks).under operation.sourceRef entries = [] ↔
      entriesOf operation.sourceRef entries = [] :=
  List.reverse_eq_nil_iff.symm

/-- What the service returns for an operation. -/
def returnedBy
    (banks : List Bank) (entries : List LedgerEntry) (operation : SourceOperation) :
    List LedgerEntry :=
  if entriesOf operation.sourceRef entries = [] then operation.rows banks
  else
    match operation with
    | .payment _ => entriesOf operation.sourceRef entries
    | .lookupFees _ _ _ => []

/-- Posting in terms of the references. -/
theorem post_eq
    (banks : List Bank) (operation : SourceOperation) (entries : List LedgerEntry) :
    (sourceJournal banks).post operation entries =
      if entriesOf operation.sourceRef entries = [] then
        entries ++ operation.rows banks
      else entries :=
  if_congr (under_eq_nil_iff banks operation entries) rfl rfl

theorem book_payment
    (banks : List Bank) (entries : List LedgerEntry) {tx : Transaction}
    (stored : StoredPayment tx) :
    SourceOperation.book banks entries (.payment tx) =
      .ok (returnedBy banks entries (.payment tx),
        (sourceJournal banks).post (.payment tx) entries) := by
  rcases stored.amounts with ⟨merchantNet, klikFee, agentFee, net_eq, klik_eq,
    agent_eq, _, _, _, net_pos⟩
  have created := createEntries_of_valid
    (c2bDrafts_valid banks stored net_eq klik_eq agent_eq net_pos)
  have rows : SourceOperation.rows banks (.payment tx) =
      (c2bDrafts banks tx merchantNet klikFee agentFee).map EntryDraft.row := by
    simp only [SourceOperation.rows, c2bRows, net_eq, klik_eq, agent_eq]
  simp only [SourceOperation.book, recordC2bTransaction, stored.completed, net_eq,
    klik_eq, agent_eq, ne_eq, not_true_eq_false, if_false, created, returnedBy, rows,
    post_eq, SourceOperation.sourceRef]
  by_cases free : entriesOf tx.idempotencyKey entries = []
  · simp only [free, not_true_eq_false, if_false, if_true]
  · simp only [free, not_false_eq_true, if_true, if_false]

/-- The fee of a billable number of lookups is accepted as an entry. -/
theorem p2pDraft_valid
    {banks : List Bank} {bank : Bank} {day : Date} {count : Nat}
    (stored : StoredLookupFees banks bank day count)
    (positive : 0 < lookupTotal bank count) :
    (p2pDraft banks bank day (lookupTotal bank count)).Valid := by
  have ref := p2pSourceRef_valid bank.id stored.year_le
  exact ⟨stored.total_fits, positive, ref.1, ref.2.1, ref.2.2, stored.currency_eq,
    rfl, operatorBank_zone banks rfl, by simp [p2pDraft]⟩

/-- The loop body on a stored counter. -/
theorem decideCounter_stored
    {banks : List Bank} {bank : Bank} {day : Date} {count : Nat}
    (stored : StoredLookupFees banks bank day count) (entries : List LedgerEntry) :
    decideCounter banks entries bank.id day count =
      if billable bank count then
        if entriesOf (p2pSourceRef bank.id day) entries = [] then
          .bill (p2pDraft banks bank day (lookupTotal bank count))
        else .drop
      else if count = 0 then .skip
      else .drop := by
  by_cases none : count = 0
  · simp [decideCounter, none, billable]
  · by_cases free : bank.p2pLookupFee ≤ 0
    · have notBillable : billable bank count = false := by
        simp [billable, not_lt.mpr free]
      simp [decideCounter, none, stored.known, free, notBillable]
    · by_cases zero : lookupTotal bank count ≤ 0
      · have notBillable : billable bank count = false := by
          simp [billable, not_lt.mpr zero]
        simp [decideCounter, none, stored.known, free, zero, notBillable]
      · have bills : billable bank count = true := by
          simp [billable, none, not_le.mp free, not_le.mp zero]
        by_cases unused : entriesOf (p2pSourceRef bank.id day) entries = []
        · simp [decideCounter, none, stored.known, free, zero, bills, unused]
        · simp [decideCounter, none, stored.known, free, zero, bills, unused]

theorem book_lookupFees
    {banks : List Bank} {bank : Bank} {day : Date} {count : Nat}
    (stored : StoredLookupFees banks bank day count) (entries : List LedgerEntry) :
    SourceOperation.book banks entries (.lookupFees bank day count) =
      .ok (returnedBy banks entries (.lookupFees bank day count),
        (sourceJournal banks).post (.lookupFees bank day count) entries) := by
  have read : counterOf bank.id day count bank.id day = count := by
    simp [counterOf]
  have decision := decideCounter_stored stored entries
  have single : recordP2pLookupFees banks day [bank.id]
      (counterOf bank.id day count) entries =
        accrueCounter banks day ⟨counterOf bank.id day count, entries, []⟩
          bank.id := by
    simp [recordP2pLookupFees]
  simp only [SourceOperation.book, single, accrueCounter, read, decision, returnedBy,
    post_eq, SourceOperation.rows, SourceOperation.sourceRef]
  by_cases bills : billable bank count = true
  · have positive : 0 < lookupTotal bank count := by
      simp only [billable, Bool.and_eq_true, decide_eq_true_eq] at bills
      exact bills.2
    have created := EntryDraft.create_of_valid (p2pDraft_valid stored positive)
    by_cases unused : entriesOf (p2pSourceRef bank.id day) entries = []
    · simp [bills, unused, created]
    · simp [bills, unused]
  · have unbillable : billable bank count = false := by simpa using bills
    simp only [unbillable, Bool.false_eq_true, if_false, List.append_nil, ite_self]
    by_cases none : count = 0
    · rw [if_pos none]
    · rw [if_neg none]

/-- Booking a stored operation is posting it to the journal. -/
theorem book_stored
    {banks : List Bank} {operation : SourceOperation}
    (stored : operation.Stored banks) (entries : List LedgerEntry) :
    operation.book banks entries =
      .ok (returnedBy banks entries operation,
        (sourceJournal banks).post operation entries) := by
  cases operation with
  | payment tx => exact book_payment banks entries stored
  | lookupFees bank day count => exact book_lookupFees stored entries

/-! ## Booked on its own -/

/-- Booking an operation returned its own entries.  An accrual run returns
them only when it created them. -/
def ReturnsOwn (banks : List Bank) (booked : SourceOperation × List LedgerEntry) :
    Prop :=
  match booked.1 with
  | .payment tx => PaymentEntries banks tx booked.2
  | .lookupFees bank day count =>
      booked.2 = [] ∨ LookupFeeEntries banks bank day count booked.2

/-- Every operation of a sequence of calls is booked on its own: the ledger
has the entries of each operation once and no others, every call returned its
own, and under the key of a payment there are its own entries. -/
def BookedOnTheirOwn (banks : List Bank) (calls : List SourceOperation) : Prop :=
  ∃ (booking : Booking) (own : SourceOperation → List LedgerEntry),
    bookAll banks calls = .ok booking ∧
      (∀ operation ∈ calls, operation.Owns banks (own operation)) ∧
      booking.entries.Perm (calls.dedup.flatMap own) ∧
      (∀ booked ∈ booking.returned, ReturnsOwn banks booked) ∧
      ∀ tx, .payment tx ∈ calls →
        PaymentEntries banks tx (entriesOf tx.idempotencyKey booking.entries)

/-- An operation which looks for its reference shares it with no other
operation that has entries. -/
def ReferencesApart (operations : List SourceOperation) : Prop :=
  ∀ first ∈ operations, ∀ second ∈ operations, first ≠ second →
    first.sourceRef = second.sourceRef → first.HasEntries → second.checksRef = false

theorem bookAll_concat
    {banks : List Bank} {calls : List SourceOperation} {operation : SourceOperation}
    {booking : Booking} (before : bookAll banks calls = .ok booking)
    (stored : operation.Stored banks) :
    bookAll banks (calls ++ [operation]) =
      .ok ⟨booking.returned ++ [(operation, returnedBy banks booking.entries operation)],
        (sourceJournal banks).post operation booking.entries⟩ := by
  have step := book_stored stored booking.entries
  simp only [bookAll] at before
  simp only [bookAll, List.foldlM_append, before, List.foldlM_cons, List.foldlM_nil]
  change (match operation.book banks booking.entries with
    | .error error => .error error
    | .ok (returned, entries) =>
        .ok ⟨booking.returned ++ [(operation, returned)], entries⟩ :
      Except LedgerError Booking).bind pure = _
  rw [step]
  rfl

section Apart

variable {banks : List Bank} {operations : List SourceOperation}

theorem ReferencesApart.of_subset
    {calls : List SourceOperation} (apart : ReferencesApart operations)
    (known : ∀ operation ∈ calls, operation ∈ operations) :
    ReferencesApart calls :=
  fun first firstMember second secondMember =>
    apart first (known first firstMember) second (known second secondMember)

theorem ReferencesApart.separate
    (apart : ReferencesApart operations)
    (stored : ∀ operation ∈ operations, operation.Stored banks) :
    (sourceJournal banks).Separate operations := by
  intro first firstMember second secondMember different sameRef
  by_cases noRows : first.rows banks = []
  · exact Or.inl noRows
  · right
    exact rows_of_not_checksRef
      (apart first firstMember second secondMember different sameRef
        ((stored first firstMember).rows_ne_nil_iff.mp noRows))

theorem ReferencesApart.alone
    (apart : ReferencesApart operations)
    (stored : ∀ operation ∈ operations, operation.Stored banks)
    {operation : SourceOperation} (member : operation ∈ operations)
    (checks : operation.checksRef = true) :
    ∀ other ∈ operations, other ≠ operation →
      other.sourceRef = operation.sourceRef → other.rows banks = [] := by
  intro other otherMember different sameRef
  by_contra hasRows
  have unchecked := apart other otherMember operation member different sameRef
    ((stored other otherMember).rows_ne_nil_iff.mp hasRows)
  rw [checks] at unchecked
  cases unchecked

/-- Under the reference of an operation the journal has its own entries. -/
theorem ReferencesApart.under_perm
    (apart : ReferencesApart operations)
    (stored : ∀ operation ∈ operations, operation.Stored banks)
    {operation : SourceOperation} (member : operation ∈ operations)
    (checks : operation.checksRef = true) :
    (entriesOf operation.sourceRef ((sourceJournal banks).postAll operations)).Perm
      (operation.rows banks) :=
  (entriesOf_perm_under banks operation _).trans
    ((sourceJournal banks).under_postAll_perm (apart.separate stored) member
      (apart.alone stored member checks))

/-- The newest call returns its own entries. -/
theorem ReferencesApart.returnsOwn
    {calls : List SourceOperation} {operation : SourceOperation}
    (apart : ReferencesApart (calls ++ [operation]))
    (stored : ∀ other ∈ calls ++ [operation], other.Stored banks) :
    ReturnsOwn banks (operation,
      returnedBy banks ((sourceJournal banks).postAll calls) operation) := by
  have newest : operation ∈ calls ++ [operation] := by simp
  have rows := (stored operation newest).owns_rows
  cases operation with
  | lookupFees bank day count =>
      simp only [ReturnsOwn, returnedBy]
      split
      · exact Or.inr rows
      · exact Or.inl rfl
  | payment tx =>
      have own := apart.under_perm stored newest rfl
      rw [KeyedJournal.postAll_concat, post_eq] at own
      simp only [ReturnsOwn, returnedBy]
      split
      · exact rows
      · rename_i used
        rw [if_neg used] at own
        exact PaymentEntries.of_perm rows own.symm

/-- Stored operations with references apart are booked on their own. -/
theorem bookedOnTheirOwn_of_apart
    {calls : List SourceOperation}
    (stored : ∀ operation ∈ calls, operation.Stored banks)
    (apart : ReferencesApart calls) :
    BookedOnTheirOwn banks calls := by
  have booked : ∃ booking, bookAll banks calls = .ok booking ∧
      booking.entries = (sourceJournal banks).postAll calls ∧
        ∀ pair ∈ booking.returned, ReturnsOwn banks pair := by
    induction calls using List.reverseRecOn with
    | nil => exact ⟨⟨[], []⟩, rfl, rfl, fun _ member => nomatch member⟩
    | append_singleton calls operation induction =>
        have known : ∀ other ∈ calls, other ∈ calls ++ [operation] :=
          fun other member => List.mem_append_left _ member
        rcases induction (fun other member => stored other (known other member))
          (apart.of_subset known) with ⟨booking, before, entries_eq, own⟩
        refine ⟨_, bookAll_concat before (stored operation (by simp)), ?_, ?_⟩
        · rw [KeyedJournal.postAll_concat, entries_eq]
        · intro pair member
          rcases List.mem_append.mp member with old | new
          · exact own pair old
          · rw [List.mem_singleton.mp new, entries_eq]
            exact apart.returnsOwn stored
  rcases booked with ⟨booking, done, entries_eq, own⟩
  refine ⟨booking, SourceOperation.rows banks, done, ?_, ?_, own, ?_⟩
  · exact fun operation member => (stored operation member).owns_rows
  · rw [entries_eq]
    exact (sourceJournal banks).postAll_perm (apart.separate stored)
  · intro tx member
    have mine := apart.under_perm stored member rfl
    rw [← entries_eq] at mine
    exact PaymentEntries.of_perm (stored _ member).owns_rows mine.symm

end Apart

/-- Two calls, the second of which meets the entries of the first. -/
theorem not_bookedOnTheirOwn
    {banks : List Bank} {first second : SourceOperation}
    (firstStored : first.Stored banks) (secondStored : second.Stored banks)
    (different : first ≠ second) (sameRef : first.sourceRef = second.sourceRef)
    (hasEntries : first.HasEntries) (checks : second.checksRef = true) :
    ¬ BookedOnTheirOwn banks [first, second] := by
  have hasRows := firstStored.rows_ne_nil_iff.mpr hasEntries
  have empty : bookAll banks [] = .ok ⟨[], []⟩ := rfl
  have one := bookAll_concat empty firstStored
  have both := bookAll_concat one secondStored
  have posted : (sourceJournal banks).post first [] = first.rows banks := by
    simp [post_eq, entriesOf]
  have met : entriesOf second.sourceRef (first.rows banks) =
      (first.rows banks).reverse := by
    rw [← sameRef]
    exact entriesOf_of_all ((sourceJournal banks).rows_key first)
  have used : entriesOf second.sourceRef (first.rows banks) ≠ [] := by
    rw [met]
    simpa using hasRows
  rintro ⟨booking, entries, done, own, contents, returnedOwn, _⟩
  rw [List.nil_append, List.singleton_append, posted, post_eq, if_neg used] at both
  rw [both] at done
  cases done
  have distinct : [first, second].dedup = [first, second] := by
    apply List.dedup_eq_self.mpr
    simp [different]
  -- The ledger has the entries of the first operation only.
  rw [distinct] at contents
  have lengths := contents.length_eq
  have firstOwn := (firstStored.perm_rows (own first (by simp))).length_eq
  have secondOwn := (secondStored.perm_rows (own second (by simp))).length_eq
  simp only [List.flatMap_cons, List.flatMap_nil, List.append_nil,
    List.length_append] at lengths
  have noRows : second.rows banks = [] := List.length_eq_zero_iff.mp (by omega)
  cases second with
  | lookupFees bank day count =>
      simp only [SourceOperation.checksRef] at checks
      simp [SourceOperation.rows, checks] at noRows
  | payment tx =>
      -- The second call returned the entries of the first.
      have answer := returnedOwn _ (List.mem_append_right _ (List.mem_singleton.mpr rfl))
      have returned : returnedBy banks (first.rows banks) (.payment tx) =
          (first.rows banks).reverse := by
        rw [returnedBy, if_neg used]
        exact met
      simp only [ReturnsOwn, returned] at answer
      have same := secondStored.perm_rows answer
      rw [noRows] at same
      exact hasRows (List.reverse_eq_nil_iff.mp same.eq_nil)

/-- Stored operations are booked on their own, in whatever order and however
often, exactly when their references are apart. -/
theorem booked_on_their_own_iff
    (banks : List Bank) (operations : List SourceOperation)
    (stored : ∀ operation ∈ operations, operation.Stored banks) :
    (∀ calls : List SourceOperation,
        (∀ operation ∈ calls, operation ∈ operations) →
          BookedOnTheirOwn banks calls) ↔
      ReferencesApart operations := by
  constructor
  · intro always first firstMember second secondMember different sameRef hasEntries
    by_contra checks
    apply not_bookedOnTheirOwn (stored first firstMember) (stored second secondMember)
      different sameRef hasEntries (by simpa using checks)
    apply always
    intro operation member
    rcases List.mem_pair.mp member with rfl | rfl
    · exact firstMember
    · exact secondMember
  · intro apart calls known
    exact bookedOnTheirOwn_of_apart
      (fun operation member => stored operation (known operation member))
      (apart.of_subset known)

/-! ## Two agents -/

/-- A payment of one agent. -/
def agentPayment (agentId : Uuid) (key : PyStr) (amount : Decimal) : Transaction :=
  { polishPayment key 1 2 amount with
    id := agentId
    agent := ⟨agentId, polishBank 3, .PL⟩ }

theorem storedPayment_agentPayment
    (agentId : Uuid) (key : PyStr) (key_nonempty : key ≠ [])
    (key_length : key.length ≤ 100) (key_encodable : encodable key = true) :
    StoredPayment (agentPayment agentId key 100) where
  completed := rfl
  clean := by
    have fits : fitsDecimalField 12 2 100 = true ∧ fitsDecimalField 12 2 0 = true := by
      decide +kernel
    have code : cleanText "code_snapshot" 9 (py "123456") = .ok () := by decide
    have keyText : cleanText "idempotency_key" 100 key = .ok () :=
      cleanText_eq_ok.mpr ⟨key_nonempty, key_length⟩
    simp [Transaction.fullClean, Transaction.cleanFields, Transaction.cleanMoney,
      Transaction.clean, agentPayment, polishPayment, polishBank, fits, code, keyText,
      zoneCurrency]
  key_encodable := key_encodable
  merchant_zone := rfl
  agent_zone := rfl
  amounts := ⟨100, 0, 0, rfl, rfl, rfl, le_refl _, le_refl _, by
    simp [agentPayment, polishPayment], fun _ => by norm_num⟩

/-- Payments of two agents under two keys, one of them recorded twice. -/
theorem booked_on_their_own_twoAgents :
    BookedOnTheirOwn []
      [.payment (agentPayment 1 (py "a") 100), .payment (agentPayment 2 (py "b") 100),
        .payment (agentPayment 1 (py "a") 100)] := by
  have stored : ∀ operation ∈ [SourceOperation.payment (agentPayment 1 (py "a") 100),
      .payment (agentPayment 2 (py "b") 100)], operation.Stored [] := by
    intro operation member
    rcases List.mem_pair.mp member with rfl | rfl
    · exact storedPayment_agentPayment 1 _ (by decide) (by decide) (by decide)
    · exact storedPayment_agentPayment 2 _ (by decide) (by decide) (by decide)
  refine (booked_on_their_own_iff [] _ stored).mpr ?_ _ ?_
  · intro first firstMember second secondMember different sameRef _
    have keys : py "a" ≠ py "b" := by decide
    rcases List.mem_pair.mp firstMember with rfl | rfl
    · rcases List.mem_pair.mp secondMember with rfl | rfl
      · exact absurd rfl different
      · exact absurd sameRef keys
    · rcases List.mem_pair.mp secondMember with rfl | rfl
      · exact absurd sameRef keys.symm
      · exact absurd rfl different
  · intro operation member
    simp only [List.mem_cons, List.not_mem_nil, or_false] at member ⊢
    rcases member with same | same | same
    · exact Or.inl same
    · exact Or.inr same
    · exact Or.inl same

/-- The constraint on the table of payments. -/
def KeysUniquePerAgent (operations : List SourceOperation) : Prop :=
  ∀ first second, .payment first ∈ operations → .payment second ∈ operations →
    first.agent.id = second.agent.id → first.idempotencyKey = second.idempotencyKey →
      first = second

/-- Payments of two agents under one key: recording the second returns the
entries of the first and books nothing. -/
theorem shared_key_not_booked :
    ¬ ∀ (banks : List Bank) (operations : List SourceOperation),
        (∀ operation ∈ operations, operation.Stored banks) →
          KeysUniquePerAgent operations → BookedOnTheirOwn banks operations := by
  intro always
  have first := storedPayment_agentPayment 1 (py "a") (by decide) (by decide)
    (by decide)
  have second := storedPayment_agentPayment 2 (py "a") (by decide) (by decide)
    (by decide)
  have suppressed : ¬ BookedOnTheirOwn []
      [.payment (agentPayment 1 (py "a") 100), .payment (agentPayment 2 (py "a") 100)] :=
    not_bookedOnTheirOwn first second (by decide) rfl (Or.inl rfl) rfl
  apply suppressed
  apply always
  · intro operation member
    rcases List.mem_pair.mp member with rfl | rfl
    · exact first
    · exact second
  · intro left right leftMember rightMember sameAgent _
    rcases List.mem_pair.mp leftMember with leftEq | leftEq <;> cases leftEq <;>
      rcases List.mem_pair.mp rightMember with rightEq | rightEq <;> cases rightEq
    · rfl
    · cases sameAgent
    · cases sameAgent
    · rfl

end Klik.Ledger
