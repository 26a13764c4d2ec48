import Klik.Ledger.Models
import Klik.Lib.Calendar

/-!
# Recording entries

The two producers of ledger entries.  Both run in one database transaction,
so that they either return the new table of entries or raise and leave it
unchanged; the lookup counters live in Redis and keep every `DEL` of a run
which raises.
-/

namespace Klik.Ledger

open Klik.Banks
open Klik.Codes
open Klik.Common
open Klik.Lib

/-! ## Payments -/

/-- `LedgerEntry.objects.filter(source_ref=...)`, newest entries first. -/
def entriesOf (sourceRef : PyStr) (entries : List LedgerEntry) : List LedgerEntry :=
  (entries.filter fun entry => entry.sourceRef = sourceRef).reverse

/-- The entries which a payment with the given fees is split into. -/
def c2bDrafts
    (banks : List Bank) (tx : Transaction)
    (merchantNet klikFee agentFee : Decimal) : List EntryDraft :=
  (if tx.isOnUs then []
  else
    [{ fromBank := tx.senderBank
       toBank := tx.merchant.settlementBank
       beneficiaryType := .bank
       beneficiaryRef := some tx.merchant.settlementBank.id
       amount := merchantNet
       currency := tx.currency
       zone := tx.zone
       entryType := .bankToBank
       sourceRef := tx.idempotencyKey }])
  ++ (if 0 < klikFee then
    [{ fromBank := tx.senderBank
       toBank := (resolveKlikOperatorBank banks tx.zone).getD tx.senderBank
       beneficiaryType := .klik
       beneficiaryRef := none
       amount := klikFee
       currency := tx.currency
       zone := tx.zone
       entryType := .klikFeeC2b
       sourceRef := tx.idempotencyKey }]
  else [])
  ++ (if 0 < agentFee then
    [{ fromBank := tx.senderBank
       toBank := tx.agent.settlementBank
       beneficiaryType := .agent
       beneficiaryRef := some tx.agent.id
       amount := agentFee
       currency := tx.currency
       zone := tx.zone
       entryType := .agentFee
       sourceRef := tx.idempotencyKey }]
  else [])

/-- `record_c2b_transaction`: the returned entries and the new table. -/
def recordC2bTransaction
    (banks : List Bank) (tx : Transaction) (entries : List LedgerEntry) :
    Except LedgerError (List LedgerEntry × List LedgerEntry) :=
  if tx.status ≠ .completed then
    .error (.transactionNotCompleted tx.id tx.status)
  else
    match tx.merchantNet, tx.klikFee, tx.agentFee with
    | some merchantNet, some klikFee, some agentFee =>
        let existing := entriesOf tx.idempotencyKey entries
        if existing ≠ [] then .ok (existing, entries)
        else
          match createEntries (c2bDrafts banks tx merchantNet klikFee agentFee) with
          | .error error => .error error
          | .ok created => .ok (created, entries ++ created)
    | _, _, _ => .error (.feesNotCalculated tx.id)

/-- The rows of a payment whose fees were calculated. -/
def c2bRows (banks : List Bank) (tx : Transaction) : List LedgerEntry :=
  match tx.merchantNet, tx.klikFee, tx.agentFee with
  | some merchantNet, some klikFee, some agentFee =>
      (c2bDrafts banks tx merchantNet klikFee agentFee).map EntryDraft.row
  | _, _, _ => []

@[simp]
theorem entriesOf_append (sourceRef : PyStr) (before after : List LedgerEntry) :
    entriesOf sourceRef (before ++ after) =
      entriesOf sourceRef after ++ entriesOf sourceRef before := by
  simp [entriesOf]

theorem entriesOf_eq_nil
    {sourceRef : PyStr} {entries : List LedgerEntry}
    (others : ∀ entry ∈ entries, entry.sourceRef ≠ sourceRef) :
    entriesOf sourceRef entries = [] := by
  simpa [entriesOf] using others

theorem entriesOf_of_all
    {sourceRef : PyStr} {entries : List LedgerEntry}
    (all : ∀ entry ∈ entries, entry.sourceRef = sourceRef) :
    entriesOf sourceRef entries = entries.reverse := by
  rw [entriesOf, List.filter_eq_self.mpr (by simpa using all)]

/-- The entries of a payment carry its idempotency key. -/
theorem c2bRows_sourceRef (banks : List Bank) (tx : Transaction) :
    ∀ entry ∈ c2bRows banks tx, entry.sourceRef = tx.idempotencyKey := by
  have optional : ∀ (condition : Prop) [Decidable condition] (draft : EntryDraft),
      draft.sourceRef = tx.idempotencyKey →
        ∀ entry ∈ (if condition then [draft] else []).map EntryDraft.row,
          entry.sourceRef = tx.idempotencyKey := by
    intro condition _ draft sameRef entry member
    split at member
    · rw [List.mem_singleton.mp member]
      exact sameRef
    · cases member
  intro entry member
  simp only [c2bRows] at member
  split at member
  · simp only [c2bDrafts, List.map_append, List.mem_append] at member
    rcases member with (net | klik) | agent
    · rw [← ite_not] at net
      exact optional _ _ rfl entry net
    · exact optional _ _ rfl entry klik
    · exact optional _ _ rfl entry agent
  · cases member

/-- Recording a payment for the first time appends its rows. -/
theorem recordC2bTransaction_first
    {banks : List Bank} {tx : Transaction}
    {entries returned after : List LedgerEntry}
    (unrecorded : entriesOf tx.idempotencyKey entries = [])
    (recorded : recordC2bTransaction banks tx entries = .ok (returned, after)) :
    returned = c2bRows banks tx ∧ after = entries ++ c2bRows banks tx := by
  simp only [recordC2bTransaction] at recorded
  simp only [c2bRows]
  split at recorded
  · cases recorded
  · split at recorded
    · simp only [unrecorded, ne_eq, not_true_eq_false, if_false] at recorded
      split at recorded
      · cases recorded
      · rename_i creation
        cases recorded
        rw [(createEntries_ok creation).1]
        exact ⟨rfl, rfl⟩
    · cases recorded

/-! ## Daily lookup fees -/

/-- The daily counters in Redis; a key which does not exist counts as zero. -/
abbrev LookupCounters := Uuid → Date → Nat

/-- `DEL` of a daily counter. -/
def LookupCounters.delete
    (counters : LookupCounters) (bankId : Uuid) (day : Date) : LookupCounters :=
  fun otherBank otherDay =>
    if otherBank = bankId ∧ otherDay = day then 0
    else counters otherBank otherDay

/-- `INCR` of a daily counter. -/
def LookupCounters.increment
    (counters : LookupCounters) (bankId : Uuid) (day : Date) : LookupCounters :=
  fun otherBank otherDay =>
    if otherBank = bankId ∧ otherDay = day then counters bankId day + 1
    else counters otherBank otherDay

/-- Rounding of `quantize(Decimal('0.01'))`: ties go to the even cent. -/
def quantizeCents (value : Decimal) : Decimal :=
  let lower := ⌊value * 100⌋
  let rest := value * 100 - lower
  let cents :=
    if rest < 1 / 2 then lower
    else if 1 / 2 < rest then lower + 1
    else if lower % 2 = 0 then lower
    else lower + 1
  cents / 100

/-- The fee for a number of lookups. -/
def lookupTotal (bank : Bank) (count : Nat) : Decimal :=
  quantizeCents (count * bank.p2pLookupFee)

/-- `source_ref` of the lookup fees of a bank and a day. -/
def p2pSourceRef (bankId : Uuid) (day : Date) : PyStr :=
  py "p2p:" ++ uuidText bankId ++ py ":" ++ day.compact

/-- The reference is a text which its column takes. -/
theorem p2pSourceRef_valid
    (bankId : Uuid) {day : Date} (year_le : day.year ≤ 9999) :
    p2pSourceRef bankId day ≠ [] ∧ (p2pSourceRef bankId day).length ≤ 100 ∧
      encodable (p2pSourceRef bankId day) = true := by
  have start : (py "p2p:").length = 4 ∧ encodable (py "p2p:") = true := by decide
  have colon : (py ":").length = 1 ∧ encodable (py ":") = true := by decide
  have size : (p2pSourceRef bankId day).length = 49 := by
    simp only [p2pSourceRef, List.length_append, start.1, colon.1,
      length_uuidText, length_compact year_le]
  refine ⟨?_, ?_, ?_⟩
  · intro empty
    rw [empty] at size
    cases size
  · omega
  · simp only [p2pSourceRef, encodable_append, start.2, colon.2,
      encodable_uuidText, encodable_compact, Bool.and_self]

/-- Different days of a bank have different references. -/
theorem p2pSourceRef_injective (bankId : Uuid) :
    Function.Injective (p2pSourceRef bankId) := by
  intro left right same
  exact compact_injective (List.append_cancel_left same)

theorem quantizeCents_of_cents (cents : Int) :
    quantizeCents (cents / 100) = cents / 100 := by
  have whole : (cents : Rat) / 100 * 100 = cents := by ring
  simp only [quantizeCents, whole, Int.floor_intCast, sub_self]
  norm_num

/-- A fee in whole cents is not rounded. -/
theorem lookupTotal_of_cents
    {bank : Bank} {cents : Int} (fee_eq : bank.p2pLookupFee = cents / 100)
    (count : Nat) :
    lookupTotal bank count = count * bank.p2pLookupFee := by
  have product : (count : Rat) * (cents / 100) = ((count * cents : Int) : Rat) / 100 := by
    push_cast
    ring
  rw [lookupTotal, fee_eq, product, quantizeCents_of_cents]

/-- What the loop does with the counter of one bank. -/
inductive CounterDecision where
  /-- `continue`; the key stays. -/
  | skip
  /-- `redis.delete(key); continue`. -/
  | drop
  /-- Create the entry, then delete the key. -/
  | bill (draft : EntryDraft)
deriving DecidableEq, Repr

/-- The entry for `count` lookups of a bank. -/
def p2pDraft
    (banks : List Bank) (bank : Bank) (day : Date) (totalFee : Decimal) :
    EntryDraft where
  fromBank := bank
  toBank := (resolveKlikOperatorBank banks bank.zone).getD bank
  beneficiaryType := .klik
  beneficiaryRef := none
  amount := totalFee
  currency := bank.currency
  zone := bank.zone
  entryType := .p2pLookupFee
  sourceRef := p2pSourceRef bank.id day

/-- The checks of the loop body on a counter which was read as `count`. -/
def decideCounter
    (banks : List Bank) (entries : List LedgerEntry)
    (bankId : Uuid) (day : Date) (count : Nat) : CounterDecision :=
  if count = 0 then .skip
  else
    match getBank banks bankId with
    | none => .skip
    | some bank =>
        if bank.p2pLookupFee ≤ 0 then .drop
        else
          let totalFee := lookupTotal bank count
          if totalFee ≤ 0 then .drop
          else if entriesOf (p2pSourceRef bank.id day) entries ≠ [] then .drop
          else .bill (p2pDraft banks bank day totalFee)

/-- State of a run of `record_p2p_lookup_fees` between two keys. -/
structure AccrualState where
  counters : LookupCounters
  entries : List LedgerEntry
  created : List LedgerEntry

/-- Body of the loop for one scanned key. -/
def accrueCounter
    (banks : List Bank) (day : Date) (state : AccrualState) (bankId : Uuid) :
    Except (LookupCounters × LedgerError) AccrualState :=
  match decideCounter banks state.entries bankId day (state.counters bankId day) with
  | .skip => .ok state
  | .drop => .ok { state with counters := state.counters.delete bankId day }
  | .bill draft =>
      match draft.create with
      | .error error => .error (state.counters, error)
      | .ok entry =>
          .ok
            { counters := state.counters.delete bankId day
              entries := state.entries ++ [entry]
              created := state.created ++ [entry] }

/-- `record_p2p_lookup_fees` over the banks whose keys `SCAN` returned.  An
error carries the counters, which are not rolled back. -/
def recordP2pLookupFees
    (banks : List Bank) (day : Date) (scanned : List Uuid)
    (counters : LookupCounters) (entries : List LedgerEntry) :
    Except (LookupCounters × LedgerError) AccrualState :=
  scanned.foldlM (accrueCounter banks day) ⟨counters, entries, []⟩

/-! ## What recording adds to the table -/

/-- A row which no settlement session has taken yet. -/
def LedgerEntry.Fresh (entry : LedgerEntry) : Prop :=
  entry.session = none ∧ entry.settled = false ∧ 0 < entry.amount

theorem createEntries_fresh
    {drafts : List EntryDraft} {created : List LedgerEntry}
    (creation : createEntries drafts = .ok created) :
    ∀ entry ∈ created, entry.Fresh := by
  intro entry membership
  have shape := createEntries_ok creation
  refine ⟨?_, ?_, shape.2 entry membership⟩
  all_goals
    rw [shape.1] at membership
    rcases List.mem_map.mp membership with ⟨draft, _, rfl⟩
    rfl

/-- Recording a payment appends fresh entries. -/
theorem recordC2bTransaction_appends
    {banks : List Bank} {tx : Transaction}
    {entries returned after : List LedgerEntry}
    (recorded : recordC2bTransaction banks tx entries = .ok (returned, after)) :
    ∃ created, after = entries ++ created ∧ ∀ entry ∈ created, entry.Fresh := by
  unfold recordC2bTransaction at recorded
  split at recorded
  · cases recorded
  · split at recorded
    · simp only at recorded
      split at recorded
      · cases recorded
        exact ⟨[], by simp, by simp⟩
      · split at recorded
        · cases recorded
        · rename_i creation
          cases recorded
          exact ⟨_, rfl, createEntries_fresh creation⟩
    · cases recorded

theorem EntryDraft.create_fresh
    {draft : EntryDraft} {entry : LedgerEntry}
    (created : draft.create = .ok entry) :
    entry.Fresh := by
  have shape := EntryDraft.create_ok created
  rw [shape.1]
  exact ⟨rfl, rfl, shape.2⟩

theorem accrueCounter_appends
    {banks : List Bank} {day : Date} {state after : AccrualState} {bankId : Uuid}
    (accrued : accrueCounter banks day state bankId = .ok after) :
    ∃ added, after.entries = state.entries ++ added ∧
      ∀ entry ∈ added, entry.Fresh := by
  simp only [accrueCounter] at accrued
  split at accrued
  · cases accrued
    exact ⟨[], by simp, by simp⟩
  · cases accrued
    exact ⟨[], by simp, by simp⟩
  · split at accrued
    · cases accrued
    · rename_i entry created
      cases accrued
      refine ⟨[entry], rfl, ?_⟩
      intro member membership
      rw [List.mem_singleton.mp membership]
      exact EntryDraft.create_fresh created

/-- What every turn of the loop does to the entries, the run does. -/
theorem recordP2pLookupFees_of_turns
    {banks : List Bank} {day : Date} (Adds : List LedgerEntry → List LedgerEntry → Prop)
    (stays : ∀ entries, Adds entries entries)
    (compose : ∀ first second third, Adds first second → Adds second third →
      Adds first third)
    (turn : ∀ state after bankId, accrueCounter banks day state bankId = .ok after →
      Adds state.entries after.entries)
    {scanned : List Uuid} {counters : LookupCounters}
    {entries : List LedgerEntry} {after : AccrualState}
    (accrued : recordP2pLookupFees banks day scanned counters entries = .ok after) :
    Adds entries after.entries := by
  have general : ∀ (left : List Uuid) (state : AccrualState),
      left.foldlM (accrueCounter banks day) state = .ok after →
        Adds state.entries after.entries := by
    intro left
    induction left with
    | nil =>
        intro state finished
        cases finished
        exact stays _
    | cons bankId rest induction =>
        intro state running
        rw [List.foldlM_cons] at running
        cases first : accrueCounter banks day state bankId with
        | error error =>
            rw [first] at running
            cases running
        | ok next =>
            rw [first] at running
            exact compose _ _ _ (turn state next bankId first) (induction next running)
  exact general scanned _ accrued

/-- An accrual run appends fresh entries. -/
theorem recordP2pLookupFees_appends
    {banks : List Bank} {day : Date} {scanned : List Uuid}
    {counters : LookupCounters} {entries : List LedgerEntry} {after : AccrualState}
    (accrued : recordP2pLookupFees banks day scanned counters entries = .ok after) :
    ∃ added, after.entries = entries ++ added ∧ ∀ entry ∈ added, entry.Fresh := by
  apply recordP2pLookupFees_of_turns
    (fun before after => ∃ added, after = before ++ added ∧ ∀ entry ∈ added, entry.Fresh)
    _ _ (fun _ _ _ => accrueCounter_appends) accrued
  · exact fun entries => ⟨[], by simp, by simp⟩
  · rintro first _ _ ⟨here, rfl, hereFresh⟩ ⟨later, rfl, laterFresh⟩
    refine ⟨here ++ later, List.append_assoc .., ?_⟩
    intro entry membership
    rcases List.mem_append.mp membership with inHere | inLater
    · exact hereFresh entry inHere
    · exact laterFresh entry inLater

end Klik.Ledger
