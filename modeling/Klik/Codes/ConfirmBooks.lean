import Klik.Agents.FeeSplit
import Klik.Codes.PaymentConfirm

/-!
# Booking an accepted payment

Whether an acceptance goes through is decided by the entries of the ledger:
those for the fees are only created for positive amounts, the one for the
merchant's amount always is.  A payment between two banks whose rounded fees
take the whole gross amount therefore raises.
-/

namespace Klik.Codes

open Klik.Agents
open Klik.Banks
open Klik.Common
open Klik.Ledger
open Klik.Lib

/-- The rounded fees take less than the gross amount: it has no division into
two amounts of cents of which each is at most half a cent above its fee. -/
def LeavesCent (gross : Decimal) (msc : MSCAgreement) : Prop :=
  ∀ part, InCents part →
    gross * msc.klikFeePerc / 100 + 1 / 200 < part ∨
      gross * msc.agentFeePerc / 100 + 1 / 200 < gross - part

/-- The merchant's amount is positive exactly if the fees leave a cent. -/
theorem leavesCent_iff
    {gross : Decimal} {msc : MSCAgreement} (rates : msc.Rates)
    (positive : 0 < gross) (grossCents : InCents gross) :
    LeavesCent gross msc ↔
      0 < gross - roundMoney (gross * msc.klikFeePerc / 100) -
        roundMoney (gross * msc.agentFeePerc / 100) := by
  have klik := roundMoney_nearest (fee_nonneg positive rates.klik_nonneg)
  have agent := roundMoney_nearest (fee_nonneg positive rates.agent_nonneg)
  constructor
  · intro leaves
    rcases leaves _ klik.cents with above | above
    · exact absurd klik.upper (not_le.mpr above)
    · have agentUpper := agent.upper
      linarith
  · intro net part partCents
    by_contra divided
    rw [not_or, not_lt, not_lt] at divided
    -- Each part is at most the rounded fee, so the fees take everything.
    have klikPart : part ≤ roundMoney (gross * msc.klikFeePerc / 100) := by
      have klikLower := klik.lower
      exact le_of_lt_cent partCents klik.cents (by linarith)
    have agentPart : gross - part ≤ roundMoney (gross * msc.agentFeePerc / 100) := by
      have agentLower := agent.lower
      exact le_of_lt_cent (grossCents.sub partCents) agent.cents (by linarith)
    linarith

/-! ## The checks on the completed row and on its entries -/

/-- A payment whose row passes its checks passes them with its fees. -/
theorem Transaction.fullClean_completedWith
    {tx : Transaction} {split : Split} {now : Instant}
    (checked : tx.fullClean = .ok ())
    (klikFits : fitsDecimalField 12 2 split.klikFee = true)
    (agentFits : fitsDecimalField 12 2 split.agentFee = true)
    (netFits : fitsDecimalField 12 2 split.merchantNet = true) :
    (tx.completedWith split now).fullClean = .ok () := by
  have grossPositive : ¬ tx.amountGross ≤ 0 := fullClean_positive checked
  rcases fullClean_ok checked with ⟨fields, cross⟩
  have money : (tx.completedWith split now).cleanMoney = .ok () := by
    have gross := (cleanFields_ok fields).1
    simp only [cleanMoney, check_eq_ok] at gross
    simp only [cleanMoney, completedWith, check_eq_ok, Option.any_some, klikFits,
      agentFits, netFits]
    simpa using gross.1
  have columns : (tx.completedWith split now).cleanFields = .ok () := by
    rcases cleanFields_eq_ok.mp fields with ⟨code, userId, _, key⟩
    exact cleanFields_eq_ok.mpr ⟨code, userId, money, key⟩
  have parties : (tx.completedWith split now).clean = .ok () := by
    simp only [clean, check_eq_ok] at cross ⊢
    rcases cross with ⟨currency, sender, agent, merchant, _⟩
    refine ⟨currency, sender, agent, merchant, ?_, ?_, trivial⟩
    · simp [completedWith]
    · simp [completedWith]
  simp only [fullClean, columns, parties]
  exact if_neg grossPositive

/-- The banks of the agent and of the merchant are in their zones, as
`Agent.clean` and `Merchant.clean` require. -/
structure Transaction.BankZones (tx : Transaction) : Prop where
  agentBank : tx.agent.settlementBank.zone = tx.agent.zone
  merchantBank : tx.merchant.settlementBank.zone = tx.merchant.zone

/-- The operator's bank is looked up in the zone. -/
theorem resolveKlikOperatorBank_zone
    {banks : List Bank} {zone : Zone} {bank : Bank}
    (resolved : resolveKlikOperatorBank banks zone = some bank) :
    bank.zone = zone := by
  simp only [resolveKlikOperatorBank] at resolved
  split at resolved
  · cases resolved
  · have found := List.find?_some resolved
    simp only [Bool.and_eq_true, decide_eq_true_eq] at found
    exact found.2

/-- The entries of a payment are all acceptable exactly if the one for the
merchant's amount, where there is one, has a positive amount. -/
theorem c2bDrafts_valid_iff
    {banks : List Bank} {tx : Transaction} {merchantNet klikFee agentFee : Decimal}
    (clean : tx.Clean) (zones : tx.BankZones)
    (encoded : encodable tx.idempotencyKey = true)
    (klikFits : fitsDecimalField 12 2 klikFee = true)
    (agentFits : fitsDecimalField 12 2 agentFee = true)
    (netFits : fitsDecimalField 12 2 merchantNet = true) :
    (∀ draft ∈ c2bDrafts banks tx merchantNet klikFee agentFee, draft.Valid) ↔
      tx.isOnUs = true ∨ 0 < merchantNet := by
  have klikValid : 0 < klikFee → EntryDraft.Valid
      { fromBank := tx.senderBank
        toBank := (resolveKlikOperatorBank banks tx.zone).getD tx.senderBank
        beneficiaryType := .klik
        beneficiaryRef := none
        amount := klikFee
        currency := tx.currency
        zone := tx.zone
        entryType := .klikFeeC2b
        sourceRef := tx.idempotencyKey } := by
    intro positive
    have toZone : ((resolveKlikOperatorBank banks tx.zone).getD tx.senderBank).zone =
        tx.zone := by
      cases resolved : resolveKlikOperatorBank banks tx.zone with
      | none => exact clean.sender_zone
      | some bank => exact resolveKlikOperatorBank_zone resolved
    exact ⟨klikFits, positive, clean.key_nonempty, clean.key_length, encoded,
      clean.currency_eq, clean.sender_zone, toZone, by simp⟩
  have agentValid : 0 < agentFee → EntryDraft.Valid
      { fromBank := tx.senderBank
        toBank := tx.agent.settlementBank
        beneficiaryType := .agent
        beneficiaryRef := some tx.agent.id
        amount := agentFee
        currency := tx.currency
        zone := tx.zone
        entryType := .agentFee
        sourceRef := tx.idempotencyKey } := by
    intro positive
    exact ⟨agentFits, positive, clean.key_nonempty, clean.key_length, encoded,
      clean.currency_eq, clean.sender_zone, zones.agentBank.trans clean.agent_zone, by simp⟩
  have netValid : 0 < merchantNet → EntryDraft.Valid
      { fromBank := tx.senderBank
        toBank := tx.merchant.settlementBank
        beneficiaryType := .bank
        beneficiaryRef := some tx.merchant.settlementBank.id
        amount := merchantNet
        currency := tx.currency
        zone := tx.zone
        entryType := .bankToBank
        sourceRef := tx.idempotencyKey } := by
    intro positive
    exact ⟨netFits, positive, clean.key_nonempty, clean.key_length, encoded,
      clean.currency_eq, clean.sender_zone, zones.merchantBank.trans clean.merchant_zone,
      by simp⟩
  simp only [c2bDrafts, List.forall_mem_append]
  constructor
  · rintro ⟨⟨net, _⟩, _⟩
    by_cases onUs : tx.isOnUs = true
    · exact Or.inl onUs
    · rw [if_neg onUs] at net
      exact Or.inr (net _ (List.mem_singleton_self _)).amount_pos
  · intro bookable
    refine ⟨⟨?_, ?_⟩, ?_⟩
    · split
      · simp
      · rename_i offUs
        rw [List.forall_mem_singleton]
        exact netValid (bookable.resolve_left offUs)
    · split
      · rename_i positive
        rw [List.forall_mem_singleton]
        exact klikValid positive
      · simp
    · split
      · rename_i positive
        rw [List.forall_mem_singleton]
        exact agentValid positive
      · simp

/-! ## The whole block -/

/-- An acceptance by the sender's bank of a pending payment whose agent has an
agreement in force, with no statement refused by the server. -/
structure Bookable (request : ConfirmRequest) (db : PaymentDb) (msc : MSCAgreement) :
    Prop where
  transactionId : request.transactionId = db.row.id
  sender : request.bankId = db.row.senderBank.id
  accepted : request.decision = .accepted
  carriedOut : request.refused = none
  pending : db.row.status = .pending
  clean : db.row.fullClean = .ok ()
  encoded : encodable db.row.idempotencyKey = true
  zones : db.row.BankZones
  active : getActiveMsc request.agreements db.row.agent request.splitAt = .ok msc
  rates : msc.Rates

/-- The payment is completed, and what was added to the ledger satisfies its
constraints. -/
def Booked (before after : PaymentDb) : Prop :=
  after.row.status = .completed ∧
    ∃ drafts : List EntryDraft, (∀ draft ∈ drafts, draft.Valid) ∧
      after.entries = before.entries ++ drafts.map EntryDraft.row

namespace Bookable

variable {request : ConfirmRequest} {db : PaymentDb} {msc : MSCAgreement}

theorem positive (bookable : Bookable request db msc) : 0 < db.row.amountGross :=
  not_le.mp (Transaction.fullClean_positive bookable.clean)

theorem gross_fits (bookable : Bookable request db msc) :
    fitsDecimalField 12 2 db.row.amountGross = true := by
  rcases Transaction.fullClean_ok bookable.clean with ⟨fields, _⟩
  have money := (Transaction.cleanFields_ok fields).1
  simp only [Transaction.cleanMoney, check_eq_ok, Bool.not_eq_false] at money
  exact money.1

/-- The split exists and every part of it fits its column. -/
theorem split (bookable : Bookable request db msc) :
    ∃ split, calculateSplit request.agreements db.row.agent db.row.amountGross
        request.splitAt = .ok split ∧
      ExactSplit msc db.row.amountGross split ∧
      fitsDecimalField 12 2 split.klikFee = true ∧
      fitsDecimalField 12 2 split.agentFee = true ∧
      fitsDecimalField 12 2 split.merchantNet = true ∧
      (LeavesCent db.row.amountGross msc ↔ 0 < split.merchantNet) := by
  have grossCents := inCents_of_fits bookable.gross_fits
  have grossLt : db.row.amountGross < 10 ^ 10 := by
    have fits := bookable.gross_fits
    simp only [fitsDecimalField, Bool.and_eq_true, decide_eq_true_eq] at fits
    exact fits.2
  rcases calculateSplit_exact bookable.active bookable.rates bookable.positive grossCents
    with ⟨split, computed, exact⟩
  have total := exact.total
  have klikNonneg := exact.klik_nonneg
  have agentNonneg := exact.agent_nonneg
  have netNonneg := exact.net_nonneg
  refine ⟨split, computed, exact, ?_, ?_, ?_, ?_⟩
  · exact fits_of_inCents exact.klikNearest.cents klikNonneg (by linarith)
  · exact fits_of_inCents exact.agentNearest.cents agentNonneg (by linarith)
  · exact fits_of_inCents exact.netCents netNonneg (by linarith)
  · rw [leavesCent_iff bookable.rates bookable.positive grossCents]
    rw [calculateSplit_of_active bookable.active] at computed
    cases computed
    rfl

/-- The block succeeds exactly if the entries can be recorded. -/
theorem confirm_eq
    (bookable : Bookable request db msc) {split : Split}
    (computed : calculateSplit request.agreements db.row.agent db.row.amountGross
      request.splitAt = .ok split)
    (checked : (db.row.completedWith split request.now).fullClean = .ok ()) :
    confirm request db =
      match recordC2bTransaction request.banks
          (db.row.completedWith split request.now) db.entries with
      | .error error => .error (.ledger error)
      | .ok (_, entries) =>
          .ok (buildConfirmResponse (db.row.completedWith split request.now),
            ⟨db.row.completedWith split request.now, entries⟩) := by
  have processed : processDecision request db =
      match recordC2bTransaction request.banks
          (db.row.completedWith split request.now) db.entries with
      | .error error => .error (.ledger error)
      | .ok (_, entries) => .ok ⟨db.row.completedWith split request.now, entries⟩ := by
    simp only [processDecision, bookable.accepted, processAccepted, computed,
      saveTransaction, checked, bookable.carriedOut, reduceCtorEq, if_false]
    cases recordC2bTransaction request.banks
      (db.row.completedWith split request.now) db.entries with
    | error error => rfl
    | ok recorded => rfl
  simp only [confirm, bookable.transactionId, bookable.sender, ne_eq, not_true_eq_false,
    if_false, bookable.pending, processed]
  cases recordC2bTransaction request.banks
    (db.row.completedWith split request.now) db.entries with
  | error error => rfl
  | ok recorded => rfl

end Bookable

/-- A completed payment with its fees is recorded as far as there is no entry
with its key. -/
theorem recordC2bTransaction_completedWith
    {banks : List Bank} {tx : Transaction} {split : Split} {now : Instant}
    {entries : List LedgerEntry} :
    recordC2bTransaction banks (tx.completedWith split now) entries =
      if entriesOf tx.idempotencyKey entries ≠ [] then
        .ok (entriesOf tx.idempotencyKey entries, entries)
      else
        match createEntries (c2bDrafts banks (tx.completedWith split now)
            split.merchantNet split.klikFee split.agentFee) with
        | .error error => .error error
        | .ok created => .ok (created, entries ++ created) := by
  simp only [recordC2bTransaction, Transaction.completedWith, ne_eq, not_true_eq_false,
    if_false]
  rfl

/-- An acceptance is booked exactly if the payment is on-us, the ledger has
entries with its key already, or the fees leave a cent of the gross amount. -/
theorem confirm_booked_iff
    {request : ConfirmRequest} {db : PaymentDb} {msc : MSCAgreement}
    (bookable : Bookable request db msc) :
    (∃ response after, confirm request db = .ok (response, after) ∧ Booked db after) ↔
      db.row.isOnUs = true ∨ entriesOf db.row.idempotencyKey db.entries ≠ [] ∨
        LeavesCent db.row.amountGross msc := by
  rcases bookable.split with ⟨split, computed, _, klikFits, agentFits, netFits, leaves⟩
  have checked : (db.row.completedWith split request.now).fullClean = .ok () :=
    Transaction.fullClean_completedWith bookable.clean klikFits agentFits netFits
  have zones : (db.row.completedWith split request.now).BankZones :=
    ⟨bookable.zones.agentBank, bookable.zones.merchantBank⟩
  have valid : (∀ draft ∈ c2bDrafts request.banks
      (db.row.completedWith split request.now) split.merchantNet split.klikFee
      split.agentFee, draft.Valid) ↔ db.row.isOnUs = true ∨ 0 < split.merchantNet :=
    c2bDrafts_valid_iff (Transaction.clean_of_fullClean checked) zones bookable.encoded
      klikFits agentFits netFits
  rw [bookable.confirm_eq computed checked, recordC2bTransaction_completedWith, leaves]
  by_cases recorded : entriesOf db.row.idempotencyKey db.entries ≠ []
  · rw [if_pos recorded]
    constructor
    · intro _
      exact Or.inr (Or.inl recorded)
    · intro _
      exact ⟨_, _, rfl, rfl, [], by simp, by simp⟩
  · rw [if_neg recorded]
    constructor
    · rintro ⟨response, after, confirmed, _⟩
      split at confirmed
      · cases confirmed
      · rename_i succeeded
        split at succeeded
        · cases succeeded
        · rename_i creation
          rcases valid.mp (valid_of_createEntries creation) with onUs | positive
          · exact Or.inl onUs
          · exact Or.inr (Or.inr positive)
    · intro condition
      have drafts := valid.mpr (condition.imp id fun rest => rest.resolve_left recorded)
      rw [createEntries_of_valid drafts]
      exact ⟨_, _, rfl, rfl, _, drafts, rfl⟩

/-- The pending payment between banks 1 and 2 with a given amount, accepted
under an agreement with a given share of KLIK. -/
theorem bookable_pendingPayment
    {gross percent : Decimal} (positive : 0 < gross)
    (fits : fitsDecimalField 12 2 gross = true)
    (percentFits : fitsDecimalField 5 2 percent = true)
    (nonneg : 0 ≤ percent) (less : percent < 100) :
    Bookable { confirmRequest .accepted 0 with agreements := [⟨1, 5, percent, 0, 0, none⟩] }
      ⟨{ pendingPayment with amountGross := gross }, []⟩ ⟨1, 5, percent, 0, 0, none⟩ := by
  constructor
  · rfl
  · rfl
  · rfl
  · rfl
  · rfl
  · have fields : Transaction.cleanFields { pendingPayment with amountGross := gross } =
        .ok () := by
      apply Transaction.cleanFields_eq_ok.mpr
      refine ⟨?_, ?_, ?_, ?_⟩
      · show cleanText "code_snapshot" 9 (py "123456") = .ok ()
        decide
      · exact Nat.zero_le _
      · simp [Transaction.cleanMoney, pendingPayment, fits]
      · show cleanText "idempotency_key" 100 (py "order-1") = .ok ()
        decide
    have parties : Transaction.clean { pendingPayment with amountGross := gross } =
        .ok () := by
      simp [Transaction.clean, pendingPayment, polishBank, zoneCurrency]
    simp only [Transaction.fullClean, fields, parties]
    exact if_neg (not_le.mpr positive)
  · show encodable (py "order-1") = true
    decide
  · exact ⟨rfl, rfl⟩
  · simp [getActiveMsc, selectedAt, confirmRequest, pendingPayment]
  · have free : fitsDecimalField 5 2 0 = true := by decide +kernel
    refine ⟨percentFits, free, nonneg, le_rfl, ?_⟩
    show percent + 0 < 100
    linarith

/-- A hundred between two banks is booked. -/
theorem confirm_booked_hundred :
    ∃ response after,
      confirm { confirmRequest .accepted 0 with agreements := [⟨1, 5, 1, 0, 0, none⟩] }
        ⟨{ pendingPayment with amountGross := 100 }, []⟩ = .ok (response, after) ∧
      Booked ⟨{ pendingPayment with amountGross := 100 }, []⟩ after := by
  apply (confirm_booked_iff (bookable_pendingPayment (by norm_num) (by decide +kernel)
    (by decide +kernel) (by norm_num) (by norm_num))).mpr
  refine Or.inr (Or.inr ?_)
  intro part _
  by_contra divided
  rw [not_or, not_lt, not_lt] at divided
  norm_num at divided
  linarith

/-- Half of a cent is rounded up to the cent itself: the entry for the
merchant's amount has amount zero and is refused, though the payment was
authorised. -/
theorem confirm_cent_not_booked :
    Bookable { confirmRequest .accepted 0 with agreements := [⟨1, 5, 50, 0, 0, none⟩] }
      ⟨{ pendingPayment with amountGross := 1 / 100 }, []⟩ ⟨1, 5, 50, 0, 0, none⟩ ∧
    confirm { confirmRequest .accepted 0 with agreements := [⟨1, 5, 50, 0, 0, none⟩] }
        ⟨{ pendingPayment with amountGross := 1 / 100 }, []⟩ =
      .error (.ledger (.validation ⟨"__all__", "ledger_amount_positive"⟩)) := by
  constructor
  · exact bookable_pendingPayment (by norm_num) (by decide +kernel)
      (by decide +kernel) (by norm_num) (by norm_num)
  · decide +kernel

end Klik.Codes
