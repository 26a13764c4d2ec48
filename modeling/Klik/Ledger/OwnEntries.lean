import Klik.Ledger.Recording

/-!
# The entries of a payment and of lookup fees

What the ledger should show for a payment and for the lookups of a bank on a
day, stated of the entries alone: how many there are of each type, and the
banks, the amount and the beneficiary of each.  The descriptions leave no
choice, so that two lists which fulfil one of them have the same entries.
-/

namespace Klik.Ledger

open Klik.Banks
open Klik.Codes
open Klik.Common
open Klik.Lib

/-! ## Descriptions of entries -/

/-- What an entry moves, between which banks and for whom. -/
structure LedgerEntry.Moves
    (amount : Option Decimal) (fromBank toBank : Bank)
    (beneficiaryType : BeneficiaryType) (beneficiaryRef : Option Uuid)
    (entry : LedgerEntry) : Prop where
  amount_eq : amount = some entry.amount
  from_eq : entry.fromBankId = fromBank.id
  to_eq : entry.toBankId = toBank.id
  beneficiaryType_eq : entry.beneficiaryType = beneficiaryType
  beneficiaryRef_eq : entry.beneficiaryRef = beneficiaryRef

/-- An entry under a reference which no session has taken. -/
structure LedgerEntry.AwaitsUnder
    (sourceRef : PyStr) (currency : Currency) (zone : Zone)
    (entry : LedgerEntry) : Prop where
  sourceRef_eq : entry.sourceRef = sourceRef
  currency_eq : entry.currency = currency
  zone_eq : entry.zone = zone
  session_eq : entry.session = none
  settled_eq : entry.settled = false
  settledAt_eq : entry.settledAt = none

/-- The entries of one type. -/
def entriesOfType (entryType : LedgerEntryType) (entries : List LedgerEntry) :
    List LedgerEntry :=
  entries.filter fun entry => entry.entryType = entryType

/-- One entry of a type, as described, where it is due, and none otherwise. -/
structure OneEntryIf
    (due : Prop) (entryType : LedgerEntryType) (described : LedgerEntry → Prop)
    (entries : List LedgerEntry) : Prop where
  present : due → ∃ entry, entriesOfType entryType entries = [entry] ∧ described entry
  absent : ¬ due → entriesOfType entryType entries = []

/-- The entries are those of a payment.  An off-us payment moves the net amount
from the bank of the payer to the bank of the merchant; the fees of KLIK and
of the agent are moved from the bank of the payer where they are positive.
What an off-us payment moves adds up to its gross amount. -/
structure PaymentEntries
    (banks : List Bank) (tx : Transaction) (entries : List LedgerEntry) : Prop where
  awaits : ∀ entry ∈ entries, entry.AwaitsUnder tx.idempotencyKey tx.currency tx.zone
  types : ∀ entry ∈ entries,
    entry.entryType = .bankToBank ∨ entry.entryType = .klikFeeC2b ∨
      entry.entryType = .agentFee
  merchantNet : OneEntryIf (tx.isOnUs = false) .bankToBank
    (LedgerEntry.Moves tx.merchantNet tx.senderBank tx.merchant.settlementBank
      .bank (some tx.merchant.settlementBank.id)) entries
  klikFee : OneEntryIf (∃ fee, tx.klikFee = some fee ∧ 0 < fee) .klikFeeC2b
    (LedgerEntry.Moves tx.klikFee tx.senderBank
      ((resolveKlikOperatorBank banks tx.zone).getD tx.senderBank) .klik none) entries
  agentFee : OneEntryIf (∃ fee, tx.agentFee = some fee ∧ 0 < fee) .agentFee
    (LedgerEntry.Moves tx.agentFee tx.senderBank tx.agent.settlementBank
      .agent (some tx.agent.id)) entries
  total : tx.isOnUs = false → (entries.map LedgerEntry.amount).sum = tx.amountGross

/-- Whether there is anything to bill for the lookups. -/
def billable (bank : Bank) (count : Nat) : Bool :=
  count ≠ 0 && 0 < bank.p2pLookupFee && 0 < lookupTotal bank count

/-- The entries are those of the lookups of a bank on a day: one fee from the
bank to KLIK, if there is anything to bill. -/
structure LookupFeeEntries
    (banks : List Bank) (bank : Bank) (day : Date) (count : Nat)
    (entries : List LedgerEntry) : Prop where
  awaits : ∀ entry ∈ entries,
    entry.AwaitsUnder (p2pSourceRef bank.id day) bank.currency bank.zone
  types : ∀ entry ∈ entries, entry.entryType = .p2pLookupFee
  fee : OneEntryIf (billable bank count) .p2pLookupFee
    (LedgerEntry.Moves (some (lookupTotal bank count)) bank
      ((resolveKlikOperatorBank banks bank.zone).getD bank) .klik none) entries

theorem entriesOfType_eq_nil
    {entryType : LedgerEntryType} {entries : List LedgerEntry}
    (others : ∀ entry ∈ entries, entry.entryType ≠ entryType) :
    entriesOfType entryType entries = [] := by
  simpa [entriesOfType] using others

theorem entriesOfType_append
    (entryType : LedgerEntryType) (left right : List LedgerEntry) :
    entriesOfType entryType (left ++ right) =
      entriesOfType entryType left ++ entriesOfType entryType right :=
  List.filter_append ..

section Tables

variable {due : Prop} {entryType : LedgerEntryType} {described : LedgerEntry → Prop}
variable {entries rest : List LedgerEntry}

/-- The entries of other types do not count. -/
theorem OneEntryIf.congr
    (one : OneEntryIf due entryType described entries)
    (same : entriesOfType entryType rest = entriesOfType entryType entries) :
    OneEntryIf due entryType described rest :=
  ⟨same ▸ one.present, same ▸ one.absent⟩

theorem OneEntryIf.append
    (one : OneEntryIf due entryType described entries)
    (others : ∀ entry ∈ rest, entry.entryType ≠ entryType) :
    OneEntryIf due entryType described (entries ++ rest) := by
  apply one.congr
  rw [entriesOfType_append, entriesOfType_eq_nil others, List.append_nil]

theorem OneEntryIf.append_left
    (one : OneEntryIf due entryType described entries)
    (others : ∀ entry ∈ rest, entry.entryType ≠ entryType) :
    OneEntryIf due entryType described (rest ++ entries) := by
  apply one.congr
  rw [entriesOfType_append, entriesOfType_eq_nil others, List.nil_append]

theorem OneEntryIf.ne_nil
    (one : OneEntryIf due entryType described entries) (isDue : due) : entries ≠ [] := by
  rcases one.present isDue with ⟨entry, only, _⟩
  rintro rfl
  cases only

theorem OneEntryIf.due_of_mem
    (one : OneEntryIf due entryType described entries)
    {entry : LedgerEntry} (member : entry ∈ entries) (type : entry.entryType = entryType) :
    due := by
  by_contra notDue
  have listed : entry ∈ entriesOfType entryType entries := by
    simp [entriesOfType, member, type]
  rw [one.absent notDue] at listed
  cases listed

end Tables

/-- A payment has entries if it is off-us or has a fee. -/
theorem PaymentEntries.ne_nil_iff
    {banks : List Bank} {tx : Transaction} {entries : List LedgerEntry}
    (own : PaymentEntries banks tx entries) :
    entries ≠ [] ↔ tx.isOnUs = false ∨ (∃ fee, tx.klikFee = some fee ∧ 0 < fee) ∨
      ∃ fee, tx.agentFee = some fee ∧ 0 < fee := by
  constructor
  · intro nonempty
    rcases List.exists_mem_of_ne_nil entries nonempty with ⟨entry, member⟩
    rcases own.types entry member with net | klik | agent
    · exact Or.inl (own.merchantNet.due_of_mem member net)
    · exact Or.inr (Or.inl (own.klikFee.due_of_mem member klik))
    · exact Or.inr (Or.inr (own.agentFee.due_of_mem member agent))
  · rintro (net | klik | agent)
    · exact own.merchantNet.ne_nil net
    · exact own.klikFee.ne_nil klik
    · exact own.agentFee.ne_nil agent

/-- There are entries of lookups if there is something to bill. -/
theorem LookupFeeEntries.ne_nil_iff
    {banks : List Bank} {bank : Bank} {day : Date} {count : Nat}
    {entries : List LedgerEntry} (own : LookupFeeEntries banks bank day count entries) :
    entries ≠ [] ↔ billable bank count = true := by
  constructor
  · intro nonempty
    rcases List.exists_mem_of_ne_nil entries nonempty with ⟨entry, member⟩
    exact own.fee.due_of_mem member (own.types entry member)
  · exact own.fee.ne_nil

/-! ## The order does not matter -/

theorem entriesOfType_perm
    (entryType : LedgerEntryType) {left right : List LedgerEntry}
    (permuted : left.Perm right) :
    (entriesOfType entryType left).Perm (entriesOfType entryType right) :=
  permuted.filter _

theorem OneEntryIf.of_perm
    {due : Prop} {entryType : LedgerEntryType} {described : LedgerEntry → Prop}
    {left right : List LedgerEntry} (one : OneEntryIf due entryType described left)
    (permuted : left.Perm right) : OneEntryIf due entryType described right where
  present isDue := by
    rcases one.present isDue with ⟨entry, only, fits⟩
    have same := entriesOfType_perm entryType permuted.symm
    rw [only] at same
    exact ⟨entry, List.perm_singleton.mp same, fits⟩
  absent notDue := by
    have same := entriesOfType_perm entryType permuted.symm
    rw [one.absent notDue] at same
    exact same.eq_nil

theorem PaymentEntries.of_perm
    {banks : List Bank} {tx : Transaction} {left right : List LedgerEntry}
    (own : PaymentEntries banks tx left) (permuted : left.Perm right) :
    PaymentEntries banks tx right where
  awaits entry member := own.awaits entry (permuted.mem_iff.mpr member)
  types entry member := own.types entry (permuted.mem_iff.mpr member)
  merchantNet := own.merchantNet.of_perm permuted
  klikFee := own.klikFee.of_perm permuted
  agentFee := own.agentFee.of_perm permuted
  total offUs := by
    rw [← (permuted.map LedgerEntry.amount).sum_eq]
    exact own.total offUs

theorem LookupFeeEntries.of_perm
    {banks : List Bank} {bank : Bank} {day : Date} {count : Nat}
    {left right : List LedgerEntry}
    (own : LookupFeeEntries banks bank day count left) (permuted : left.Perm right) :
    LookupFeeEntries banks bank day count right where
  awaits entry member := own.awaits entry (permuted.mem_iff.mpr member)
  types entry member := own.types entry (permuted.mem_iff.mpr member)
  fee := own.fee.of_perm permuted

/-! ## The descriptions leave no choice -/

/-- Type, banks, amount, beneficiary and reference are the whole entry. -/
theorem LedgerEntry.Moves.unique
    {amount : Option Decimal} {fromBank toBank : Bank}
    {beneficiaryType : BeneficiaryType} {beneficiaryRef : Option Uuid}
    {sourceRef : PyStr} {currency : Currency} {zone : Zone} {left right : LedgerEntry}
    (leftMoves : left.Moves amount fromBank toBank beneficiaryType beneficiaryRef)
    (rightMoves : right.Moves amount fromBank toBank beneficiaryType beneficiaryRef)
    (leftAwaits : left.AwaitsUnder sourceRef currency zone)
    (rightAwaits : right.AwaitsUnder sourceRef currency zone)
    (sameType : left.entryType = right.entryType) : left = right := by
  have sameAmount : left.amount = right.amount :=
    Option.some.inj (leftMoves.amount_eq.symm.trans rightMoves.amount_eq)
  rcases leftMoves with ⟨_, from_eq, to_eq, type_eq, ref_eq⟩
  rcases leftAwaits with ⟨source_eq, currency_eq, zone_eq, session_eq, settled_eq, at_eq⟩
  rcases rightMoves with ⟨_, from_eq', to_eq', type_eq', ref_eq'⟩
  rcases rightAwaits with
    ⟨source_eq', currency_eq', zone_eq', session_eq', settled_eq', at_eq'⟩
  cases left
  cases right
  simp_all only

theorem OneEntryIf.unique
    {due : Prop} {entryType : LedgerEntryType} {amount : Option Decimal}
    {fromBank toBank : Bank} {beneficiaryType : BeneficiaryType}
    {beneficiaryRef : Option Uuid} {sourceRef : PyStr} {currency : Currency} {zone : Zone}
    {left right : List LedgerEntry}
    (inLeft : OneEntryIf due entryType
      (LedgerEntry.Moves amount fromBank toBank beneficiaryType beneficiaryRef) left)
    (inRight : OneEntryIf due entryType
      (LedgerEntry.Moves amount fromBank toBank beneficiaryType beneficiaryRef) right)
    (leftAwaits : ∀ entry ∈ left, entry.AwaitsUnder sourceRef currency zone)
    (rightAwaits : ∀ entry ∈ right, entry.AwaitsUnder sourceRef currency zone) :
    entriesOfType entryType left = entriesOfType entryType right := by
  by_cases isDue : due
  · rcases inLeft.present isDue with ⟨one, onlyOne, oneMoves⟩
    rcases inRight.present isDue with ⟨other, onlyOther, otherMoves⟩
    have oneListed : one ∈ entriesOfType entryType left := by simp [onlyOne]
    have otherListed : other ∈ entriesOfType entryType right := by simp [onlyOther]
    simp only [entriesOfType, List.mem_filter, decide_eq_true_eq] at oneListed otherListed
    have same : one = other :=
      oneMoves.unique otherMoves (leftAwaits one oneListed.1)
        (rightAwaits other otherListed.1) (oneListed.2.trans otherListed.2.symm)
    rw [onlyOne, onlyOther, same]
  · rw [inLeft.absent isDue, inRight.absent isDue]

/-- Lists with the same entries of each type have the same entries. -/
theorem perm_of_entriesOfType
    {left right : List LedgerEntry}
    (same : ∀ entryType, entriesOfType entryType left = entriesOfType entryType right) :
    left.Perm right := by
  rw [List.perm_iff_count]
  intro entry
  have counted (entries : List LedgerEntry) :
      (entriesOfType entry.entryType entries).count entry = entries.count entry :=
    List.count_filter (by simp)
  rw [← counted left, ← counted right, same]

/-- A payment has one list of entries, in some order. -/
theorem PaymentEntries.perm
    {banks : List Bank} {tx : Transaction} {left right : List LedgerEntry}
    (inLeft : PaymentEntries banks tx left) (inRight : PaymentEntries banks tx right) :
    left.Perm right := by
  apply perm_of_entriesOfType
  intro entryType
  have alien (others : entryType ≠ .bankToBank ∧ entryType ≠ .klikFeeC2b ∧
      entryType ≠ .agentFee) {entries : List LedgerEntry}
      (own : PaymentEntries banks tx entries) : entriesOfType entryType entries = [] := by
    apply entriesOfType_eq_nil
    intro entry member same
    rcases own.types entry member with type | type | type
    · exact others.1 (same.symm.trans type)
    · exact others.2.1 (same.symm.trans type)
    · exact others.2.2 (same.symm.trans type)
  cases entryType with
  | bankToBank =>
      exact inLeft.merchantNet.unique inRight.merchantNet inLeft.awaits inRight.awaits
  | klikFeeC2b =>
      exact inLeft.klikFee.unique inRight.klikFee inLeft.awaits inRight.awaits
  | agentFee =>
      exact inLeft.agentFee.unique inRight.agentFee inLeft.awaits inRight.awaits
  | merchantNet | p2pLookupFee =>
      rw [alien (by decide) inLeft, alien (by decide) inRight]

/-- The lookups of a day have one list of entries. -/
theorem LookupFeeEntries.perm
    {banks : List Bank} {bank : Bank} {day : Date} {count : Nat}
    {left right : List LedgerEntry}
    (inLeft : LookupFeeEntries banks bank day count left)
    (inRight : LookupFeeEntries banks bank day count right) : left.Perm right := by
  apply perm_of_entriesOfType
  intro entryType
  by_cases fee : entryType = .p2pLookupFee
  · rw [fee]
    exact inLeft.fee.unique inRight.fee inLeft.awaits inRight.awaits
  · have alien {entries : List LedgerEntry}
        (own : LookupFeeEntries banks bank day count entries) :
        entriesOfType entryType entries = [] :=
      entriesOfType_eq_nil fun entry member same =>
        fee (same.symm.trans (own.types entry member))
    rw [alien inLeft, alien inRight]

end Klik.Ledger
