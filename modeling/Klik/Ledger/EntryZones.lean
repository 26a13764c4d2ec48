import Klik.Ledger.Recording

/-!
# Zones of payments and entries

The zone of a bank does not change, so that it is a function of its key; every
row of the bank which is ever read has this zone.  An agent and a merchant are
in the zone of the bank which keeps their account.
-/

namespace Klik.Banks

open Klik.Common

variable (zoneOf : Uuid → Zone)

/-- A row of a bank, in the zone of the bank. -/
def Bank.Zoned (bank : Bank) : Prop :=
  bank.zone = zoneOf bank.id

end Klik.Banks

namespace Klik.Agents

open Klik.Banks
open Klik.Common

variable (zoneOf : Uuid → Zone)

/-- A row of an agent, as `Agent.clean` has passed it. -/
structure Agent.Zoned (agent : Agent) : Prop where
  bank : agent.settlementBank.Zoned zoneOf
  zone : agent.settlementBank.zone = agent.zone

/-- A row of a merchant, as `Merchant.clean` has passed it. -/
structure Merchant.Zoned (merchant : Merchant) : Prop where
  bank : merchant.settlementBank.Zoned zoneOf
  zone : merchant.settlementBank.zone = merchant.zone

end Klik.Agents

namespace Klik.Codes

open Klik.Agents
open Klik.Banks
open Klik.Common

/-- The parties of a payment and its currency are in its zone. -/
structure Transaction.InZone (zoneOf : Uuid → Zone) (tx : Transaction) : Prop where
  senderBank : tx.senderBank.Zoned zoneOf
  agent : tx.agent.Zoned zoneOf
  merchant : tx.merchant.Zoned zoneOf
  sender_zone : tx.senderBank.zone = tx.zone
  agent_zone : tx.agent.zone = tx.zone
  merchant_zone : tx.merchant.zone = tx.zone
  currency : tx.currency = zoneCurrency tx.zone

/-- A payment of stored parties which passes its checks is in one zone. -/
theorem Transaction.Clean.inZone
    {zoneOf : Uuid → Zone} {tx : Transaction} (clean : tx.Clean)
    (sender : tx.senderBank.Zoned zoneOf) (agent : tx.agent.Zoned zoneOf)
    (merchant : tx.merchant.Zoned zoneOf) :
    tx.InZone zoneOf :=
  ⟨sender, agent, merchant, clean.sender_zone, clean.agent_zone, clean.merchant_zone,
    clean.currency_eq⟩

end Klik.Codes

namespace Klik.Ledger

open Klik.Agents
open Klik.Banks
open Klik.Codes
open Klik.Common
open Klik.Lib

section Zones

variable (zoneOf : Uuid → Zone)

/-- Both banks of an entry are in its zone, and so is its currency. -/
structure LedgerEntry.InZone (entry : LedgerEntry) : Prop where
  fromBank : zoneOf entry.fromBankId = entry.zone
  toBank : zoneOf entry.toBankId = entry.zone
  currency : entry.currency = zoneCurrency entry.zone

/-- A draft between stored banks which passes its checks. -/
structure EntryDraft.Bookable (draft : EntryDraft) : Prop where
  valid : draft.Valid
  fromBank : draft.fromBank.Zoned zoneOf
  toBank : draft.toBank.Zoned zoneOf

/-- An operation has booked the rows of bookable drafts. -/
def BooksInZone (before after : List LedgerEntry) : Prop :=
  ∃ drafts : List EntryDraft, (∀ draft ∈ drafts, draft.Bookable zoneOf) ∧
    after = before ++ drafts.map EntryDraft.row

end Zones

variable {zoneOf : Uuid → Zone}

theorem EntryDraft.Bookable.inZone
    {draft : EntryDraft} (bookable : draft.Bookable zoneOf) :
    draft.row.InZone zoneOf where
  fromBank := bookable.fromBank.symm.trans bookable.valid.from_zone
  toBank := bookable.toBank.symm.trans bookable.valid.to_zone
  currency := bookable.valid.currency_eq

theorem BooksInZone.refl (entries : List LedgerEntry) :
    BooksInZone zoneOf entries entries :=
  ⟨[], fun _ member => absurd member List.not_mem_nil, (List.append_nil entries).symm⟩

theorem BooksInZone.trans
    {first second third : List LedgerEntry}
    (before : BooksInZone zoneOf first second) (after : BooksInZone zoneOf second third) :
    BooksInZone zoneOf first third := by
  rcases before with ⟨here, hereBookable, rfl⟩
  rcases after with ⟨later, laterBookable, rfl⟩
  refine ⟨here ++ later, ?_, ?_⟩
  · intro draft member
    rcases List.mem_append.mp member with inHere | inLater
    · exact hereBookable draft inHere
    · exact laterBookable draft inLater
  · rw [List.map_append, List.append_assoc]

/-- The bank which collects the fees of a zone is one of the stored banks. -/
theorem zoned_operator
    {banks : List Bank} (stored : ∀ bank ∈ banks, bank.Zoned zoneOf) (zone : Zone)
    {otherwise : Bank} (other : otherwise.Zoned zoneOf) :
    ((resolveKlikOperatorBank banks zone).getD otherwise).Zoned zoneOf := by
  cases resolved : resolveKlikOperatorBank banks zone with
  | none => exact other
  | some bank =>
      apply stored
      simp only [resolveKlikOperatorBank] at resolved
      split at resolved
      · cases resolved
      · exact List.mem_of_find?_eq_some resolved

/-! ## Payments -/

/-- The drafts of a payment are between stored banks. -/
theorem zoned_c2bDrafts
    {banks : List Bank} (stored : ∀ bank ∈ banks, bank.Zoned zoneOf)
    {tx : Transaction} (inZone : tx.InZone zoneOf)
    (merchantNet klikFee agentFee : Decimal) :
    ∀ draft ∈ c2bDrafts banks tx merchantNet klikFee agentFee,
      draft.fromBank.Zoned zoneOf ∧ draft.toBank.Zoned zoneOf := by
  intro draft member
  simp only [c2bDrafts, List.mem_append] at member
  rcases member with (net | klik) | agent
  · split at net
    · exact absurd net List.not_mem_nil
    · cases List.mem_singleton.mp net
      exact ⟨inZone.senderBank, inZone.merchant.bank⟩
  · split at klik
    · cases List.mem_singleton.mp klik
      exact ⟨inZone.senderBank, zoned_operator stored tx.zone inZone.senderBank⟩
    · exact absurd klik List.not_mem_nil
  · split at agent
    · cases List.mem_singleton.mp agent
      exact ⟨inZone.senderBank, inZone.agent.bank⟩
    · exact absurd agent List.not_mem_nil

/-- Recording a payment books in its zone. -/
theorem booksInZone_recordC2bTransaction
    {banks : List Bank} (stored : ∀ bank ∈ banks, bank.Zoned zoneOf)
    {tx : Transaction} (inZone : tx.InZone zoneOf)
    {entries returned after : List LedgerEntry}
    (recorded : recordC2bTransaction banks tx entries = .ok (returned, after)) :
    BooksInZone zoneOf entries after := by
  simp only [recordC2bTransaction] at recorded
  split at recorded
  · cases recorded
  · split at recorded
    · rename_i merchantNet klikFee agentFee _ _ _
      split at recorded
      · cases recorded
        exact .refl entries
      · split at recorded
        · cases recorded
        · rename_i creation
          cases recorded
          refine ⟨c2bDrafts banks tx merchantNet klikFee agentFee, ?_, ?_⟩
          · intro draft member
            rcases zoned_c2bDrafts stored inZone merchantNet klikFee agentFee draft member
              with ⟨fromBank, toBank⟩
            exact ⟨valid_of_createEntries creation draft member, fromBank, toBank⟩
          · rw [(createEntries_ok creation).1]
    · cases recorded

/-! ## Daily lookup fees -/

/-- The draft of a billed counter is between stored banks. -/
theorem zoned_of_decideCounter
    {banks : List Bank} (stored : ∀ bank ∈ banks, bank.Zoned zoneOf)
    {entries : List LedgerEntry} {bankId : Uuid} {day : Date} {count : Nat}
    {draft : EntryDraft}
    (decided : decideCounter banks entries bankId day count = .bill draft) :
    draft.fromBank.Zoned zoneOf ∧ draft.toBank.Zoned zoneOf := by
  simp only [decideCounter] at decided
  split at decided
  · cases decided
  · split at decided
    · cases decided
    · rename_i bank known
      have listed := stored bank (List.mem_of_find?_eq_some known)
      split at decided
      · cases decided
      · split at decided
        · cases decided
        · split at decided
          · cases decided
          · cases decided
            exact ⟨listed, zoned_operator stored bank.zone listed⟩

theorem booksInZone_accrueCounter
    {banks : List Bank} (stored : ∀ bank ∈ banks, bank.Zoned zoneOf)
    {day : Date} {state after : AccrualState} {bankId : Uuid}
    (accrued : accrueCounter banks day state bankId = .ok after) :
    BooksInZone zoneOf state.entries after.entries := by
  simp only [accrueCounter] at accrued
  split at accrued
  · cases accrued
    exact .refl _
  · cases accrued
    exact .refl _
  · rename_i draft billed
    split at accrued
    · cases accrued
    · rename_i entry created
      cases accrued
      rcases EntryDraft.create_eq_ok.mp created with ⟨valid, rfl⟩
      rcases zoned_of_decideCounter stored billed with ⟨fromBank, toBank⟩
      refine ⟨[draft], ?_, rfl⟩
      rw [List.forall_mem_singleton]
      exact ⟨valid, fromBank, toBank⟩

/-- An accrual run books in the zones of the banks. -/
theorem booksInZone_recordP2pLookupFees
    {banks : List Bank} (stored : ∀ bank ∈ banks, bank.Zoned zoneOf)
    {day : Date} {scanned : List Uuid} {counters : LookupCounters}
    {entries : List LedgerEntry} {after : AccrualState}
    (accrued : recordP2pLookupFees banks day scanned counters entries = .ok after) :
    BooksInZone zoneOf entries after.entries := by
  apply recordP2pLookupFees_of_turns (BooksInZone zoneOf) _ _ _ accrued
  · exact .refl
  · exact fun _ _ _ => .trans
  · exact fun _ _ _ => booksInZone_accrueCounter stored

end Klik.Ledger
