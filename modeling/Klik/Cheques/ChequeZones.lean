import Klik.Cheques.ChequeSystem
import Klik.Ledger.EntryZones

/-!
# Zones of cheques

A cheque is issued by a bank of the zone, and its payment is checked when it
is redeemed.  The booking after the block uses the payment which was inserted.
-/

namespace Klik.Cheques

open Klik.Agents
open Klik.Banks
open Klik.Codes
open Klik.Common
open Klik.Ledger
open Klik.Lib

section Zones

variable (zoneOf : Uuid → Zone)

/-- The rows of banks, agents and merchants which an action reads are stored
ones.  Other operations book entries of their own. -/
def ChequeAction.Stored : ChequeAction → Prop
  | .startIssue request => request.bank.Zoned zoneOf
  | .redeem request => request.agent.Zoned zoneOf ∧
      ∀ merchant ∈ request.merchants, merchant.Zoned zoneOf
  | .finishRedeem _ banks _ => ∀ bank ∈ banks, bank.Zoned zoneOf
  | .cancel request => request.bank.Zoned zoneOf
  | .book _ => False
  | .drawCode _ _ | .createCheque _ _ _ | .selectDue _ _ | .expire _ _ => True

/-- Payments are in one zone, and what will become a payment has stored
parties. -/
structure ChequeZones (state : ChequeState) : Prop where
  transactions : ∀ tx ∈ state.db.transactions, tx.InZone zoneOf
  cheques : ∀ cheque ∈ state.db.cheques, cheque.issuerBank.Zoned zoneOf
  issuing : ∀ issuing ∈ state.issuing, issuing.request.bank.Zoned zoneOf
  redemptions : ∀ redemption ∈ state.redemptions, redemption.transaction.InZone zoneOf

end Zones

variable {zoneOf : Uuid → Zone} {state : ChequeState}

theorem mem_issueStarted
    {request : IssueRequest} {issuing : Issuing}
    (member : issuing ∈ (state.issueStarted request).issuing) :
    issuing ∈ state.issuing ∨ issuing.request = request := by
  simp only [ChequeState.issueStarted] at member
  split at member
  · rename_i drawing started
    rcases List.mem_append.mp member with old | new
    · exact .inl old
    · right
      rw [List.mem_singleton.mp new]
      simp only [startIssue] at started
      split at started
      · cases started
      · split at started
        · cases started
        · cases started
          rfl
  · exact .inl member

/-- The parties of the payment of a redeemed cheque. -/
theorem redeem_parties
    {request : RedeemRequest} {db : ChequeDb} {redemption : Redemption}
    (returned : (redeem request db).result = .ok redemption) :
    redemption.transaction.agent = request.agent ∧
      redemption.transaction.merchant ∈ request.merchants ∧
        ∃ cheque ∈ db.cheques, redemption.transaction.senderBank = cheque.issuerBank := by
  simp only [redeem] at returned
  split at returned
  · cases returned
  · rename_i merchant found
    split at returned
    · cases returned
    · rw [result_atomic] at returned
      simp only [redeemBlock] at returned
      split at returned
      · cases returned
      · rename_i cheque locked
        split at returned
        · split at returned
          · cases returned
          · cases returned
        · split at returned
          · cases returned
          · split at returned
            · cases returned
            · rename_i split_ _
              split at returned
              · cases returned
              · split at returned
                · cases returned
                · cases returned
                  exact ⟨rfl, List.mem_of_find?_eq_some found, cheque,
                    (lockActive_ok locked).1, rfl⟩

theorem ChequeZones.inZone_redeemed
    (zones : ChequeZones zoneOf state) {request : RedeemRequest}
    (stored : (ChequeAction.redeem request).Stored zoneOf) {cheque : Cheque}
    {tx : Transaction} (clean : tx.fullClean = .ok ())
    (returned : (redeem request state.db).result = .ok ⟨cheque, tx⟩) :
    tx.InZone zoneOf := by
  rcases redeem_parties returned with ⟨agent, merchant, issued, member, sender⟩
  apply (Transaction.clean_of_fullClean clean).inZone
  · show tx.senderBank.Zoned zoneOf
    rw [show tx.senderBank = issued.issuerBank from sender]
    exact zones.cheques issued member
  · show tx.agent.Zoned zoneOf
    rw [show tx.agent = request.agent from agent]
    exact stored.1
  · exact stored.2 tx.merchant merchant

/-- Saving a cheque which keeps its bank. -/
theorem zoned_saveRow
    {cheques : List Cheque} (zoned : ∀ cheque ∈ cheques, cheque.issuerBank.Zoned zoneOf)
    {row : Cheque} (own : row.issuerBank.Zoned zoneOf) :
    ∀ cheque ∈ saveRow Cheque.id row cheques, cheque.issuerBank.Zoned zoneOf := by
  intro cheque member
  rcases mem_saveRow member with rfl | ⟨old, _⟩
  · exact own
  · exact zoned cheque old

theorem ChequeZones.redeemed
    (zones : ChequeZones zoneOf state) {request : RedeemRequest}
    (stored : (ChequeAction.redeem request).Stored zoneOf) :
    ChequeZones zoneOf (state.redeemed request) ∧
      (state.redeemed request).db.entries = state.db.entries := by
  rcases redeem_cases request state.db with
    ⟨error, raised, unchanged⟩ | ⟨cheque, tx, redeems, carried⟩
  · simp only [ChequeState.redeemed, raised, unchanged, List.append_nil]
    exact ⟨⟨zones.transactions, zones.cheques, zones.issuing, zones.redemptions⟩, trivial⟩
  · have inZone : tx.InZone zoneOf := by
      apply zones.inZone_redeemed stored redeems.clean
      rw [carried]
    simp only [ChequeState.redeemed, carried]
    refine ⟨⟨?_, ?_, zones.issuing, ?_⟩, trivial⟩
    · intro other member
      rcases List.mem_append.mp member with old | new
      · exact zones.transactions other old
      · rw [List.mem_singleton.mp new]
        exact inZone
    · exact zoned_saveRow zones.cheques (zones.cheques cheque redeems.member)
    · intro redemption member
      rcases List.mem_append.mp member with old | new
      · exact zones.redemptions redemption old
      · rw [List.mem_singleton.mp new]
        exact inZone

theorem ChequeZones.cancelled
    (zones : ChequeZones zoneOf state) (request : CancelRequest) :
    ChequeZones zoneOf (state.cancelled request) ∧
      (state.cancelled request).db.entries = state.db.entries := by
  rcases cancel_cases request state.db with
    ⟨error, raised⟩ | ⟨cheque, member, _, _, carried⟩
  · simp only [ChequeState.cancelled, raised, Outcome.raise]
    exact ⟨⟨zones.transactions, zones.cheques, zones.issuing, zones.redemptions⟩, trivial⟩
  · simp only [ChequeState.cancelled, carried]
    refine ⟨⟨zones.transactions, ?_, zones.issuing, zones.redemptions⟩, trivial⟩
    exact zoned_saveRow zones.cheques (zones.cheques cheque member)

theorem ChequeZones.expired
    (zones : ChequeZones zoneOf state) (run : ExpireRun) (refused : Bool) :
    ChequeZones zoneOf (state.expiredNext run refused) ∧
      (state.expiredNext run refused).db.entries = state.db.entries := by
  simp only [ChequeState.expiredNext]
  split
  · exact ⟨⟨zones.transactions, zones.cheques, zones.issuing, zones.redemptions⟩, rfl⟩
  · rename_i id rest _
    rcases expireOne_cases run.now id refused state.db with
      ⟨error, raised⟩ | ⟨cheque, found, _, carried⟩
    · simp only [raised, Outcome.raise]
      exact ⟨⟨zones.transactions, zones.cheques, zones.issuing, zones.redemptions⟩, trivial⟩
    · simp only [carried]
      refine ⟨⟨zones.transactions, ?_, zones.issuing, zones.redemptions⟩, trivial⟩
      exact zoned_saveRow zones.cheques (zones.cheques cheque (mem_of_rowAt found).1)

/-- The booking of a redeemed cheque is in its zone. -/
theorem ChequeZones.finished
    (zones : ChequeZones zoneOf state) {redemption : Redemption} {banks : List Bank}
    (stored : ∀ bank ∈ banks, bank.Zoned zoneOf) (refused : Bool)
    (going : redemption ∈ state.redemptions) :
    ChequeZones zoneOf (state.redeemFinished redemption banks refused) ∧
      BooksInZone zoneOf state.db.entries
        (state.redeemFinished redemption banks refused).db.entries := by
  constructor
  · refine ⟨zones.transactions, zones.cheques, zones.issuing, ?_⟩
    intro other member
    exact zones.redemptions other (List.mem_of_mem_erase member)
  · simp only [ChequeState.redeemFinished, bookRedemption]
    split
    · exact .refl _
    · split
      · exact .refl _
      · rename_i result recorded
        exact booksInZone_recordC2bTransaction stored
          (zones.redemptions redemption going) recorded

/-- Every step keeps to the zones and books in them. -/
theorem ChequeZones.step
    (zones : ChequeZones zoneOf state) {action : ChequeAction}
    (stored : action.Stored zoneOf) {after : ChequeState}
    (moved : chequeStep state action = some after) :
    ChequeZones zoneOf after ∧ BooksInZone zoneOf state.db.entries after.db.entries := by
  have quiet : ∀ {next : ChequeState},
      ChequeZones zoneOf next ∧ next.db.entries = state.db.entries →
        ChequeZones zoneOf next ∧ BooksInZone zoneOf state.db.entries next.db.entries := by
    rintro next ⟨held, entries⟩
    exact ⟨held, entries ▸ .refl _⟩
  cases action with
  | startIssue request =>
      cases moved
      have issuing : ∀ issuing ∈ (state.issueStarted request).issuing,
          issuing.request.bank.Zoned zoneOf := by
        intro issuing member
        rcases mem_issueStarted member with old | own
        · exact zones.issuing issuing old
        · rw [own]
          exact stored
      have db : (state.issueStarted request).db = state.db ∧
          (state.issueStarted request).redemptions = state.redemptions := by
        simp only [ChequeState.issueStarted]
        split
        · exact ⟨rfl, rfl⟩
        · exact ⟨rfl, rfl⟩
      apply quiet
      rw [db.1]
      refine ⟨⟨?_, ?_, issuing, ?_⟩, rfl⟩
      · rw [db.1]
        exact zones.transactions
      · rw [db.1]
        exact zones.cheques
      · rw [db.2]
        exact zones.redemptions
  | drawCode issuing code =>
      simp only [chequeStep] at moved
      split at moved
      · rename_i possible
        cases moved
        apply quiet
        refine ⟨⟨zones.transactions, zones.cheques, ?_, zones.redemptions⟩, rfl⟩
        intro other member
        rcases List.mem_append.mp member with old | new
        · exact zones.issuing other (List.mem_of_mem_erase old)
        · rw [List.mem_singleton.mp new]
          exact zones.issuing issuing possible.1
      · cases moved
  | createCheque issuing chequeId refused =>
      simp only [chequeStep] at moved
      split at moved
      · rename_i possible
        cases moved
        have others : ∀ other ∈ state.issuing.erase issuing,
            other.request.bank.Zoned zoneOf := by
          intro other member
          exact zones.issuing other (List.mem_of_mem_erase member)
        apply quiet
        simp only [ChequeState.chequeCreated]
        split
        · exact ⟨⟨zones.transactions, zones.cheques, others, zones.redemptions⟩, rfl⟩
        · rename_i cheques created
          refine ⟨⟨zones.transactions, ?_, others, zones.redemptions⟩, rfl⟩
          rw [(createCheque_ok created).1]
          intro cheque member
          rcases List.mem_append.mp member with old | new
          · exact zones.cheques cheque old
          · rw [List.mem_singleton.mp new]
            exact zones.issuing issuing possible.1
      · cases moved
  | redeem request =>
      cases moved
      exact quiet (zones.redeemed stored)
  | finishRedeem redemption banks refused =>
      simp only [chequeStep] at moved
      split at moved
      · rename_i going
        cases moved
        exact zones.finished stored refused going
      · cases moved
  | cancel request =>
      cases moved
      exact quiet (zones.cancelled request)
  | selectDue now ids =>
      simp only [chequeStep] at moved
      split at moved
      · cases moved
        apply quiet
        exact ⟨⟨zones.transactions, zones.cheques, zones.issuing, zones.redemptions⟩, rfl⟩
      · cases moved
  | expire run refused =>
      simp only [chequeStep] at moved
      split at moved
      · cases moved
        exact quiet (zones.expired run refused)
      · cases moved
  | book created => exact stored.elim

end Klik.Cheques
