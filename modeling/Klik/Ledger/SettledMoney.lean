import Klik.Ledger.LedgerSystem

/-!
# Money moved and entries settled

What the completed transfers move is compared with what the settled entries
are worth, for every bank and over whole runs of the ledger.  `mark_settled`
marks entries by pairs of banks, while the transfers come from multilateral
netting; the two sides agree for the sessions which did not end partly, with
both a completed and a failed transfer.

The second part is about entries which a run leaves unsettled.
-/

namespace Klik.Ledger

open Klik.Banks
open Klik.Codes
open Klik.Common
open Klik.Ledger.Rtgs
open Klik.Lib

/-! ## The two positions -/

/-- What a transfer moves. -/
def SettlementTransfer.payment (transfer : SettlementTransfer) : BankPayment :=
  transfer.net.payment

/-- What an entry is worth. -/
def LedgerEntry.payment (entry : LedgerEntry) : BankPayment :=
  entry.obligation.payment

/-- Payments of the completed transfers of the sessions which `keep` selects. -/
def completedPayments (keep : Uuid → Bool) (transfers : List SettlementTransfer) :
    List BankPayment :=
  (transfers.filter fun transfer =>
    transfer.status = .completed && keep transfer.session).map
      SettlementTransfer.payment

/-- Payments of the settled entries of the sessions which `keep` selects. -/
def settledPayments (keep : Uuid → Bool) (entries : List LedgerEntry) :
    List BankPayment :=
  (entries.filter fun entry => entry.settled && entry.session.any keep).map
    LedgerEntry.payment

/-- For every bank, the completed transfers moved what the settled entries
are worth. -/
def MoneyMatches (db : LedgerDb) : Prop :=
  ∀ bank,
    netInflow
        ((db.transfers.filter fun transfer =>
          transfer.status = .completed).map SettlementTransfer.payment) bank =
      netInflow
        ((db.entries.filter LedgerEntry.settled).map LedgerEntry.payment) bank

/-- Whether a session has both a completed and a failed transfer. -/
def endedPartly (db : LedgerDb) (sessionId : Uuid) : Bool :=
  (db.transfers.any fun transfer =>
    transfer.session = sessionId && transfer.status = .completed) &&
  db.transfers.any fun transfer =>
    transfer.session = sessionId && transfer.status = .failed

/-- Agreement over any set of sessions none of which ended partly. -/
def Balanced (db : LedgerDb) : Prop :=
  ∀ keep : Uuid → Bool,
    (∀ sessionId, keep sessionId = true → endedPartly db sessionId = false) →
      ∀ bank,
        netInflow (completedPayments keep db.transfers) bank =
          netInflow (settledPayments keep db.entries) bank

/-- The entries of a session which ended partly are settled exactly when a
completed transfer of the session joins their banks. -/
def PairRule (db : LedgerDb) : Prop :=
  ∀ entry ∈ db.entries, ∀ sessionId,
    entry.session = some sessionId → endedPartly db sessionId = true →
      (entry.settled = true ↔
        ∃ transfer ∈ db.transfers,
          transfer.session = sessionId ∧ transfer.status = .completed ∧
            transfer.fromBankId = entry.fromBankId ∧
              transfer.toBankId = entry.toBankId)

/-! ## Appending fresh entries -/

theorem settledPayments_fresh
    (keep : Uuid → Bool) {created : List LedgerEntry}
    (fresh : ∀ entry ∈ created, entry.Fresh) :
    settledPayments keep created = [] := by
  rw [settledPayments, List.filter_eq_nil_iff.mpr, List.map_nil]
  intro entry member
  simp [(fresh entry member).2.1]

theorem Balanced.append
    {db : LedgerDb} (balanced : Balanced db)
    {created : List LedgerEntry} (fresh : ∀ entry ∈ created, entry.Fresh) :
    Balanced { db with entries := db.entries ++ created } := by
  intro keep whole bank
  have split : settledPayments keep (db.entries ++ created) =
      settledPayments keep db.entries ++ settledPayments keep created := by
    simp [settledPayments]
  rw [split, settledPayments_fresh keep fresh, List.append_nil]
  exact balanced keep whole bank

theorem PairRule.append
    {db : LedgerDb} (pairs : PairRule db)
    {created : List LedgerEntry} (fresh : ∀ entry ∈ created, entry.Fresh) :
    PairRule { db with entries := db.entries ++ created } := by
  intro entry member sessionId assigned partly
  rcases List.mem_append.mp member with old | new
  · exact pairs entry old sessionId assigned partly
  · rw [(fresh entry new).1] at assigned
    cases assigned

/-! ## Closing a session -/

section Closed

variable {db after : LedgerDb} {zone : Zone} {now : Instant}
variable {row : SettlementSession} {made : List SettlementTransfer}

/-- Old sessions ended partly exactly when they did before. -/
theorem Closes.endedPartly_old
    (closes : Closes db zone now row made after)
    {sessionId : Uuid} (old : sessionId ≠ db.sessions.length) :
    endedPartly after sessionId = endedPartly db sessionId := by
  have none : ∀ status : SettlementTransferStatus,
      (made.any fun transfer =>
        transfer.session = sessionId && transfer.status = status) = false := by
    intro status
    rw [List.any_eq_false]
    intro transfer member
    rw [closes.owns.session transfer member]
    simp [old.symm]
  simp only [endedPartly, closes.transfers, List.any_append, none, Bool.or_false]

/-- The new session ended partly exactly when its own transfers did. -/
theorem Closes.endedPartly_new
    (closes : Closes db zone now row made after) (wellFormed : db.WellFormed) :
    endedPartly after db.sessions.length = true ↔
      (∃ transfer ∈ made, transfer.status = .completed) ∧
        ∃ transfer ∈ made, transfer.status = .failed := by
  have others : ∀ status : SettlementTransferStatus,
      ((db.transfers ++ made).any fun transfer =>
        transfer.session = db.sessions.length && transfer.status = status) = true ↔
          ∃ transfer ∈ made, transfer.status = status := by
    intro status
    rw [List.any_eq_true]
    constructor
    · rintro ⟨transfer, member, chosen⟩
      simp only [Bool.and_eq_true, decide_eq_true_eq] at chosen
      rcases List.mem_append.mp member with old | new
      · exact absurd chosen.1 (wellFormed.transfer_session transfer old).ne
      · exact ⟨transfer, new, chosen.2⟩
    · rintro ⟨transfer, member, status⟩
      refine ⟨transfer, List.mem_append_right _ member, ?_⟩
      simp [closes.owns.session transfer member, status]
  rw [endedPartly, Bool.and_eq_true, closes.transfers, others, others]

/-- A session which did not end partly completed all its transfers, or none. -/
theorem Closes.all_or_none
    (closes : Closes db zone now row made after) (wellFormed : db.WellFormed)
    (whole : endedPartly after db.sessions.length = false) :
    (∀ transfer ∈ made, transfer.status = .completed) ∨
      (made ≠ [] ∧ ∀ transfer ∈ made, transfer.status = .failed) := by
  have notBoth := mt (closes.endedPartly_new wellFormed).mpr (by simp [whole])
  by_cases failed : ∃ transfer ∈ made, transfer.status = .failed
  · right
    rcases failed with ⟨failing, failingMember, status⟩
    refine ⟨List.ne_nil_of_mem failingMember, ?_⟩
    intro transfer member
    rcases closes.ended.status transfer member with completed | failure
    · exact absurd ⟨⟨transfer, member, completed⟩,
        failing, failingMember, status⟩ notBoth
    · exact failure
  · left
    intro transfer member
    rcases closes.ended.status transfer member with completed | failure
    · exact completed
    · exact absurd ⟨transfer, member, failure⟩ failed

/-- Closing a session settles entries of that session only. -/
theorem Closes.settledPayments
    (closes : Closes db zone now row made after) (wellFormed : db.WellFormed)
    (keep : Uuid → Bool) (bank : Uuid) :
    netInflow (settledPayments keep after.entries) bank =
      netInflow (settledPayments keep db.entries) bank +
        netInflow
          ((db.entries.filter fun entry =>
            entry.isPending zone && settles row made entry && keep row.id).map
              LedgerEntry.payment) bank := by
  have general : ∀ entries : List LedgerEntry,
      (∀ entry ∈ entries, entry ∈ db.entries) →
        netInflow
            (Ledger.settledPayments keep
              (entries.map (closedEntry zone now row made))) bank =
          netInflow (Ledger.settledPayments keep entries) bank +
            netInflow
              ((entries.filter fun entry =>
                entry.isPending zone && settles row made entry && keep row.id).map
                  LedgerEntry.payment) bank := by
    intro entries
    induction entries with
    | nil => simp [Ledger.settledPayments]
    | cons entry rest induction =>
        intro members
        have tail := induction fun other member =>
          members other (List.mem_cons_of_mem _ member)
        have member := members entry List.mem_cons_self
        have worth : (closedEntry zone now row made entry).payment =
            entry.payment := by
          simp [LedgerEntry.payment]
        simp only [Ledger.settledPayments] at tail ⊢
        cases taken : entry.isPending zone with
        | false =>
            have same := closes.entry_of_not_pending wellFormed member taken
            rw [List.map_cons, same]
            simp only [List.filter_cons, taken, Bool.false_and, Bool.false_eq_true,
              if_false]
            split
            · simp only [List.map_cons, netInflow_cons, tail, add_assoc]
            · exact tail
        | true =>
            have facts := closedEntry_of_pending now row made taken
            have unsettled : entry.settled = false := by
              simp only [LedgerEntry.isPending, Bool.and_eq_true] at taken
              simpa using taken.1.2
            simp only [List.map_cons, List.filter_cons, facts.1, facts.2, taken,
              Option.any_some, unsettled, Bool.false_and, Bool.false_eq_true,
              if_false, Bool.true_and]
            split
            · simp only [List.map_cons, netInflow_cons, tail, worth]
              abel
            · exact tail
  rw [closes.entries]
  exact general db.entries fun _ member => member

/-- Closing a session adds its completed transfers. -/
theorem Closes.completedPayments
    (closes : Closes db zone now row made after)
    (keep : Uuid → Bool) (bank : Uuid) :
    netInflow (completedPayments keep after.transfers) bank =
      netInflow (completedPayments keep db.transfers) bank +
        netInflow (Ledger.completedPayments keep made) bank := by
  rw [closes.transfers, ← netInflow_append]
  simp [Ledger.completedPayments]

/-- The run nets what the pending entries are worth. -/
theorem Closes.netInflow_made
    (closes : Closes db zone now row made after) (bank : Uuid) :
    netInflow (made.map SettlementTransfer.payment) bank =
      netInflow
        ((db.entries.filter (LedgerEntry.isPending zone)).map
          LedgerEntry.payment) bank := by
  have moved : made.map SettlementTransfer.payment =
      (netObligations (pendingObligations zone db)).map NetTransfer.payment := by
    rw [← closes.nets, List.map_map]
    rfl
  have owed : ((pendingObligations zone db).map Obligation.payment).Perm
      ((db.entries.filter (LedgerEntry.isPending zone)).map LedgerEntry.payment) := by
    rw [pendingObligations, List.map_map]
    exact (List.reverse_perm _).map LedgerEntry.payment
  rw [moved, ← netInflow_perm owed]
  exact transferredPosition_netObligations (pendingObligations zone db) bank

theorem Balanced.closes
    (balanced : Balanced db) (wellFormed : db.WellFormed)
    (closes : Closes db zone now row made after) :
    Balanced after := by
  intro keep whole bank
  have wholeBefore : ∀ sessionId, keep sessionId = true →
      endedPartly db sessionId = false := by
    intro sessionId kept
    by_cases new : sessionId = db.sessions.length
    · have none : ∀ status : SettlementTransferStatus,
          (db.transfers.any fun transfer =>
            transfer.session = sessionId && transfer.status = status) = false := by
        intro status
        rw [List.any_eq_false]
        intro transfer member
        have older := (wellFormed.transfer_session transfer member).ne
        simp [new, older]
      simp only [endedPartly, none, Bool.and_false]
    · rw [← closes.endedPartly_old new]
      exact whole sessionId kept
  have before := balanced keep wholeBefore bank
  rw [closes.completedPayments, closes.settledPayments wellFormed, before]
  congr 1
  have sessions : ∀ transfer ∈ made, transfer.session = row.id := by
    intro transfer member
    rw [closes.owns.session transfer member, closes.row_id]
  cases kept : keep row.id with
  | false =>
      have noTransfer : Ledger.completedPayments keep made = [] := by
        rw [Ledger.completedPayments, List.filter_eq_nil_iff.mpr, List.map_nil]
        intro transfer member
        simp [sessions transfer member, kept]
      simp [noTransfer]
  | true =>
      have newWhole : endedPartly after db.sessions.length = false := by
        apply whole
        rw [← closes.row_id]
        exact kept
      rcases closes.all_or_none wellFormed newWhole with completed | ⟨some, failed⟩
      · have allTransfers : Ledger.completedPayments keep made =
            made.map SettlementTransfer.payment := by
          rw [Ledger.completedPayments, List.filter_eq_self.mpr]
          intro transfer member
          simp [sessions transfer member, kept, completed transfer member]
        simp only [allTransfers, settles_of_all_completed closes completed,
          Bool.and_true]
        exact closes.netInflow_made bank
      · have noTransfer : Ledger.completedPayments keep made = [] := by
          rw [Ledger.completedPayments, List.filter_eq_nil_iff.mpr, List.map_nil]
          intro transfer member
          simp [failed transfer member]
        rcases List.exists_mem_of_ne_nil made some with ⟨failing, failingMember⟩
        have noPair : ∀ entry, settles row made entry = false := by
          intro entry
          rw [settles_of_some_failed closes failingMember
            (failed failing failingMember), pairSettled, List.any_eq_false]
          intro transfer member
          simp [failed transfer member]
        simp [noTransfer, noPair]

theorem PairRule.closes
    (pairs : PairRule db) (wellFormed : db.WellFormed)
    (closes : Closes db zone now row made after) :
    PairRule after := by
  intro entry member sessionId assigned partly
  rw [closes.entries] at member
  rcases List.mem_map.mp member with ⟨old, oldMember, rfl⟩
  cases taken : old.isPending zone with
  | false =>
      rw [closes.entry_of_not_pending wellFormed oldMember taken] at assigned ⊢
      have older := wellFormed.entry_session old oldMember sessionId assigned
      rw [closes.endedPartly_old older.ne] at partly
      rw [pairs old oldMember sessionId assigned partly, closes.transfers]
      constructor
      · rintro ⟨transfer, transferMember, facts⟩
        exact ⟨transfer, List.mem_append_left _ transferMember, facts⟩
      · rintro ⟨transfer, transferMember, facts⟩
        rcases List.mem_append.mp transferMember with stored | new
        · exact ⟨transfer, stored, facts⟩
        · have here := closes.owns.session transfer new
          exact absurd (facts.1.symm.trans here) older.ne
  | true =>
      have facts := closedEntry_of_pending now row made taken
      have here : sessionId = db.sessions.length := by
        rw [facts.1, closes.row_id] at assigned
        exact (Option.some.inj assigned).symm
      subst here
      rcases (closes.endedPartly_new wellFormed).mp partly with
        ⟨_, failing, failingMember, failed⟩
      have banks := closedEntry_obligation zone now row made old
      have fromBank : (closedEntry zone now row made old).fromBankId =
          old.fromBankId := congrArg Obligation.fromBankId banks
      have toBank : (closedEntry zone now row made old).toBankId =
          old.toBankId := congrArg Obligation.toBankId banks
      rw [facts.2, settles_of_some_failed closes failingMember failed,
        fromBank, toBank, pairSettled, List.any_eq_true, closes.transfers]
      constructor
      · rintro ⟨transfer, transferMember, chosen⟩
        simp only [SettlementTransfer.joins, SettlementTransfer.net,
          Bool.and_eq_true, decide_eq_true_eq] at chosen
        exact ⟨transfer, List.mem_append_right _ transferMember,
          closes.owns.session transfer transferMember, chosen.1,
          (of_decide_eq_true chosen.2.1).symm, (of_decide_eq_true chosen.2.2).symm⟩
      · rintro ⟨transfer, transferMember, inSession, completed, payer, payee⟩
        rcases List.mem_append.mp transferMember with stored | new
        · exact absurd inSession (wellFormed.transfer_session transfer stored).ne
        · refine ⟨transfer, new, ?_⟩
          simp [SettlementTransfer.joins, SettlementTransfer.net, completed,
            payer, payee]

end Closed

/-! ## The positions over runs -/

theorem balanced_of_reachable
    {context : LedgerContext} {db : LedgerDb}
    (reached : (ledgerSystem context).Reachable db) :
    Balanced db ∧ PairRule db := by
  apply reached.invariant
  · rintro state rfl
    exact ⟨fun _ _ _ => by simp [completedPayments, settledPayments],
      fun entry member => nomatch member⟩
  · rintro source action target before ⟨balanced, pairs⟩ move
    have wellFormed := wellFormed_of_reachable before
    cases outcome_of_step wellFormed move with
    | appended created fresh after_eq =>
        rw [after_eq]
        exact ⟨balanced.append fresh, pairs.append fresh⟩
    | closed zone now row made closes confirmed =>
        exact ⟨balanced.closes wellFormed closes, pairs.closes wellFormed closes⟩

/--
Over the sessions which did not end partly, completed transfers and settled
entries give every bank the same position.  In a session which ended partly
an entry is settled exactly when a completed transfer joins its banks.  In
particular the two positions agree when no session ended partly.
-/
theorem settled_money_matches
    (context : LedgerContext) (db : LedgerDb)
    (reached : (ledgerSystem context).Reachable db) :
    Balanced db ∧ PairRule db ∧
      ((∀ sessionId, endedPartly db sessionId = false) → MoneyMatches db) := by
  have wellFormed := wellFormed_of_reachable reached
  rcases balanced_of_reachable reached with ⟨balanced, pairs⟩
  refine ⟨balanced, pairs, ?_⟩
  intro whole bank
  have all := balanced (fun _ => true) (fun sessionId _ => whole sessionId) bank
  have transfers : db.transfers.filter (fun transfer =>
      transfer.status = .completed && true) =
        db.transfers.filter fun transfer => transfer.status = .completed := by
    simp only [Bool.and_true]
  have entries : db.entries.filter (fun entry =>
      entry.settled && entry.session.any fun _ => true) =
        db.entries.filter LedgerEntry.settled := by
    apply List.filter_congr
    intro entry member
    cases settled : entry.settled with
    | false => rfl
    | true =>
        have assigned := wellFormed.entry_settled entry member settled
        cases session : entry.session with
        | none => exact absurd session assigned
        | some sessionId => rfl
  rw [completedPayments, settledPayments, transfers, entries] at all
  exact all

/-- Bank 1 owes 100 to bank 2 and 10 to bank 3; bank 2 owes 40 to bank 1. -/
def threeBanks : LedgerDb :=
  polishLedger
    [polishPayment (py "a") 1 2 100, polishPayment (py "b") 2 1 40,
      polishPayment (py "c") 1 3 10]

/-- The run whose first transfer is confirmed and whose second one fails. -/
theorem settled_money_matches_threeBanks :
    Balanced (polishSettled (· = 0) threeBanks) ∧
      PairRule (polishSettled (· = 0) threeBanks) ∧
      ((∀ sessionId,
        endedPartly (polishSettled (· = 0) threeBanks) sessionId = false) →
          MoneyMatches (polishSettled (· = 0) threeBanks)) :=
  settled_money_matches polishContext _
    (.step (reachable_polishLedger _)
      (complete_polishSettled (· = 0) threeBanks (by decide +kernel)))

/-- In that run the completed transfer moves 60 to bank 2, but the settled
entry is worth 100. -/
theorem money_mismatch_threeBanks :
    ¬ ∀ (context : LedgerContext) (db : LedgerDb),
      (ledgerSystem context).Reachable db → MoneyMatches db := by
  intro always
  have matching := always polishContext _
    (.step (reachable_polishLedger _)
      (complete_polishSettled (· = 0) threeBanks (by decide +kernel))) 2
  exact absurd matching (by decide +kernel)

end Klik.Ledger
