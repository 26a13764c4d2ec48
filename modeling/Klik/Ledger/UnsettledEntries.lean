import Klik.Ledger.LedgerSystem

/-!
# Entries which stay unsettled

An entry which is not settled is lost when it belongs to a session that has
ended: no later session selects it, since only entries without a session are
pending.  A run which confirms all its transfers leaves no such entry.  A run
with a failed transfer does, because nothing sets the session of the entries
back to null.
-/

namespace Klik.Ledger

open Klik.Codes
open Klik.Common
open Klik.Lib

/-- Every unsettled entry is pending or in the session of a run going on. -/
def NoObligationLost (db : LedgerDb) : Prop :=
  ∀ entry ∈ db.entries, entry.settled = false →
    entry.session = none ∨
      ∃ row ∈ db.sessions, entry.session = some row.id ∧ row.status.isActive = true

instance (db : LedgerDb) : Decidable (NoObligationLost db) :=
  inferInstanceAs (Decidable (∀ entry ∈ db.entries, entry.settled = false →
    entry.session = none ∨
      ∃ row ∈ db.sessions, entry.session = some row.id ∧ row.status.isActive = true))

/-- The next session of a zone takes every unsettled entry of the zone which
is not in the session of a run going on. -/
def NextSessionTakesUnsettled (db : LedgerDb) : Prop :=
  ∀ (session row : SettlementSession) (count : Nat) (after : LedgerDb),
    assignPendingEntriesToSession session db = .ok (count, row, after) →
      ∀ entry ∈ db.entries, entry.settled = false → entry.zone = session.zone →
        (¬ ∃ row ∈ db.sessions,
          entry.session = some row.id ∧ row.status.isActive = true) →
            { entry with session := some session.id } ∈ after.entries

theorem assigned_entries
    {session row : SettlementSession} {count : Nat} {db after : LedgerDb}
    (assigned : assignPendingEntriesToSession session db = .ok (count, row, after)) :
    after.entries =
      db.entries.map (LedgerEntry.assignTo session.zone session.id) := by
  unfold assignPendingEntriesToSession at assigned
  split at assigned
  · cases assigned
  · simp only at assigned
    split at assigned
    · cases assigned
    · split at assigned
      · cases assigned
      · cases assigned
        rfl

theorem nextSessionTakesUnsettled
    {db : LedgerDb} (kept : NoObligationLost db) :
    NextSessionTakesUnsettled db := by
  intro session row count after assigned entry member unsettled sameZone notActive
  have free : entry.session = none := by
    rcases kept entry member unsettled with none | active
    · exact none
    · exact absurd active notActive
  have pending : entry.isPending session.zone = true := by
    simp [LedgerEntry.isPending, sameZone, unsettled, free]
  have taken : entry.assignTo session.zone session.id =
      { entry with session := some session.id } := if_pos pending
  rw [assigned_entries assigned, ← taken]
  exact List.mem_map_of_mem member

/-- While every run confirms its transfers, unsettled entries have no
session. -/
theorem unsettled_without_session
    {context : LedgerContext} {db : LedgerDb}
    (reached :
      ((ledgerSystem context).guarded (AllConfirmed context)).Reachable db) :
    ∀ entry ∈ db.entries, entry.settled = false → entry.session = none := by
  induction reached with
  | init start =>
      rw [start]
      exact fun _ member => nomatch member
  | step before move held =>
      rename_i source target action
      have wellFormed := wellFormed_of_reachable before.of_guarded
      intro entry member unsettled
      cases outcome_of_step wellFormed move.2 with
      | appended created fresh after_eq =>
          rw [after_eq] at member
          rcases List.mem_append.mp member with old | new
          · exact held entry old unsettled
          · exact (fresh entry new).1
      | closed zone now row made closes confirmed =>
          rw [closes.entries] at member
          rcases List.mem_map.mp member with ⟨old, oldMember, rfl⟩
          cases taken : old.isPending zone with
          | false =>
              have same := closes.entry_of_not_pending wellFormed oldMember taken
              rw [same] at unsettled ⊢
              exact held old oldMember unsettled
          | true =>
              have settled := settles_of_all_completed closes
                (confirmed move.1) old
              rw [(closedEntry_of_pending now row made taken).2, settled]
                at unsettled
              cases unsettled

/-- While every run confirms its transfers, no obligation is lost. -/
theorem no_obligation_lost
    (context : LedgerContext) (db : LedgerDb)
    (reached :
      ((ledgerSystem context).guarded (AllConfirmed context)).Reachable db) :
    NoObligationLost db ∧ NextSessionTakesUnsettled db := by
  have kept : NoObligationLost db := fun entry member unsettled =>
    Or.inl (unsettled_without_session reached entry member unsettled)
  exact ⟨kept, nextSessionTakesUnsettled kept⟩

/-- The payment is recorded and its transfer confirmed. -/
theorem no_obligation_lost_onePayment :
    NoObligationLost (polishSettled (fun _ => true) onePayment) ∧
      NextSessionTakesUnsettled (polishSettled (fun _ => true) onePayment) :=
  no_obligation_lost polishContext _
    (.step (confirmed_polishLedger _)
      ⟨confirmed_polishSettled onePayment,
        complete_polishSettled (fun _ => true) onePayment (by decide +kernel)⟩)

/-- After the transfer of the payment failed, its entry is in a session which
has ended. -/
theorem obligation_lost_onePayment :
    ¬ ∀ (context : LedgerContext) (db : LedgerDb),
      (ledgerSystem context).Reachable db →
        NoObligationLost db ∧ NextSessionTakesUnsettled db := by
  intro always
  have kept := (always polishContext _
    (.step (reachable_polishLedger _)
      (complete_polishSettled (fun _ => false) onePayment
        (by decide +kernel)))).1
  exact absurd kept (by decide +kernel)

end Klik.Ledger
