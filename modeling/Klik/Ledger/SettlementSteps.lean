import Klik.Ledger.NettingBalance
import Klik.Ledger.Settlement

/-!
# What the stages of a settlement run do

During its run a session is the last row of its table and its transfers are
the last rows of theirs.  Each stage is described by how it changes the
entries, that row and those transfers; nothing else changes.
-/

namespace Klik.Ledger

open Klik.Common
open Klik.Ledger.Rtgs
open Klik.Lib

/-! ## Tables with a session in progress -/

/-- References between the tables of a stored ledger. -/
structure LedgerDb.WellFormed (db : LedgerDb) : Prop where
  session_ids : ∀ row ∈ db.sessions, row.id < db.sessions.length
  transfer_ids : ∀ row ∈ db.transfers, row.id < db.transfers.length
  transfer_nodup : (db.transfers.map SettlementTransfer.id).Nodup
  transfer_session : ∀ row ∈ db.transfers, row.session < db.sessions.length
  entry_session : ∀ entry ∈ db.entries, ∀ sessionId,
    entry.session = some sessionId → sessionId < db.sessions.length
  entry_amount : ∀ entry ∈ db.entries, 0 < entry.amount
  entry_settled : ∀ entry ∈ db.entries,
    entry.settled = true → entry.session ≠ none

/-- The tables of `db` with other entries, a session row in progress and its
transfers. -/
def LedgerDb.extend
    (db : LedgerDb) (entries : List LedgerEntry) (row : SettlementSession)
    (made : List SettlementTransfer) : LedgerDb where
  entries := entries
  sessions := db.sessions ++ [row]
  transfers := db.transfers ++ made

/-- Transfers which can be the rows of the session in progress. -/
structure LedgerDb.Owns (db : LedgerDb) (made : List SettlementTransfer) : Prop where
  nodup : (made.map SettlementTransfer.id).Nodup
  later : ∀ row ∈ made, db.transfers.length ≤ row.id
  session : ∀ row ∈ made, row.session = db.sessions.length

/-- Updating rows none of which is hit changes nothing. -/
theorem map_ite_of_none
    {Row : Type} {rows : List Row} {Hit : Row → Prop} [DecidablePred Hit]
    (change : Row → Row)
    (none : ∀ row ∈ rows, ¬ Hit row) :
    rows.map (fun row => if Hit row then change row else row) = rows := by
  rw [List.map_congr_left (g := id), List.map_id]
  intro row member
  exact if_neg (none row member)

theorem LedgerDb.updateSession_extend
    {db : LedgerDb} (wellFormed : db.WellFormed)
    (entries : List LedgerEntry) (made : List SettlementTransfer)
    {row : SettlementSession} (last : row.id = db.sessions.length)
    (change : SettlementSession → SettlementSession) :
    (db.extend entries row made).updateSession row.id change =
      db.extend entries (change row) made := by
  have older : ∀ other ∈ db.sessions, ¬ other.id = row.id := by
    intro other member same
    have bound := wellFormed.session_ids other member
    rw [same, last] at bound
    exact Nat.lt_irrefl _ bound
  simp only [LedgerDb.updateSession, LedgerDb.extend, List.map_append,
    map_ite_of_none change older, List.map_cons, List.map_nil, if_true]

theorem LedgerDb.updateTransfer_extend
    {db : LedgerDb} (wellFormed : db.WellFormed)
    (entries : List LedgerEntry) (row : SettlementSession)
    (made : List SettlementTransfer) {transferId : Uuid}
    (later : db.transfers.length ≤ transferId)
    (change : SettlementTransfer → SettlementTransfer) :
    (db.extend entries row made).updateTransfer transferId change =
      db.extend entries row
        (made.map fun other => if other.id = transferId then change other else other) := by
  have older : ∀ other ∈ db.transfers, ¬ other.id = transferId := by
    intro other member same
    have bound := wellFormed.transfer_ids other member
    rw [same] at bound
    exact Nat.not_lt_of_le later bound
  simp only [LedgerDb.updateTransfer, LedgerDb.extend, List.map_append,
    map_ite_of_none change older]

/-! ## Assignment -/

/-- Obligations of the entries which a run for the zone would take, newest
entries first. -/
def pendingObligations (zone : Zone) (db : LedgerDb) : List Obligation :=
  (db.entries.filter (LedgerEntry.isPending zone)).reverse.map LedgerEntry.obligation

/-- Number of the entries which a run for the zone would take. -/
def pendingCount (zone : Zone) (db : LedgerDb) : Nat :=
  (db.entries.filter (LedgerEntry.isPending zone)).length

/-- Sum of the entries which a run for the zone would take. -/
def pendingVolume (zone : Zone) (db : LedgerDb) : Decimal :=
  ((db.entries.filter (LedgerEntry.isPending zone)).map LedgerEntry.amount).sum

/-- Whether the totals of the pending entries fit their columns. -/
def TotalsFit (zone : Zone) (db : LedgerDb) : Prop :=
  pendingCount zone db ≤ 2147483647 ∧ fitsVolume (pendingVolume zone db) = true

theorem assignPendingEntriesToSession_extend
    {db : LedgerDb} (wellFormed : db.WellFormed)
    {session : SettlementSession} (last : session.id = db.sessions.length)
    (opened : session.status = .opened)
    (fit : TotalsFit session.zone db) :
    assignPendingEntriesToSession session (db.extend db.entries session []) =
      .ok (pendingCount session.zone db,
        session.withTotals (pendingCount session.zone db)
          (pendingVolume session.zone db),
        db.extend (db.entries.map (LedgerEntry.assignTo session.zone session.id))
          (session.withTotals (pendingCount session.zone db)
            (pendingVolume session.zone db)) []) := by
  have countFits : ¬ 2147483647 < pendingCount session.zone db :=
    Nat.not_lt_of_le fit.1
  have volumeFits : ¬ fitsVolume (pendingVolume session.zone db) = false := by
    simp [fit.2]
  have shape := LedgerDb.updateSession_extend wellFormed
    (db.entries.map (LedgerEntry.assignTo session.zone session.id)) [] last
    (SettlementSession.withTotals (pendingCount session.zone db)
      (pendingVolume session.zone db))
  simp only [assignPendingEntriesToSession]
  rw [if_neg (by simp [opened])]
  exact (if_neg countFits).trans ((if_neg volumeFits).trans (by rw [← shape]; rfl))

theorem assignPendingEntriesToSession_overflow
    (db : LedgerDb) (session : SettlementSession)
    (opened : session.status = .opened)
    (overflow : ¬ TotalsFit session.zone db) :
    ∃ error,
      assignPendingEntriesToSession session (db.extend db.entries session []) =
        .error error := by
  simp only [assignPendingEntriesToSession]
  rw [if_neg (by simp [opened])]
  by_cases countFits : pendingCount session.zone db ≤ 2147483647
  · have volume : fitsVolume (pendingVolume session.zone db) = false := by
      by_contra fits
      exact overflow ⟨countFits, by simpa using fits⟩
    exact ⟨_, (if_neg (Nat.not_lt_of_le countFits)).trans (if_pos volume)⟩
  · exact ⟨_, if_pos (Nat.lt_of_not_le countFits)⟩

/-- The assigned entries are the open entries of the session. -/
theorem isOpenIn_assignTo
    {db : LedgerDb} (wellFormed : db.WellFormed)
    (zone : Zone) {entry : LedgerEntry} (member : entry ∈ db.entries) :
    (entry.assignTo zone db.sessions.length).isOpenIn db.sessions.length =
      entry.isPending zone := by
  simp only [LedgerEntry.assignTo]
  split
  · rename_i pending
    rw [pending]
    simp only [LedgerEntry.isPending, Bool.and_eq_true] at pending
    simp [LedgerEntry.isOpenIn, pending.1.2]
  · rename_i notPending
    rw [Bool.not_eq_true _ |>.mp notPending]
    have other : entry.session ≠ some db.sessions.length := by
      intro same
      exact Nat.lt_irrefl _ (wellFormed.entry_session entry member _ same)
    simp [LedgerEntry.isOpenIn, other]

@[simp]
theorem obligation_assignTo
    (zone : Zone) (sessionId : Uuid) (entry : LedgerEntry) :
    (entry.assignTo zone sessionId).obligation = entry.obligation := by
  simp only [LedgerEntry.assignTo]
  split <;> rfl

/-- Netting works on the obligations of the pending entries. -/
theorem openObligations_assigned
    {db : LedgerDb} (wellFormed : db.WellFormed) (zone : Zone) :
    (openEntries db.sessions.length
      (db.entries.map (LedgerEntry.assignTo zone db.sessions.length))).map
        LedgerEntry.obligation = pendingObligations zone db := by
  have selected :
      db.entries.filter (LedgerEntry.isOpenIn db.sessions.length ∘
        LedgerEntry.assignTo zone db.sessions.length) =
      db.entries.filter (LedgerEntry.isPending zone) :=
    List.filter_congr fun entry member => isOpenIn_assignTo wellFormed zone member
  rw [openEntries, List.filter_map, selected, ← List.map_reverse, List.map_map,
    pendingObligations]
  apply List.map_congr_left
  intro entry _
  exact obligation_assignTo zone _ entry

/-! ## Netting -/

/-- Rows of the netting results, numbered from `firstId` on. -/
def transferRows (sessionId : Uuid) (zone : Zone) :
    Uuid → List NetTransfer → List SettlementTransfer
  | _, [] => []
  | firstId, net :: rest =>
      transferRow sessionId zone firstId net ::
        transferRows sessionId zone (firstId + 1) rest

/-- What a transfer moves. -/
def SettlementTransfer.net (transfer : SettlementTransfer) : NetTransfer where
  fromBankId := transfer.fromBankId
  toBankId := transfer.toBankId
  amount := transfer.amount

theorem transferRows_ids
    (sessionId : Uuid) (zone : Zone) (firstId : Uuid) (nets : List NetTransfer) :
    (transferRows sessionId zone firstId nets).map SettlementTransfer.id =
      List.range' firstId nets.length := by
  induction nets generalizing firstId with
  | nil => rfl
  | cons net rest induction =>
      simp only [transferRows, List.map_cons, List.length_cons, List.range'_succ,
        induction]
      rfl

theorem transferRows_net
    (sessionId : Uuid) (zone : Zone) (firstId : Uuid) (nets : List NetTransfer) :
    (transferRows sessionId zone firstId nets).map SettlementTransfer.net = nets := by
  induction nets generalizing firstId with
  | nil => rfl
  | cons net rest induction =>
      simp only [transferRows, List.map_cons, induction]
      rfl

theorem mem_transferRows
    {sessionId : Uuid} {zone : Zone} {firstId : Uuid} {nets : List NetTransfer}
    {row : SettlementTransfer}
    (member : row ∈ transferRows sessionId zone firstId nets) :
    row.session = sessionId ∧ row.status = .pending := by
  induction nets generalizing firstId with
  | nil => cases member
  | cons net rest induction =>
      rcases List.mem_cons.mp member with rfl | inRest
      · exact ⟨rfl, rfl⟩
      · exact induction inRest

/-- The transfers which a run for the zone creates. -/
def plannedTransfers (zone : Zone) (db : LedgerDb) : List SettlementTransfer :=
  transferRows db.sessions.length zone db.transfers.length
    (netObligations (pendingObligations zone db))

theorem owns_plannedTransfers (zone : Zone) (db : LedgerDb) :
    db.Owns (plannedTransfers zone db) where
  nodup := by
    rw [plannedTransfers, transferRows_ids]
    exact List.nodup_range'
  later := by
    intro row member
    have listed := List.mem_map_of_mem (f := SettlementTransfer.id) member
    rw [plannedTransfers, transferRows_ids] at listed
    exact (List.mem_range'_1.mp listed).1
  session := by
    intro row member
    exact (mem_transferRows member).1

theorem createTransfers_ok
    {session : SettlementSession} {firstId : Uuid} {nets : List NetTransfer}
    (valid : ∀ net ∈ nets,
      fitsVolume net.amount = true ∧ 0 < net.amount ∧ net.fromBankId ≠ net.toBankId) :
    createTransfers session firstId nets =
      .ok (transferRows session.id session.zone firstId nets) := by
  induction nets generalizing firstId with
  | nil => rfl
  | cons net rest induction =>
      rcases valid net List.mem_cons_self with ⟨fits, positive, distinct⟩
      have head :
          createTransfer session firstId net =
            .ok (transferRow session.id session.zone firstId net) := by
        simp only [createTransfer]
        rw [if_neg (by simp [fits]), if_neg (not_le.mpr positive), if_neg distinct]
      have tail :
          createTransfers session (firstId + 1) rest =
            .ok (transferRows session.id session.zone (firstId + 1) rest) :=
        induction fun other member => valid other (List.mem_cons_of_mem _ member)
      simp only [createTransfers, head, tail, transferRows]

/-- A net transfer is never larger than the obligations together. -/
theorem amount_netObligations_le
    {obligations : List Obligation}
    (positive : ∀ obligation ∈ obligations, 0 < obligation.amount)
    {net : NetTransfer} (member : net ∈ netObligations obligations) :
    net.amount ≤ (obligations.map Obligation.amount).sum := by
  have single :
      net.amount ≤ ((netObligations obligations).map NetTransfer.amount).sum := by
    apply List.single_le_sum _ _ (List.mem_map_of_mem member)
    intro amount listed
    rcases List.mem_map.mp listed with ⟨other, otherMember, rfl⟩
    exact (mem_netObligations otherMember).1.le
  have nonnegative : ∀ payment ∈ obligations.map Obligation.payment,
      0 ≤ payment.amount := by
    intro payment listed
    rcases List.mem_map.mp listed with ⟨obligation, obligationMember, rfl⟩
    exact (positive obligation obligationMember).le
  have gains :=
    sum_max_netInflow_le (participants obligations)
      (obligations.map Obligation.payment) nonnegative
  rw [List.map_map] at gains
  rw [sum_netObligations] at single
  exact single.trans gains

theorem runNetting_extend
    {db : LedgerDb} (wellFormed : db.WellFormed)
    {session : SettlementSession} (last : session.id = db.sessions.length)
    (netting : session.status = .netting)
    (fits : fitsVolume (pendingVolume session.zone db) = true) :
    let entries := db.entries.map (LedgerEntry.assignTo session.zone session.id)
    let made := plannedTransfers session.zone db
    runNetting session (db.extend entries session []) =
      .ok (made, session.toSettling, db.extend entries session.toSettling made) := by
  intro entries made
  have positive : ∀ obligation ∈ pendingObligations session.zone db,
      0 < obligation.amount := by
    intro obligation listed
    rcases List.mem_map.mp listed with ⟨entry, pending, rfl⟩
    exact wellFormed.entry_amount entry
      (List.mem_filter.mp (List.mem_reverse.mp pending)).1
  have volume :
      ((pendingObligations session.zone db).map Obligation.amount).sum =
        pendingVolume session.zone db := by
    rw [pendingObligations, List.map_map, List.map_reverse, List.sum_reverse]
    rfl
  have valid : ∀ net ∈ netObligations (pendingObligations session.zone db),
      fitsVolume net.amount = true ∧ 0 < net.amount ∧
        net.fromBankId ≠ net.toBankId := by
    intro net member
    have facts := mem_netObligations member
    have bound := amount_netObligations_le positive member
    rw [volume] at bound
    simp only [fitsVolume, Bool.and_eq_true, decide_eq_true_eq] at fits ⊢
    refine ⟨⟨lt_trans (by norm_num) facts.1, lt_of_le_of_lt bound fits.2⟩,
      facts.1, ?_⟩
    intro same
    have debt := facts.2.1
    rw [same] at debt
    exact lt_asymm debt facts.2.2
  have obligations :
      (openEntries session.id entries).map LedgerEntry.obligation =
        pendingObligations session.zone db := by
    show (openEntries session.id
      (db.entries.map (LedgerEntry.assignTo session.zone session.id))).map
        LedgerEntry.obligation = _
    rw [last]
    exact openObligations_assigned wellFormed session.zone
  have shape := LedgerDb.updateSession_extend wellFormed entries made last
    SettlementSession.toSettling
  have count : (db.extend entries session []).transfers.length =
      db.transfers.length := by
    simp [LedgerDb.extend]
  simp only [runNetting]
  rw [if_neg (by simp [netting])]
  have stored : (db.extend entries session []).entries = entries := rfl
  simp only [stored, obligations, count, createTransfers_ok valid]
  have rows :
      transferRows session.id session.zone db.transfers.length
        (netObligations (pendingObligations session.zone db)) = made := by
    rw [last]
    rfl
  rw [rows, ← shape]
  simp only [LedgerDb.extend, List.append_nil]

end Klik.Ledger
