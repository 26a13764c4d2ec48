import Klik.Ledger.EntryZones
import Klik.Ledger.NettedOnce
import Klik.Lib.RowTable

/-!
# Zones of a settlement

A session takes entries of its own zone only, and its transfers run between
the banks of the entries it has read.  Nothing checks the zone of a transfer:
that both of its banks are in the zone of its session is carried from the
entries through the tasks.
-/

namespace Klik.Ledger

open Klik.Common
open Klik.Ledger.Rtgs
open Klik.Lib

section Zones

variable (zoneOf : Uuid → Zone)

/-- Both banks of a transfer are in a zone, and so is its currency. -/
structure SettlementTransfer.InZone (zone : Zone) (transfer : SettlementTransfer) :
    Prop where
  fromBank : zoneOf transfer.fromBankId = zone
  toBank : zoneOf transfer.toBankId = zone
  currency : transfer.currency = zoneCurrency zone

/-- The key belongs to a session of the zone. -/
def SessionIn (sessions : List SettlementSession) (sessionId : Uuid) (zone : Zone) : Prop :=
  ∃ row ∈ sessions, row.id = sessionId ∧ row.zone = zone

/-- An entry which a session has taken is in the zone of the session. -/
def LedgerEntry.SessionFits (sessions : List SettlementSession) (entry : LedgerEntry) :
    Prop :=
  ∀ sessionId, entry.session = some sessionId → SessionIn sessions sessionId entry.zone

/-- A task works in the zone of its session: the object fits the row, the rows
which it has locked are of the zone, and so are the banks of the entries which
it has read. -/
structure SettlementStage.InZone (db : LedgerDb) (stage : SettlementStage) : Prop where
  session : ∀ session, stage.owned = some session →
    SessionIn db.sessions session.id session.zone
  locked : ∀ row ∈ stage.locked, ∀ session, stage.owned = some session →
    ∃ entry, db.entries[row]? = some entry ∧ entry.zone = session.zone
  input : ∀ session entries, stage = .writing session entries → ∀ entry ∈ entries,
    zoneOf entry.fromBankId = session.zone ∧ zoneOf entry.toBankId = session.zone

/-- Entries, transfers and tasks keep to the zones. -/
structure SessionZones (state : SettlementState) : Prop where
  entries : ∀ entry ∈ state.db.entries,
    entry.InZone zoneOf ∧ entry.SessionFits state.db.sessions
  transfers : ∀ transfer ∈ state.db.transfers, ∃ zone,
    SessionIn state.db.sessions transfer.session zone ∧ transfer.InZone zoneOf zone
  tasks : ∀ stage ∈ state.tasks, stage.InZone zoneOf state.db

end Zones

variable {zoneOf : Uuid → Zone}

/-! ## Sessions of a zone -/

/-- With one row to a key, a session is in one zone. -/
theorem SessionIn.unique
    {sessions : List SettlementSession} {sessionId : Uuid} {zone other : Zone}
    (ids : (sessions.map SettlementSession.id).Nodup)
    (here : SessionIn sessions sessionId zone) (there : SessionIn sessions sessionId other) :
    zone = other := by
  rcases here with ⟨row, member, id, rfl⟩
  rcases there with ⟨twin, twinMember, twinId, rfl⟩
  rw [List.inj_on_of_nodup_map ids member twinMember (id.trans twinId.symm)]

/-- The row at the key is the one of the zone. -/
theorem SessionIn.rowAt
    {sessions : List SettlementSession} {sessionId : Uuid} {zone : Zone}
    (ids : (sessions.map SettlementSession.id).Nodup)
    (here : SessionIn sessions sessionId zone) :
    ∃ session, Lib.rowAt SettlementSession.id sessions sessionId = some session ∧
      session.zone = zone := by
  rcases here with ⟨row, member, rfl, rfl⟩
  exact ⟨row, rowAt_of_mem ids member, rfl⟩

/-- Sessions stay in their zones. -/
theorem SessionsEffect.sessionIn
    {db after : LedgerDb} {stage : SettlementStage} {next : Option SettlementStage}
    (effect : SessionsEffect db stage after next) {sessionId : Uuid} {zone : Zone}
    (here : SessionIn db.sessions sessionId zone) :
    SessionIn after.sessions sessionId zone := by
  rcases here with ⟨row, member, id, rfl⟩
  cases effect with
  | kept sessions =>
      rw [sessions]
      exact ⟨row, member, id, rfl⟩
  | inserted zone known now _ sessions =>
      rw [sessions]
      exact ⟨row, List.mem_append_left _ member, id, rfl⟩
  | changed session change status owner sets sessions =>
      rw [sessions]
      refine ⟨_, List.mem_map_of_mem member, ?_, zone_of_changed sets session.id row⟩
      show (if row.id = session.id then change row else row).id = sessionId
      split
      · exact (sets.id row).trans id
      · exact id

/-- The object of the next step fits a row if the object of this one does. -/
theorem SessionsEffect.owned_sessionIn
    {db after : LedgerDb} {stage next : SettlementStage}
    (effect : SessionsEffect db stage after (some next))
    (fits : ∀ session, stage.owned = some session →
      SessionIn db.sessions session.id session.zone) :
    ∀ session, next.owned = some session →
      SessionIn after.sessions session.id session.zone := by
  have carries : ∀ {sessionId : Uuid} {zone : Zone},
      SessionIn db.sessions sessionId zone → SessionIn after.sessions sessionId zone :=
    effect.sessionIn
  intro session own
  cases effect with
  | kept sessions object owner =>
      rcases owner with ended | same
      · cases ended
      · rw [sessions]
        exact fits session (same ▸ own)
  | inserted zone known now _ sessions =>
      cases own
      rw [sessions]
      exact ⟨_, List.mem_append_right _ (List.mem_singleton_self _), rfl, rfl⟩
  | changed object change status owner sets sessions moved =>
      rcases moved with ended | ⟨_, same⟩
      · cases ended
      · cases Option.some.inj (own.symm.trans same)
        rw [sets.id, sets.zone]
        exact carries (fits object owner)

/-! ## Entries -/

/-- The banks, the zone and the currency of an entry are those of another. -/
structure SameParties (old entry : LedgerEntry) : Prop where
  fromBank : entry.fromBankId = old.fromBankId
  toBank : entry.toBankId = old.toBankId
  currency : entry.currency = old.currency
  zone : entry.zone = old.zone

theorem SameParties.inZone
    {old entry : LedgerEntry} (same : SameParties old entry) (inZone : old.InZone zoneOf) :
    entry.InZone zoneOf where
  fromBank := by rw [same.fromBank, same.zone, inZone.fromBank]
  toBank := by rw [same.toBank, same.zone, inZone.toBank]
  currency := by rw [same.currency, same.zone, inZone.currency]

theorem sameParties_markIf
    (sessionId : Uuid) (now : Instant) (condition : LedgerEntry → Bool)
    (entry : LedgerEntry) :
    SameParties entry (entry.markIf sessionId now condition) := by
  simp only [LedgerEntry.markIf]
  split
  · exact ⟨rfl, rfl, rfl, rfl⟩
  · exact ⟨rfl, rfl, rfl, rfl⟩

/-- Where an entry of the tables after a step of a task comes from: it has the
session which it had, or the one of the task, which had locked its row. -/
inductive EntryFrom (db : LedgerDb) (stage : SettlementStage) (entry : LedgerEntry) :
    Prop where
  | kept (old : LedgerEntry)
      (member : old ∈ db.entries)
      (parties : SameParties old entry)
      (same : entry.session = old.session) :
      EntryFrom db stage entry
  | taken (row : Nat) (old : LedgerEntry) (session : SettlementSession)
      (found : db.entries[row]? = some old)
      (parties : SameParties old entry)
      (locked : row ∈ stage.locked)
      (owner : stage.owned = some session)
      (assigned : entry.session = some session.id) :
      EntryFrom db stage entry

theorem entryFrom_same
    {db : LedgerDb} {entry : LedgerEntry} (stage : SettlementStage)
    (member : entry ∈ db.entries) : EntryFrom db stage entry :=
  .kept entry member ⟨rfl, rfl, rfl, rfl⟩ rfl

theorem entryFrom_assignRows
    {db : LedgerDb} {stage : SettlementStage} {session : SettlementSession}
    (owner : stage.owned = some session) {entry : LedgerEntry}
    (member : entry ∈ assignRows session.id stage.locked db.entries) :
    EntryFrom db stage entry := by
  rcases List.mem_mapIdx.mp member with ⟨row, bound, rfl⟩
  split
  · rename_i locked
    exact .taken row _ session (List.getElem?_eq_getElem bound) ⟨rfl, rfl, rfl, rfl⟩
      locked owner rfl
  · exact entryFrom_same stage (List.getElem_mem bound)

theorem entryFrom_markIf
    {db : LedgerDb} {stage : SettlementStage} {sessionId : Uuid} {now : Instant}
    {condition : LedgerEntry → Bool} {entry : LedgerEntry}
    (member : entry ∈ db.entries.map (LedgerEntry.markIf sessionId now condition)) :
    EntryFrom db stage entry := by
  rcases List.mem_map.mp member with ⟨old, oldMember, rfl⟩
  apply EntryFrom.kept old oldMember (sameParties_markIf sessionId now condition old)
  simp only [LedgerEntry.markIf]
  split <;> rfl

theorem assignRows_nil (sessionId : Uuid) (entries : List LedgerEntry) :
    assignRows sessionId [] entries = entries := by
  apply List.ext_getElem?
  intro row
  rw [getElem?_assignRows]
  simp

theorem entryFrom_stageStep
    (runtime : PyRuntime) (input : StepInput) (db : LedgerDb) (stage : SettlementStage) :
    ∀ entry ∈ (stageStep runtime input db stage).1.entries, EntryFrom db stage entry := by
  intro entry member
  cases stage with
  | updating session count total ahead taken =>
      simp only [stageStep] at member
      split at member
      · exact entryFrom_same _ member
      · exact entryFrom_assignRows rfl member
  | _ =>
      cases entriesEffect runtime input db _ with
      | kept entries =>
          rw [entries] at member
          exact entryFrom_same _ member
      | assigned sessionId entries =>
          -- Only the stage above has locked rows.
          rw [entries] at member
          rw [show SettlementStage.locked _ = [] from rfl, assignRows_nil] at member
          exact entryFrom_same _ member
      | marked sessionId now condition entries =>
          rw [entries] at member
          exact entryFrom_markIf member

/-- A task leaves every entry in its zone, and takes entries of the zone of
its session. -/
theorem EntryFrom.inZone
    {db : LedgerDb} {stage : SettlementStage} {entry : LedgerEntry}
    (origin : EntryFrom db stage entry)
    (entries : ∀ old ∈ db.entries, old.InZone zoneOf ∧ old.SessionFits db.sessions)
    (task : stage.InZone zoneOf db) :
    entry.InZone zoneOf ∧ entry.SessionFits db.sessions := by
  cases origin with
  | kept old member parties same =>
      rcases entries old member with ⟨inZone, fits⟩
      refine ⟨parties.inZone inZone, ?_⟩
      intro sessionId held
      rw [parties.zone]
      exact fits sessionId (same ▸ held)
  | taken row old session found parties locked owner assigned =>
      rcases entries old (List.mem_of_getElem? found) with ⟨inZone, _⟩
      refine ⟨parties.inZone inZone, ?_⟩
      intro sessionId held
      cases Option.some.inj (held.symm.trans assigned)
      rcases task.locked row locked session owner with ⟨own, ownFound, ownZone⟩
      cases Option.some.inj (found.symm.trans ownFound)
      rw [parties.zone, ownZone]
      exact task.session session owner

/-- Rows keep their parties in a step of a task. -/
theorem parties_stageStep
    (runtime : PyRuntime) (input : StepInput) (db : LedgerDb) (stage : SettlementStage) :
    RowsMove SameParties db.entries (stageStep runtime input db stage).1.entries := by
  cases entriesEffect runtime input db stage with
  | kept entries =>
      rw [entries]
      exact RowsMove.refl (fun _ => ⟨rfl, rfl, rfl, rfl⟩) _
  | assigned sessionId entries =>
      rw [entries]
      apply RowsMove.mapIdx
      intro row entry _
      split <;> exact ⟨rfl, rfl, rfl, rfl⟩
  | marked sessionId now condition entries =>
      rw [entries]
      exact RowsMove.map (sameParties_markIf sessionId now condition) _

/-! ## Transfers -/

/-- A net transfer runs between banks of the obligations. -/
theorem participants_of_mem_netObligations
    {obligations : List Obligation} {net : NetTransfer}
    (member : net ∈ netObligations obligations) :
    net.fromBankId ∈ participants obligations ∧ net.toBankId ∈ participants obligations := by
  have known : ∀ bank, owedPosition obligations bank ≠ 0 →
      bank ∈ participants obligations := by
    intro bank position
    by_contra unknown
    rw [← calculateNetPositions_keys, ← InsertionDict.get?_eq_none_iff] at unknown
    rw [← calculateNetPositions_getD, InsertionDict.getD, unknown] at position
    exact position rfl
  rcases mem_netObligations member with ⟨_, debt, credit⟩
  exact ⟨known _ debt.ne, known _ credit.ne'⟩

theorem createTransfers_rows
    {session : SettlementSession} {firstId : Uuid} {nets : List NetTransfer}
    {transfers : List SettlementTransfer}
    (created : createTransfers session firstId nets = .ok transfers) :
    transfers = transferRows session.id session.zone firstId nets := by
  induction nets generalizing firstId transfers with
  | nil =>
      cases created
      rfl
  | cons net rest induction =>
      simp only [createTransfers] at created
      split at created
      · cases created
      · rename_i first head
        split at created
        · cases created
        · rename_i others tail
          cases created
          simp only [createTransfer] at head
          split at head
          · cases head
          · split at head
            · cases head
            · split at head
              · cases head
              · cases head
                rw [induction tail]
                rfl

theorem currency_transferRows
    {sessionId : Uuid} {zone : Zone} {firstId : Uuid} {nets : List NetTransfer}
    {row : SettlementTransfer} (member : row ∈ transferRows sessionId zone firstId nets) :
    row.currency = zoneCurrency zone := by
  induction nets generalizing firstId with
  | nil => exact absurd member List.not_mem_nil
  | cons net rest induction =>
      rcases List.mem_cons.mp member with rfl | later
      · rfl
      · exact induction later

/-- The transfers of a netting are in the zone of the banks of its entries. -/
theorem inZone_transferRows
    {sessionId : Uuid} {zone : Zone} {firstId : Uuid} {entries : List LedgerEntry}
    (banks : ∀ entry ∈ entries,
      zoneOf entry.fromBankId = zone ∧ zoneOf entry.toBankId = zone)
    {row : SettlementTransfer}
    (member : row ∈ transferRows sessionId zone firstId
      (netObligations (entries.map LedgerEntry.obligation))) :
    row.InZone zoneOf zone := by
  have ofParticipant : ∀ bank ∈ participants (entries.map LedgerEntry.obligation),
      zoneOf bank = zone := by
    intro bank known
    simp only [participants, List.mem_toFinset, List.mem_flatMap, List.mem_map,
      List.mem_cons, List.not_mem_nil, or_false] at known
    rcases known with ⟨_, ⟨entry, entryMember, rfl⟩, rfl | rfl⟩
    · exact (banks entry entryMember).1
    · exact (banks entry entryMember).2
  have netted : row.net ∈ netObligations (entries.map LedgerEntry.obligation) := by
    have listed := List.mem_map_of_mem (f := SettlementTransfer.net) member
    rwa [transferRows_net] at listed
  rcases participants_of_mem_netObligations netted with ⟨debtor, creditor⟩
  constructor
  · exact ofParticipant _ debtor
  · exact ofParticipant _ creditor
  · exact currency_transferRows member

/-- The session, the banks and the currency of a transfer. -/
def SettlementTransfer.parties (transfer : SettlementTransfer) :
    Uuid × Uuid × Uuid × Currency :=
  (transfer.session, transfer.fromBankId, transfer.toBankId, transfer.currency)

/-- The effect of the next step of a task on the transfers. -/
inductive TransfersEffect (db : LedgerDb) (stage : SettlementStage) : LedgerDb → Prop where
  | kept {after : LedgerDb}
      (parties : after.transfers.map SettlementTransfer.parties =
        db.transfers.map SettlementTransfer.parties) :
      TransfersEffect db stage after
  | created {after : LedgerDb} (session : SettlementSession) (entries : List LedgerEntry)
      (stage_eq : stage = .writing session entries)
      (transfers : after.transfers = db.transfers ++
        transferRows session.id session.zone db.transfers.length
          (netObligations (entries.map LedgerEntry.obligation))) :
      TransfersEffect db stage after

/-- An update of columns which are not parties. -/
theorem parties_updateTransfer
    (db : LedgerDb) (transferId : Uuid) (change : SettlementTransfer → SettlementTransfer)
    (keeps : ∀ row, (change row).parties = row.parties) :
    (db.updateTransfer transferId change).transfers.map SettlementTransfer.parties =
      db.transfers.map SettlementTransfer.parties := by
  simp only [LedgerDb.updateTransfer, List.map_map]
  apply List.map_congr_left
  intro row _
  simp only [Function.comp_apply]
  split
  · exact keeps row
  · rfl

theorem parties_saveResult
    {runtime : PyRuntime} {transfers : List SettlementTransfer} {db after : LedgerDb}
    {result : TransferResult}
    (saved : saveResult runtime transfers db result = .ok after) :
    after.transfers.map SettlementTransfer.parties =
      db.transfers.map SettlementTransfer.parties := by
  simp only [saveResult] at saved
  split at saved
  · cases saved
    rfl
  · split at saved
    · cases saved
      exact parties_updateTransfer db _ _ fun _ => rfl
    · cases saved

theorem parties_foldl_applyResult
    (sessionId : Uuid) (now : Instant)
    (results : List (Uuid × SettlementTransferStatus)) (state : LedgerDb × Bool) :
    (results.foldl (applyResult sessionId now) state).1.transfers.map
        SettlementTransfer.parties =
      state.1.transfers.map SettlementTransfer.parties := by
  induction results generalizing state with
  | nil => rfl
  | cons result rest induction =>
      rw [List.foldl_cons, induction]
      simp only [applyResult]
      split
      · rfl
      · split
        · exact parties_updateTransfer state.1 _ _ fun _ => rfl
        · exact parties_updateTransfer state.1 _ _ fun _ => rfl

theorem parties_markSettled
    {session final : SettlementSession}
    {results : InsertionDict Uuid SettlementTransferStatus} {now : Instant}
    {db after : LedgerDb}
    (marked : markSettled session results now db = .ok (final, after)) :
    after.transfers.map SettlementTransfer.parties =
      db.transfers.map SettlementTransfer.parties := by
  have kept := parties_foldl_applyResult session.id now results (db, false)
  simp only [markSettled] at marked
  split at marked
  · cases marked
  · cases marked
    simp only [LedgerDb.updateSession]
    split
    · exact kept
    · exact kept

theorem transfersEffect
    (runtime : PyRuntime) (input : StepInput) (db : LedgerDb) (stage : SettlementStage) :
    TransfersEffect db stage (stageStep runtime input db stage).1 := by
  cases stage with
  | inserting zone known => exact .kept rfl
  | aggregated session count total => exact .kept rfl
  | settlingAll session => exact .kept rfl
  | closing session => exact .kept rfl
  | assigning session
  | updating session count total ahead taken
  | netting session
  | dispatching session transfers =>
      simp only [stageStep]
      split <;> exact .kept rfl
  | writing session entries =>
      simp only [stageStep]
      split
      · exact .kept rfl
      · rename_i transfers made
        apply TransfersEffect.created session entries rfl
        show db.transfers ++ transfers = _
        rw [createTransfers_rows made]
  | saving session transfers results ahead =>
      cases ahead with
      | nil => exact .kept rfl
      | cons result ahead =>
          simp only [stageStep]
          split
          · exact .kept rfl
          · rename_i saved
            exact .kept (parties_saveResult saved)
  | marking session results =>
      simp only [stageStep]
      split
      · exact .kept rfl
      · rename_i marked
        exact .kept (parties_markSettled marked)

/-- The transfers after a step of a task are in the zones of their sessions. -/
theorem TransfersEffect.inZone
    {db after : LedgerDb} {stage : SettlementStage}
    (effect : TransfersEffect db stage after) (task : stage.InZone zoneOf db)
    (transfers : ∀ transfer ∈ db.transfers, ∃ zone,
      SessionIn db.sessions transfer.session zone ∧ transfer.InZone zoneOf zone) :
    ∀ transfer ∈ after.transfers, ∃ zone,
      SessionIn db.sessions transfer.session zone ∧ transfer.InZone zoneOf zone := by
  intro transfer member
  cases effect with
  | kept parties =>
      have listed := List.mem_map_of_mem (f := SettlementTransfer.parties) member
      rw [parties] at listed
      rcases List.mem_map.mp listed with ⟨old, oldMember, same⟩
      simp only [SettlementTransfer.parties, Prod.mk.injEq] at same
      rcases same with ⟨session, fromBank, toBank, currency⟩
      rcases transfers old oldMember with ⟨zone, here, inZone⟩
      refine ⟨zone, session ▸ here, ?_⟩
      constructor
      · exact fromBank ▸ inZone.fromBank
      · exact toBank ▸ inZone.toBank
      · exact currency ▸ inZone.currency
  | created session entries stage_eq created =>
      rw [created] at member
      rcases List.mem_append.mp member with old | new
      · exact transfers transfer old
      · refine ⟨session.zone, ?_, ?_⟩
        · rw [(mem_transferRows new).1]
          apply task.session
          rw [stage_eq]
          rfl
        · exact inZone_transferRows (task.input session entries stage_eq) new

/-! ## Tasks -/

/-- What a task knows of the tables stays true while sessions and entries keep
their zones. -/
theorem SettlementStage.InZone.mono
    {db after : LedgerDb} {stage : SettlementStage} (task : stage.InZone zoneOf db)
    (sessions : ∀ {sessionId : Uuid} {zone : Zone},
      SessionIn db.sessions sessionId zone → SessionIn after.sessions sessionId zone)
    (entries : RowsMove SameParties db.entries after.entries) :
    stage.InZone zoneOf after where
  session session own := sessions (task.session session own)
  locked row taken session own := by
    rcases task.locked row taken session own with ⟨entry, found, zone⟩
    rcases entries row entry found with ⟨moved, movedFound, parties⟩
    exact ⟨moved, movedFound, parties.zone.trans zone⟩
  input := task.input

/-- The entries which a netting reads are of the zone of its session. -/
theorem input_inZone
    {db : LedgerDb} {session : SettlementSession}
    (ids : (db.sessions.map SettlementSession.id).Nodup)
    (entries : ∀ entry ∈ db.entries, entry.InZone zoneOf ∧ entry.SessionFits db.sessions)
    (own : SessionIn db.sessions session.id session.zone) :
    ∀ entry ∈ openEntries session.id db.entries,
      zoneOf entry.fromBankId = session.zone ∧ zoneOf entry.toBankId = session.zone := by
  intro entry member
  rcases List.mem_filter.mp (List.mem_reverse.mp member) with ⟨booked, opened⟩
  simp only [LedgerEntry.isOpenIn, Bool.and_eq_true, decide_eq_true_eq] at opened
  rcases entries entry booked with ⟨inZone, fits⟩
  have zone : entry.zone = session.zone :=
    SessionIn.unique ids (fits session.id opened.1) own
  exact ⟨inZone.fromBank.trans zone, inZone.toBank.trans zone⟩

/-- The task after its next step works in the zone of its session. -/
theorem inZone_stageStep
    {db : LedgerDb} {stage next : SettlementStage}
    (runtime : PyRuntime) (input : StepInput)
    (ids : (db.sessions.map SettlementSession.id).Nodup)
    (entries : ∀ entry ∈ db.entries, entry.InZone zoneOf ∧ entry.SessionFits db.sessions)
    (task : stage.InZone zoneOf db)
    (moved : (stageStep runtime input db stage).2 = some next) :
    next.InZone zoneOf (stageStep runtime input db stage).1 := by
  have effect := sessionsEffect runtime input db stage
  have free := locked_stageStep runtime input db stage
  rw [moved] at effect free
  have session := effect.owned_sessionIn task.session
  have locked : next.locked = [] := by simpa using free
  refine ⟨session, ?_, ?_⟩
  · rw [locked]
    exact fun row member => absurd member List.not_mem_nil
  · rintro object read rfl
    cases stage with
    | netting session =>
        simp only [stageStep] at moved
        split at moved
        · cases moved
        · cases moved
          exact input_inZone ids entries (task.session object rfl)
    | updating session count total ahead taken =>
        simp only [stageStep] at moved
        split at moved
        · cases moved
        · cases taken <;> cases moved
    | writing session entries =>
        simp only [stageStep] at moved
        split at moved
        · cases moved
        · rename_i transfers _
          cases transfers <;> cases moved
    | saving session transfers results ahead =>
        cases ahead with
        | nil => cases moved
        | cons result ahead =>
            simp only [stageStep] at moved
            split at moved <;> cases moved
    | assigning session
    | dispatching session transfers
    | marking session results =>
        simp only [stageStep] at moved
        split at moved <;> cases moved
    | _ => cases moved

/-- The `UPDATE` of a task takes rows of the zone of its session. -/
theorem SettlementStage.InZone.reach
    {db : LedgerDb} {stage : SettlementStage} (task : stage.InZone zoneOf db) (row : Nat) :
    (stage.reach row db.entries).InZone zoneOf db := by
  cases stage with
  | updating session count total ahead taken =>
      refine ⟨task.session, ?_, ?_⟩
      · intro other member object own
        cases own
        simp only [SettlementStage.reach, SettlementStage.locked] at member
        split at member
        · rename_i pending
          rcases List.mem_append.mp member with before | last
          · exact task.locked other before session rfl
          · cases List.mem_singleton.mp last
            simp only [rowIs, Option.any_eq_true] at pending
            rcases pending with ⟨entry, found, chosen⟩
            simp only [LedgerEntry.isPending, Bool.and_eq_true, decide_eq_true_eq]
              at chosen
            exact ⟨entry, found, chosen.1.1⟩
        · exact task.locked other member session rfl
      · intro object entries other
        cases other
  | _ => exact task

/-! ## Steps -/

section Steps

variable {state : SettlementState}

/-- A task which moves on without a commit. -/
theorem SessionZones.moveOn
    (zones : SessionZones zoneOf state) {place : Nat} {stage : SettlementStage}
    (going : state.tasks[place]? = some stage) {next : Option SettlementStage}
    (task : ∀ moved, next = some moved → moved.InZone zoneOf state.db) :
    SessionZones zoneOf
      { state with tasks := Lib.moveOn place next state.tasks } where
  entries := zones.entries
  transfers := zones.transfers
  tasks := by
    intro other member
    rcases (mem_moveOn going).mp member with moved | stays
    · exact task other moved
    · exact zones.tasks other (List.mem_of_mem_eraseIdx stays)

/-- The next step of a task keeps to the zones. -/
theorem SessionZones.advanced
    (zones : SessionZones zoneOf state) (owned : SessionsOwned state)
    {place : Nat} {stage : SettlementStage} (going : state.tasks[place]? = some stage)
    (runtime : PyRuntime) (input : StepInput) :
    SessionZones zoneOf (state.advanced runtime place stage input) := by
  have task := zones.tasks stage (List.mem_of_getElem? going)
  have effect := sessionsEffect runtime input state.db stage
  constructor
  · intro entry member
    rcases (entryFrom_stageStep runtime input state.db stage entry member).inZone
        zones.entries task with ⟨inZone, fits⟩
    exact ⟨inZone, fun sessionId held => effect.sessionIn (fits sessionId held)⟩
  · intro transfer member
    rcases (transfersEffect runtime input state.db stage).inZone task zones.transfers
        transfer member with ⟨zone, here, inZone⟩
    exact ⟨zone, effect.sessionIn here, inZone⟩
  · intro other member
    rcases (mem_moveOn going).mp member with moved | stays
    · exact inZone_stageStep runtime input owned.nodup zones.entries task moved
    · exact (zones.tasks other (List.mem_of_mem_eraseIdx stays)).mono effect.sessionIn
        (parties_stageStep runtime input state.db stage)

/-- Other operations may book entries of a zone. -/
theorem SessionZones.booked
    (zones : SessionZones zoneOf state) {created : List LedgerEntry}
    (fresh : ∀ entry ∈ created, entry.session = none)
    (inZone : ∀ entry ∈ created, entry.InZone zoneOf) :
    SessionZones zoneOf
      { state with db := { state.db with entries := state.db.entries ++ created } } where
  entries := by
    intro entry member
    rcases List.mem_append.mp member with old | new
    · exact zones.entries entry old
    · refine ⟨inZone entry new, ?_⟩
      intro sessionId held
      rw [fresh entry new] at held
      cases held
  transfers := zones.transfers
  tasks := by
    intro stage member
    have longer : RowsMove SameParties state.db.entries (state.db.entries ++ created) :=
      RowsMove.append (fun _ => ⟨rfl, rfl, rfl, rfl⟩) _ _
    exact (zones.tasks stage member).mono (fun here => here) longer

/-- Every step keeps to the zones if the entries which it books do. -/
theorem SessionZones.step
    {runtime : PyRuntime} (zones : SessionZones zoneOf state) (owned : SessionsOwned state)
    {action : SettlementAction} {after : SettlementState}
    (moved : SettlementMove runtime state action after)
    (books : ∀ drafts, action = .book drafts →
      ∀ draft ∈ drafts, draft.row.InZone zoneOf) :
    SessionZones zoneOf after := by
  cases moved with
  | ignored => exact zones
  | called zoneText zone idle =>
      refine ⟨zones.entries, zones.transfers, ?_⟩
      intro stage member
      rcases List.mem_append.mp member with before | last
      · exact zones.tasks stage before
      · cases List.mem_singleton.mp last
        constructor
        · intro session own
          cases own
        · intro row taken
          exact absurd taken List.not_mem_nil
        · intro session entries same
          cases same
  | reached place row stage going ahead free =>
      apply zones.moveOn going
      intro moved same
      cases same
      exact (zones.tasks stage (List.mem_of_getElem? going)).reach row
  | advanced place input stage going ready => exact zones.advanced owned going runtime input
  | lost place stage going =>
      apply zones.moveOn going
      intro moved same
      cases same
  | booked drafts =>
      apply zones.booked
      · rw [List.forall_mem_map]
        exact fun _ _ => rfl
      · rw [List.forall_mem_map]
        exact books drafts rfl

end Steps

end Klik.Ledger
