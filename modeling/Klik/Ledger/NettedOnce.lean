import Klik.Ledger.LedgerSystem
import Klik.Ledger.OneSession
import Klik.Lib.PlacedRows

/-!
# Entries in the input of a netting

The rows of an `UPDATE` are locked until it commits, so that an entry gets a
session once and keeps it, however many tasks of a zone run at the same time.
A netting reads the unsettled entries of its own session, and a session is
netted once: no entry is in the inputs of two nettings, and a settled entry
is never read again.
-/

namespace Klik.Ledger

open Klik.Common
open Klik.Ledger.Rtgs
open Klik.Lib

/-! ## Entries over time -/

/-- What may become of an entry: it keeps the session which it has got, and
nothing changes once it is settled. -/
structure EntryMove (before after : LedgerEntry) : Prop where
  session : ∀ sessionId, before.session = some sessionId → after.session = some sessionId
  settled : before.settled = true → after = before

theorem EntryMove.refl (entry : LedgerEntry) : EntryMove entry entry :=
  ⟨fun _ same => same, fun _ => rfl⟩

theorem EntryMove.trans
    {first second third : LedgerEntry}
    (before : EntryMove first second) (after : EntryMove second third) :
    EntryMove first third where
  session sessionId held := after.session sessionId (before.session sessionId held)
  settled paid := by
    have same := before.settled paid
    rw [after.settled (same ▸ paid), same]

/-- An entry with its time of settlement where it is settled, and only there. -/
def LedgerEntry.Dated (entry : LedgerEntry) : Prop :=
  entry.settled = true ↔ entry.settledAt ≠ none

theorem mem_rowsWhere
    {selected : LedgerEntry → Bool} {entries : List LedgerEntry} {row : Nat} :
    row ∈ rowsWhere selected entries ↔
      ∃ entry, entries[row]? = some entry ∧ selected entry = true := by
  simp only [rowsWhere, List.mem_filter, List.mem_range, Option.any_eq_true]
  constructor
  · exact fun both => both.2
  · rintro ⟨entry, found, chosen⟩
    exact ⟨(List.getElem?_eq_some_iff.mp found).1, entry, found, chosen⟩

theorem getElem?_assignRows
    (sessionId : Uuid) (taken : List Nat) (entries : List LedgerEntry) (row : Nat) :
    (assignRows sessionId taken entries)[row]? =
      entries[row]?.map fun entry =>
        if row ∈ taken then { entry with session := some sessionId } else entry := by
  simp only [assignRows, List.getElem?_mapIdx]

/-- A row which no session has and which is not settled. -/
def Unassigned (entries : List LedgerEntry) (row : Nat) : Prop :=
  ∃ entry, entries[row]? = some entry ∧ entry.session = none ∧ entry.settled = false

theorem rowsMove_assignRows
    {sessionId : Uuid} {taken : List Nat} {entries : List LedgerEntry}
    (unassigned : ∀ row ∈ taken, Unassigned entries row) :
    RowsMove EntryMove entries (assignRows sessionId taken entries) := by
  apply RowsMove.mapIdx
  intro row entry found
  split
  · rename_i member
    rcases unassigned row member with ⟨free, freeFound, none, unsettled⟩
    cases Option.some.inj (found.symm.trans freeFound)
    constructor
    · intro other held
      rw [none] at held
      cases held
    · intro settled
      rw [unsettled] at settled
      cases settled
  · exact .refl entry

theorem entryMove_markIf
    (sessionId : Uuid) (now : Instant) (condition : LedgerEntry → Bool)
    (entry : LedgerEntry) :
    EntryMove entry (entry.markIf sessionId now condition) where
  session other held := by
    simp only [LedgerEntry.markIf]
    split <;> exact held
  settled paid := by
    apply markIf_of_false
    simp [LedgerEntry.isOpenIn, paid]

/-! ## What a step does to the entries -/

/-- The effect of the next step of a task on the entries. -/
inductive EntriesEffect (db : LedgerDb) (stage : SettlementStage) : LedgerDb → Prop where
  | kept {after : LedgerDb} (entries : after.entries = db.entries) :
      EntriesEffect db stage after
  | assigned {after : LedgerDb} (sessionId : Uuid)
      (entries : after.entries = assignRows sessionId stage.locked db.entries) :
      EntriesEffect db stage after
  | marked {after : LedgerDb} (sessionId : Uuid) (now : Instant)
      (condition : LedgerEntry → Bool)
      (entries : after.entries =
        db.entries.map (LedgerEntry.markIf sessionId now condition)) :
      EntriesEffect db stage after

theorem map_markIf_false
    (sessionId : Uuid) (now : Instant) (entries : List LedgerEntry) :
    entries.map (LedgerEntry.markIf sessionId now fun _ => false) = entries := by
  rw [List.map_congr_left (g := id), List.map_id]
  intro entry _
  exact markIf_of_false (by simp)

theorem foldl_applyResult_entries
    (sessionId : Uuid) (now : Instant)
    (results : List (Uuid × SettlementTransferStatus)) (state : LedgerDb × Bool) :
    ∃ condition, (results.foldl (applyResult sessionId now) state).1.entries =
      state.1.entries.map (LedgerEntry.markIf sessionId now condition) := by
  induction results generalizing state with
  | nil => exact ⟨fun _ => false, (map_markIf_false sessionId now _).symm⟩
  | cons result rest induction =>
      rcases induction (applyResult sessionId now state result) with ⟨later, rest_eq⟩
      rw [List.foldl_cons, rest_eq]
      simp only [applyResult]
      split
      · exact ⟨later, rfl⟩
      · split
        · simp only [List.map_map, Function.comp_def, markIf_markIf]
          exact ⟨_, rfl⟩
        · exact ⟨later, rfl⟩

theorem markSettled_entries
    {session final : SettlementSession}
    {results : InsertionDict Uuid SettlementTransferStatus} {now : Instant}
    {db after : LedgerDb}
    (marked : markSettled session results now db = .ok (final, after)) :
    ∃ condition, after.entries =
      db.entries.map (LedgerEntry.markIf session.id now condition) := by
  simp only [markSettled] at marked
  split at marked
  · cases marked
  · cases marked
    rcases foldl_applyResult_entries session.id now results (db, false) with
      ⟨condition, entries⟩
    simp only [LedgerDb.updateSession]
    split
    · exact ⟨condition, entries⟩
    · simp only [entries, List.map_map, Function.comp_def, markIf_markIf]
      exact ⟨_, rfl⟩

theorem entriesEffect
    (runtime : PyRuntime) (input : StepInput) (db : LedgerDb) (stage : SettlementStage) :
    EntriesEffect db stage (stageStep runtime input db stage).1 := by
  cases stage with
  | inserting zone known => exact .kept rfl
  | assigning session =>
      simp only [stageStep]
      split <;> exact .kept rfl
  | aggregated session count total => exact .kept rfl
  | updating session count total ahead taken =>
      simp only [stageStep]
      split
      · exact .kept rfl
      · exact .assigned session.id rfl
  | netting session =>
      simp only [stageStep]
      split <;> exact .kept rfl
  | writing session entries =>
      simp only [stageStep]
      split <;> exact .kept rfl
  | settlingAll session => exact .marked session.id input.now _ rfl
  | closing session => exact .kept rfl
  | dispatching session transfers =>
      simp only [stageStep]
      split <;> exact .kept rfl
  | saving session transfers results ahead =>
      cases ahead with
      | nil => exact .kept rfl
      | cons result ahead =>
          simp only [stageStep]
          split
          · exact .kept rfl
          · rename_i saved
            exact .kept (saveResult_keeps saved).2
  | marking session results =>
      simp only [stageStep]
      split
      · exact .kept rfl
      · rename_i marked
        rcases markSettled_entries marked with ⟨condition, entries⟩
        exact .marked session.id input.now condition entries

/-- The locks of a task end with its transaction. -/
theorem locked_stageStep
    (runtime : PyRuntime) (input : StepInput) (db : LedgerDb) (stage : SettlementStage) :
    (stageStep runtime input db stage).2.toList.flatMap SettlementStage.locked = [] := by
  cases stage with
  | inserting zone known => rfl
  | aggregated session count total => rfl
  | settlingAll session => rfl
  | closing session => rfl
  | saving session transfers results ahead =>
      cases ahead with
      | nil => rfl
      | cons result ahead =>
          simp only [stageStep]
          split <;> rfl
  | assigning session
  | netting session
  | dispatching session transfers
  | marking session results =>
      simp only [stageStep]
      split <;> rfl
  | updating session count total ahead taken =>
      simp only [stageStep]
      split
      · rfl
      · cases taken <;> rfl
  | writing session entries =>
      simp only [stageStep]
      split
      · rfl
      · rename_i transfers _
        cases transfers <;> rfl

/-- The session whose entries a task has yet to read for its netting. -/
def SettlementStage.awaits : SettlementStage → List Uuid
  | .assigning session
  | .aggregated session _ _
  | .updating session _ _ _ _
  | .netting session => [session.id]
  | _ => []

/-- A step reads the entries of the session which its task awaited to read. -/
theorem awaits_stageStep
    (runtime : PyRuntime) (input : StepInput) (db : LedgerDb) (stage : SettlementStage)
    (owner : stage.owned ≠ none) :
    ((stageStep runtime input db stage).2.toList.flatMap SettlementStage.awaits ++
      (stage.reads db.entries).map NettingInput.session).Sublist stage.awaits := by
  cases stage with
  | inserting zone known => exact absurd rfl owner
  | aggregated session count total => exact List.Sublist.refl _
  | settlingAll session => exact List.nil_sublist _
  | closing session => exact List.nil_sublist _
  | saving session transfers results ahead =>
      cases ahead with
      | nil => exact List.nil_sublist _
      | cons result ahead =>
          simp only [stageStep]
          split <;> exact List.nil_sublist _
  | dispatching session transfers
  | marking session results =>
      simp only [stageStep]
      split <;> exact List.nil_sublist _
  | assigning session =>
      simp only [stageStep]
      split
      · exact List.nil_sublist _
      · exact List.Sublist.refl _
  | netting session =>
      simp only [stageStep, SettlementStage.reads]
      split
      · exact List.nil_sublist _
      · exact List.Sublist.refl _
  | updating session count total ahead taken =>
      simp only [stageStep]
      split
      · exact List.nil_sublist _
      · cases taken with
        | nil => exact List.nil_sublist _
        | cons row rest => exact List.Sublist.refl _
  | writing session entries =>
      simp only [stageStep]
      split
      · exact List.nil_sublist _
      · rename_i transfers _
        cases transfers <;> exact List.nil_sublist _

/-- The rows which a step reads are unsettled entries of the session. -/
theorem reads_open
    {stage : SettlementStage} {entries : List LedgerEntry} {input : NettingInput}
    (read : input ∈ stage.reads entries) {row : Nat} (member : row ∈ input.rows) :
    ∃ entry, entries[row]? = some entry ∧ entry.session = some input.session ∧
      entry.settled = false := by
  cases stage with
  | netting session =>
      simp only [SettlementStage.reads] at read
      split at read
      · exact absurd read List.not_mem_nil
      · cases List.mem_singleton.mp read
        rcases mem_rowsWhere.mp member with ⟨entry, found, opened⟩
        simp only [LedgerEntry.isOpenIn, Bool.and_eq_true, decide_eq_true_eq,
          Bool.not_eq_true'] at opened
        exact ⟨entry, found, opened⟩
  | _ => exact absurd read List.not_mem_nil

/-! ## Each entry in one input -/

/-- Sessions which are still to be netted, and those which were. -/
def SettlementState.nettedOrAwaited (state : SettlementState) : List Uuid :=
  state.tasks.flatMap SettlementStage.awaits ++ state.inputs.map NettingInput.session

/-- Locks and inputs fit the entries. -/
structure EntriesHeld (state : SettlementState) : Prop where
  /-- A session is netted once. -/
  known : ∀ sessionId ∈ state.nettedOrAwaited, sessionId < state.db.sessions.length
  once : state.nettedOrAwaited.Nodup
  /-- A row is locked by one task, and no session has it. -/
  locked : state.locked.Nodup
  unassigned : ∀ row ∈ state.locked, Unassigned state.db.entries row
  /-- What was read belongs to the session. -/
  inputs : ∀ input ∈ state.inputs, ∀ row ∈ input.rows, ∃ entry,
    state.db.entries[row]? = some entry ∧ entry.session = some input.session
  dated : ∀ entry ∈ state.db.entries, entry.Dated

theorem dated_markIf
    (sessionId : Uuid) (now : Instant) (condition : LedgerEntry → Bool)
    {entry : LedgerEntry} (dated : entry.Dated) :
    (entry.markIf sessionId now condition).Dated := by
  simp only [LedgerEntry.markIf]
  split
  · exact iff_of_true rfl (Option.some_ne_none now)
  · exact dated

theorem unassigned_markIf
    {entries : List LedgerEntry} {row : Nat} (free : Unassigned entries row)
    (sessionId : Uuid) (now : Instant) (condition : LedgerEntry → Bool) :
    Unassigned (entries.map (LedgerEntry.markIf sessionId now condition)) row := by
  rcases free with ⟨entry, found, none, unsettled⟩
  refine ⟨entry, ?_, none, unsettled⟩
  rw [List.getElem?_map, found]
  refine congrArg some (markIf_of_false ?_)
  simp [LedgerEntry.isOpenIn, none]

theorem unassigned_assignRows
    {entries : List LedgerEntry} {row : Nat} (free : Unassigned entries row)
    (sessionId : Uuid) {taken : List Nat} (other : row ∉ taken) :
    Unassigned (assignRows sessionId taken entries) row := by
  rcases free with ⟨entry, found, none, unsettled⟩
  refine ⟨entry, ?_, none, unsettled⟩
  rw [getElem?_assignRows, found]
  exact congrArg some (if_neg other)

theorem inputs_move
    {before after : List LedgerEntry} (moves : RowsMove EntryMove before after)
    {row : Nat} {sessionId : Uuid}
    (held : ∃ entry, before[row]? = some entry ∧ entry.session = some sessionId) :
    ∃ entry, after[row]? = some entry ∧ entry.session = some sessionId := by
  rcases held with ⟨entry, found, session⟩
  rcases moves row entry found with ⟨moved, movedFound, move⟩
  exact ⟨moved, movedFound, move.session sessionId session⟩

/-- The effect of a commit on the entries, given that the rows it locked are
free. -/
theorem EntriesEffect.moves
    {db after : LedgerDb} {stage : SettlementStage}
    (effect : EntriesEffect db stage after)
    (unassigned : ∀ row ∈ stage.locked, Unassigned db.entries row) :
    RowsMove EntryMove db.entries after.entries := by
  cases effect with
  | kept entries =>
      rw [entries]
      exact RowsMove.refl EntryMove.refl _
  | assigned sessionId entries =>
      rw [entries]
      exact rowsMove_assignRows unassigned
  | marked sessionId now condition entries =>
      rw [entries]
      exact RowsMove.map (entryMove_markIf sessionId now condition) _

theorem EntriesEffect.dated
    {db after : LedgerDb} {stage : SettlementStage}
    (effect : EntriesEffect db stage after)
    (dated : ∀ entry ∈ db.entries, entry.Dated) :
    ∀ entry ∈ after.entries, entry.Dated := by
  cases effect with
  | kept entries =>
      rw [entries]
      exact dated
  | assigned sessionId entries =>
      rw [entries]
      intro entry member
      rcases List.mem_mapIdx.mp member with ⟨row, bound, rfl⟩
      have before := dated _ (List.getElem_mem bound)
      split <;> exact before
  | marked sessionId now condition entries =>
      rw [entries, List.forall_mem_map]
      intro entry member
      exact dated_markIf sessionId now condition (dated entry member)

/-- Rows which other tasks have locked stay free. -/
theorem EntriesEffect.unassigned
    {db after : LedgerDb} {stage : SettlementStage}
    (effect : EntriesEffect db stage after) {row : Nat}
    (free : Unassigned db.entries row) (other : row ∉ stage.locked) :
    Unassigned after.entries row := by
  cases effect with
  | kept entries =>
      rw [entries]
      exact free
  | assigned sessionId entries =>
      rw [entries]
      exact unassigned_assignRows free sessionId other
  | marked sessionId now condition entries =>
      rw [entries]
      exact unassigned_markIf free sessionId now condition

section Held

variable {state : SettlementState} {place : Nat} {stage : SettlementStage}

/-- Sessions which the other tasks await, and those which were netted. -/
def SettlementState.otherwiseNetted (state : SettlementState) (place : Nat) : List Uuid :=
  (state.tasks.eraseIdx place).flatMap SettlementStage.awaits ++
    state.inputs.map NettingInput.session

theorem nettedOrAwaited_perm (going : state.tasks[place]? = some stage) :
    state.nettedOrAwaited.Perm (stage.awaits ++ state.otherwiseNetted place) := by
  simp only [SettlementState.nettedOrAwaited, SettlementState.otherwiseNetted,
    ← List.append_assoc]
  exact (flatMap_perm_eraseIdx going _).append_right _

theorem nettedOrAwaited_moveOn
    (going : state.tasks[place]? = some stage) (db : LedgerDb)
    (next : Option SettlementStage) (read : List NettingInput) :
    SettlementState.nettedOrAwaited
        ⟨db, moveOn place next state.tasks, state.inputs ++ read⟩ |>.Perm
      ((next.toList.flatMap SettlementStage.awaits ++ read.map NettingInput.session) ++
        state.otherwiseNetted place) := by
  simp only [SettlementState.nettedOrAwaited, SettlementState.otherwiseNetted,
    List.map_append]
  apply ((flatMap_perm_moveOn going next _).append_right _).trans
  simp only [List.append_assoc]
  apply List.Perm.append_left
  rw [← List.append_assoc]
  exact List.perm_append_comm

/-- A task which moves on with a part of what it awaits, and reads the rest. -/
theorem EntriesHeld.netted_moveOn
    (held : EntriesHeld state) (going : state.tasks[place]? = some stage)
    {db : LedgerDb} (length : state.db.sessions.length ≤ db.sessions.length)
    {next : Option SettlementStage} {read : List NettingInput}
    (fewer : (next.toList.flatMap SettlementStage.awaits ++
      read.map NettingInput.session).Sublist stage.awaits) :
    let after : SettlementState :=
      ⟨db, moveOn place next state.tasks, state.inputs ++ read⟩
    (∀ sessionId ∈ after.nettedOrAwaited, sessionId < db.sessions.length) ∧
      after.nettedOrAwaited.Nodup := by
  intro after
  have before := nettedOrAwaited_perm going
  have later := nettedOrAwaited_moveOn going db next read
  have part := fewer.append_right (state.otherwiseNetted place)
  constructor
  · intro sessionId member
    apply lt_of_lt_of_le _ length
    exact held.known sessionId (before.mem_iff.mpr (part.subset (later.mem_iff.mp member)))
  · exact later.nodup_iff.mpr ((before.nodup_iff.mp held.once).sublist part)

/-- A task which has inserted its session awaits it. -/
theorem EntriesHeld.netted_inserted
    (held : EntriesHeld state) (going : state.tasks[place]? = some stage)
    (none : stage.awaits = []) {db : LedgerDb} {session : SettlementSession}
    (id : session.id = state.db.sessions.length)
    (length : state.db.sessions.length < db.sessions.length) :
    let after : SettlementState :=
      ⟨db, moveOn place (some (.assigning session)) state.tasks, state.inputs ++ []⟩
    (∀ sessionId ∈ after.nettedOrAwaited, sessionId < db.sessions.length) ∧
      after.nettedOrAwaited.Nodup := by
  intro after
  have before := nettedOrAwaited_perm going
  rw [none, List.nil_append] at before
  have later := nettedOrAwaited_moveOn going db (some (.assigning session)) []
  have known : ∀ sessionId ∈ state.otherwiseNetted place,
      sessionId < state.db.sessions.length := by
    intro sessionId member
    exact held.known sessionId (before.mem_iff.mpr member)
  constructor
  · intro sessionId member
    rcases List.mem_append.mp (later.mem_iff.mp member) with own | other
    · cases List.mem_singleton.mp own
      rw [id]
      exact length
    · exact (known sessionId other).trans length
  · apply later.nodup_iff.mpr
    apply List.nodup_cons.mpr
    refine ⟨?_, before.nodup_iff.mp held.once⟩
    intro member
    exact lt_irrefl _ (id ▸ known session.id member)

theorem SessionsEffect.length_le
    {db after : LedgerDb} {next : Option SettlementStage}
    (effect : SessionsEffect db stage after next) :
    db.sessions.length ≤ after.sessions.length := by
  cases effect with
  | kept sessions => rw [sessions]
  | inserted zone known now _ sessions =>
      rw [sessions, List.length_append]
      exact Nat.le_add_right _ _
  | changed session change status owner sets sessions =>
      rw [sessions]
      simp only [LedgerDb.updateSession, List.length_map, le_refl]

/-- Rows which another task has locked are free of this one's. -/
theorem EntriesHeld.locked_apart
    (held : EntriesHeld state) (going : state.tasks[place]? = some stage) {row : Nat}
    (member : row ∈ (state.tasks.eraseIdx place).flatMap SettlementStage.locked) :
    row ∈ state.locked ∧ row ∉ stage.locked := by
  have split := flatMap_perm_eraseIdx going SettlementStage.locked
  constructor
  · exact split.mem_iff.mpr (List.mem_append_right _ member)
  · intro own
    exact (List.nodup_append.mp (split.nodup_iff.mp held.locked)).2.2 row own row member rfl

theorem EntriesHeld.unassigned_own
    (held : EntriesHeld state) (going : state.tasks[place]? = some stage) :
    ∀ row ∈ stage.locked, Unassigned state.db.entries row := by
  intro row member
  exact held.unassigned row (List.mem_flatMap_of_mem (List.mem_of_getElem? going) member)

theorem EntriesHeld.netted_advanced
    (held : EntriesHeld state) (going : state.tasks[place]? = some stage)
    (runtime : PyRuntime) (input : StepInput) :
    let after := state.advanced runtime place stage input
    (∀ sessionId ∈ after.nettedOrAwaited, sessionId < after.db.sessions.length) ∧
      after.nettedOrAwaited.Nodup := by
  by_cases owner : stage.owned = none
  · cases stage with
    | inserting zone known =>
        refine held.netted_inserted going rfl rfl ?_
        simp [stageStep]
    | _ => cases owner
  · have length := (sessionsEffect runtime input state.db stage).length_le
    exact held.netted_moveOn going length
      (awaits_stageStep runtime input state.db stage owner)

/-- A step of a task keeps the locks and the inputs fitting. -/
theorem EntriesHeld.advanced
    (held : EntriesHeld state) (going : state.tasks[place]? = some stage)
    (runtime : PyRuntime) (input : StepInput) :
    EntriesHeld (state.advanced runtime place stage input) := by
  have effect := entriesEffect runtime input state.db stage
  have moves := effect.moves (held.unassigned_own going)
  have netted := held.netted_advanced going runtime input
  have locks : (state.advanced runtime place stage input).locked.Perm
      ((state.tasks.eraseIdx place).flatMap SettlementStage.locked) := by
    have permuted := flatMap_perm_moveOn going (stageStep runtime input state.db stage).2
      SettlementStage.locked
    rwa [locked_stageStep, List.nil_append] at permuted
  have before := flatMap_perm_eraseIdx going SettlementStage.locked
  refine ⟨netted.1, netted.2, ?_, ?_, ?_, effect.dated held.dated⟩
  · rw [locks.nodup_iff]
    exact (List.nodup_append.mp (before.nodup_iff.mp held.locked)).2.1
  · intro row member
    rcases held.locked_apart going (locks.mem_iff.mp member) with ⟨known, other⟩
    exact effect.unassigned (held.unassigned row known) other
  · intro read member row rowMember
    apply inputs_move moves
    rcases List.mem_append.mp member with earlier | now
    · exact held.inputs read earlier row rowMember
    · rcases reads_open now rowMember with ⟨entry, found, session, _⟩
      exact ⟨entry, found, session⟩

theorem locked_reach
    (row : Nat) (entries : List LedgerEntry) (stage : SettlementStage) :
    (stage.reach row entries).locked = stage.locked ∨
      (stage.reach row entries).locked = stage.locked ++ [row] ∧ Unassigned entries row := by
  cases stage with
  | updating session count total ahead taken =>
      simp only [SettlementStage.reach, SettlementStage.locked]
      split
      · rename_i pending
        right
        simp only [rowIs, Option.any_eq_true] at pending
        rcases pending with ⟨entry, found, chosen⟩
        simp only [LedgerEntry.isPending, Bool.and_eq_true, Bool.not_eq_true',
          Option.isNone_iff_eq_none] at chosen
        exact ⟨rfl, entry, found, chosen.2, chosen.1.2⟩
      · exact .inl rfl
  | _ => exact .inl rfl

theorem awaits_reach (row : Nat) (entries : List LedgerEntry) (stage : SettlementStage) :
    (stage.reach row entries).awaits = stage.awaits := by
  cases stage <;> rfl

/-- A task which moves on without a commit, holding rows which are free. -/
theorem EntriesHeld.moveOn
    (held : EntriesHeld state) (going : state.tasks[place]? = some stage)
    {next : Option SettlementStage}
    (fewer : (next.toList.flatMap SettlementStage.awaits).Sublist stage.awaits)
    (once : (next.toList.flatMap SettlementStage.locked ++
      (state.tasks.eraseIdx place).flatMap SettlementStage.locked).Nodup)
    (unassigned : ∀ row ∈ next.toList.flatMap SettlementStage.locked,
      Unassigned state.db.entries row) :
    EntriesHeld { state with tasks := Lib.moveOn place next state.tasks } := by
  have awaited : (next.toList.flatMap SettlementStage.awaits ++
      ([] : List NettingInput).map NettingInput.session).Sublist stage.awaits := by
    simpa using fewer
  have netted := held.netted_moveOn going (le_refl state.db.sessions.length) awaited
  rw [List.append_nil] at netted
  have locks := flatMap_perm_moveOn going next SettlementStage.locked
  refine ⟨netted.1, netted.2, locks.nodup_iff.mpr once, ?_, held.inputs, held.dated⟩
  intro row member
  rcases List.mem_append.mp (locks.mem_iff.mp member) with own | other
  · exact unassigned row own
  · exact held.unassigned row (held.locked_apart going other).1

/-- The `UPDATE` of a task takes a row which no task has locked. -/
theorem EntriesHeld.reached
    (held : EntriesHeld state) (going : state.tasks[place]? = some stage)
    {row : Nat} (free : row ∉ state.locked) :
    EntriesHeld
      { state with
        tasks := Lib.moveOn place (some (stage.reach row state.db.entries))
          state.tasks } := by
  have before := flatMap_perm_eraseIdx going SettlementStage.locked
  have once := before.nodup_iff.mp held.locked
  apply held.moveOn going
  · simp only [Option.toList_some, List.flatMap_singleton, awaits_reach]
    exact List.Sublist.refl _
  · simp only [Option.toList_some, List.flatMap_singleton]
    rcases locked_reach row state.db.entries stage with same | ⟨taken, _⟩
    · rw [same]
      exact once
    · rw [taken, List.append_assoc]
      apply (List.perm_middle.nodup_iff).mpr
      apply List.nodup_cons.mpr
      exact ⟨fun member => free (before.mem_iff.mpr member), once⟩
  · intro other member
    simp only [Option.toList_some, List.flatMap_singleton] at member
    rcases locked_reach row state.db.entries stage with same | ⟨taken, unassigned⟩
    · rw [same] at member
      exact held.unassigned_own going other member
    · rw [taken] at member
      rcases List.mem_append.mp member with own | last
      · exact held.unassigned_own going other own
      · rw [List.mem_singleton.mp last]
        exact unassigned

/-- Every step keeps the locks and the inputs fitting. -/
theorem EntriesHeld.step
    {runtime : PyRuntime} (held : EntriesHeld state)
    {action : SettlementAction} {after : SettlementState}
    (moved : SettlementMove runtime state action after) :
    EntriesHeld after := by
  cases moved with
  | ignored => exact held
  | called zoneText zone idle =>
      have locks : SettlementState.locked
          { state with
            tasks := state.tasks ++ [.inserting zone state.db.sessions.length] } =
              state.locked := by
        simp [SettlementState.locked, SettlementStage.locked]
      have netted : SettlementState.nettedOrAwaited
          { state with
            tasks := state.tasks ++ [.inserting zone state.db.sessions.length] } =
              state.nettedOrAwaited := by
        simp [SettlementState.nettedOrAwaited, SettlementStage.awaits]
      exact ⟨netted ▸ held.known, netted ▸ held.once, locks ▸ held.locked,
        locks ▸ held.unassigned, held.inputs, held.dated⟩
  | reached place row stage going ahead free => exact held.reached going free
  | advanced place input stage going ready => exact held.advanced going runtime input
  | lost place stage going =>
      have before := flatMap_perm_eraseIdx going SettlementStage.locked
      have once := before.nodup_iff.mp held.locked
      refine held.moveOn going (List.nil_sublist _) (List.nodup_append.mp once).2.1 ?_
      intro row member
      exact absurd member List.not_mem_nil
  | booked drafts =>
      have moves := RowsMove.append EntryMove.refl state.db.entries
        (drafts.map EntryDraft.row)
      refine ⟨held.known, held.once, held.locked, ?_, ?_, ?_⟩
      · intro row member
        rcases held.unassigned row member with ⟨entry, found, free⟩
        refine ⟨entry, ?_, free⟩
        show (state.db.entries ++ _)[row]? = _
        rw [List.getElem?_append_left (List.getElem?_eq_some_iff.mp found).1]
        exact found
      · intro read member row rowMember
        exact inputs_move moves (held.inputs read member row rowMember)
      · intro entry member
        rcases List.mem_append.mp member with old | new
        · exact held.dated entry old
        · rcases List.mem_map.mp new with ⟨draft, _, rfl⟩
          exact iff_of_false nofun (fun dated => dated rfl)

theorem EntriesHeld.start (start : state.IsStart) : EntriesHeld state := by
  have locks : state.locked = [] := by
    rw [SettlementState.locked, start.tasks]
    rfl
  have netted : state.nettedOrAwaited = [] := by
    rw [SettlementState.nettedOrAwaited, start.tasks, start.inputs]
    rfl
  refine ⟨?_, ?_, ?_, ?_, ?_, ?_⟩
  · rw [netted]
    exact fun _ member => absurd member List.not_mem_nil
  · rw [netted]
    exact List.nodup_nil
  · rw [locks]
    exact List.nodup_nil
  · rw [locks]
    exact fun _ member => absurd member List.not_mem_nil
  · rw [start.inputs]
    exact fun _ member => absurd member List.not_mem_nil
  · intro entry member
    rcases start.entries entry member with ⟨_, unsettled, undated⟩
    rw [LedgerEntry.Dated, unsettled, undated]
    exact iff_of_false nofun (fun dated => dated rfl)

theorem EntriesHeld.of_reachable
    {runtime : PyRuntime} (reached : (settlementSystem runtime).Reachable state) :
    EntriesHeld state := by
  apply reached.invariant
  · intro state start
    exact .start start
  · intro source action target _ held moved
    exact held.step (settlementMove_of_step moved)

/-! ## Runs -/

theorem SettlementMove.entries
    {runtime : PyRuntime} {action : SettlementAction} {after : SettlementState}
    (moved : SettlementMove runtime state action after) (held : EntriesHeld state) :
    RowsMove EntryMove state.db.entries after.db.entries := by
  cases moved with
  | ignored => exact RowsMove.refl EntryMove.refl _
  | called => exact RowsMove.refl EntryMove.refl _
  | reached => exact RowsMove.refl EntryMove.refl _
  | advanced place input stage going ready =>
      exact (entriesEffect runtime input state.db stage).moves (held.unassigned_own going)
  | lost => exact RowsMove.refl EntryMove.refl _
  | booked drafts => exact RowsMove.append EntryMove.refl _ _

/-- A netting reads entries which are not settled. -/
theorem SettlementMove.inputs
    {runtime : PyRuntime} {action : SettlementAction} {after : SettlementState}
    (moved : SettlementMove runtime state action after) :
    ∃ read, after.inputs = state.inputs ++ read ∧
      ∀ input ∈ read, ∀ row ∈ input.rows, ∃ entry,
        state.db.entries[row]? = some entry ∧ entry.settled = false := by
  have nothing : ∃ read, state.inputs = state.inputs ++ read ∧
      ∀ input ∈ read, ∀ row ∈ input.rows, ∃ entry,
        state.db.entries[row]? = some entry ∧ entry.settled = false :=
    ⟨[], (List.append_nil _).symm, fun _ member => absurd member List.not_mem_nil⟩
  cases moved with
  | ignored => exact nothing
  | called => exact nothing
  | reached => exact nothing
  | advanced place input stage going ready =>
      refine ⟨stage.reads state.db.entries, rfl, ?_⟩
      intro read member row rowMember
      rcases reads_open member rowMember with ⟨entry, found, _, unsettled⟩
      exact ⟨entry, found, unsettled⟩
  | lost => exact nothing
  | booked drafts => exact nothing

theorem rowsMove_of_path
    {runtime : PyRuntime} (reached : (settlementSystem runtime).Reachable state)
    {labels : List SettlementAction} {after : SettlementState}
    (path : (settlementSystem runtime).Path state labels after) :
    RowsMove EntryMove state.db.entries after.db.entries := by
  apply path.preserves
    (fun after => RowsMove EntryMove state.db.entries after.db.entries)
  · intro source action target sourceReached before move
    have moved := (settlementMove_of_step move).entries (.of_reachable sourceReached)
    exact before.trans moved fun _ _ _ => EntryMove.trans
  · exact reached
  · exact RowsMove.refl EntryMove.refl _

/-- A settled entry stays as it is, and is in no later input. -/
theorem settled_of_path
    {runtime : PyRuntime} (reached : (settlementSystem runtime).Reachable state)
    {labels : List SettlementAction} {after : SettlementState}
    (path : (settlementSystem runtime).Path state labels after) :
    ∃ later, after.inputs = state.inputs ++ later ∧
      ∀ (row : Nat) (entry : LedgerEntry), state.db.entries[row]? = some entry →
        entry.settled = true →
          after.db.entries[row]? = some entry ∧ ∀ input ∈ later, row ∉ input.rows := by
  have stays : ∀ {labels after}, (settlementSystem runtime).Path state labels after →
      ∀ (row : Nat) (entry : LedgerEntry), state.db.entries[row]? = some entry →
        entry.settled = true → after.db.entries[row]? = some entry := by
    intro labels after path row entry found settled
    rcases rowsMove_of_path reached path row entry found with ⟨moved, movedFound, move⟩
    rw [movedFound, move.settled settled]
  induction path with
  | refl =>
      refine ⟨[], (List.append_nil _).symm, ?_⟩
      intro row entry found _
      exact ⟨found, fun _ member => absurd member List.not_mem_nil⟩
  | step before move earlier =>
      rcases earlier with ⟨later, inputs, unread⟩
      rcases (settlementMove_of_step move).inputs with ⟨read, extended, unsettled⟩
      refine ⟨later ++ read, ?_, ?_⟩
      · rw [extended, inputs, List.append_assoc]
      · intro row entry found settled
        refine ⟨stays (before.step move) row entry found settled, ?_⟩
        intro input member rowMember
        rcases List.mem_append.mp member with old | new
        · exact (unread row entry found settled).2 input old rowMember
        · rcases unsettled input new row rowMember with ⟨other, otherFound, open'⟩
          rw [stays before row entry found settled] at otherFound
          cases otherFound
          rw [settled] at open'
          cases open'

/-- No entry is in the inputs of two nettings, a settled entry stays settled
and is not read again, and settled entries are those with a time. -/
theorem no_entry_netted_twice
    {runtime : PyRuntime} (reached : (settlementSystem runtime).Reachable state) :
    (state.inputs.Pairwise fun earlier later =>
      earlier.session ≠ later.session ∧ ∀ row ∈ earlier.rows, row ∉ later.rows) ∧
    (∀ entry ∈ state.db.entries, entry.settled = true ↔ entry.settledAt ≠ none) ∧
    ∀ labels after, (settlementSystem runtime).Path state labels after →
      ∃ later, after.inputs = state.inputs ++ later ∧
        ∀ (row : Nat) (entry : LedgerEntry), state.db.entries[row]? = some entry →
          entry.settled = true →
            after.db.entries[row]? = some entry ∧ ∀ input ∈ later, row ∉ input.rows := by
  have held : EntriesHeld state := .of_reachable reached
  refine ⟨?_, held.dated, fun labels after => settled_of_path reached⟩
  have sessions : (state.inputs.map NettingInput.session).Nodup :=
    (List.nodup_append.mp held.once).2.1
  apply List.Pairwise.imp_of_mem _ (List.pairwise_map.mp sessions)
  intro earlier later earlierMember laterMember different
  refine ⟨different, ?_⟩
  intro row inEarlier inLater
  rcases held.inputs earlier earlierMember row inEarlier with ⟨entry, found, session⟩
  rcases held.inputs later laterMember row inLater with ⟨other, otherFound, otherSession⟩
  cases Option.some.inj (found.symm.trans otherFound)
  exact different (Option.some.inj (session.symm.trans otherSession))

end Held

/-! ## Two tasks of one zone -/

/-- One payment is booked, and no task runs. -/
def onePaymentState : SettlementState := ⟨⟨onePayment.entries, [], []⟩, [], []⟩

theorem onePaymentState_start : onePaymentState.IsStart where
  tasks := rfl
  inputs := rfl
  sessions := rfl
  transfers := rfl
  entries := by decide +kernel

/-- Two tasks look, insert, count and take their snapshots before either
commits; the one which gets the lock settles the payment. -/
def overlappingRuns : List SettlementAction :=
  let advance place := SettlementAction.advance place ⟨0, .raised⟩
  [.call (py "PL"), .call (py "PL"), advance 0, advance 1, advance 0, advance 1,
    advance 0, advance 1, .reach 0 0, advance 0, .reach 1 0, advance 1, advance 0, advance 0,
    .advance 0 ⟨0, .returned [⟨0, .success, .str [], .str []⟩]⟩,
    advance 0, advance 0, advance 0, advance 0]

theorem run_overlappingRuns :
    (TransitionSystem.runLabels (settlementStep .ascii) onePaymentState
      overlappingRuns).map (fun state =>
        (state.inputs, state.db.entries.map LedgerEntry.settled)) =
      some ([⟨0, [0]⟩], [true]) := by
  decide +kernel

theorem no_entry_netted_twice_overlapping :
    ∃ state, TransitionSystem.runLabels (settlementStep .ascii) onePaymentState
        overlappingRuns = some state ∧
      state.inputs = [⟨0, [0]⟩] ∧ state.db.entries.map LedgerEntry.settled = [true] ∧
      (state.inputs.Pairwise fun earlier later =>
        earlier.session ≠ later.session ∧ ∀ row ∈ earlier.rows, row ∉ later.rows) ∧
      (∀ entry ∈ state.db.entries, entry.settled = true ↔ entry.settledAt ≠ none) ∧
      ∀ labels after, (settlementSystem .ascii).Path state labels after →
        ∃ later, after.inputs = state.inputs ++ later ∧
          ∀ (row : Nat) (entry : LedgerEntry), state.db.entries[row]? = some entry →
            entry.settled = true →
              after.db.entries[row]? = some entry ∧ ∀ input ∈ later, row ∉ input.rows := by
  rcases Option.map_eq_some_iff.mp run_overlappingRuns with ⟨state, run, results⟩
  refine ⟨state, run, congrArg Prod.fst results, congrArg Prod.snd results, ?_⟩
  exact no_entry_netted_twice
    (TransitionSystem.reachable_of_runLabels onePaymentState_start run)

end Klik.Ledger
