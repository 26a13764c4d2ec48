import Klik.Ledger.SessionZones
import Klik.Lib.SelectedTotals

/-!
# Totals of a session

`assign_pending_entries_to_session` counts and sums the pending entries in
one statement and assigns them in the next.  The second statement has a
snapshot of its own: it also takes what was committed in between, and it
leaves out what another task has assigned since.
-/

namespace Klik.Ledger

open Klik.Codes
open Klik.Common
open Klik.Ledger.Rtgs
open Klik.Lib

/-! ## Totals -/

/-- The number of the entries of a session and the sum of their amounts. -/
def totalsOfSession (sessionId : Uuid) (entries : List LedgerEntry) : Nat × Decimal :=
  selectedTotals (fun entry => entry.session = some sessionId) LedgerEntry.amount entries

/-- The same of the pending entries of a zone. -/
def totalsOfPending (zone : Zone) (entries : List LedgerEntry) : Nat × Decimal :=
  selectedTotals (LedgerEntry.isPending zone) LedgerEntry.amount entries

/-- Every session has the totals of the entries which are assigned to it. -/
def TotalsRight (db : LedgerDb) : Prop :=
  ∀ row ∈ db.sessions,
    (row.totalEntriesCount, row.totalVolume) = totalsOfSession row.id db.entries

instance (db : LedgerDb) : Decidable (TotalsRight db) :=
  inferInstanceAs (Decidable (∀ row ∈ db.sessions, _ = _))

/-! ## Runs in which nothing comes in between -/

/-- The zone whose pending entries a task has counted, before its `UPDATE`
starts. -/
def SettlementStage.countedZone : SettlementStage → Option Zone
  | .aggregated session _ _ => some session.zone
  | _ => none

/-- The rows which other operations commit. -/
def bookedRows (drafts : List EntryDraft) : List LedgerEntry :=
  match createEntries drafts with
  | .ok created => created
  | .error _ => []

/-- Whether the commit of an assignment is refused. -/
def totalsRefused (count : Nat) (total : Decimal) : Bool :=
  2147483647 < count || !fitsVolume total

/-- No entry of a zone is committed while a task has counted the zone and not
started its `UPDATE`, and no assignment is committed which takes entries from
a task that has counted them. -/
def keepsCounted (state : SettlementState) : SettlementAction → Bool
  | .book drafts =>
      state.tasks.all fun stage => stage.countedZone.all fun zone =>
        (bookedRows drafts).all fun entry => entry.zone ≠ zone
  | .advance place _ =>
      match state.tasks[place]? with
      | some (.updating session count total _ taken) =>
          totalsRefused count total || taken.isEmpty ||
            (state.tasks.eraseIdx place).all fun other =>
              other.countedZone ≠ some session.zone &&
                taken.all fun row => row ∉ other.ahead
      | _ => true
  | _ => true

/-! ## What a step does to the totals -/

/-- The row is assigned, weighs and waits as before. -/
structure SameAssignment (before after : LedgerEntry) : Prop where
  session : after.session = before.session
  amount : after.amount = before.amount
  pending : ∀ zone, after.isPending zone = before.isPending zone

theorem sameAssignment_refl (entry : LedgerEntry) : SameAssignment entry entry :=
  ⟨rfl, rfl, fun _ => rfl⟩

theorem sameAssignment_markIf
    (sessionId : Uuid) (now : Instant) (condition : LedgerEntry → Bool)
    (entry : LedgerEntry) :
    SameAssignment entry (entry.markIf sessionId now condition) := by
  by_cases marked : (entry.isOpenIn sessionId && condition entry) = true
  · have assigned : entry.session = some sessionId := by
      simp only [LedgerEntry.isOpenIn, Bool.and_eq_true, decide_eq_true_eq] at marked
      exact marked.1.1
    rw [LedgerEntry.markIf, if_pos marked]
    refine ⟨rfl, rfl, ?_⟩
    intro zone
    simp [LedgerEntry.isPending, assigned]
  · rw [markIf_of_false (Bool.not_eq_true _ ▸ marked)]
    exact sameAssignment_refl entry

/-- A change of a session row which keeps its totals. -/
structure KeepsTotals (change : SettlementSession → SettlementSession) : Prop where
  id : ∀ row, (change row).id = row.id
  count : ∀ row, (change row).totalEntriesCount = row.totalEntriesCount
  volume : ∀ row, (change row).totalVolume = row.totalVolume

/-- The effect of the next step of a task on assignments and totals. -/
inductive TotalsEffect (db : LedgerDb) (stage : SettlementStage) : LedgerDb → Prop where
  | kept {after : LedgerDb}
      (entry : LedgerEntry → LedgerEntry) (row : SettlementSession → SettlementSession)
      (same : ∀ old, SameAssignment old (entry old)) (keeps : KeepsTotals row)
      (entries : after.entries = db.entries.map entry)
      (sessions : after.sessions = db.sessions.map row) :
      TotalsEffect db stage after
  | inserted {after : LedgerDb} (zone : Zone) (now : Instant)
      (entries : after.entries = db.entries)
      (sessions : after.sessions = db.sessions ++ [openedSession zone now db]) :
      TotalsEffect db stage after
  | assigned {after : LedgerDb} (session : SettlementSession) (count : Nat)
      (total : Decimal) (ahead taken : List Nat)
      (stage_eq : stage = .updating session count total ahead taken)
      (carried : totalsRefused count total = false)
      (entries : after.entries = assignRows session.id taken db.entries)
      (sessions : after.sessions = (db.updateSession session.id
        (SettlementSession.withTotals count total)).sessions) :
      TotalsEffect db stage after

theorem keepsTotals_id : KeepsTotals id :=
  ⟨fun _ => rfl, fun _ => rfl, fun _ => rfl⟩

/-- A change of one row which keeps its totals. -/
theorem keepsTotals_at
    {change : SettlementSession → SettlementSession} (keeps : KeepsTotals change)
    (sessionId : Uuid) :
    KeepsTotals fun row => if row.id = sessionId then change row else row := by
  constructor
  · intro row
    split
    · exact keeps.id row
    · rfl
  · intro row
    split
    · exact keeps.count row
    · rfl
  · intro row
    split
    · exact keeps.volume row
    · rfl

theorem keepsTotals_toSettling : KeepsTotals SettlementSession.toSettling :=
  ⟨fun _ => rfl, fun _ => rfl, fun _ => rfl⟩

theorem keepsTotals_endedWith (status : SettlementSessionStatus) (now : Instant) :
    KeepsTotals (SettlementSession.endedWith status now) :=
  ⟨fun _ => rfl, fun _ => rfl, fun _ => rfl⟩

/-- A step which writes no session and no entry. -/
theorem TotalsEffect.of_same
    {db after : LedgerDb} {stage : SettlementStage}
    (entries : after.entries = db.entries) (sessions : after.sessions = db.sessions) :
    TotalsEffect db stage after :=
  .kept id id sameAssignment_refl keepsTotals_id (by rw [entries, List.map_id])
    (by rw [sessions, List.map_id])

theorem totalsEffect
    (runtime : PyRuntime) (input : StepInput) (db : LedgerDb) (stage : SettlementStage) :
    TotalsEffect db stage (stageStep runtime input db stage).1 := by
  cases stage with
  | inserting zone known => exact .inserted zone input.now rfl rfl
  | aggregated session count total => exact .of_same rfl rfl
  | assigning session
  | netting session
  | dispatching session transfers =>
      simp only [stageStep]
      split <;> exact .of_same rfl rfl
  | updating session count total ahead taken =>
      simp only [stageStep]
      split
      · exact .of_same rfl rfl
      · rename_i fits
        refine .assigned session count total ahead taken rfl ?_ rfl rfl
        simpa [totalsRefused] using fits
  | writing session entries =>
      simp only [stageStep]
      split
      · exact .of_same rfl rfl
      · exact .kept id _ sameAssignment_refl (keepsTotals_at keepsTotals_toSettling session.id)
          (List.map_id _).symm rfl
  | settlingAll session =>
      exact .kept _ id (sameAssignment_markIf session.id input.now _) keepsTotals_id rfl
        (List.map_id _).symm
  | closing session =>
      exact .kept id _ sameAssignment_refl
        (keepsTotals_at (keepsTotals_endedWith _ _) session.id) (List.map_id _).symm rfl
  | saving session transfers results ahead =>
      cases ahead with
      | nil => exact .of_same rfl rfl
      | cons result ahead =>
          simp only [stageStep]
          split
          · exact .of_same rfl rfl
          · rename_i saved
            exact .of_same (saveResult_keeps saved).2 (saveResult_keeps saved).1
  | marking session results =>
      simp only [stageStep]
      split
      · exact .of_same rfl rfl
      · rename_i marked
        rcases markSettled_entries marked with ⟨condition, entries⟩
        rcases markSettled_sessions marked with ⟨status, sessions⟩
        exact .kept _ _ (sameAssignment_markIf session.id input.now condition)
          (keepsTotals_at (keepsTotals_endedWith status input.now) session.id) entries sessions

/-! ## What a task has counted -/

/-- No entry has the session. -/
def NoneAssigned (sessionId : Uuid) (entries : List LedgerEntry) : Prop :=
  ∀ entry ∈ entries, entry.session ≠ some sessionId

/-- The row at a place is pending. -/
def PendingAt (zone : Zone) (entries : List LedgerEntry) (row : Nat) : Prop :=
  ∃ entry, entries[row]? = some entry ∧ entry.isPending zone = true

/-- What a task has counted is pending, or locked by the task, and its session
has no entry before its `UPDATE` commits. -/
def SettlementStage.Counted (entries : List LedgerEntry) : SettlementStage → Prop
  | .assigning session => NoneAssigned session.id entries
  | .aggregated session count total =>
      NoneAssigned session.id entries ∧
        (count, total) = totalsOfPending session.zone entries
  | .updating session count total ahead taken =>
      NoneAssigned session.id entries ∧ (ahead ++ taken).Nodup ∧
        (∀ row ∈ ahead ++ taken, PendingAt session.zone entries row) ∧
        (count, total) = totalsAt LedgerEntry.amount entries (ahead ++ taken)
  | _ => True

/-- Totals are right, tasks have counted what there is, and entries have
sessions which exist. -/
structure TotalsHeld (state : SettlementState) : Prop where
  right : TotalsRight state.db
  counted : ∀ stage ∈ state.tasks, stage.Counted state.db.entries
  known : ∀ entry ∈ state.db.entries, ∀ sessionId,
    entry.session = some sessionId → sessionId < state.db.sessions.length

section Kept

variable {change : LedgerEntry → LedgerEntry} (same : ∀ old, SameAssignment old (change old))

include same

theorem totalsOfSession_map (sessionId : Uuid) (entries : List LedgerEntry) :
    totalsOfSession sessionId (entries.map change) = totalsOfSession sessionId entries := by
  apply selectedTotals_map
  intro entry _
  rw [(same entry).session]
  exact ⟨rfl, (same entry).amount⟩

theorem totalsOfPending_map (zone : Zone) (entries : List LedgerEntry) :
    totalsOfPending zone (entries.map change) = totalsOfPending zone entries := by
  apply selectedTotals_map
  intro entry _
  exact ⟨(same entry).pending zone, (same entry).amount⟩

theorem noneAssigned_map {sessionId : Uuid} {entries : List LedgerEntry}
    (nothing : NoneAssigned sessionId entries) :
    NoneAssigned sessionId (entries.map change) := by
  rw [NoneAssigned, List.forall_mem_map]
  intro entry member
  rw [(same entry).session]
  exact nothing entry member

theorem weightAt_map (entries : List LedgerEntry) (row : Nat) :
    weightAt LedgerEntry.amount (entries.map change) row =
      weightAt LedgerEntry.amount entries row := by
  simp only [weightAt, List.getElem?_map, Option.map_map]
  congr 2
  funext entry
  exact (same entry).amount

/-- What tasks have counted stays where no assignment changes. -/
theorem counted_map {stage : SettlementStage} {entries : List LedgerEntry}
    (counted : stage.Counted entries) : stage.Counted (entries.map change) := by
  cases stage with
  | assigning session => exact noneAssigned_map same counted
  | aggregated session count total =>
      refine ⟨noneAssigned_map same counted.1, ?_⟩
      rw [totalsOfPending_map same]
      exact counted.2
  | updating session count total ahead taken =>
      rcases counted with ⟨nothing, once, pending, totals⟩
      refine ⟨noneAssigned_map same nothing, once, ?_, ?_⟩
      · intro row member
        rcases pending row member with ⟨entry, found, waits⟩
        refine ⟨change entry, ?_, ?_⟩
        · rw [List.getElem?_map, found]
          rfl
        · rw [(same entry).pending, waits]
      · rw [totalsAt_congr fun row _ => weightAt_map same entries row]
        exact totals
  | _ => trivial

end Kept

/-! ## Entries which come in -/

theorem bookedRows_unassigned (drafts : List EntryDraft) :
    ∀ entry ∈ bookedRows drafts, entry.session = none := by
  intro entry member
  rw [bookedRows] at member
  split at member
  · rename_i created made
    rw [(createEntries_ok made).1] at member
    rcases List.mem_map.mp member with ⟨draft, _, rfl⟩
    rfl
  · cases member

theorem booked_eq (drafts : List EntryDraft) (state : SettlementState) :
    state.booked drafts =
      { state with
        db := { state.db with entries := state.db.entries ++ bookedRows drafts } } := by
  cases made : createEntries drafts with
  | error error => simp [SettlementState.booked, bookedRows, made]
  | ok created => simp [SettlementState.booked, bookedRows, made]

theorem noneAssigned_append
    {sessionId : Uuid} {entries added : List LedgerEntry}
    (nothing : NoneAssigned sessionId entries) (free : ∀ entry ∈ added, entry.session = none) :
    NoneAssigned sessionId (entries ++ added) := by
  rw [NoneAssigned, List.forall_mem_append]
  refine ⟨nothing, ?_⟩
  intro entry member assigned
  rw [free entry member] at assigned
  cases assigned

/-- A task has still counted what there is after entries of other zones have
come in, and entries of its own zone once its `UPDATE` has started. -/
theorem counted_append
    {stage : SettlementStage} {entries added : List LedgerEntry}
    (counted : stage.Counted entries) (free : ∀ entry ∈ added, entry.session = none)
    (elsewhere : ∀ zone, stage.countedZone = some zone → ∀ entry ∈ added, entry.zone ≠ zone) :
    stage.Counted (entries ++ added) := by
  cases stage with
  | assigning session => exact noneAssigned_append counted free
  | aggregated session count total =>
      refine ⟨noneAssigned_append counted.1 free, ?_⟩
      rw [totalsOfPending, selectedTotals_append]
      · exact counted.2
      · intro entry member
        simp [LedgerEntry.isPending, elsewhere session.zone rfl entry member]
  | updating session count total ahead taken =>
      rcases counted with ⟨nothing, once, pending, totals⟩
      have stays : ∀ row ∈ ahead ++ taken, (entries ++ added)[row]? = entries[row]? := by
        intro row member
        rcases pending row member with ⟨entry, found, _⟩
        exact List.getElem?_append_left (List.getElem?_eq_some_iff.mp found).1
      refine ⟨noneAssigned_append nothing free, once, ?_, ?_⟩
      · intro row member
        rcases pending row member with ⟨entry, found, waits⟩
        exact ⟨entry, (stays row member).trans found, waits⟩
      · rw [totals]
        apply (totalsAt_congr _).symm
        intro row member
        rw [weightAt, stays row member, weightAt]
  | _ => trivial

/-! ## Entries which are assigned -/

section Assigned

variable {session : SettlementSession} {taken : List Nat} {entries : List LedgerEntry}

theorem noneAssigned_assignRows
    {sessionId : Uuid} (nothing : NoneAssigned sessionId entries)
    (other : session.id ≠ sessionId) :
    NoneAssigned sessionId (assignRows session.id taken entries) := by
  intro entry member
  rcases List.mem_mapIdx.mp member with ⟨row, bound, rfl⟩
  split
  · intro same
    exact other (Option.some.inj same)
  · exact nothing _ (List.getElem_mem bound)

theorem weightAt_assignRows (row : Nat) :
    weightAt LedgerEntry.amount (assignRows session.id taken entries) row =
      weightAt LedgerEntry.amount entries row := by
  simp only [weightAt, getElem?_assignRows, Option.map_map]
  congr 2
  funext entry
  simp only [Function.comp_apply]
  split <;> rfl

variable (waiting : ∀ row ∈ taken, PendingAt session.zone entries row)

include waiting

theorem isPending_of_taken
    {row : Nat} {entry : LedgerEntry} (member : row ∈ taken) (found : entries[row]? = some entry) :
    entry.isPending session.zone = true := by
  rcases waiting row member with ⟨pending, pendingFound, waits⟩
  cases Option.some.inj (found.symm.trans pendingFound)
  exact waits

/-- The totals of another session stay. -/
theorem totalsOfSession_assignRows {sessionId : Uuid} (other : session.id ≠ sessionId) :
    totalsOfSession sessionId (assignRows session.id taken entries) =
      totalsOfSession sessionId entries := by
  apply selectedTotals_mapIdx
  intro row entry found
  split
  · rename_i member
    have waits := isPending_of_taken waiting member found
    simp only [LedgerEntry.isPending, Bool.and_eq_true, Option.isNone_iff_eq_none] at waits
    simp [waits.2, other]
  · exact ⟨rfl, rfl⟩

/-- The session gets the totals of the rows which it takes. -/
theorem totalsOfSession_taken
    (nothing : NoneAssigned session.id entries) (once : taken.Nodup) :
    totalsOfSession session.id (assignRows session.id taken entries) =
      totalsAt LedgerEntry.amount entries taken := by
  rw [totalsOfSession, selectedTotals_eq_of_places once]
  · exact totalsAt_congr fun row _ => weightAt_assignRows row
  · intro row
    rw [getElem?_assignRows]
    constructor
    · intro member
      rcases waiting row member with ⟨entry, found, _⟩
      rw [found, Option.map_some, if_pos member]
      exact ⟨_, rfl, decide_eq_true rfl⟩
    · rintro ⟨entry, found, assigned⟩
      rcases Option.map_eq_some_iff.mp found with ⟨old, oldFound, rfl⟩
      by_contra untaken
      rw [if_neg untaken, decide_eq_true_eq] at assigned
      exact nothing old (List.mem_of_getElem? oldFound) assigned

/-- The pending entries of another zone stay. -/
theorem totalsOfPending_assignRows {zone : Zone} (other : session.zone ≠ zone) :
    totalsOfPending zone (assignRows session.id taken entries) =
      totalsOfPending zone entries := by
  apply selectedTotals_mapIdx
  intro row entry found
  split
  · rename_i member
    have waits := isPending_of_taken waiting member found
    simp only [LedgerEntry.isPending, Bool.and_eq_true, decide_eq_true_eq] at waits
    simp [LedgerEntry.isPending, waits.1.1, other]
  · exact ⟨rfl, rfl⟩

/-- Another task has still counted what there is, unless the assignment takes
entries from it. -/
theorem counted_assignRows
    {stage : SettlementStage} (counted : stage.Counted entries)
    (apart : ∀ object, stage.owned = some object → session.id ≠ object.id)
    (uncounted : taken = [] ∨ stage.countedZone ≠ some session.zone)
    (spared : ∀ row ∈ taken, row ∉ stage.ahead ∧ row ∉ stage.locked) :
    stage.Counted (assignRows session.id taken entries) := by
  cases stage with
  | assigning object => exact noneAssigned_assignRows counted (apart object rfl)
  | aggregated object count total =>
      refine ⟨noneAssigned_assignRows counted.1 (apart object rfl), ?_⟩
      rcases uncounted with rfl | other
      · rw [assignRows_nil]
        exact counted.2
      · rw [totalsOfPending_assignRows waiting]
        · exact counted.2
        · intro same
          exact other (congrArg some same.symm)
  | updating object count total ahead own =>
      rcases counted with ⟨nothing, once, pending, totals⟩
      refine ⟨noneAssigned_assignRows nothing (apart object rfl), once, ?_, ?_⟩
      · intro row member
        have untaken : row ∉ taken := by
          intro both
          rcases List.mem_append.mp member with inAhead | locked
          · exact (spared row both).1 inAhead
          · exact (spared row both).2 locked
        rcases pending row member with ⟨entry, found, waits⟩
        refine ⟨entry, ?_, waits⟩
        rw [getElem?_assignRows, found, Option.map_some, if_neg untaken]
      · rw [totalsAt_congr fun row _ => weightAt_assignRows row]
        exact totals
  | _ => trivial

end Assigned

/-! ## Steps -/

section Step

variable {runtime : PyRuntime} {state : SettlementState} {place : Nat} {stage : SettlementStage}

/-- The `UPDATE` of a task comes to a row which it has counted. -/
theorem counted_reach
    {entries : List LedgerEntry} (counted : stage.Counted entries) {row : Nat}
    (ahead : row ∈ stage.ahead) :
    (stage.reach row entries).Counted entries := by
  cases stage with
  | updating session count total rows taken =>
      rcases counted with ⟨nothing, once, pending, totals⟩
      have member : row ∈ rows := ahead
      have waits : rowIs (LedgerEntry.isPending session.zone) row entries = true := by
        rcases pending row (List.mem_append_left _ member) with ⟨entry, found, waits⟩
        rw [rowIs, found, Option.any_some, waits]
      have moved : (rows ++ taken).Perm (rows.erase row ++ (taken ++ [row])) := by
        rw [← List.append_assoc]
        exact ((List.perm_cons_erase member).append_right taken).trans
          (List.perm_append_singleton row _).symm
      simp only [SettlementStage.reach, waits, if_true]
      refine ⟨nothing, moved.nodup_iff.mp once, ?_, ?_⟩
      · intro other later
        exact pending other (moved.mem_iff.mpr later)
      · rw [totals]
        exact totalsAt_perm moved
  | _ => exact absurd ahead List.not_mem_nil

/-- The next statement of a task counts what there is, and takes the places of
what it has counted. -/
theorem counted_next
    {db : LedgerDb} (input : StepInput) (counted : stage.Counted db.entries)
    (known : ∀ entry ∈ db.entries, ∀ sessionId,
      entry.session = some sessionId → sessionId < db.sessions.length)
    {next : SettlementStage} (moved : (stageStep runtime input db stage).2 = some next) :
    next.Counted (stageStep runtime input db stage).1.entries := by
  cases stage with
  | inserting zone before =>
      cases moved
      intro entry member assigned
      exact lt_irrefl _ (known entry member _ assigned)
  | assigning session =>
      simp only [stageStep] at moved ⊢
      split at moved
      · cases moved
      · rename_i opened
        cases moved
        rw [if_neg opened]
        exact ⟨counted, rfl⟩
  | aggregated session count total =>
      cases moved
      refine ⟨counted.1, ?_, ?_, ?_⟩
      · rw [List.append_nil]
        exact nodup_placesWhere
      · intro row member
        rw [List.append_nil] at member
        exact mem_rowsWhere.mp member
      · rw [List.append_nil, counted.2]
        exact selectedTotals_eq_totalsAt
  | updating session count total ahead taken =>
      simp only [stageStep] at moved
      split at moved
      · cases moved
      · cases moved
        split <;> trivial
  | writing session entries =>
      simp only [stageStep] at moved
      split at moved
      · cases moved
      · cases moved
        split <;> trivial
  | netting session =>
      simp only [stageStep] at moved
      split at moved <;> cases moved
      trivial
  | marking session results =>
      simp only [stageStep] at moved
      split at moved <;> cases moved
  | settlingAll session =>
      cases moved
      trivial
  | closing session => cases moved
  | dispatching session transfers =>
      simp only [stageStep] at moved
      split at moved <;> cases moved <;> trivial
  | saving session transfers results ahead =>
      cases ahead with
      | nil =>
          cases moved
          trivial
      | cons result ahead =>
          simp only [stageStep] at moved
          split at moved <;> cases moved
          trivial

/-- A commit which takes entries from no other task keeps the totals right. -/
theorem TotalsHeld.advanced
    (held : TotalsHeld state) (owned : SessionsOwned state) (entries : EntriesHeld state)
    (going : state.tasks[place]? = some stage) (ready : stage.ahead = []) (input : StepInput)
    (keeps : keepsCounted state (.advance place input) = true) :
    TotalsHeld (state.advanced runtime place stage input) := by
  have stageMember : stage ∈ state.tasks := List.mem_of_getElem? going
  have own := held.counted stage stageMember
  have effect := totalsEffect runtime input state.db stage
  have next : ∀ moved, (stageStep runtime input state.db stage).2 = some moved →
      moved.Counted (stageStep runtime input state.db stage).1.entries :=
    fun _ moved => counted_next input own held.known moved
  suffices others :
      TotalsRight (stageStep runtime input state.db stage).1 ∧
        (∀ other ∈ state.tasks.eraseIdx place,
          other.Counted (stageStep runtime input state.db stage).1.entries) ∧
        ∀ entry ∈ (stageStep runtime input state.db stage).1.entries, ∀ sessionId,
          entry.session = some sessionId →
            sessionId < (stageStep runtime input state.db stage).1.sessions.length by
    refine ⟨others.1, ?_, others.2.2⟩
    intro other member
    rcases (mem_moveOn going).mp member with moved | stays
    · exact next other moved
    · exact others.2.1 other stays
  have counted : ∀ other ∈ state.tasks.eraseIdx place, other.Counted state.db.entries :=
    fun other member => held.counted other (List.mem_of_mem_eraseIdx member)
  generalize (stageStep runtime input state.db stage).1 = after at effect ⊢
  cases effect with
  | kept entry row same totals changed sessions =>
      rw [TotalsRight, sessions, changed, List.forall_mem_map]
      refine ⟨?_, ?_, ?_⟩
      · intro old member
        rw [totals.count, totals.volume, totals.id, totalsOfSession_map same]
        exact held.right old member
      · intro other member
        exact counted_map same (counted other member)
      · intro moved member sessionId assigned
        rcases List.mem_map.mp member with ⟨old, oldMember, rfl⟩
        rw [(same old).session] at assigned
        rw [List.length_map]
        exact held.known old oldMember sessionId assigned
  | inserted zone now same sessions =>
      rw [TotalsRight, sessions, same, List.forall_mem_append]
      refine ⟨⟨held.right, ?_⟩, counted, ?_⟩
      · intro row member
        cases List.mem_singleton.mp member
        symm
        apply selectedTotals_none
        intro entry entryMember
        rw [decide_eq_false_iff_not]
        intro assigned
        exact lt_irrefl _ (held.known entry entryMember _ assigned)
      · intro entry member sessionId assigned
        rw [List.length_append]
        exact Nat.lt_add_right 1 (held.known entry member sessionId assigned)
  | assigned session count total ahead taken stage_eq carried changed sessions =>
      subst stage_eq
      have none : ahead = [] := ready
      subst none
      rcases own with ⟨nothing, once, waiting, totals⟩
      rw [List.nil_append] at once waiting totals
      rcases owned.row _ stageMember session rfl with ⟨_, row, rowMember, rowId, _⟩
      have apart : taken = [] ∨ ∀ other ∈ state.tasks.eraseIdx place,
          other.countedZone ≠ some session.zone ∧ ∀ row ∈ taken, row ∉ other.ahead := by
        simpa [keepsCounted, going, carried] using keeps
      rw [TotalsRight, sessions, changed]
      refine ⟨?_, ?_, ?_⟩
      · simp only [LedgerDb.updateSession, List.forall_mem_map]
        intro old member
        by_cases same : old.id = session.id
        · rw [if_pos same]
          simp only [SettlementSession.withTotals, same, totals]
          exact (totalsOfSession_taken waiting nothing once).symm
        · rw [if_neg same, totalsOfSession_assignRows waiting (Ne.symm same)]
          exact held.right old member
      · intro other member
        apply counted_assignRows waiting (counted other member)
        · intro object its same
          exact not_held_by_other going owned.once member
            (mem_ownedIds.mpr ⟨session, rfl, rfl⟩) (mem_ownedIds.mpr ⟨object, its, same.symm⟩)
        · exact apart.imp id fun spared => (spared other member).1
        · intro row rowTaken
          constructor
          · rcases apart with empty | spared
            · rw [empty] at rowTaken
              cases rowTaken
            · exact (spared other member).2 row rowTaken
          · intro locked
            exact (entries.locked_apart going (List.mem_flatMap_of_mem member locked)).2 rowTaken
      · intro entry member sessionId assigned
        simp only [LedgerDb.updateSession, List.length_map]
        rcases List.mem_mapIdx.mp member with ⟨index, bound, rfl⟩
        split at assigned
        · rw [← Option.some.inj assigned, ← rowId]
          exact owned.id_lt rowMember
        · exact held.known _ (List.getElem_mem bound) sessionId assigned

/-- A step in between which nothing comes keeps the totals right. -/
theorem TotalsHeld.step
    (held : TotalsHeld state) (owned : SessionsOwned state) (entries : EntriesHeld state)
    {action : SettlementAction} {after : SettlementState}
    (keeps : keepsCounted state action = true)
    (move : (settlementSystem runtime).Step state action after) :
    TotalsHeld after := by
  have stays : ∀ {place stage next}, state.tasks[place]? = some stage →
      (∀ moved, next = some moved → moved.Counted state.db.entries) →
        TotalsHeld { state with tasks := moveOn place next state.tasks } := by
    intro place stage next going counted
    refine ⟨held.right, ?_, held.known⟩
    intro other member
    rcases (mem_moveOn going).mp member with moved | same
    · exact counted other moved
    · exact held.counted other (List.mem_of_mem_eraseIdx same)
  cases action with
  | book drafts =>
      cases move
      rw [booked_eq]
      have free := bookedRows_unassigned drafts
      refine ⟨?_, ?_, ?_⟩
      · intro row member
        rw [totalsOfSession, selectedTotals_append]
        · exact held.right row member
        · intro entry entryMember
          simp [free entry entryMember]
      · intro stage member
        apply counted_append (held.counted stage member) free
        intro zone counted entry entryMember
        simp only [keepsCounted, List.all_eq_true] at keeps
        have elsewhere := keeps stage member
        rw [counted, Option.all_some, List.all_eq_true] at elsewhere
        exact of_decide_eq_true (elsewhere entry entryMember)
      · intro entry member sessionId assigned
        rcases List.mem_append.mp member with old | new
        · exact held.known entry old sessionId assigned
        · rw [free entry new] at assigned
          cases assigned
  | call zoneText =>
      cases settlementMove_of_step move with
      | ignored => exact held
      | called _ zone idle =>
          refine ⟨held.right, ?_, held.known⟩
          intro stage member
          rcases List.mem_append.mp member with old | new
          · exact held.counted stage old
          · cases List.mem_singleton.mp new
            trivial
  | reach place row =>
      cases settlementMove_of_step move with
      | ignored => exact held
      | reached _ _ stage going ahead free =>
          apply stays going
          intro moved same
          cases same
          exact counted_reach (held.counted stage (List.mem_of_getElem? going)) ahead
  | advance place input =>
      cases settlementMove_of_step move with
      | ignored => exact held
      | advanced _ _ stage going ready => exact held.advanced owned entries going ready input keeps
  | lose place =>
      cases settlementMove_of_step move with
      | ignored => exact held
      | lost _ stage going =>
          apply stays going
          intro moved ended
          cases ended

end Step

theorem TotalsHeld.start {state : SettlementState} (start : state.IsStart) :
    TotalsHeld state := by
  refine ⟨?_, ?_, ?_⟩
  · rw [TotalsRight, start.sessions]
    exact fun _ member => absurd member List.not_mem_nil
  · rw [start.tasks]
    exact fun _ member => absurd member List.not_mem_nil
  · intro entry member sessionId assigned
    rw [(start.entries entry member).1] at assigned
    cases assigned

/-- In every run in which no entry of the zone and no assignment comes between
the count and the `UPDATE` of a task, every session has the totals of its
entries. -/
theorem session_totals_right
    {runtime : PyRuntime} {state : SettlementState}
    (reached : ((settlementSystem runtime).guarded fun state action =>
      keepsCounted state action = true).Reachable state) :
    TotalsRight state.db := by
  have held : TotalsHeld state := by
    apply reached.invariant
    · intro start isStart
      exact .start isStart
    · intro source action target before held move
      exact held.step (.of_reachable before.of_guarded) (.of_reachable before.of_guarded)
        move.1 move.2
  exact held.right

/-! ## A payment during the assignment -/

/-- A second payment is booked. -/
def secondPayment : SettlementAction :=
  .book (c2bDrafts [] (polishPayment (py "b") 1 2 50) 50 0 0)

/-- A task counts one payment; the second one is booked after its `UPDATE` has
started. -/
def bookedDuringUpdate : List SettlementAction :=
  let advance := SettlementAction.advance 0 ⟨0, .raised⟩
  [.call (py "PL"), advance, advance, advance, secondPayment, .reach 0 0, advance]

/-- The session has the totals of the first payment. -/
theorem session_totals_right_bookedDuringUpdate :
    ∃ state, TransitionSystem.runLabels (settlementStep .ascii) onePaymentState
        bookedDuringUpdate = some state ∧
      state.db.sessions.map (fun row => (row.totalEntriesCount, row.totalVolume)) =
        [(1, 100)] ∧ TotalsRight state.db := by
  have totals : (TransitionSystem.runLabels
      (TransitionSystem.guardStep (settlementStep .ascii) keepsCounted) onePaymentState
      bookedDuringUpdate).map (fun state => state.db.sessions.map fun row =>
        (row.totalEntriesCount, row.totalVolume)) = some [(1, 100)] := by
    decide +kernel
  rcases Option.map_eq_some_iff.mp totals with ⟨state, run, stored⟩
  have path : ((settlementSystem .ascii).guarded fun state action =>
      keepsCounted state action = true).Path onePaymentState bookedDuringUpdate state :=
    TransitionSystem.guarded_path_of_runLabels run
  exact ⟨state, TransitionSystem.runLabels_of_guardStep run, stored,
    session_totals_right (path.reachable (.init onePaymentState_start))⟩

/-- The second payment is booked after the count and before the `UPDATE`. -/
def bookedAfterCount : List SettlementAction :=
  let advance := SettlementAction.advance 0 ⟨0, .raised⟩
  [.call (py "PL"), advance, advance, secondPayment, advance, .reach 0 0, .reach 0 1,
    advance]

/-- The session has two entries and the totals of one. -/
theorem session_total_too_small :
    ¬ ∀ state, (settlementSystem .ascii).Reachable state → TotalsRight state.db := by
  intro always
  have wrong : (TransitionSystem.runLabels (settlementStep .ascii) onePaymentState
      bookedAfterCount).map (fun state => decide (TotalsRight state.db)) = some false := by
    decide +kernel
  rcases Option.map_eq_some_iff.mp wrong with ⟨state, run, different⟩
  have right := always state
    (TransitionSystem.reachable_of_runLabels onePaymentState_start run)
  exact of_decide_eq_false different right

end Klik.Ledger
