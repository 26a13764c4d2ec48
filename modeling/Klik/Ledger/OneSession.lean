import Klik.Ledger.SettlementTasks

/-!
# Active sessions of a zone

A task looks for an active session of its zone before it inserts one, and
nothing keeps another task from doing both in between.  As long as no session
of the zone which was committed since the look is active when an insertion
commits, a zone has one active session at most.
-/

namespace Klik.Ledger

open Klik.Common
open Klik.Ledger.Rtgs
open Klik.Lib

/-! ## What a step does to the sessions -/

/-- A change of a session row to one status. -/
structure SetsStatus
    (change : SettlementSession → SettlementSession)
    (status : SettlementSessionStatus) : Prop where
  id : ∀ row, (change row).id = row.id
  zone : ∀ row, (change row).zone = row.zone
  status : ∀ row, (change row).status = status

theorem setsStatus_withTotals (count : Nat) (total : Decimal) :
    SetsStatus (SettlementSession.withTotals count total) .netting :=
  ⟨fun _ => rfl, fun _ => rfl, fun _ => rfl⟩

theorem setsStatus_toSettling : SetsStatus SettlementSession.toSettling .settling :=
  ⟨fun _ => rfl, fun _ => rfl, fun _ => rfl⟩

theorem setsStatus_endedWith (status : SettlementSessionStatus) (now : Instant) :
    SetsStatus (SettlementSession.endedWith status now) status :=
  ⟨fun _ => rfl, fun _ => rfl, fun _ => rfl⟩

/-- The effect of the next step of a task on the sessions and on its own
session object. -/
inductive SessionsEffect (db : LedgerDb) (stage : SettlementStage) :
    LedgerDb → Option SettlementStage → Prop where
  | kept {after : LedgerDb} {next : Option SettlementStage}
      (sessions : after.sessions = db.sessions)
      (object : stage.owned ≠ none)
      (owner : next = none ∨ next.bind SettlementStage.owned = stage.owned) :
      SessionsEffect db stage after next
  | inserted {after : LedgerDb} (zone : Zone) (known : Nat) (now : Instant)
      (stage_eq : stage = .inserting zone known)
      (sessions : after.sessions = db.sessions ++ [openedSession zone now db]) :
      SessionsEffect db stage after (some (.assigning (openedSession zone now db)))
  | changed {after : LedgerDb} {next : Option SettlementStage}
      (session : SettlementSession) (change : SettlementSession → SettlementSession)
      (status : SettlementSessionStatus)
      (owner : stage.owned = some session)
      (sets : SetsStatus change status)
      (sessions : after.sessions = (db.updateSession session.id change).sessions)
      (moved : next = none ∨
        status.isActive = true ∧
          next.bind SettlementStage.owned = some (change session)) :
      SessionsEffect db stage after next

theorem saveResult_keeps
    {runtime : PyRuntime} {transfers : List SettlementTransfer} {db after : LedgerDb}
    {result : TransferResult}
    (saved : saveResult runtime transfers db result = .ok after) :
    after.sessions = db.sessions ∧ after.entries = db.entries := by
  simp only [saveResult] at saved
  split at saved
  · cases saved
    exact ⟨rfl, rfl⟩
  · split at saved
    · cases saved
      exact ⟨rfl, rfl⟩
    · cases saved

theorem foldl_applyResult_sessions
    (sessionId : Uuid) (now : Instant)
    (results : List (Uuid × SettlementTransferStatus)) (state : LedgerDb × Bool) :
    (results.foldl (applyResult sessionId now) state).1.sessions = state.1.sessions := by
  induction results generalizing state with
  | nil => rfl
  | cons result rest induction =>
      rw [List.foldl_cons, induction]
      simp only [applyResult]
      split
      · rfl
      · split <;> rfl

/-- `mark_settled` ends its session. -/
theorem markSettled_sessions
    {session final : SettlementSession}
    {results : InsertionDict Uuid SettlementTransferStatus} {now : Instant}
    {db after : LedgerDb}
    (marked : markSettled session results now db = .ok (final, after)) :
    ∃ status, after.sessions =
      (db.updateSession session.id (SettlementSession.endedWith status now)).sessions := by
  simp only [markSettled] at marked
  split at marked
  · cases marked
  · cases marked
    have untouched := foldl_applyResult_sessions session.id now results (db, false)
    refine ⟨if (results.foldl (applyResult session.id now) (db, false)).2 then .failed
      else .completed, ?_⟩
    simp only [LedgerDb.updateSession]
    split <;> simp only [untouched]

theorem sessionsEffect
    (runtime : PyRuntime) (input : StepInput) (db : LedgerDb) (stage : SettlementStage) :
    SessionsEffect db stage (stageStep runtime input db stage).1
      (stageStep runtime input db stage).2 := by
  cases stage with
  | inserting zone known => exact .inserted zone known input.now rfl rfl
  | assigning session =>
      simp only [stageStep]
      split
      · exact .kept rfl nofun (.inl rfl)
      · exact .kept rfl nofun (.inr rfl)
  | aggregated session count total =>
      exact .kept rfl nofun (.inr rfl)
  | updating session count total ahead taken =>
      simp only [stageStep]
      split
      · exact .kept rfl nofun (.inl rfl)
      · refine .changed session _ .netting rfl (setsStatus_withTotals count total) rfl
          (.inr ⟨rfl, ?_⟩)
        simp only [Option.bind_some]
        split <;> rfl
  | netting session =>
      simp only [stageStep]
      split
      · exact .kept rfl nofun (.inl rfl)
      · exact .kept rfl nofun (.inr rfl)
  | writing session entries =>
      simp only [stageStep]
      split
      · exact .kept rfl nofun (.inl rfl)
      · refine .changed session _ .settling rfl setsStatus_toSettling rfl
          (.inr ⟨rfl, ?_⟩)
        simp only [Option.bind_some]
        split <;> rfl
  | settlingAll session => exact .kept rfl nofun (.inr rfl)
  | closing session =>
      exact .changed session _ .completed rfl (setsStatus_endedWith _ _) rfl (.inl rfl)
  | dispatching session transfers =>
      simp only [stageStep]
      split
      · exact .kept rfl nofun (.inl rfl)
      · exact .kept rfl nofun (.inr rfl)
      · exact .kept rfl nofun (.inr rfl)
  | saving session transfers results ahead =>
      cases ahead with
      | nil => exact .kept rfl nofun (.inr rfl)
      | cons result ahead =>
          simp only [stageStep]
          split
          · exact .kept rfl nofun (.inl rfl)
          · rename_i saved
            exact .kept (saveResult_keeps saved).1 nofun (.inr rfl)
  | marking session results =>
      simp only [stageStep]
      split
      · exact .kept rfl nofun (.inl rfl)
      · rename_i marked
        rcases markSettled_sessions marked with ⟨status, sessions⟩
        exact .changed session _ status rfl (setsStatus_endedWith _ _) sessions (.inl rfl)

/-! ## Sessions and their tasks -/

/-- The session of a task, as a list of at most one id. -/
def SettlementStage.ownedIds (stage : SettlementStage) : List Uuid :=
  (stage.owned.map SettlementSession.id).toList

/-- Every task has a session of its own whose row has the status of its
object; a task which is about to insert has seen no active session. -/
structure SessionsOwned (state : SettlementState) : Prop where
  ids : state.db.sessions.map SettlementSession.id = List.range state.db.sessions.length
  once : (state.tasks.flatMap SettlementStage.ownedIds).Nodup
  row : ∀ stage ∈ state.tasks, ∀ session, stage.owned = some session →
    session.status.isActive = true ∧
      ∃ row ∈ state.db.sessions, row.id = session.id ∧ row.status = session.status
  seen : ∀ zone known, .inserting zone known ∈ state.tasks →
    known ≤ state.db.sessions.length ∧
      ∀ row ∈ state.db.sessions.take known, row.zone = zone → row.status.isActive = false

theorem mem_ownedIds {stage : SettlementStage} {id : Uuid} :
    id ∈ stage.ownedIds ↔ ∃ session, stage.owned = some session ∧ session.id = id := by
  simp [SettlementStage.ownedIds]

theorem ownedIds_of_bind
    {next : Option SettlementStage} {stage : SettlementStage}
    (ids : (next.bind SettlementStage.owned).map SettlementSession.id =
      stage.owned.map SettlementSession.id) :
    next.toList.flatMap SettlementStage.ownedIds = stage.ownedIds := by
  cases next with
  | none =>
      simp only [SettlementStage.ownedIds, ← ids]
      rfl
  | some moved =>
      simp only [SettlementStage.ownedIds, ← ids, Option.toList_some, List.flatMap_singleton,
        Option.bind_some]

section Owned

variable {state : SettlementState}

theorem SessionsOwned.nodup (owned : SessionsOwned state) :
    (state.db.sessions.map SettlementSession.id).Nodup :=
  owned.ids ▸ List.nodup_range

/-- Rows with one id are one row. -/
theorem SessionsOwned.row_unique
    (owned : SessionsOwned state) {row other : SettlementSession}
    (rowMember : row ∈ state.db.sessions) (otherMember : other ∈ state.db.sessions)
    (same : row.id = other.id) :
    row = other :=
  List.inj_on_of_nodup_map owned.nodup rowMember otherMember same

theorem SessionsOwned.id_lt
    (owned : SessionsOwned state) {row : SettlementSession}
    (member : row ∈ state.db.sessions) :
    row.id < state.db.sessions.length := by
  rw [← List.mem_range, ← owned.ids]
  exact List.mem_map_of_mem member

/-- A row which a task of a session changes is active before. -/
theorem SessionsOwned.active_of_changed
    (owned : SessionsOwned state) {place : Nat} {stage : SettlementStage}
    (going : state.tasks[place]? = some stage)
    {session : SettlementSession} (owner : stage.owned = some session)
    (change : SettlementSession → SettlementSession) {row : SettlementSession}
    (member : row ∈ state.db.sessions)
    (active : (if row.id = session.id then change row else row).status.isActive = true) :
    row.status.isActive = true := by
  by_cases own : row.id = session.id
  · rcases owned.row stage (List.mem_of_getElem? going) session owner with
      ⟨alive, known, knownMember, knownId, status⟩
    have same : row = known :=
      owned.row_unique member knownMember (own.trans knownId.symm)
    rw [same, status]
    exact alive
  · rwa [if_neg own] at active

theorem zone_of_changed
    {change : SettlementSession → SettlementSession} {status : SettlementSessionStatus}
    (sets : SetsStatus change status) (sessionId : Uuid) (row : SettlementSession) :
    (if row.id = sessionId then change row else row).zone = row.zone := by
  split
  · exact sets.zone row
  · rfl

/-- A step which writes no session. -/
theorem SessionsOwned.kept
    (owned : SessionsOwned state) {place : Nat} {stage : SettlementStage}
    (going : state.tasks[place]? = some stage)
    {db : LedgerDb} {next : Option SettlementStage}
    (sessions : db.sessions = state.db.sessions)
    (owner : next = none ∨
      stage.owned ≠ none ∧ next.bind SettlementStage.owned = stage.owned)
    (inputs : List NettingInput) :
    SessionsOwned ⟨db, moveOn place next state.tasks, inputs⟩ where
  ids := by
    show db.sessions.map _ = _
    rw [sessions]
    exact owned.ids
  once := by
    apply nodup_flatMap_moveOn going _ owned.once
    rcases owner with rfl | ⟨_, same⟩
    · exact List.nil_sublist _
    · rw [ownedIds_of_bind (by rw [same])]
  row := by
    intro other member session own
    rw [sessions]
    rcases (mem_moveOn going).mp member with rfl | member
    · rcases owner with ended | ⟨_, same⟩
      · cases ended
      · exact owned.row stage (List.mem_of_getElem? going) session (same ▸ own)
    · exact owned.row other (List.mem_of_mem_eraseIdx member) session own
  seen := by
    intro zone known member
    rw [sessions]
    rcases (mem_moveOn going).mp member with rfl | member
    · rcases owner with ended | ⟨some, same⟩
      · cases ended
      · exact absurd same.symm some
    · exact owned.seen zone known (List.mem_of_mem_eraseIdx member)

/-- The step which inserts the session of a task. -/
theorem SessionsOwned.inserted
    (owned : SessionsOwned state) {place : Nat} {stage : SettlementStage}
    (going : state.tasks[place]? = some stage)
    {db : LedgerDb} (zone : Zone) (now : Instant)
    (sessions : db.sessions = state.db.sessions ++ [openedSession zone now state.db])
    (inputs : List NettingInput) :
    SessionsOwned
      ⟨db, moveOn place (some (.assigning (openedSession zone now state.db))) state.tasks,
        inputs⟩ where
  ids := by
    show db.sessions.map _ = _
    rw [sessions, List.map_append, owned.ids, List.length_append]
    exact List.range_succ.symm
  once := by
    rw [(flatMap_perm_moveOn going _ _).nodup_iff]
    have rest := owned.once
    rw [(flatMap_perm_eraseIdx going _).nodup_iff] at rest
    apply List.nodup_cons.mpr
    refine ⟨?_, (List.nodup_append.mp rest).2.1⟩
    intro member
    rcases List.mem_flatMap.mp member with ⟨other, otherMember, own⟩
    rcases mem_ownedIds.mp own with ⟨session, owner, id⟩
    rcases owned.row other (List.mem_of_mem_eraseIdx otherMember) session owner with
      ⟨_, row, rowMember, rowId, _⟩
    have bound := owned.id_lt rowMember
    rw [rowId, id] at bound
    exact lt_irrefl _ bound
  row := by
    intro other member session own
    rw [sessions]
    have placed : other ∈ Lib.moveOn place (some _) state.tasks := member
    rcases (mem_moveOn going).mp placed with moved | member
    · cases moved
      cases own
      exact ⟨rfl, _, List.mem_append_right _ (List.mem_singleton_self _), rfl, rfl⟩
    · rcases owned.row other (List.mem_of_mem_eraseIdx member) session own with
        ⟨active, row, rowMember, matching⟩
      exact ⟨active, row, List.mem_append_left _ rowMember, matching⟩
  seen := by
    intro otherZone known member
    rw [sessions]
    have placed : _ ∈ Lib.moveOn place (some _) state.tasks := member
    rcases (mem_moveOn going).mp placed with moved | member
    · cases moved
    · rcases owned.seen otherZone known (List.mem_of_mem_eraseIdx member) with ⟨bound, idle⟩
      rw [List.length_append, List.take_append_of_le_length bound]
      exact ⟨Nat.le_add_right_of_le bound, idle⟩

/-- A step which writes the session of its task. -/
theorem SessionsOwned.changed
    (owned : SessionsOwned state) {place : Nat} {stage : SettlementStage}
    (going : state.tasks[place]? = some stage)
    {db : LedgerDb} {next : Option SettlementStage} {session : SettlementSession}
    {change : SettlementSession → SettlementSession} {status : SettlementSessionStatus}
    (owner : stage.owned = some session) (sets : SetsStatus change status)
    (sessions : db.sessions = (state.db.updateSession session.id change).sessions)
    (moved : next = none ∨
      status.isActive = true ∧ next.bind SettlementStage.owned = some (change session))
    (inputs : List NettingInput) :
    SessionsOwned ⟨db, moveOn place next state.tasks, inputs⟩ where
  ids := by
    show db.sessions.map _ = _
    rw [sessions]
    simp only [LedgerDb.updateSession, List.map_map, List.length_map]
    rw [← owned.ids]
    apply List.map_congr_left
    intro row _
    show (if row.id = session.id then change row else row).id = row.id
    split
    · exact sets.id row
    · rfl
  once := by
    apply nodup_flatMap_moveOn going _ owned.once
    rcases moved with rfl | ⟨_, same⟩
    · exact List.nil_sublist _
    · rw [ownedIds_of_bind]
      rw [same, owner]
      exact congrArg some (sets.id session)
  row := by
    intro other member object own
    rw [sessions]
    rcases (mem_moveOn going).mp member with rfl | otherMember
    · rcases moved with ended | ⟨active, same⟩
      · cases ended
      · have object_eq : object = change session := Option.some.inj (own ▸ same)
        rw [object_eq, sets.status]
        rcases owned.row stage (List.mem_of_getElem? going) session owner with
          ⟨_, row, rowMember, rowId, _⟩
        refine ⟨active, change row, ?_, ?_, sets.status row⟩
        · exact List.mem_map.mpr ⟨row, rowMember, if_pos rowId⟩
        · rw [sets.id, sets.id, rowId]
    · rcases owned.row other (List.mem_of_mem_eraseIdx otherMember) object own with
        ⟨active, row, rowMember, rowId, rowStatus⟩
      refine ⟨active, row, List.mem_map.mpr ⟨row, rowMember, if_neg ?_⟩, rowId, rowStatus⟩
      intro same
      apply not_held_by_other going owned.once otherMember
        (mem_ownedIds.mpr ⟨session, owner, rfl⟩)
      exact mem_ownedIds.mpr ⟨object, own, rowId ▸ same⟩
  seen := by
    intro zone known member
    rw [sessions]
    rcases (mem_moveOn going).mp member with rfl | otherMember
    · rcases moved with ended | ⟨_, same⟩
      · cases ended
      · cases same
    · rcases owned.seen zone known (List.mem_of_mem_eraseIdx otherMember) with ⟨bound, idle⟩
      simp only [LedgerDb.updateSession, List.length_map, ← List.map_take,
        List.forall_mem_map]
      refine ⟨bound, ?_⟩
      intro row rowMember rowZone
      rw [zone_of_changed sets] at rowZone
      have inactive := idle row rowMember rowZone
      rw [← Bool.not_eq_true]
      intro active
      have before := owned.active_of_changed going owner change
        (List.mem_of_mem_take rowMember) active
      rw [inactive] at before
      cases before

/-- The tasks keep their sessions when one of them moves on. -/
theorem SessionsOwned.moveOn
    (owned : SessionsOwned state) {place : Nat} {stage : SettlementStage}
    (going : state.tasks[place]? = some stage)
    {db : LedgerDb} {next : Option SettlementStage}
    (effect : SessionsEffect state.db stage db next) (inputs : List NettingInput) :
    SessionsOwned ⟨db, Lib.moveOn place next state.tasks, inputs⟩ := by
  cases effect with
  | kept sessions object owner =>
      exact owned.kept going sessions (owner.imp id fun same => ⟨object, same⟩) inputs
  | inserted zone known now _ sessions => exact owned.inserted going zone now sessions inputs
  | changed session change status owner sets sessions moved =>
      exact owned.changed going owner sets sessions moved inputs

/-- Every step keeps the sessions of the tasks. -/
theorem SessionsOwned.step
    {runtime : PyRuntime} (owned : SessionsOwned state)
    {action : SettlementAction} {after : SettlementState}
    (moved : SettlementMove runtime state action after) :
    SessionsOwned after := by
  cases moved with
  | ignored => exact owned
  | called zoneText zone idle =>
      refine ⟨owned.ids, ?_, ?_, ?_⟩
      · show (List.flatMap _ (state.tasks ++ [_])).Nodup
        rw [List.flatMap_append]
        simpa [SettlementStage.ownedIds, SettlementStage.owned] using owned.once
      · intro stage member session own
        rcases List.mem_append.mp member with member | last
        · exact owned.row stage member session own
        · cases List.mem_singleton.mp last
          cases own
      · intro otherZone known member
        rcases List.mem_append.mp member with member | last
        · exact owned.seen otherZone known member
        · cases List.mem_singleton.mp last
          refine ⟨le_refl _, ?_⟩
          intro row rowMember rowZone
          rw [← Bool.not_eq_true]
          intro active
          exact idle row (List.mem_of_mem_take rowMember) ⟨rowZone, active⟩
  | reached place row stage going ahead free =>
      have object : stage.owned ≠ none := by
        intro none
        cases stage with
        | inserting zone known => exact absurd ahead List.not_mem_nil
        | _ => cases none
      have same : (some (stage.reach row state.db.entries)).bind SettlementStage.owned =
          stage.owned := owned_reach row state.db.entries stage
      exact owned.kept going rfl (.inr ⟨object, same⟩) state.inputs
  | advanced place input stage going ready =>
      exact owned.moveOn going (sessionsEffect runtime input state.db stage) _
  | lost place stage going => exact owned.kept going rfl (.inl rfl) state.inputs
  | booked drafts => exact ⟨owned.ids, owned.once, owned.row, owned.seen⟩

theorem SessionsOwned.start (start : state.IsStart) : SessionsOwned state where
  ids := by rw [start.sessions]; rfl
  once := by rw [start.tasks]; exact List.nodup_nil
  row := by
    rw [start.tasks]
    intro stage member
    exact absurd member List.not_mem_nil
  seen := by
    rw [start.tasks]
    intro zone known member
    exact absurd member List.not_mem_nil

theorem SessionsOwned.of_reachable
    {runtime : PyRuntime} (reached : (settlementSystem runtime).Reachable state) :
    SessionsOwned state := by
  apply reached.invariant
  · intro state start
    exact .start start
  · intro source action target _ owned moved
    exact owned.step (settlementMove_of_step moved)

end Owned

/-! ## One active session -/

/-- No two sessions of one zone are active. -/
def OneActive (sessions : List SettlementSession) : Prop :=
  sessions.Pairwise fun row other =>
    row.zone = other.zone → ¬ (row.status.isActive = true ∧ other.status.isActive = true)

/-- When a task inserts a session, no session of the zone which was committed
since it looked is active. -/
def NoneSinceCheck (state : SettlementState) (action : SettlementAction) : Prop :=
  match action with
  | .advance place _ =>
      ∀ zone known, state.tasks[place]? = some (.inserting zone known) →
        ∀ row ∈ state.db.sessions.drop known, row.zone = zone → row.status.isActive = false
  | _ => True

theorem oneActive_append
    {sessions : List SettlementSession} (one : OneActive sessions)
    (session : SettlementSession) (active : session.status.isActive = true) :
    OneActive (sessions ++ [session]) ↔
      ∀ row ∈ sessions, row.zone = session.zone → row.status.isActive = false := by
  rw [OneActive, List.pairwise_append]
  simp only [List.pairwise_singleton, List.mem_singleton, forall_eq, active, and_true,
    Bool.not_eq_true, true_and]
  exact and_iff_right one

section Active

variable {state : SettlementState}

/-- The sessions of the zone of an insertion are idle if those committed since
the look are. -/
theorem SessionsOwned.idle_iff
    (owned : SessionsOwned state) {zone : Zone} {known : Nat}
    (member : .inserting zone known ∈ state.tasks) :
    (∀ row ∈ state.db.sessions, row.zone = zone → row.status.isActive = false) ↔
      ∀ row ∈ state.db.sessions.drop known, row.zone = zone →
        row.status.isActive = false := by
  constructor
  · intro idle row later
    exact idle row (List.mem_of_mem_drop later)
  · intro later row rowMember
    rw [← List.take_append_drop known state.db.sessions] at rowMember
    rcases List.mem_append.mp rowMember with before | since
    · exact (owned.seen zone known member).2 row before
    · exact later row since

/-- A change of the session of a task makes no further session active. -/
theorem oneActive_changed
    (owned : SessionsOwned state) {place : Nat} {stage : SettlementStage}
    (going : state.tasks[place]? = some stage)
    {session : SettlementSession} (owner : stage.owned = some session)
    {change : SettlementSession → SettlementSession} {status : SettlementSessionStatus}
    (sets : SetsStatus change status) (one : OneActive state.db.sessions) :
    OneActive (state.db.updateSession session.id change).sessions := by
  simp only [OneActive, LedgerDb.updateSession, List.pairwise_map]
  apply List.Pairwise.imp_of_mem _ one
  intro row other rowMember otherMember distinct
  simp only [zone_of_changed sets]
  rintro sameZone ⟨rowActive, otherActive⟩
  apply distinct sameZone
  constructor
  · exact owned.active_of_changed going owner change rowMember rowActive
  · exact owned.active_of_changed going owner change otherMember otherActive

/-- From a state with one active session at most in each zone, a step leads to
such a state just if it inserts no session next to one which is active. -/
theorem oneActive_step_iff
    {runtime : PyRuntime} (owned : SessionsOwned state) (one : OneActive state.db.sessions)
    {action : SettlementAction} {after : SettlementState}
    (moved : SettlementMove runtime state action after) :
    OneActive after.db.sessions ↔ NoneSinceCheck state action := by
  cases moved with
  | ignored action other =>
      refine iff_of_true one ?_
      cases action with
      | advance place input => exact absurd rfl (other place input)
      | _ => trivial
  | called zoneText zone idle => exact iff_of_true one trivial
  | reached place row stage going ahead free => exact iff_of_true one trivial
  | advanced place input stage going ready =>
      have stageMember : stage ∈ state.tasks := List.mem_of_getElem? going
      have effect := sessionsEffect runtime input state.db stage
      show OneActive (stageStep runtime input state.db stage).1.sessions ↔ _
      have elsewhere : stage.owned ≠ none →
          NoneSinceCheck state (.advance place input) := by
        intro owner zone known inserting
        cases Option.some.inj (going.symm.trans inserting)
        exact absurd rfl owner
      generalize stageStep runtime input state.db stage = result at effect ⊢
      rcases result with ⟨db, next⟩
      cases effect with
      | kept sessions object =>
          rw [sessions]
          exact iff_of_true one (elsewhere object)
      | inserted zone known now stage_eq sessions =>
          rw [sessions, oneActive_append one _ rfl]
          rw [stage_eq] at going stageMember
          show (∀ row ∈ state.db.sessions, row.zone = zone → _) ↔ _
          rw [owned.idle_iff stageMember]
          constructor
          · intro idle otherZone otherKnown inserting
            cases Option.some.inj (going.symm.trans inserting)
            exact idle
          · intro idle
            exact idle zone known going
      | changed session change status owner sets sessions moved =>
          rw [sessions]
          refine iff_of_true (oneActive_changed owned going owner sets one) (elsewhere ?_)
          rw [owner]
          nofun
  | lost place stage going => exact iff_of_true one trivial
  | booked drafts => exact iff_of_true one trivial

/-- In every state reached by steps which insert no session next to one that
was committed since the look, each zone has one active session at most, and
the next step keeps it so just if it is such a step too. -/
theorem one_active_session_iff
    {runtime : PyRuntime}
    (reached : ((settlementSystem runtime).guarded NoneSinceCheck).Reachable state) :
    OneActive state.db.sessions ∧
      ∀ action after, (settlementSystem runtime).Step state action after →
        (OneActive after.db.sessions ↔ NoneSinceCheck state action) := by
  have one : OneActive state.db.sessions := by
    have both : SessionsOwned state ∧ OneActive state.db.sessions := by
      apply reached.invariant
      · intro state start
        refine ⟨.start start, ?_⟩
        rw [start.sessions]
        exact List.Pairwise.nil
      · intro source action target _ held move
        have moved := settlementMove_of_step move.2
        exact ⟨held.1.step moved, (oneActive_step_iff held.1 held.2 moved).mpr move.1⟩
    exact both.2
  refine ⟨one, ?_⟩
  intro action after move
  exact oneActive_step_iff (.of_reachable reached.of_guarded) one (settlementMove_of_step move)

end Active

/-! ## Beat and an operator -/

/-- Nothing is booked, and no task runs. -/
def quietState : SettlementState := ⟨⟨[], [], []⟩, [], []⟩

theorem quietState_start : quietState.IsStart :=
  ⟨rfl, rfl, rfl, rfl, fun _ member => absurd member List.not_mem_nil⟩

/-- A task which is called and inserts its session. -/
def polishCall : List SettlementAction :=
  [.call (py "PL"), .advance 0 ⟨0, .raised⟩]

theorem guarded_polishCall :
    ∃ state, TransitionSystem.runLabels (settlementStep .ascii) quietState polishCall =
        some state ∧ state.db.sessions.length = 1 ∧
      ((settlementSystem .ascii).guarded NoneSinceCheck).Reachable state := by
  refine ⟨_, rfl, rfl, ?_⟩
  have looked : ((settlementSystem .ascii).guarded NoneSinceCheck).Step quietState
      (.call (py "PL")) (quietState.called (py "PL")) := ⟨trivial, rfl⟩
  have unseen : NoneSinceCheck (quietState.called (py "PL")) (.advance 0 ⟨0, .raised⟩) := by
    rintro zone known ⟨⟩ row member
    exact absurd member List.not_mem_nil
  have inserted : ((settlementSystem .ascii).guarded NoneSinceCheck).Step
      (quietState.called (py "PL")) (.advance 0 ⟨0, .raised⟩) _ := ⟨unseen, rfl⟩
  exact .step (.step (.init quietState_start) looked) inserted

theorem one_active_session_iff_called :
    ∃ state, TransitionSystem.runLabels (settlementStep .ascii) quietState polishCall =
        some state ∧ state.db.sessions.length = 1 ∧
      OneActive state.db.sessions ∧
      ∀ action after, (settlementSystem .ascii).Step state action after →
        (OneActive after.db.sessions ↔ NoneSinceCheck state action) := by
  rcases guarded_polishCall with ⟨state, run, length, reached⟩
  exact ⟨state, run, length, one_active_session_iff reached⟩

/-- Beat and an operator call the task for one zone, and both look before
either inserts. -/
def overlappingCalls : List SettlementAction :=
  [.call (py "PL"), .call (py "PL"), .advance 0 ⟨0, .raised⟩, .advance 1 ⟨1, .raised⟩]

theorem two_active_sessions :
    ∃ state, TransitionSystem.runLabels (settlementStep .ascii) quietState
        overlappingCalls = some state ∧
      (settlementSystem .ascii).Reachable state ∧ ¬ OneActive state.db.sessions := by
  have run : TransitionSystem.runLabels (settlementStep .ascii) quietState
      overlappingCalls = some _ := rfl
  refine ⟨_, run, TransitionSystem.reachable_of_runLabels quietState_start run, ?_⟩
  intro one
  exact List.rel_of_pairwise_cons one (List.mem_singleton_self _) rfl ⟨rfl, rfl⟩

end Klik.Ledger
