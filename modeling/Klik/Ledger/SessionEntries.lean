import Klik.Ledger.SessionTotals
import Klik.Ledger.SettledMoney
import Klik.Ledger.TransferRows

/-!
# Sessions and their entries

What the transfers of a session are worth is what its entries are worth, for
every bank, from the step which creates the transfers on.  Tasks run side by
side and other operations book entries meanwhile; a session which is completed
has settled all its entries.
-/

namespace Klik.Ledger

open Klik.Common
open Klik.Ledger.Rtgs
open Klik.Lib

/-! ## Entries of a session -/

/-- Entries which a session has taken. -/
def LedgerDb.entriesIn (db : LedgerDb) (sessionId : Uuid) : List LedgerEntry :=
  db.entries.filter fun entry => entry.session = some sessionId

/-- What the entries of a session are worth. -/
def LedgerDb.paymentsIn (db : LedgerDb) (sessionId : Uuid) : List BankPayment :=
  (db.entriesIn sessionId).map LedgerEntry.payment

/-- The transfers of a session leave every bank with what its entries do. -/
def NetsEntries (db : LedgerDb) (sessionId : Uuid) : Prop :=
  ∀ bank, netInflow ((db.termsIn sessionId).map SettlementTransfer.payment) bank =
    netInflow (db.paymentsIn sessionId) bank

/-- Every entry of a session is settled. -/
def EntriesSettled (db : LedgerDb) (sessionId : Uuid) : Prop :=
  ∀ entry ∈ db.entries, entry.session = some sessionId → entry.settled = true

/-- What a task knows of the entries: its session has none before its `UPDATE`
commits, then none which is settled, and the transfers are worth what the
entries are. -/
def SettlementStage.Nets (db : LedgerDb) : SettlementStage → Prop
  | .inserting _ _ => True
  | .assigning session
  | .aggregated session _ _
  | .updating session _ _ _ _ => db.entriesIn session.id = []
  | .netting session => ∀ entry ∈ db.entriesIn session.id, entry.settled = false
  | .writing session entries =>
      (entries.map LedgerEntry.payment).Perm (db.paymentsIn session.id)
  | .settlingAll session
  | .dispatching session _
  | .saving session _ _ _
  | .marking session _ => NetsEntries db session.id
  | .closing session => NetsEntries db session.id ∧ EntriesSettled db session.id

theorem mem_entriesIn {db : LedgerDb} {sessionId : Uuid} {entry : LedgerEntry} :
    entry ∈ db.entriesIn sessionId ↔ entry ∈ db.entries ∧ entry.session = some sessionId := by
  simp only [LedgerDb.entriesIn, List.mem_filter, decide_eq_true_eq]

theorem entriesIn_eq_nil {db : LedgerDb} {sessionId : Uuid} :
    db.entriesIn sessionId = [] ↔ ∀ entry ∈ db.entries, entry.session ≠ some sessionId := by
  simp only [LedgerDb.entriesIn, List.filter_eq_nil_iff, decide_eq_true_eq, ne_eq]

@[simp]
theorem session_markIf
    (sessionId : Uuid) (now : Instant) (condition : LedgerEntry → Bool)
    (entry : LedgerEntry) :
    (entry.markIf sessionId now condition).session = entry.session := by
  simp only [LedgerEntry.markIf]
  split <;> rfl

@[simp]
theorem payment_markIf
    (sessionId : Uuid) (now : Instant) (condition : LedgerEntry → Bool)
    (entry : LedgerEntry) :
    (entry.markIf sessionId now condition).payment = entry.payment := by
  simp only [LedgerEntry.markIf]
  split <;> rfl

/-- Marking entries takes none into a session and none out of it. -/
theorem filter_markIf
    (owner : Uuid) (now : Instant) (condition : LedgerEntry → Bool)
    (entries : List LedgerEntry) (sessionId : Uuid) :
    (entries.map (LedgerEntry.markIf owner now condition)).filter
        (fun entry => entry.session = some sessionId) =
      (entries.filter fun entry => entry.session = some sessionId).map
        (LedgerEntry.markIf owner now condition) := by
  rw [List.filter_map]
  congr 1
  apply List.filter_congr
  intro entry _
  rw [Function.comp_apply, session_markIf]

section Changes

variable {db after : LedgerDb} {sessionId : Uuid}

theorem entriesIn_congr (entries : after.entries = db.entries) (sessionId : Uuid) :
    after.entriesIn sessionId = db.entriesIn sessionId := by
  rw [LedgerDb.entriesIn, entries, LedgerDb.entriesIn]

/-- An `UPDATE` of rows without a session leaves the entries of the other
sessions. -/
theorem entriesIn_assignRows
    {owner : Uuid} {taken : List Nat}
    (entries : after.entries = assignRows owner taken db.entries)
    (unassigned : ∀ row ∈ taken, Unassigned db.entries row) (other : sessionId ≠ owner) :
    after.entriesIn sessionId = db.entriesIn sessionId := by
  rw [LedgerDb.entriesIn, entries]
  apply filter_mapIdx_of_stays
  intro row entry found
  by_cases member : row ∈ taken
  · rcases unassigned row member with ⟨free, freeFound, none, _⟩
    cases Option.some.inj (found.symm.trans freeFound)
    rw [if_pos member]
    refine .inr ⟨decide_eq_false ?_, decide_eq_false ?_⟩
    · rw [none]
      exact nofun
    · exact fun same => other (Option.some.inj same).symm
  · exact .inl (if_neg member)

/-- Marking entries leaves what the entries of every session are worth. -/
theorem paymentsIn_markIf
    {owner : Uuid} {now : Instant} {condition : LedgerEntry → Bool}
    (entries : after.entries = db.entries.map (LedgerEntry.markIf owner now condition))
    (sessionId : Uuid) :
    after.paymentsIn sessionId = db.paymentsIn sessionId := by
  rw [LedgerDb.paymentsIn, LedgerDb.entriesIn, entries, filter_markIf, List.map_map]
  exact List.map_congr_left fun entry _ => payment_markIf owner now condition entry

theorem NetsEntries.congr
    (nets : NetsEntries db sessionId)
    (terms : after.termsIn sessionId = db.termsIn sessionId)
    (payments : after.paymentsIn sessionId = db.paymentsIn sessionId) :
    NetsEntries after sessionId := by
  intro bank
  rw [terms, payments]
  exact nets bank

end Changes

/-! ## What a step does to the entries -/

/-- The effect of the next step of a task on the entries, with its session. -/
inductive OwnEntriesEffect (db : LedgerDb) (stage : SettlementStage) : LedgerDb → Prop where
  | kept {after : LedgerDb} (entries : after.entries = db.entries) :
      OwnEntriesEffect db stage after
  | assigned {after : LedgerDb} (session : SettlementSession)
      (owner : stage.owned = some session)
      (entries : after.entries = assignRows session.id stage.locked db.entries) :
      OwnEntriesEffect db stage after
  | marked {after : LedgerDb} (session : SettlementSession)
      (owner : stage.owned = some session) (now : Instant) (condition : LedgerEntry → Bool)
      (entries : after.entries =
        db.entries.map (LedgerEntry.markIf session.id now condition)) :
      OwnEntriesEffect db stage after

theorem ownEntriesEffect
    (runtime : PyRuntime) (input : StepInput) (db : LedgerDb) (stage : SettlementStage) :
    OwnEntriesEffect db stage (stageStep runtime input db stage).1 := by
  cases stage with
  | inserting zone known => exact .kept rfl
  | aggregated session count total => exact .kept rfl
  | closing session => exact .kept rfl
  | settlingAll session => exact .marked session rfl input.now _ rfl
  | assigning session
  | netting session
  | writing session entries
  | dispatching session transfers =>
      simp only [stageStep]
      split <;> exact .kept rfl
  | updating session count total ahead taken =>
      simp only [stageStep]
      split
      · exact .kept rfl
      · exact .assigned session rfl rfl
  | saving session transfers results ahead =>
      cases ahead with
      | nil => exact .kept rfl
      | cons result ahead =>
          simp only [stageStep]
          split
          · exact .kept rfl
          · rename_i saved
            exact .kept (saveResult_keeps saved).2
  | marking session results =>
      simp only [stageStep]
      split
      · exact .kept rfl
      · rename_i marked
        rcases markSettled_entries marked with ⟨condition, entries⟩
        exact .marked session rfl input.now condition entries

section Others

variable {db after : LedgerDb} {stage : SettlementStage} {sessionId : Uuid}

theorem ne_of_not_owned
    {session : SettlementSession} (owner : stage.owned = some session)
    (other : sessionId ∉ stage.ownedIds) : sessionId ≠ session.id := by
  rintro rfl
  exact other (mem_ownedIds.mpr ⟨session, owner, rfl⟩)

/-- The entries of another session stay as they are. -/
theorem OwnEntriesEffect.entriesIn_other
    (effect : OwnEntriesEffect db stage after)
    (unassigned : ∀ row ∈ stage.locked, Unassigned db.entries row)
    (other : sessionId ∉ stage.ownedIds) :
    after.entriesIn sessionId = db.entriesIn sessionId := by
  cases effect with
  | kept entries => exact entriesIn_congr entries sessionId
  | assigned session owner entries =>
      exact entriesIn_assignRows entries unassigned (ne_of_not_owned owner other)
  | marked session owner now condition entries =>
      have apart := ne_of_not_owned owner other
      rw [LedgerDb.entriesIn, entries, LedgerDb.entriesIn, filter_markIf,
        List.map_congr_left (g := id), List.map_id]
      intro entry member
      have own : entry.session = some sessionId :=
        of_decide_eq_true (List.mem_filter.mp member).2
      refine markIf_of_false (Bool.and_eq_false_imp.mpr fun opened => ?_)
      simp only [LedgerEntry.isOpenIn, Bool.and_eq_true, decide_eq_true_eq, own,
        Option.some.injEq] at opened
      exact absurd opened.1 apart

theorem EntriesSettled.of_entriesIn
    (settled : EntriesSettled db sessionId)
    (same : after.entriesIn sessionId = db.entriesIn sessionId) :
    EntriesSettled after sessionId := by
  intro entry member own
  have here : entry ∈ after.entriesIn sessionId := mem_entriesIn.mpr ⟨member, own⟩
  rw [same] at here
  exact settled entry (mem_entriesIn.mp here).1 own

/-- What another task knows stays so. -/
theorem SettlementStage.Nets.congr
    (nets : stage.Nets db)
    (entries : ∀ sessionId ∈ stage.ownedIds,
      after.entriesIn sessionId = db.entriesIn sessionId)
    (terms : ∀ sessionId ∈ stage.ownedIds, after.termsIn sessionId = db.termsIn sessionId) :
    stage.Nets after := by
  have held {session : SettlementSession} (owner : stage.owned = some session) :
      session.id ∈ stage.ownedIds := mem_ownedIds.mpr ⟨session, owner, rfl⟩
  have worth {session : SettlementSession} (owner : stage.owned = some session) :
      after.paymentsIn session.id = db.paymentsIn session.id :=
    congrArg (List.map LedgerEntry.payment) (entries session.id (held owner))
  cases stage with
  | inserting => trivial
  | assigning session
  | aggregated session count total
  | updating session count total ahead taken => exact (entries _ (held rfl)).trans nets
  | netting session =>
      intro entry member
      rw [entries _ (held rfl)] at member
      exact nets entry member
  | writing session read =>
      show List.Perm _ (after.paymentsIn session.id)
      rw [worth rfl]
      exact nets
  | settlingAll session
  | dispatching session transfers
  | saving session transfers results ahead
  | marking session results =>
      exact NetsEntries.congr nets (terms _ (held rfl)) (worth rfl)
  | closing session =>
      exact ⟨nets.1.congr (terms _ (held rfl)) (worth rfl),
        nets.2.of_entriesIn (entries _ (held rfl))⟩

end Others

/-! ## The next step of a task -/

section Own

variable {runtime : PyRuntime} {input : StepInput} {db : LedgerDb} {stage : SettlementStage}

/-- The created transfers are worth what the entries are which were read. -/
theorem netInflow_created
    {session : SettlementSession} {firstId : Uuid} {entries : List LedgerEntry}
    {transfers : List SettlementTransfer}
    (made : createTransfers session firstId
      (netObligations (entries.map LedgerEntry.obligation)) = .ok transfers) (bank : Uuid) :
    netInflow (transfers.map SettlementTransfer.payment) bank =
      netInflow (entries.map LedgerEntry.payment) bank := by
  have worth := transferredPosition_netObligations (entries.map LedgerEntry.obligation) bank
  rw [owedPosition, List.map_map] at worth
  rw [createTransfers_rows made]
  have nets : (transferRows session.id session.zone firstId
      (netObligations (entries.map LedgerEntry.obligation))).map SettlementTransfer.payment =
        (netObligations (entries.map LedgerEntry.obligation)).map NetTransfer.payment := by
    have rows := transferRows_net session.id session.zone firstId
      (netObligations (entries.map LedgerEntry.obligation))
    rw [← congrArg (List.map NetTransfer.payment) rows, List.map_map]
    rfl
  rw [nets]
  exact worth

/-- Marking all entries of a session settles them. -/
theorem settled_of_markAll
    {after : LedgerDb} {sessionId : Uuid} {now : Instant} {entries : List LedgerEntry}
    (marked : after.entries =
      entries.map (LedgerEntry.markIf sessionId now fun _ => true)) :
    EntriesSettled after sessionId := by
  intro entry member own
  rw [marked] at member
  rcases List.mem_map.mp member with ⟨before, _, rfl⟩
  rw [session_markIf] at own
  simp only [LedgerEntry.markIf, LedgerEntry.isOpenIn, own, decide_true, Bool.true_and,
    Bool.and_true]
  split
  · rfl
  · rename_i settled
    simpa using settled

/-- The session of a task has no transfers and no entries. -/
theorem netsEntries_of_none
    {sessionId : Uuid} (noTransfers : db.termsIn sessionId = [])
    (noEntries : db.entriesIn sessionId = []) : NetsEntries db sessionId := by
  intro bank
  rw [noTransfers, LedgerDb.paymentsIn, noEntries]
  rfl

theorem termsIn_of_saveResult
    {transfers : List SettlementTransfer} {result : TransferResult} {after : LedgerDb}
    (saved : saveResult runtime transfers db result = .ok after) (sessionId : Uuid) :
    after.termsIn sessionId = db.termsIn sessionId := by
  rcases transfers_of_saveResult saved with ⟨_, rfl⟩ | ⟨_, rfl⟩
  · rfl
  · exact termsIn_congr (map_terms_map (terms_savedRow runtime result) _) sessionId

/-- The task still knows the entries after its next step. -/
theorem nets_stageStep
    (lists : stage.Lists db) (unassigned : ∀ row ∈ stage.locked, Unassigned db.entries row)
    (unused : db.entriesIn db.sessions.length = []) (nets : stage.Nets db)
    {next : SettlementStage} (goes : (stageStep runtime input db stage).2 = some next) :
    next.Nets (stageStep runtime input db stage).1 := by
  cases stage with
  | inserting zone known =>
      cases goes
      exact unused
  | assigning session =>
      simp only [stageStep] at goes ⊢
      split at goes
      · cases goes
      · rename_i opened
        cases goes
        rw [if_neg opened]
        exact nets
  | aggregated session count total =>
      cases goes
      exact nets
  | updating session count total ahead taken =>
      simp only [stageStep] at goes ⊢
      split at goes
      · cases goes
      · rename_i fits
        rw [if_neg fits]
        cases goes
        cases taken with
        | nil =>
            have none : ∀ entry ∈ assignRows session.id [] db.entries,
                entry.session ≠ some session.id := by
              rw [assignRows_nil]
              exact entriesIn_eq_nil.mp nets
            refine ⟨netsEntries_of_none lists (entriesIn_eq_nil.mpr none), ?_⟩
            intro entry member own
            exact absurd own (none entry member)
        | cons row rest =>
            intro entry member
            rcases mem_entriesIn.mp member with ⟨placed, own⟩
            rcases List.mem_mapIdx.mp placed with ⟨place, bound, rfl⟩
            split at own
            · rename_i taken
              rcases unassigned place taken with ⟨free, found, _, unsettled⟩
              cases Option.some.inj ((List.getElem?_eq_getElem bound).symm.trans found)
              rw [if_pos taken]
              exact unsettled
            · exact absurd own (entriesIn_eq_nil.mp nets _ (List.getElem_mem bound))
  | netting session =>
      simp only [stageStep] at goes ⊢
      split at goes
      · cases goes
      · rename_i netting
        cases goes
        rw [if_neg netting]
        have all : db.entries.filter (LedgerEntry.isOpenIn session.id) =
            db.entriesIn session.id := by
          apply List.filter_congr
          intro entry member
          by_cases own : entry.session = some session.id
          · have unsettled := nets entry (mem_entriesIn.mpr ⟨member, own⟩)
            simp only [LedgerEntry.isOpenIn, unsettled, Bool.not_false, Bool.and_true]
          · simp only [LedgerEntry.isOpenIn, own, decide_false, Bool.false_and]
        exact ((List.reverse_perm _).trans (List.Perm.of_eq all)).map LedgerEntry.payment
  | writing session entries =>
      simp only [stageStep] at goes ⊢
      split at goes
      · cases goes
      · rename_i transfers made
        cases goes
        have worth : NetsEntries
            (LedgerDb.updateSession { db with transfers := db.transfers ++ transfers }
              session.id SettlementSession.toSettling) session.id := by
          intro bank
          show netInflow ((LedgerDb.termsIn { db with transfers := db.transfers ++ transfers }
            session.id).map SettlementTransfer.payment) bank =
              netInflow (db.paymentsIn session.id) bank
          rw [termsIn_created lists made, netInflow_created made, netInflow_perm nets]
        split <;> exact worth
  | settlingAll session =>
      cases goes
      exact ⟨NetsEntries.congr nets rfl (paymentsIn_markIf rfl session.id),
        settled_of_markAll rfl⟩
  | closing session => cases goes
  | dispatching session transfers =>
      simp only [stageStep] at goes ⊢
      split at goes
      · cases goes
      · cases goes
        exact nets
      · cases goes
        exact nets
  | saving session transfers results ahead =>
      cases ahead with
      | nil =>
          cases goes
          exact nets
      | cons result ahead =>
          simp only [stageStep] at goes ⊢
          split at goes
          · cases goes
          · rename_i saved
            cases goes
            have terms := termsIn_of_saveResult saved session.id
            exact NetsEntries.congr nets terms
              (congrArg (List.map LedgerEntry.payment)
                (entriesIn_congr (saveResult_keeps saved).2 session.id))
  | marking session results =>
      simp only [stageStep] at goes
      split at goes <;> cases goes

/-- `mark_settled` completes a session where every result is a completed
transfer, and then it settles all entries. -/
theorem completed_of_markSettled
    {session final : SettlementSession}
    {results : InsertionDict Uuid SettlementTransferStatus} {now : Instant}
    {after : LedgerDb} (marked : markSettled session results now db = .ok (final, after))
    {row : SettlementSession} (rowMember : row ∈ after.sessions) (own : row.id = session.id)
    (completed : row.status = .completed) :
    (results.foldl (applyResult session.id now) (db, false)).2 = false ∧
      EntriesSettled after session.id := by
  simp only [markSettled] at marked
  split at marked
  · cases marked
  · cases marked
    have quiet : (results.foldl (applyResult session.id now) (db, false)).2 = false := by
      rcases List.mem_map.mp rowMember with ⟨before, _, rfl⟩
      by_cases here : before.id = session.id
      · rw [if_pos here] at completed
        cases failed : (results.foldl (applyResult session.id now) (db, false)).2 with
        | false => rfl
        | true =>
            rw [failed] at completed
            cases completed
      · rw [if_neg here] at own
        exact absurd own here
    refine ⟨quiet, ?_⟩
    rw [quiet]
    exact settled_of_markAll rfl

end Own

/-! ## All sessions -/

/-- Entries have sessions which exist, and the tasks know those of their
sessions.  A completed session has settled its entries, by transfers which are
worth the same. -/
structure SessionsNetted (state : SettlementState) : Prop where
  known : ∀ entry ∈ state.db.entries, ∀ sessionId,
    entry.session = some sessionId → sessionId < state.db.sessions.length
  tasks : ∀ stage ∈ state.tasks, stage.Nets state.db
  completed : ∀ session ∈ state.db.sessions, session.status = .completed →
    NetsEntries state.db session.id ∧ EntriesSettled state.db session.id

section Sessions

variable {runtime : PyRuntime} {state : SettlementState} {place : Nat}
variable {stage : SettlementStage}

/-- The row of a session whose task goes on is not completed. -/
theorem not_completed_of_owned
    (owned : SessionsOwned state) (going : state.tasks[place]? = some stage)
    {session row : SettlementSession} (owner : stage.owned = some session)
    (member : row ∈ state.db.sessions) (own : row.id = session.id) :
    row.status ≠ .completed := by
  rcases owned.row stage (List.mem_of_getElem? going) session owner with
    ⟨active, known, knownMember, knownId, status⟩
  rw [owned.row_unique member knownMember (own.trans knownId.symm), status]
  intro completed
  rw [completed] at active
  cases active

/-- A session which its task has just changed to another status. -/
theorem not_completed_of_changed
    {sessions : List SettlementSession} {sessionId : Uuid}
    {change : SettlementSession → SettlementSession} {status : SettlementSessionStatus}
    (sets : SetsStatus change status) (other : status ≠ .completed) {row : SettlementSession}
    (member : row ∈ sessions.map fun row => if row.id = sessionId then change row else row)
    (own : row.id = sessionId) : row.status ≠ .completed := by
  rcases List.mem_map.mp member with ⟨before, _, rfl⟩
  by_cases here : before.id = sessionId
  · rw [if_pos here, sets.status]
    exact other
  · rw [if_neg here] at own
    exact absurd own here

/-- A session is completed by a task which closes it, or which has marked its
transfers. -/
theorem completes_cases
    (owned : SessionsOwned state) (going : state.tasks[place]? = some stage)
    (input : StepInput) {session row : SettlementSession} (owner : stage.owned = some session)
    (member : row ∈ (stageStep runtime input state.db stage).1.sessions)
    (own : row.id = session.id) (completed : row.status = .completed) :
    stage = .closing session ∨ ∃ results final after, stage = .marking session results ∧
      markSettled session results input.now state.db = .ok (final, after) := by
  have open' {sessions : List SettlementSession} (same : sessions = state.db.sessions)
      (placed : row ∈ sessions) : False :=
    not_completed_of_owned owned going owner (same ▸ placed) own completed
  cases stage with
  | inserting zone known => cases owner
  | aggregated _ count total => exact (open' rfl member).elim
  | settlingAll _ => exact (open' rfl member).elim
  | closing _ =>
      cases owner
      exact .inl rfl
  | assigning _
  | netting _
  | dispatching _ transfers =>
      simp only [stageStep] at member
      split at member <;> exact (open' rfl member).elim
  | updating _ count total ahead taken =>
      cases owner
      simp only [stageStep] at member
      split at member
      · exact (open' rfl member).elim
      · exact absurd completed
          (not_completed_of_changed (setsStatus_withTotals count total) (by decide) member own)
  | writing _ entries =>
      cases owner
      simp only [stageStep] at member
      split at member
      · exact (open' rfl member).elim
      · exact absurd completed
          (not_completed_of_changed setsStatus_toSettling (by decide) member own)
  | saving _ transfers results ahead =>
      cases ahead with
      | nil => exact (open' rfl member).elim
      | cons result ahead =>
          simp only [stageStep] at member
          split at member
          · exact (open' rfl member).elim
          · rename_i saved
            exact (open' (saveResult_keeps saved).1 member).elim
  | marking _ results =>
      cases owner
      simp only [stageStep] at member
      split at member
      · exact (open' rfl member).elim
      · rename_i marked
        exact .inr ⟨results, _, _, rfl, marked⟩

/-- A session which its own task has just completed. -/
theorem completed_stageStep
    (owned : SessionsOwned state) (held : TransfersHeld state) (netted : SessionsNetted state)
    (going : state.tasks[place]? = some stage) (input : StepInput)
    {session row : SettlementSession} (owner : stage.owned = some session)
    (member : row ∈ (stageStep runtime input state.db stage).1.sessions)
    (own : row.id = session.id) (completed : row.status = .completed) :
    NetsEntries (stageStep runtime input state.db stage).1 row.id ∧
      EntriesSettled (stageStep runtime input state.db stage).1 row.id := by
  have here := List.mem_of_getElem? going
  have lists := held.lists stage here
  have nets := netted.tasks stage here
  rw [own]
  rcases completes_cases owned going input owner member own completed with
    rfl | ⟨results, final, after, rfl, marked⟩
  · exact nets
  · simp only [stageStep, marked] at member ⊢
    rcases markSettled_entries marked with ⟨condition, entries⟩
    refine ⟨NetsEntries.congr nets ?_ (paymentsIn_markIf entries session.id),
      (completed_of_markSettled marked member own completed).2⟩
    apply termsIn_congr
    rw [transfers_of_markSettled lists held.nodup marked]
    exact map_terms_map (terms_markRow session.id input.now results) _

/-- A row of a session which is not the task's is there before its step. -/
theorem SessionsEffect.mem_other
    {db after : LedgerDb} {next : Option SettlementStage}
    (effect : SessionsEffect db stage after next) {row : SettlementSession}
    (member : row ∈ after.sessions) (ended : row.status.isActive = false)
    (other : row.id ∉ stage.ownedIds) : row ∈ db.sessions := by
  cases effect with
  | kept sessions => exact sessions ▸ member
  | inserted zone known now _ sessions =>
      rw [sessions] at member
      rcases List.mem_append.mp member with earlier | opened
      · exact earlier
      · rw [List.mem_singleton.mp opened] at ended
        cases ended
  | changed session change status owner sets sessions =>
      rw [sessions] at member
      rcases List.mem_map.mp member with ⟨before, beforeMember, rfl⟩
      split
      · rename_i own
        rw [if_pos own, sets.id, own] at other
        exact absurd (mem_ownedIds.mpr ⟨session, owner, rfl⟩) other
      · exact beforeMember

theorem SessionsNetted.advanced
    (owned : SessionsOwned state) (held : TransfersHeld state) (entries : EntriesHeld state)
    (netted : SessionsNetted state) (going : state.tasks[place]? = some stage)
    (input : StepInput) :
    SessionsNetted (state.advanced runtime place stage input) := by
  have here := List.mem_of_getElem? going
  have unassigned := entries.unassigned_own going
  have sessions := sessionsEffect runtime input state.db stage
  have effect := ownEntriesEffect runtime input state.db stage
  have terms := termsEffect runtime input held.nodup (held.lists stage here)
  constructor
  · intro entry member sessionId own
    have length := sessions.length_le
    apply lt_of_lt_of_le _ length
    cases entryFrom_stageStep runtime input state.db stage entry member with
    | kept old oldMember _ same => exact netted.known old oldMember sessionId (same ▸ own)
    | taken row old session found _ locked owner assigned =>
        cases Option.some.inj (own.symm.trans assigned)
        rcases owned.row stage here session owner with ⟨_, known, knownMember, id, _⟩
        rw [← id]
        exact owned.id_lt knownMember
  · intro other member
    rcases (mem_moveOn going).mp member with moved | rest
    · apply nets_stageStep (held.lists stage here) unassigned _ (netted.tasks stage here) moved
      rw [entriesIn_eq_nil]
      intro entry entryMember own
      exact lt_irrefl _ (netted.known entry entryMember _ own)
    · have apart : ∀ sessionId ∈ other.ownedIds, sessionId ∉ stage.ownedIds :=
        fun sessionId theirs own => not_held_by_other going owned.once rest own theirs
      exact (netted.tasks other (List.mem_of_mem_eraseIdx rest)).congr
        (fun sessionId theirs => effect.entriesIn_other unassigned (apart sessionId theirs))
        (fun sessionId theirs => terms.termsIn_other (apart sessionId theirs))
  · intro row member completed
    by_cases own : row.id ∈ stage.ownedIds
    · rcases mem_ownedIds.mp own with ⟨session, owner, id⟩
      exact completed_stageStep owned held netted going input owner member id.symm completed
    · have before : row ∈ state.db.sessions :=
        sessions.mem_other member (by rw [completed]; rfl) own
      have same := effect.entriesIn_other unassigned own
      rcases netted.completed row before completed with ⟨nets, settled⟩
      exact ⟨nets.congr (terms.termsIn_other own) (congrArg (List.map LedgerEntry.payment) same),
        settled.of_entriesIn same⟩

theorem entriesIn_booked
    (drafts : List EntryDraft) (db : LedgerDb) (sessionId : Uuid) :
    LedgerDb.entriesIn { db with entries := db.entries ++ drafts.map EntryDraft.row }
        sessionId = db.entriesIn sessionId := by
  have none : (drafts.map EntryDraft.row).filter
      (fun entry => entry.session = some sessionId) = [] := by
    rw [List.filter_eq_nil_iff, List.forall_mem_map]
    intro draft _ own
    cases of_decide_eq_true own
  show (db.entries ++ drafts.map EntryDraft.row).filter _ = _
  rw [List.filter_append, none, List.append_nil, LedgerDb.entriesIn]

/-- Every step keeps the transfers of the sessions worth their entries. -/
theorem SessionsNetted.step
    (owned : SessionsOwned state) (held : TransfersHeld state) (entries : EntriesHeld state)
    (netted : SessionsNetted state) {action : SettlementAction} {after : SettlementState}
    (moved : SettlementMove runtime state action after) : SessionsNetted after := by
  cases moved with
  | ignored => exact netted
  | called zoneText zone idle =>
      refine ⟨netted.known, ?_, netted.completed⟩
      intro stage member
      rcases List.mem_append.mp member with earlier | last
      · exact netted.tasks stage earlier
      · cases List.mem_singleton.mp last
        trivial
  | reached place row stage going ahead free =>
      refine ⟨netted.known, ?_, netted.completed⟩
      intro other member
      have placed : other ∈ Lib.moveOn place (some _) state.tasks := member
      rcases (mem_moveOn going).mp placed with same | rest
      · cases same
        have nets := netted.tasks stage (List.mem_of_getElem? going)
        cases stage <;> exact nets
      · exact netted.tasks other (List.mem_of_mem_eraseIdx rest)
  | advanced place input stage going ready =>
      exact netted.advanced owned held entries going input
  | lost place stage going =>
      refine ⟨netted.known, ?_, netted.completed⟩
      intro other member
      exact netted.tasks other (List.mem_of_mem_eraseIdx member)
  | booked drafts =>
      have same := entriesIn_booked drafts state.db
      constructor
      · intro entry member sessionId own
        rcases List.mem_append.mp member with earlier | booked
        · exact netted.known entry earlier sessionId own
        · rcases List.mem_map.mp booked with ⟨draft, _, rfl⟩
          cases own
      · intro stage member
        exact (netted.tasks stage member).congr (fun sessionId _ => same sessionId)
          (fun _ _ => rfl)
      · intro row member completed
        rcases netted.completed row member completed with ⟨nets, settled⟩
        exact ⟨nets.congr rfl (congrArg (List.map LedgerEntry.payment) (same row.id)),
          settled.of_entriesIn (same row.id)⟩

theorem SessionsNetted.start (start : state.IsStart) : SessionsNetted state where
  known entry member sessionId own := by
    rw [(start.entries entry member).1] at own
    cases own
  tasks := by
    rw [start.tasks]
    intro stage member
    cases member
  completed := by
    rw [start.sessions]
    intro row member
    cases member

theorem SessionsNetted.of_reachable
    (reached : (settlementSystem runtime).Reachable state) : SessionsNetted state := by
  apply reached.invariant
  · intro state start
    exact .start start
  · intro source action target before netted moved
    exact netted.step (.of_reachable before) (.of_reachable before) (.of_reachable before)
      (settlementMove_of_step moved)

end Sessions

/-! ## Completed sessions -/

/-- Transfers of a session. -/
def LedgerDb.transfersIn (db : LedgerDb) (sessionId : Uuid) : List SettlementTransfer :=
  db.transfers.filter fun row => row.session = sessionId

theorem termsIn_eq_map (db : LedgerDb) (sessionId : Uuid) :
    db.termsIn sessionId = (db.transfersIn sessionId).map SettlementTransfer.terms :=
  List.filter_map

/-- What the transfers of a session are worth, as they were created and as they
are. -/
theorem payments_termsIn (db : LedgerDb) (sessionId : Uuid) :
    (db.termsIn sessionId).map SettlementTransfer.payment =
      (db.transfersIn sessionId).map SettlementTransfer.payment := by
  rw [termsIn_eq_map, List.map_map]
  rfl

/-- However many tasks run side by side, whatever is booked meanwhile and
however the transfers are answered: a completed session has settled all its
entries, and its transfers leave every bank with what these entries do. -/
theorem completed_session_nets
    (runtime : PyRuntime) (state : SettlementState)
    (reached : (settlementSystem runtime).Reachable state)
    (session : SettlementSession) (member : session ∈ state.db.sessions)
    (completed : session.status = .completed) :
    (∀ entry ∈ state.db.entries, entry.session = some session.id → entry.settled = true) ∧
      ∀ bank,
        netInflow ((state.db.transfersIn session.id).map SettlementTransfer.payment) bank =
          netInflow ((state.db.entriesIn session.id).map LedgerEntry.payment) bank := by
  rcases (SessionsNetted.of_reachable reached).completed session member completed with
    ⟨nets, settled⟩
  refine ⟨settled, fun bank => ?_⟩
  rw [← payments_termsIn]
  exact nets bank

/-- The second payment comes between the count and the `UPDATE`, and the only
transfer succeeds. -/
def settledWithSecond : List SettlementAction :=
  let advance := SettlementAction.advance 0 ⟨0, .raised⟩
  bookedAfterCount ++
    [advance, advance, .advance 0 ⟨0, .returned [⟨0, .success, .str [], .str []⟩]⟩, advance,
      advance, advance]

/-- One transfer is worth the two payments, although the session has counted
one. -/
theorem completed_session_nets_withSecond :
    ∃ state, TransitionSystem.runLabels (settlementStep .ascii) onePaymentState
        settledWithSecond = some state ∧
      state.db.entries.map LedgerEntry.settled = [true, true] ∧
      ∀ bank, netInflow [⟨1, 2, 150⟩] bank =
        netInflow ((state.db.entriesIn 0).map LedgerEntry.payment) bank := by
  have shown : (TransitionSystem.runLabels (settlementStep .ascii) onePaymentState
      settledWithSecond).map (fun state =>
        (state.db.entries.map LedgerEntry.settled,
          state.db.sessions.map fun row => (row.id, row.status),
          (state.db.transfersIn 0).map SettlementTransfer.payment)) =
      some ([true, true], [(0, .completed)], [⟨1, 2, 150⟩]) := by
    decide +kernel
  rcases Option.map_eq_some_iff.mp shown with ⟨state, run, results⟩
  refine ⟨state, run, congrArg Prod.fst results, ?_⟩
  have sessions : state.db.sessions.map (fun row => (row.id, row.status)) =
      [(0, .completed)] := congrArg (fun shown => shown.2.1) results
  have worth : (state.db.transfersIn 0).map SettlementTransfer.payment = [⟨1, 2, 150⟩] :=
    congrArg (fun shown => shown.2.2) results
  have listed : (0, SettlementSessionStatus.completed) ∈
      state.db.sessions.map fun row => (row.id, row.status) :=
    sessions ▸ List.mem_singleton_self _
  rcases List.mem_map.mp listed with ⟨session, member, same⟩
  have nets := (completed_session_nets .ascii state
    (TransitionSystem.reachable_of_runLabels onePaymentState_start run) session member
    (congrArg Prod.snd same)).2
  rw [show session.id = 0 from congrArg Prod.fst same, worth] at nets
  exact nets

end Klik.Ledger
