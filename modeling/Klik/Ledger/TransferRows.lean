import Klik.Ledger.SessionZones

/-!
# Rows of transfers

The transfers of a session are created together, and its task keeps them as it
created them.  The row of a transfer keeps what it was created with; what a
task changes are the texts, the status and the time of the rows of its own
session.
-/

namespace Klik.Ledger

open Klik.Common
open Klik.Ledger.Rtgs
open Klik.Lib

/-! ## What a transfer is created with -/

/-- The row as it was created. -/
def SettlementTransfer.terms (transfer : SettlementTransfer) : SettlementTransfer :=
  { transfer with
    status := .pending
    rtgsReference := []
    failureReason := []
    completedAt := none }

/-- Created rows of a session. -/
def LedgerDb.termsIn (db : LedgerDb) (sessionId : Uuid) : List SettlementTransfer :=
  (db.transfers.map SettlementTransfer.terms).filter fun row => row.session = sessionId

@[simp]
theorem terms_terms (transfer : SettlementTransfer) :
    transfer.terms.terms = transfer.terms := rfl

@[simp]
theorem terms_withTexts
    (runtime : PyRuntime) (result : TransferResult) (row : SettlementTransfer) :
    (row.withTexts runtime result).terms = row.terms := rfl

theorem terms_of_mem_transferRows
    {sessionId : Uuid} {zone : Zone} {firstId : Uuid} {nets : List NetTransfer}
    {row : SettlementTransfer} (member : row ∈ transferRows sessionId zone firstId nets) :
    row.terms = row := by
  induction nets generalizing firstId with
  | nil => cases member
  | cons net rest induction =>
      rcases List.mem_cons.mp member with rfl | later
      · rfl
      · exact induction later

theorem terms_transferRows
    (sessionId : Uuid) (zone : Zone) (firstId : Uuid) (nets : List NetTransfer) :
    (transferRows sessionId zone firstId nets).map SettlementTransfer.terms =
      transferRows sessionId zone firstId nets := by
  rw [List.map_congr_left fun row member => terms_of_mem_transferRows member]
  exact List.map_id' _

theorem mem_termsIn {db : LedgerDb} {sessionId : Uuid} {transfer : SettlementTransfer} :
    transfer ∈ db.termsIn sessionId ↔
      ∃ row ∈ db.transfers, row.session = sessionId ∧ row.terms = transfer := by
  simp only [LedgerDb.termsIn, List.mem_filter, List.mem_map, decide_eq_true_eq]
  constructor
  · rintro ⟨⟨row, member, rfl⟩, session⟩
    exact ⟨row, member, session, rfl⟩
  · rintro ⟨row, member, session, rfl⟩
    exact ⟨⟨row, member, rfl⟩, session⟩

theorem termsIn_congr {db after : LedgerDb}
    (terms : after.transfers.map SettlementTransfer.terms =
      db.transfers.map SettlementTransfer.terms) (sessionId : Uuid) :
    after.termsIn sessionId = db.termsIn sessionId := by
  rw [LedgerDb.termsIn, terms, LedgerDb.termsIn]

/-- Columns which a row was created with. -/
theorem map_eq_of_terms_eq
    {Value : Type} (read : SettlementTransfer → Value)
    (created : ∀ transfer, read transfer.terms = read transfer)
    {left right : List SettlementTransfer}
    (same : left.map SettlementTransfer.terms = right.map SettlementTransfer.terms) :
    left.map read = right.map read := by
  have lifted := congrArg (List.map read) same
  rw [List.map_map, List.map_map] at lifted
  have erase : read ∘ SettlementTransfer.terms = read := funext created
  rwa [erase] at lifted

/-! ## What a task writes -/

/-- The row after the texts of a result were saved. -/
def savedRow (runtime : PyRuntime) (result : TransferResult) (row : SettlementTransfer) :
    SettlementTransfer :=
  if row.id = result.transferId then row.withTexts runtime result else row

/-- The row after one result was applied. -/
def answeredRow
    (sessionId : Uuid) (now : Instant) (result : Uuid × SettlementTransferStatus)
    (row : SettlementTransfer) : SettlementTransfer :=
  if row.id = result.1 ∧ row.session = sessionId then
    if result.2 = .completed then { row with status := .completed, completedAt := some now }
    else { row with status := .failed }
  else row

/-- The row after `mark_settled`. -/
def markRow
    (sessionId : Uuid) (now : Instant) (results : InsertionDict Uuid SettlementTransferStatus)
    (row : SettlementTransfer) : SettlementTransfer :=
  match results.get? row.id with
  | none => row
  | some status => answeredRow sessionId now (row.id, status) row

@[simp]
theorem terms_savedRow
    (runtime : PyRuntime) (result : TransferResult) (row : SettlementTransfer) :
    (savedRow runtime result row).terms = row.terms := by
  simp only [savedRow]
  split <;> rfl

@[simp]
theorem terms_answeredRow
    (sessionId : Uuid) (now : Instant) (result : Uuid × SettlementTransferStatus)
    (row : SettlementTransfer) :
    (answeredRow sessionId now result row).terms = row.terms := by
  simp only [answeredRow]
  split
  · split <;> rfl
  · rfl

@[simp]
theorem terms_markRow
    (sessionId : Uuid) (now : Instant) (results : InsertionDict Uuid SettlementTransferStatus)
    (row : SettlementTransfer) :
    (markRow sessionId now results row).terms = row.terms := by
  simp only [markRow]
  split
  · rfl
  · exact terms_answeredRow _ _ _ row

/-- Rows of other sessions are not marked. -/
theorem markRow_of_other
    {sessionId : Uuid} {row : SettlementTransfer} (other : row.session ≠ sessionId)
    (now : Instant) (results : InsertionDict Uuid SettlementTransferStatus) :
    markRow sessionId now results row = row := by
  simp only [markRow]
  split
  · rfl
  · exact if_neg fun both => other both.2

section Marked

variable {sessionId : Uuid} {row : SettlementTransfer}
variable {results : InsertionDict Uuid SettlementTransferStatus}

theorem markRow_completed
    (own : row.session = sessionId) (status : results.get? row.id = some .completed)
    (now : Instant) :
    markRow sessionId now results row =
      { row with status := .completed, completedAt := some now } := by
  simp only [markRow, status]
  exact (if_pos ⟨rfl, own⟩).trans (if_pos rfl)

theorem markRow_failed
    (own : row.session = sessionId) (status : results.get? row.id = some .failed)
    (now : Instant) :
    markRow sessionId now results row = { row with status := .failed } := by
  simp only [markRow, status]
  refine (if_pos ⟨rfl, own⟩).trans (if_neg ?_)
  intro same
  cases same

end Marked

theorem answeredRow_other
    {sessionId : Uuid} {now : Instant} {result : Uuid × SettlementTransferStatus}
    {row : SettlementTransfer} (other : row.id ≠ result.1) :
    answeredRow sessionId now result row = row :=
  if_neg fun both => other both.1

/-- Saving a result writes the row of a listed transfer, if there is one. -/
theorem transfers_of_saveResult
    {runtime : PyRuntime} {transfers : List SettlementTransfer} {db after : LedgerDb}
    {result : TransferResult}
    (saved : saveResult runtime transfers db result = .ok after) :
    (result.transferId ∉ transfers.map SettlementTransfer.id ∧ after = db) ∨
      result.transferId ∈ transfers.map SettlementTransfer.id ∧
        after = { db with transfers := db.transfers.map (savedRow runtime result) } := by
  simp only [saveResult] at saved
  split at saved
  · rename_i absent
    cases saved
    refine .inl ⟨?_, rfl⟩
    intro listed
    rcases List.mem_map.mp listed with ⟨transfer, member, known⟩
    have refused := List.find?_eq_none.mp absent transfer member
    simp only [known, decide_true, not_true_eq_false] at refused
  · rename_i transfer found
    split at saved
    · cases saved
      have known : transfer.id = result.transferId := by
        simpa using List.find?_some found
      refine .inr ⟨known ▸ List.mem_map_of_mem (List.mem_of_find?_eq_some found), ?_⟩
      simp only [LedgerDb.updateTransfer, known]
      rfl
    · cases saved

theorem transfers_applyResult
    (sessionId : Uuid) (now : Instant) (state : LedgerDb × Bool)
    (result : Uuid × SettlementTransferStatus)
    (ids : (state.1.transfers.map SettlementTransfer.id).Nodup) :
    (applyResult sessionId now state result).1.transfers =
      state.1.transfers.map (answeredRow sessionId now result) := by
  have untouched (none : ∀ row ∈ state.1.transfers,
      ¬ (row.id = result.1 ∧ row.session = sessionId)) :
      state.1.transfers = state.1.transfers.map (answeredRow sessionId now result) := by
    rw [List.map_congr_left (g := id), List.map_id]
    intro row member
    exact if_neg (none row member)
  simp only [applyResult]
  split
  · rename_i absent
    apply untouched
    intro row member both
    have refused := List.find?_eq_none.mp absent row member
    simp only [both.1, both.2, decide_true, Bool.and_self, not_true_eq_false] at refused
  · rename_i transfer found
    have member := List.mem_of_find?_eq_some found
    have known : transfer.id = result.1 ∧ transfer.session = sessionId := by
      simpa using List.find?_some found
    have hit : ∀ row ∈ state.1.transfers,
        row.id = transfer.id ↔ row.id = result.1 ∧ row.session = sessionId := by
      intro row rowMember
      constructor
      · intro same
        rw [List.inj_on_of_nodup_map ids rowMember member same]
        exact known
      · intro both
        rw [both.1, known.1]
    split
    · rename_i completed
      apply List.map_congr_left
      intro row rowMember
      simp only [answeredRow, hit row rowMember, if_pos completed]
    · rename_i failed
      apply List.map_congr_left
      intro row rowMember
      simp only [answeredRow, hit row rowMember, if_neg failed]

theorem transfers_foldl_applyResult
    (sessionId : Uuid) (now : Instant)
    {results : InsertionDict Uuid SettlementTransferStatus}
    (distinct : results.keys.Nodup) (state : LedgerDb × Bool)
    (ids : (state.1.transfers.map SettlementTransfer.id).Nodup) :
    (List.foldl (applyResult sessionId now) state results).1.transfers =
      state.1.transfers.map (markRow sessionId now results) := by
  induction results generalizing state with
  | nil => exact (List.map_id _).symm
  | cons result rest induction =>
      have parts := List.nodup_cons.mp distinct
      have first := transfers_applyResult sessionId now state result ids
      have kept : ((applyResult sessionId now state result).1.transfers.map
          SettlementTransfer.id).Nodup := by
        have terms : (state.1.transfers.map (answeredRow sessionId now result)).map
            SettlementTransfer.terms = state.1.transfers.map SettlementTransfer.terms := by
          rw [List.map_map]
          exact List.map_congr_left fun row _ => terms_answeredRow _ _ _ row
        rw [first, map_eq_of_terms_eq SettlementTransfer.id (fun _ => rfl) terms]
        exact ids
      rw [List.foldl_cons, induction parts.2 _ kept, first, List.map_map]
      apply List.map_congr_left
      intro row _
      have sameId : (answeredRow sessionId now result row).terms.id = row.terms.id := by
        rw [terms_answeredRow]
      have readId : (answeredRow sessionId now result row).id = row.id := sameId
      simp only [Function.comp_apply, markRow, readId, InsertionDict.get?]
      rcases result with ⟨key, status⟩
      by_cases here : key = row.id
      · subst here
        have absent : InsertionDict.get? rest row.id = none := by
          rw [InsertionDict.get?_eq_none_iff]
          exact parts.1
        simp only [absent, if_true]
      · rw [answeredRow_other (Ne.symm here), if_neg here]

theorem transfers_of_markSettled
    {session final : SettlementSession}
    {results : InsertionDict Uuid SettlementTransferStatus} {now : Instant}
    {db after : LedgerDb} (distinct : results.keys.Nodup)
    (ids : (db.transfers.map SettlementTransfer.id).Nodup)
    (marked : markSettled session results now db = .ok (final, after)) :
    after.transfers = db.transfers.map (markRow session.id now results) := by
  have rows := transfers_foldl_applyResult session.id now distinct (db, false) ids
  simp only [markSettled] at marked
  split at marked
  · cases marked
  · cases marked
    simp only [LedgerDb.updateSession]
    split
    · exact rows
    · exact rows

/-! ## What a step does to the rows -/

/-- What a task knows of the transfers: none is in its session until it writes
them, and then it has them as they were created.  A task which marks all
entries, or none, has no transfers. -/
def SettlementStage.Lists (db : LedgerDb) : SettlementStage → Prop
  | .inserting _ _ => True
  | .assigning session
  | .aggregated session _ _
  | .updating session _ _ _ _
  | .netting session
  | .writing session _
  | .settlingAll session
  | .closing session => db.termsIn session.id = []
  | .dispatching session transfers
  | .saving session transfers _ _ => transfers = db.termsIn session.id
  | .marking _ results => results.keys.Nodup

/-- The effect of the next step of a task on the transfers as they were
created. -/
inductive TermsEffect (db : LedgerDb) (stage : SettlementStage) : LedgerDb → Prop where
  | kept {after : LedgerDb}
      (terms : after.transfers.map SettlementTransfer.terms =
        db.transfers.map SettlementTransfer.terms) :
      TermsEffect db stage after
  | created {after : LedgerDb} (session : SettlementSession) (entries : List LedgerEntry)
      (stage_eq : stage = .writing session entries)
      (transfers : after.transfers = db.transfers ++
        transferRows session.id session.zone db.transfers.length
          (netObligations (entries.map LedgerEntry.obligation))) :
      TermsEffect db stage after

theorem map_terms_map
    {change : SettlementTransfer → SettlementTransfer}
    (keeps : ∀ row, (change row).terms = row.terms) (rows : List SettlementTransfer) :
    (rows.map change).map SettlementTransfer.terms = rows.map SettlementTransfer.terms := by
  rw [List.map_map]
  exact List.map_congr_left fun row _ => keeps row

theorem termsEffect
    (runtime : PyRuntime) (input : StepInput) {db : LedgerDb} {stage : SettlementStage}
    (ids : (db.transfers.map SettlementTransfer.id).Nodup) (lists : stage.Lists db) :
    TermsEffect db stage (stageStep runtime input db stage).1 := by
  cases stage with
  | inserting zone known => exact .kept rfl
  | aggregated session count total => exact .kept rfl
  | settlingAll session => exact .kept rfl
  | closing session => exact .kept rfl
  | assigning session
  | updating session count total ahead taken
  | netting session
  | dispatching session transfers =>
      simp only [stageStep]
      split <;> exact .kept rfl
  | writing session entries =>
      simp only [stageStep]
      split
      · exact .kept rfl
      · rename_i transfers made
        apply TermsEffect.created session entries rfl
        show db.transfers ++ transfers = _
        rw [createTransfers_rows made]
  | saving session transfers results ahead =>
      cases ahead with
      | nil => exact .kept rfl
      | cons result ahead =>
          simp only [stageStep]
          split
          · exact .kept rfl
          · rename_i saved
            rcases transfers_of_saveResult saved with ⟨_, same⟩ | ⟨_, same⟩
            · rw [same]
              exact .kept rfl
            · rw [same]
              exact .kept (map_terms_map (terms_savedRow runtime result) _)
  | marking session results =>
      simp only [stageStep]
      split
      · exact .kept rfl
      · rename_i marked
        apply TermsEffect.kept
        rw [transfers_of_markSettled lists ids marked]
        exact map_terms_map (terms_markRow session.id input.now results) _

/-- The rows of a session which is not the task's stay as they were created. -/
theorem TermsEffect.termsIn_other
    {db after : LedgerDb} {stage : SettlementStage} (effect : TermsEffect db stage after)
    {sessionId : Uuid} (other : sessionId ∉ stage.ownedIds) :
    after.termsIn sessionId = db.termsIn sessionId := by
  cases effect with
  | kept terms => exact termsIn_congr terms sessionId
  | created session entries stage_eq transfers =>
      subst stage_eq
      have own : session.id ≠ sessionId := by
        rintro rfl
        exact other (mem_ownedIds.mpr ⟨session, rfl, rfl⟩)
      have none : ((transferRows session.id session.zone db.transfers.length
          (netObligations (entries.map LedgerEntry.obligation))).filter
            fun row => row.session = sessionId) = [] := by
        rw [List.filter_eq_nil_iff]
        intro row member
        simp only [(mem_transferRows member).1, own, decide_false, Bool.false_eq_true,
          not_false_eq_true]
      rw [LedgerDb.termsIn, transfers, List.map_append, List.filter_append,
        terms_transferRows, none, List.append_nil, LedgerDb.termsIn]

theorem SettlementStage.Lists.congr
    {db after : LedgerDb} {stage : SettlementStage} (lists : stage.Lists db)
    (same : ∀ sessionId ∈ stage.ownedIds, after.termsIn sessionId = db.termsIn sessionId) :
    stage.Lists after := by
  have own {session : SettlementSession} (owner : stage.owned = some session) :
      after.termsIn session.id = db.termsIn session.id :=
    same session.id (mem_ownedIds.mpr ⟨session, owner, rfl⟩)
  cases stage with
  | inserting => trivial
  | assigning session
  | aggregated session count total
  | updating session count total ahead taken
  | netting session
  | writing session entries
  | settlingAll session
  | closing session =>
      show after.termsIn session.id = []
      rw [own rfl]
      exact lists
  | dispatching session transfers
  | saving session transfers results ahead =>
      show transfers = after.termsIn session.id
      rw [own rfl]
      exact lists
  | marking session results => exact lists

/-- A dictionary filled by assignments has each key once. -/
theorem nodup_keys_foldl_set
    {Item Value : Type} (key : Item → Uuid) (value : Item → Value)
    (items : List Item) (dict : InsertionDict Uuid Value) (distinct : dict.keys.Nodup) :
    (InsertionDict.keys (items.foldl
      (fun dict item => InsertionDict.set dict (key item) (value item)) dict)).Nodup := by
  induction items generalizing dict with
  | nil => exact distinct
  | cons item rest induction =>
      exact induction _ (InsertionDict.nodup_keys_set distinct (key item) (value item))

/-- A session without transfers gets those which its task creates. -/
theorem termsIn_created
    {db : LedgerDb} {session : SettlementSession} {firstId : Uuid} {nets : List NetTransfer}
    {transfers : List SettlementTransfer} (none : db.termsIn session.id = [])
    (made : createTransfers session firstId nets = .ok transfers) :
    LedgerDb.termsIn { db with transfers := db.transfers ++ transfers } session.id =
      transfers := by
  have own : (transfers.map SettlementTransfer.terms).filter
      (fun row => row.session = session.id) = transfers := by
    rw [createTransfers_rows made, terms_transferRows, List.filter_eq_self]
    intro row member
    exact decide_eq_true (mem_transferRows member).1
  show ((db.transfers ++ transfers).map SettlementTransfer.terms).filter _ = transfers
  rw [List.map_append, List.filter_append, own]
  exact congrArg (· ++ transfers) none

/-- The task still knows the transfers after its next step. -/
theorem lists_stageStep
    {runtime : PyRuntime} {input : StepInput} {db : LedgerDb} {stage next : SettlementStage}
    (ids : (db.transfers.map SettlementTransfer.id).Nodup) (lists : stage.Lists db)
    (unused : db.termsIn db.sessions.length = [])
    (goes : (stageStep runtime input db stage).2 = some next) :
    next.Lists (stageStep runtime input db stage).1 := by
  cases stage with
  | inserting zone known =>
      cases goes
      exact unused
  | assigning session =>
      simp only [stageStep] at goes ⊢
      split at goes
      · cases goes
      · rename_i opened
        cases goes
        rw [if_neg opened]
        exact lists
  | aggregated session count total =>
      cases goes
      exact lists
  | updating session count total ahead taken =>
      simp only [stageStep] at goes ⊢
      split at goes
      · cases goes
      · rename_i fits
        rw [if_neg fits]
        cases goes
        split <;> exact lists
  | netting session =>
      simp only [stageStep] at goes ⊢
      split at goes
      · cases goes
      · rename_i netting
        cases goes
        rw [if_neg netting]
        exact lists
  | writing session entries =>
      have effect := termsEffect runtime input ids lists
      simp only [stageStep] at goes effect ⊢
      split at goes
      · cases goes
      · rename_i transfers made
        cases goes
        have listed := termsIn_created lists made
        split
        · rename_i none
          exact listed.trans (List.isEmpty_iff.mp none)
        · exact listed.symm
  | settlingAll session =>
      cases goes
      exact lists
  | closing session => cases goes
  | dispatching session transfers =>
      simp only [stageStep] at goes ⊢
      split at goes
      · cases goes
      · cases goes
        exact nodup_keys_foldl_set SettlementTransfer.id _ transfers [] List.nodup_nil
      · cases goes
        exact lists
  | saving session transfers results ahead =>
      cases ahead with
      | nil =>
          cases goes
          exact nodup_keys_foldl_set TransferResult.transferId resultStatus results []
            List.nodup_nil
      | cons result ahead =>
          have effect := termsEffect runtime input ids lists
          simp only [stageStep] at goes effect ⊢
          split at goes
          · cases goes
          · rename_i saved
            cases goes
            rw [saved] at effect
            cases effect with
            | kept terms =>
                show transfers = _
                rw [termsIn_congr terms session.id]
                exact lists
            | created other entries stage_eq => cases stage_eq
  | marking session results =>
      simp only [stageStep] at goes
      split at goes
      · cases goes
      · cases goes

/-! ## All tasks -/

/-- Transfers are numbered in the order of their creation, each in the zone of
its session, and the tasks know those of their sessions. -/
structure TransfersHeld (state : SettlementState) : Prop where
  ids : state.db.transfers.map SettlementTransfer.id =
    List.range state.db.transfers.length
  zoned : ∀ row ∈ state.db.transfers, ∃ zone,
    SessionIn state.db.sessions row.session zone ∧ row.currency = zoneCurrency zone
  tasks : ∀ stage ∈ state.tasks, ∀ session, stage.owned = some session →
    SessionIn state.db.sessions session.id session.zone
  lists : ∀ stage ∈ state.tasks, stage.Lists state.db

section Held

variable {state : SettlementState}

theorem TransfersHeld.nodup (held : TransfersHeld state) :
    (state.db.transfers.map SettlementTransfer.id).Nodup :=
  held.ids ▸ List.nodup_range

/-- Rows with one id are one row. -/
theorem TransfersHeld.row_unique
    (held : TransfersHeld state) {row other : SettlementTransfer}
    (member : row ∈ state.db.transfers) (otherMember : other ∈ state.db.transfers)
    (same : row.id = other.id) : row = other :=
  List.inj_on_of_nodup_map held.nodup member otherMember same

/-- The session which is opened next has no transfers yet. -/
theorem TransfersHeld.unused (held : TransfersHeld state) (owned : SessionsOwned state) :
    state.db.termsIn state.db.sessions.length = [] := by
  rw [List.eq_nil_iff_forall_not_mem]
  intro transfer member
  rcases mem_termsIn.mp member with ⟨row, rowMember, session, _⟩
  rcases held.zoned row rowMember with ⟨zone, ⟨known, knownMember, id, _⟩, _⟩
  have bound := owned.id_lt knownMember
  rw [id, session] at bound
  exact lt_irrefl _ bound

theorem ids_transferRows
    {rows : List SettlementTransfer}
    (ids : rows.map SettlementTransfer.id = List.range rows.length)
    (sessionId : Uuid) (zone : Zone) (nets : List NetTransfer) :
    (rows ++ transferRows sessionId zone rows.length nets).map SettlementTransfer.id =
      List.range (rows ++ transferRows sessionId zone rows.length nets).length := by
  have count : (transferRows sessionId zone rows.length nets).length = nets.length := by
    rw [← List.length_map SettlementTransfer.id, transferRows_ids, List.length_range']
  have joined : List.range' 0 rows.length ++ List.range' (0 + rows.length) nets.length =
      List.range' 0 (rows.length + nets.length) := List.range'_append_1
  rw [Nat.zero_add] at joined
  rw [List.map_append, ids, transferRows_ids, List.length_append, count,
    List.range_eq_range', List.range_eq_range', joined]

/-- The next step of a task keeps the transfers in order. -/
theorem TransfersHeld.advanced
    (held : TransfersHeld state) (owned : SessionsOwned state)
    {place : Nat} {stage : SettlementStage} (going : state.tasks[place]? = some stage)
    (runtime : PyRuntime) (input : StepInput) :
    TransfersHeld (state.advanced runtime place stage input) := by
  have here := List.mem_of_getElem? going
  have lists := held.lists stage here
  have effect := termsEffect runtime input held.nodup lists
  have sessions := sessionsEffect runtime input state.db stage
  constructor
  · show (stageStep runtime input state.db stage).1.transfers.map SettlementTransfer.id =
      List.range (stageStep runtime input state.db stage).1.transfers.length
    cases effect with
    | kept terms =>
        have count := congrArg List.length terms
        rw [List.length_map, List.length_map] at count
        rw [map_eq_of_terms_eq SettlementTransfer.id (fun _ => rfl) terms, held.ids, count]
    | created session entries stage_eq transfers =>
        rw [transfers]
        exact ids_transferRows held.ids _ _ _
  · intro row member
    have moved : row ∈ (stageStep runtime input state.db stage).1.transfers := member
    have kept : row.terms ∈ state.db.transfers.map SettlementTransfer.terms ∨
        ∃ session, stage.owned = some session ∧ row.session = session.id ∧
          row.currency = zoneCurrency session.zone := by
      cases effect with
      | kept terms =>
          rw [← terms]
          exact .inl (List.mem_map_of_mem moved)
      | created session entries stage_eq transfers =>
          rw [transfers] at moved
          rcases List.mem_append.mp moved with old | new
          · exact .inl (List.mem_map_of_mem old)
          · subst stage_eq
            exact .inr ⟨session, rfl, (mem_transferRows new).1, currency_transferRows new⟩
    rcases kept with old | ⟨session, owner, own, currency⟩
    · rcases List.mem_map.mp old with ⟨before, beforeMember, same⟩
      rcases held.zoned before beforeMember with ⟨zone, session, currency⟩
      have sameSession : before.terms.session = row.terms.session := by rw [same]
      have sameCurrency : before.terms.currency = row.terms.currency := by rw [same]
      refine ⟨zone, ?_, sameCurrency.symm.trans currency⟩
      rw [show row.session = before.session from sameSession.symm]
      exact sessions.sessionIn session
    · refine ⟨session.zone, ?_, currency⟩
      rw [own]
      exact sessions.sessionIn (held.tasks stage here session owner)
  · intro other member session owner
    rcases (mem_moveOn going).mp member with moved | rest
    · rw [moved] at sessions
      exact sessions.owned_sessionIn (held.tasks stage here) session owner
    · exact sessions.sessionIn
        (held.tasks other (List.mem_of_mem_eraseIdx rest) session owner)
  · intro other member
    rcases (mem_moveOn going).mp member with moved | rest
    · exact lists_stageStep held.nodup lists (held.unused owned) moved
    · apply (held.lists other (List.mem_of_mem_eraseIdx rest)).congr
      intro sessionId theirs
      apply effect.termsIn_other
      intro own
      exact not_held_by_other going owned.once rest own theirs

/-- Every step keeps the transfers in order. -/
theorem TransfersHeld.step
    {runtime : PyRuntime} (held : TransfersHeld state) (owned : SessionsOwned state)
    {action : SettlementAction} {after : SettlementState}
    (moved : SettlementMove runtime state action after) : TransfersHeld after := by
  cases moved with
  | ignored => exact held
  | called zoneText zone idle =>
      refine ⟨held.ids, held.zoned, ?_, ?_⟩
      · intro stage member session owner
        rcases List.mem_append.mp member with earlier | last
        · exact held.tasks stage earlier session owner
        · cases List.mem_singleton.mp last
          cases owner
      · intro stage member
        rcases List.mem_append.mp member with earlier | last
        · exact held.lists stage earlier
        · cases List.mem_singleton.mp last
          trivial
  | reached place row stage going ahead free =>
      refine ⟨held.ids, held.zoned, ?_, ?_⟩
      · intro other member session owner
        have placed : other ∈ moveOn place (some _) state.tasks := member
        rcases (mem_moveOn going).mp placed with same | rest
        · cases same
          rw [owned_reach] at owner
          exact held.tasks stage (List.mem_of_getElem? going) session owner
        · exact held.tasks other (List.mem_of_mem_eraseIdx rest) session owner
      · intro other member
        have placed : other ∈ moveOn place (some _) state.tasks := member
        rcases (mem_moveOn going).mp placed with same | rest
        · cases same
          have lists := held.lists stage (List.mem_of_getElem? going)
          cases stage <;> exact lists
        · exact held.lists other (List.mem_of_mem_eraseIdx rest)
  | advanced place input stage going ready => exact held.advanced owned going runtime input
  | lost place stage going =>
      refine ⟨held.ids, held.zoned, ?_, ?_⟩
      · intro other member session owner
        exact held.tasks other (List.mem_of_mem_eraseIdx member) session owner
      · intro other member
        exact held.lists other (List.mem_of_mem_eraseIdx member)
  | booked drafts => exact ⟨held.ids, held.zoned, held.tasks, held.lists⟩

theorem TransfersHeld.start (start : state.IsStart) : TransfersHeld state where
  ids := by rw [start.transfers]; rfl
  zoned := by
    rw [start.transfers]
    intro row member
    cases member
  tasks := by
    rw [start.tasks]
    intro stage member
    cases member
  lists := by
    rw [start.tasks]
    intro stage member
    cases member

theorem TransfersHeld.of_reachable
    {runtime : PyRuntime} (reached : (settlementSystem runtime).Reachable state) :
    TransfersHeld state := by
  apply reached.invariant
  · intro state start
    exact .start start
  · intro source action target before held moved
    exact held.step (.of_reachable before) (settlementMove_of_step moved)

end Held

end Klik.Ledger
