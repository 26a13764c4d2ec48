import Klik.Ledger.SessionEnds
import Klik.RtgsMock.DispatchSystem

/-!
# What the ledger tells of a transfer

The row of a transfer which goes to the mock is as it was created, or has what
the gateway made of its request, or was marked as failed without a request.  A
task knows which of these its rows are.
-/

namespace Klik.RtgsMock

open Klik.Banks
open Klik.Common
open Klik.Ledger
open Klik.Ledger.Rtgs
open Klik.Lib

/-! ## Zones of transfers -/

/-- The zone of a currency. -/
def currencyZone : Currency → Zone
  | .PLN => .PL
  | .EUR => .EU
  | .GBP => .UK
  | .USD => .US

@[simp]
theorem currencyZone_zoneCurrency (zone : Zone) : currencyZone (zoneCurrency zone) = zone := by
  cases zone <;> rfl

/-- The zone of a transfer. -/
def transferZone (transfer : SettlementTransfer) : Zone := currencyZone transfer.currency

/-- The transfer goes to the mock. -/
def OnMock (transfer : SettlementTransfer) : Prop :=
  (mockSystemOf (transferZone transfer)).isSome = true

/-- The transfers of a session are in its zone. -/
theorem transferZone_of_owned
    {state : SettlementState} (held : TransfersHeld state) (owned : SessionsOwned state)
    {stage : SettlementStage} (member : stage ∈ state.tasks)
    {session : SettlementSession} (owner : stage.owned = some session)
    {row : SettlementTransfer} (rowMember : row ∈ state.db.transfers)
    (own : row.session = session.id) : transferZone row = session.zone := by
  rcases held.zoned row rowMember with ⟨zone, here, currency⟩
  rw [own] at here
  rw [transferZone, currency, currencyZone_zoneCurrency]
  exact here.unique owned.nodup (held.tasks stage member session owner)

/-! ## Results -/

section Told

variable (context : RtgsContext) (ended : InsertionDict Uuid HttpOutcome) (sent : List Uuid)

/-- What the gateway makes of the request for a transfer once it has ended. -/
def resultFor (transfer : SettlementTransfer) : Option TransferResult :=
  (ended.get? transfer.id).bind
    (settleOne context.runtime context.settings (transferZone transfer)
      (context.request (transferZone transfer) transfer))

/-- What the columns of a row come from. -/
inductive RowTold (row : SettlementTransfer) : Prop where
  | fresh (same : row = row.terms)
  | saved (result : TransferResult) (told : resultFor context ended row = some result)
      (same : row = row.terms.withTexts context.runtime result)
  | completed (result : TransferResult) (now : Instant)
      (told : resultFor context ended row = some result) (success : result.status = .success)
      (same : row =
        { row.terms.withTexts context.runtime result with
          status := .completed
          completedAt := some now })
  | failed (result : TransferResult) (told : resultFor context ended row = some result)
      (failure : result.status ≠ .success)
      (same : row = { row.terms.withTexts context.runtime result with status := .failed })
  | unavailable (unsent : row.id ∉ sent) (same : row = { row.terms with status := .failed })

/-- The row has the texts of its result, and is not marked yet. -/
def HasTexts (row : SettlementTransfer) : Prop :=
  ∃ result, resultFor context ended row = some result ∧
    row = row.terms.withTexts context.runtime result

/-- What a task knows of the rows of its session, if they go to the mock. -/
def StageTold (db : LedgerDb) : SettlementStage → Prop
  | .dispatching session _ => (mockSystemOf session.zone).isSome →
      ∀ row ∈ db.transfers, row.session = session.id → row = row.terms
  | .saving session transfers results ahead => (mockSystemOf session.zone).isSome →
      results.map some = transfers.map (resultFor context ended) ∧ ahead <:+ results ∧
        ∀ row ∈ db.transfers, row.session = session.id →
          if row.id ∈ ahead.map TransferResult.transferId then row = row.terms
          else HasTexts context ended row
  | .marking session results => (mockSystemOf session.zone).isSome →
      (∃ found, results = transferResults found ∧
        found.map some = (db.termsIn session.id).map (resultFor context ended) ∧
          ∀ row ∈ db.transfers, row.session = session.id → HasTexts context ended row) ∨
        results = allFailed (db.termsIn session.id) ∧
          ∀ row ∈ db.transfers, row.session = session.id → row = row.terms ∧ row.id ∉ sent
  | _ => True

end Told

section Results

variable {context : RtgsContext} {ended later : InsertionDict Uuid HttpOutcome}
variable {sent further : List Uuid}

@[simp]
theorem resultFor_terms (row : SettlementTransfer) :
    resultFor context ended row.terms = resultFor context ended row := rfl

@[simp]
theorem transferZone_terms (row : SettlementTransfer) :
    transferZone row.terms = transferZone row := rfl

/-- The result of a transfer names it. -/
theorem transferId_of_resultFor
    {transfer : SettlementTransfer} {result : TransferResult}
    (told : resultFor context ended transfer = some result) :
    result.transferId = transfer.id := by
  rcases Option.bind_eq_some_iff.mp told with ⟨outcome, _, settled⟩
  exact settleOne_transferId settled

/-- Results which are those of the transfers name them in order. -/
theorem transferIds_of_results
    {results : List TransferResult} {transfers : List SettlementTransfer}
    (same : results.map some = transfers.map (resultFor context ended)) :
    results.map TransferResult.transferId = transfers.map SettlementTransfer.id := by
  induction results generalizing transfers with
  | nil =>
      rw [List.map_nil, List.nil_eq, List.map_eq_nil_iff] at same
      rw [same]
      rfl
  | cons result rest induction =>
      cases transfers with
      | nil => cases same
      | cons transfer transfers =>
          simp only [List.map_cons, List.cons.injEq] at same
          rw [List.map_cons, List.map_cons, transferId_of_resultFor same.1.symm,
            induction same.2]

/-- A result which names a transfer is the result of the transfer. -/
theorem resultFor_of_mem
    {results : List TransferResult} {transfers : List SettlementTransfer}
    (same : results.map some = transfers.map (resultFor context ended))
    (ids : (transfers.map SettlementTransfer.id).Nodup)
    {result : TransferResult} (member : result ∈ results)
    {transfer : SettlementTransfer} (listed : transfer ∈ transfers)
    (named : transfer.id = result.transferId) :
    resultFor context ended transfer = some result := by
  have found : some result ∈ transfers.map (resultFor context ended) :=
    same ▸ List.mem_map_of_mem member
  rcases List.mem_map.mp found with ⟨other, otherListed, told⟩
  have sameId : transfer.id = other.id := named.trans (transferId_of_resultFor told)
  rw [List.inj_on_of_nodup_map ids listed otherListed sameId]
  exact told

/-- What the dispatcher returns is what the gateway makes of each request. -/
theorem settleAll_eq_some
    {settle : TransferRequest → Option TransferResult} {transfers : List TransferRequest}
    {results : List TransferResult} (settled : settleAll settle transfers = some results) :
    results.map some = transfers.map settle := by
  induction transfers generalizing results with
  | nil =>
      cases settled
      rfl
  | cons transfer rest induction =>
      simp only [settleAll] at settled
      split at settled
      · cases settled
      · rename_i result first
        rcases Option.map_eq_some_iff.mp settled with ⟨others, tail, rfl⟩
        rw [List.map_cons, List.map_cons, induction tail, first]

/-! ## More requests and more ends -/

theorem resultFor_mono
    (kept : ∀ id outcome, ended.get? id = some outcome → later.get? id = some outcome)
    {row : SettlementTransfer} {result : TransferResult}
    (told : resultFor context ended row = some result) :
    resultFor context later row = some result := by
  rcases Option.bind_eq_some_iff.mp told with ⟨outcome, known, settled⟩
  exact Option.bind_eq_some_iff.mpr ⟨outcome, kept _ _ known, settled⟩

theorem HasTexts.mono
    (kept : ∀ id outcome, ended.get? id = some outcome → later.get? id = some outcome)
    {row : SettlementTransfer} (texts : HasTexts context ended row) :
    HasTexts context later row := by
  rcases texts with ⟨result, told, same⟩
  exact ⟨result, resultFor_mono kept told, same⟩

theorem RowTold.mono
    (kept : ∀ id outcome, ended.get? id = some outcome → later.get? id = some outcome)
    {row : SettlementTransfer}
    (unsent : row.status = .failed → row.id ∉ sent → row.id ∉ further)
    (told : RowTold context ended sent row) : RowTold context later further row := by
  cases told with
  | fresh same => exact .fresh same
  | saved result told same => exact .saved result (resultFor_mono kept told) same
  | completed result now told success same =>
      exact .completed result now (resultFor_mono kept told) success same
  | failed result told failure same =>
      exact .failed result (resultFor_mono kept told) failure same
  | unavailable new same => exact .unavailable (unsent (by rw [same]) new) same

/-- Equal lists of results stay equal. -/
theorem results_mono
    (kept : ∀ id outcome, ended.get? id = some outcome → later.get? id = some outcome)
    {results : List TransferResult} {transfers : List SettlementTransfer}
    (same : results.map some = transfers.map (resultFor context ended)) :
    results.map some = transfers.map (resultFor context later) := by
  rw [same]
  apply List.map_congr_left
  intro transfer member
  have found : resultFor context ended transfer ∈ results.map some :=
    same ▸ List.mem_map_of_mem member
  rcases List.mem_map.mp found with ⟨result, _, told⟩
  rw [← told, resultFor_mono kept told.symm]

theorem StageTold.mono
    (kept : ∀ id outcome, ended.get? id = some outcome → later.get? id = some outcome)
    {db : LedgerDb} {stage : SettlementStage}
    (unsent : ∀ session results, stage = .marking session results →
      ∀ row ∈ db.transfers, row.session = session.id → row.id ∉ sent → row.id ∉ further)
    (told : StageTold context ended sent db stage) :
    StageTold context later further db stage := by
  cases stage with
  | dispatching session transfers => exact told
  | saving session transfers results ahead =>
      intro behind
      rcases told behind with ⟨same, suffix, rows⟩
      refine ⟨results_mono kept same, suffix, ?_⟩
      intro row member own
      have told := rows row member own
      split at told
      · rename_i listed
        rw [if_pos listed]
        exact told
      · rename_i absent
        rw [if_neg absent]
        exact told.mono kept
  | marking session results =>
      intro behind
      rcases told behind with ⟨found, rfl, same, rows⟩ | ⟨rfl, rows⟩
      · exact .inl ⟨found, rfl, results_mono kept same,
          fun row member own => (rows row member own).mono kept⟩
      · refine .inr ⟨rfl, ?_⟩
        intro row member own
        rcases rows row member own with ⟨fresh, new⟩
        exact ⟨fresh, unsent session _ rfl row member own new⟩
  | _ => trivial

end Results

/-! ## All rows and tasks -/

/-- Every row which goes to the mock has what the ledger was told, and every
task knows it. -/
structure TransfersTold (context : RtgsContext) (state : RtgsState) : Prop where
  rows : ∀ row ∈ state.settlement.db.transfers, OnMock row →
    RowTold context state.ended state.sent row
  tasks : ∀ stage ∈ state.settlement.tasks,
    StageTold context state.ended state.sent state.settlement.db stage

section Steps

variable {context : RtgsContext} {state : RtgsState}

/-- The rows of a session are created with different keys. -/
theorem nodup_ids_termsIn
    {settlement : SettlementState} (held : TransfersHeld settlement) (sessionId : Uuid) :
    ((settlement.db.termsIn sessionId).map SettlementTransfer.id).Nodup := by
  have ids : (settlement.db.transfers.map SettlementTransfer.terms).map
      SettlementTransfer.id = settlement.db.transfers.map SettlementTransfer.id := by
    rw [List.map_map]
    rfl
  have all := held.nodup
  rw [← ids] at all
  exact List.Nodup.sublist (List.filter_sublist.map _) all

/-- The row of a listed transfer is in the session. -/
theorem session_of_listed
    {settlement : SettlementState} (held : TransfersHeld settlement) {sessionId : Uuid}
    {row : SettlementTransfer} (member : row ∈ settlement.db.transfers)
    (listed : row.id ∈ (settlement.db.termsIn sessionId).map SettlementTransfer.id) :
    row.session = sessionId ∧ row.terms ∈ settlement.db.termsIn sessionId := by
  rcases List.mem_map.mp listed with ⟨transfer, inSession, sameId⟩
  rcases mem_termsIn.mp inSession with ⟨other, otherMember, own, rfl⟩
  have same : other = row := held.row_unique otherMember member sameId
  rw [← same]
  exact ⟨own, inSession⟩

/-- How the dispatch of a session through the mock ends. -/
theorem dispatched_cases
    {health : HttpOutcome} {session : SettlementSession} {transfers : List SettlementTransfer}
    (zones : ∀ transfer ∈ transfers, transferZone transfer = session.zone)
    (ready : state.mayFinish health transfers = true) :
    (∃ results, state.dispatched context health session transfers = .returned results ∧
        results.map some = transfers.map (resultFor context state.ended)) ∨
      (∃ name reason, state.dispatched context health session transfers =
          .unavailable name reason ∧ ∀ transfer ∈ transfers, transfer.id ∉ state.sent) ∨
        state.dispatched context health session transfers = .raised := by
  simp only [RtgsState.mayFinish] at ready
  by_cases empty : transfers = []
  · subst empty
    exact .inl ⟨[], rfl, rfl⟩
  · have notEmpty : ¬ (transfers.map (context.request session.zone)).isEmpty = true := by
      rw [List.isEmpty_iff, List.map_eq_nil_iff]
      exact empty
    simp only [RtgsState.dispatched, dispatchRtgs, if_neg notEmpty]
    cases up : healthcheck health with
    | false =>
        rw [up, if_neg Bool.false_ne_true] at ready
        refine .inr (.inl ⟨_, _, rfl, ?_⟩)
        intro transfer member
        exact of_decide_eq_true (List.all_eq_true.mp ready transfer member)
    | true =>
        rw [up, if_pos rfl] at ready
        rw [if_neg Bool.false_ne_true.symm]
        split
        · rename_i results settled
          refine .inl ⟨results, rfl, ?_⟩
          rw [settleAll_eq_some settled, List.map_map]
          apply List.map_congr_left
          intro transfer member
          rcases Option.isSome_iff_exists.mp (List.all_eq_true.mp ready transfer member) with
            ⟨outcome, known⟩
          have key : (context.request session.zone transfer).transferId = transfer.id := rfl
          simp only [Function.comp_apply, resultFor, key, known, zones transfer member,
            Option.getD_some, Option.bind_some]
        · exact .inr (.inr rfl)

/-- A dispatch through the mock tells its task the results. -/
theorem told_dispatching
    (held : TransfersHeld state.settlement) (owned : SessionsOwned state.settlement)
    {session : SettlementSession} {transfers : List SettlementTransfer}
    (member : .dispatching session transfers ∈ state.settlement.tasks)
    (told : StageTold context state.ended state.sent state.settlement.db
      (.dispatching session transfers))
    {input : StepInput} {next : SettlementStage}
    (known : (mockSystemOf session.zone).isSome → ∃ health,
      input.outcome = state.dispatched context health session transfers ∧
        state.mayFinish health transfers = true)
    (goes : (stageStep context.runtime input state.settlement.db
      (.dispatching session transfers)).2 = some next) :
    StageTold context state.ended state.sent state.settlement.db next := by
  have lists : transfers = state.settlement.db.termsIn session.id := held.lists _ member
  have zones : ∀ transfer ∈ transfers, transferZone transfer = session.zone := by
    intro transfer listed
    rw [lists] at listed
    rcases mem_termsIn.mp listed with ⟨row, rowMember, own, rfl⟩
    rw [transferZone_terms]
    exact transferZone_of_owned held owned member rfl rowMember own
  have listed : ∀ row ∈ state.settlement.db.transfers, row.session = session.id →
      row.terms ∈ transfers := by
    intro row rowMember own
    rw [lists]
    exact mem_termsIn.mpr ⟨row, rowMember, own, rfl⟩
  simp only [stageStep] at goes
  split at goes
  · cases goes
  · rename_i name reason unavailable
    cases goes
    intro behind
    rcases known behind with ⟨health, outcome, ready⟩
    rw [unavailable] at outcome
    refine .inr ⟨by rw [lists], ?_⟩
    intro row rowMember own
    refine ⟨told behind row rowMember own, ?_⟩
    rcases @dispatched_cases context _ _ _ _ zones ready with
      ⟨results, same, _⟩ | ⟨_, _, _, unsent⟩ | raised
    · rw [same] at outcome
      cases outcome
    · exact unsent row.terms (listed row rowMember own)
    · rw [raised] at outcome
      cases outcome
  · rename_i results returned
    cases goes
    intro behind
    rcases known behind with ⟨health, outcome, ready⟩
    rw [returned] at outcome
    rcases @dispatched_cases context _ _ _ _ zones ready with
      ⟨_, same, results_⟩ | ⟨_, _, same, _⟩ | raised
    · rw [same] at outcome
      cases outcome
      refine ⟨results_, List.suffix_refl _, ?_⟩
      intro row rowMember own
      rw [if_pos]
      · exact told behind row rowMember own
      · rw [transferIds_of_results results_]
        show row.terms.id ∈ transfers.map SettlementTransfer.id
        exact List.mem_map_of_mem (listed row rowMember own)
    · rw [same] at outcome
      cases outcome
    · rw [raised] at outcome
      cases outcome

/-- Saving the texts of a result. -/
theorem told_saving
    (held : TransfersHeld state.settlement) (owned : SessionsOwned state.settlement)
    (told : TransfersTold context state)
    {session : SettlementSession} {transfers : List SettlementTransfer}
    {results ahead : List TransferResult} {result : TransferResult}
    (member : .saving session transfers results (result :: ahead) ∈ state.settlement.tasks)
    {after : LedgerDb}
    (saved : saveResult context.runtime transfers state.settlement.db result = .ok after) :
    (∀ row ∈ after.transfers, OnMock row → RowTold context state.ended state.sent row) ∧
      StageTold context state.ended state.sent after
        (.saving session transfers results ahead) := by
  have lists : transfers = state.settlement.db.termsIn session.id := held.lists _ member
  have known := told.tasks _ member
  have distinct := nodup_ids_termsIn held session.id
  rw [← lists] at distinct
  rcases transfers_of_saveResult saved with ⟨absent, rfl⟩ | ⟨listed, rfl⟩
  · refine ⟨told.rows, ?_⟩
    intro behind
    rcases known behind with ⟨same, suffix, _⟩
    refine absurd ?_ absent
    rw [← transferIds_of_results same]
    exact List.mem_map_of_mem (suffix.subset List.mem_cons_self)
  · -- the row which gets the texts is as it was created
    have hit {row : SettlementTransfer} (rowMember : row ∈ state.settlement.db.transfers)
        (here : row.id = result.transferId) (behind : (mockSystemOf session.zone).isSome) :
        row = row.terms ∧ resultFor context state.ended row = some result := by
      rcases known behind with ⟨same, suffix, rows⟩
      rw [← here, lists] at listed
      rcases session_of_listed held rowMember listed with ⟨own, inSession⟩
      have told := rows row rowMember own
      rw [if_pos (here ▸ List.mem_cons_self)] at told
      refine ⟨told, ?_⟩
      rw [← lists] at inSession
      have found := resultFor_of_mem same distinct (suffix.subset List.mem_cons_self) inSession here
      rwa [resultFor_terms] at found
    constructor
    · intro row rowMember onMock
      rcases List.mem_map.mp rowMember with ⟨before, beforeMember, rfl⟩
      simp only [savedRow] at onMock ⊢
      split at onMock
      · rename_i here
        rw [if_pos here]
        rw [← here, lists] at listed
        have own := (session_of_listed held beforeMember listed).1
        have zone := transferZone_of_owned held owned member rfl beforeMember own
        have behind : (mockSystemOf session.zone).isSome = true := zone ▸ onMock
        rcases hit beforeMember here behind with ⟨fresh, found⟩
        exact .saved result found
          (congrArg (SettlementTransfer.withTexts context.runtime result) fresh)
      · rename_i elsewhere
        rw [if_neg elsewhere]
        exact told.rows before beforeMember onMock
    · intro behind
      rcases known behind with ⟨same, suffix, rows⟩
      refine ⟨same, (List.suffix_cons result ahead).trans suffix, ?_⟩
      intro row rowMember own
      rcases List.mem_map.mp rowMember with ⟨before, beforeMember, rfl⟩
      have ids : ((result :: ahead).map TransferResult.transferId).Nodup := by
        rw [← transferIds_of_results same] at distinct
        exact List.Nodup.sublist (suffix.sublist.map _) distinct
      by_cases here : before.id = result.transferId
      · have texts : savedRow context.runtime result before =
            before.withTexts context.runtime result := if_pos here
        rcases hit beforeMember here behind with ⟨fresh, found⟩
        rw [texts, if_neg]
        · exact ⟨result, found,
            congrArg (SettlementTransfer.withTexts context.runtime result) fresh⟩
        · show before.id ∉ ahead.map TransferResult.transferId
          rw [here]
          exact (List.nodup_cons.mp ids).1
      · have stays : savedRow context.runtime result before = before := if_neg here
        rw [stays] at own ⊢
        have known := rows before beforeMember own
        simp only [List.map_cons, List.mem_cons, here, false_or] at known
        exact known

/-- What `mark_settled` finds for a row of its session. -/
theorem result_of_marking
    (held : TransfersHeld state.settlement) (told : TransfersTold context state)
    {session : SettlementSession} {results : InsertionDict Uuid SettlementTransferStatus}
    (member : .marking session results ∈ state.settlement.tasks)
    (behind : (mockSystemOf session.zone).isSome = true)
    {row : SettlementTransfer} (rowMember : row ∈ state.settlement.db.transfers)
    (own : row.session = session.id) :
    (∃ result, resultFor context state.ended row = some result ∧
        row = row.terms.withTexts context.runtime result ∧
          results.get? row.id = some (resultStatus result)) ∨
      row = row.terms ∧ row.id ∉ state.sent ∧ results.get? row.id = some .failed := by
  have keys : results.keys.Nodup := held.lists _ member
  have distinct := nodup_ids_termsIn held session.id
  have listed : row.terms ∈ state.settlement.db.termsIn session.id :=
    mem_termsIn.mpr ⟨row, rowMember, own, rfl⟩
  rcases told.tasks _ member behind with ⟨found, rfl, same, rows⟩ | ⟨rfl, rows⟩
  · rcases rows row rowMember own with ⟨result, resultFor_, texts⟩
    have ids : (found.map TransferResult.transferId).Nodup := by
      rw [transferIds_of_results same]
      exact distinct
    have present : result ∈ found := by
      have image : resultFor context state.ended row.terms ∈ found.map some := by
        rw [same]
        exact List.mem_map_of_mem listed
      rw [resultFor_terms, resultFor_] at image
      rcases List.mem_map.mp image with ⟨other, otherMember, equal⟩
      exact Option.some.inj equal ▸ otherMember
    refine .inl ⟨result, resultFor_, texts, ?_⟩
    rw [InsertionDict.get?_eq_some_iff keys, transferResults_eq ids,
      ← transferId_of_resultFor resultFor_]
    exact List.mem_map_of_mem present
  · rcases rows row rowMember own with ⟨fresh, unsent⟩
    have filled : allFailed (state.settlement.db.termsIn session.id) =
        (state.settlement.db.termsIn session.id).map fun transfer =>
          (transfer.id, SettlementTransferStatus.failed) :=
      InsertionDict.foldl_set_eq_map SettlementTransfer.id
        (fun _ => SettlementTransferStatus.failed) _ distinct
    refine .inr ⟨fresh, unsent, ?_⟩
    rw [InsertionDict.get?_eq_some_iff keys, filled]
    exact List.mem_map.mpr ⟨row.terms, listed, rfl⟩

/-- Marking the rows of a session. -/
theorem told_marking
    (held : TransfersHeld state.settlement) (owned : SessionsOwned state.settlement)
    (told : TransfersTold context state)
    {session final : SettlementSession}
    {results : InsertionDict Uuid SettlementTransferStatus}
    (member : .marking session results ∈ state.settlement.tasks)
    {now : Instant} {after : LedgerDb}
    (marked : markSettled session results now state.settlement.db = .ok (final, after)) :
    ∀ row ∈ after.transfers, OnMock row → RowTold context state.ended state.sent row := by
  rw [transfers_of_markSettled (held.lists _ member) held.nodup marked]
  intro row rowMember onMock
  rcases List.mem_map.mp rowMember with ⟨before, beforeMember, rfl⟩
  by_cases own : before.session = session.id
  · have zone := transferZone_of_owned held owned member rfl beforeMember own
    have sameZone : transferZone (markRow session.id now results before) =
        transferZone before := by
      rw [← transferZone_terms, terms_markRow, transferZone_terms]
    have behind : (mockSystemOf session.zone).isSome = true := by
      rw [← zone, ← sameZone]
      exact onMock
    rcases result_of_marking held told member behind beforeMember own with
      ⟨result, resultFor_, texts, status⟩ | ⟨fresh, unsent, status⟩
    · by_cases success : result.status = .success
      · rw [show resultStatus result = .completed from if_pos success] at status
        rw [markRow_completed own status]
        refine .completed result now resultFor_ success ?_
        conv_lhs => rw [texts]
        rfl
      · rw [show resultStatus result = .failed from if_neg success] at status
        rw [markRow_failed own status]
        refine .failed result resultFor_ success ?_
        conv_lhs => rw [texts]
        rfl
    · rw [markRow_failed own status]
      refine .unavailable unsent ?_
      conv_lhs => rw [fresh]
      rfl
  · rw [markRow_of_other own] at onMock ⊢
    exact told.rows before beforeMember onMock

/-- The next step of a task tells the rows of its session, and the task knows
them. -/
theorem told_stageStep
    (held : TransfersHeld state.settlement) (owned : SessionsOwned state.settlement)
    (told : TransfersTold context state)
    {stage : SettlementStage} (member : stage ∈ state.settlement.tasks) {input : StepInput}
    (known : ∀ session transfers, stage = .dispatching session transfers →
      (mockSystemOf session.zone).isSome → ∃ health,
        input.outcome = state.dispatched context health session transfers ∧
          state.mayFinish health transfers = true) :
    (∀ row ∈ (stageStep context.runtime input state.settlement.db stage).1.transfers,
        OnMock row → RowTold context state.ended state.sent row) ∧
      ∀ next, (stageStep context.runtime input state.settlement.db stage).2 = some next →
        StageTold context state.ended state.sent
          (stageStep context.runtime input state.settlement.db stage).1 next := by
  have here := told.tasks stage member
  have lists := held.lists stage member
  cases stage with
  | inserting zone known =>
      refine ⟨told.rows, ?_⟩
      intro next goes
      cases goes
      trivial
  | aggregated session count total =>
      refine ⟨told.rows, ?_⟩
      intro next goes
      cases goes
      trivial
  | settlingAll session =>
      refine ⟨told.rows, ?_⟩
      intro next goes
      cases goes
      trivial
  | closing session =>
      refine ⟨told.rows, ?_⟩
      intro next goes
      cases goes
  | assigning session
  | netting session =>
      simp only [stageStep]
      split
      · refine ⟨told.rows, ?_⟩
        intro next goes
        cases goes
      · refine ⟨told.rows, ?_⟩
        intro next goes
        cases goes
        trivial
  | updating session count total ahead taken =>
      simp only [stageStep]
      split
      · refine ⟨told.rows, ?_⟩
        intro next goes
        cases goes
      · refine ⟨told.rows, ?_⟩
        intro next goes
        cases goes
        split <;> trivial
  | writing session entries =>
      simp only [stageStep]
      split
      · refine ⟨told.rows, ?_⟩
        intro next goes
        cases goes
      · rename_i transfers made
        have fresh : ∀ row ∈ transfers, row = row.terms := by
          rw [createTransfers_rows made]
          intro row created
          exact (terms_of_mem_transferRows created).symm
        constructor
        · intro row rowMember onMock
          rcases List.mem_append.mp rowMember with old | created
          · exact told.rows row old onMock
          · exact .fresh (fresh row created)
        · intro next goes
          cases goes
          split
          · trivial
          · intro behind row rowMember own
            rcases List.mem_append.mp rowMember with old | created
            · have listed : row.terms ∈ state.settlement.db.termsIn session.id :=
                mem_termsIn.mpr ⟨row, old, own, rfl⟩
              rw [show state.settlement.db.termsIn session.id = [] from lists] at listed
              cases listed
            · exact fresh row created
  | dispatching session transfers =>
      have same : (stageStep context.runtime input state.settlement.db
          (.dispatching session transfers)).1 = state.settlement.db := by
        simp only [stageStep]
        split <;> rfl
      rw [same]
      exact ⟨told.rows, fun next goes =>
        told_dispatching held owned member here (known session transfers rfl) goes⟩
  | saving session transfers results ahead =>
      cases ahead with
      | nil =>
          refine ⟨told.rows, ?_⟩
          intro next goes
          cases goes
          intro behind
          rcases here behind with ⟨same, _, rows⟩
          refine .inl ⟨results, rfl, ?_, ?_⟩
          · rw [same]
            exact congrArg (List.map (resultFor context state.ended)) lists
          · intro row rowMember own
            have texts := rows row rowMember own
            rwa [List.map_nil, if_neg List.not_mem_nil] at texts
      | cons result ahead =>
          simp only [stageStep]
          split
          · refine ⟨told.rows, ?_⟩
            intro next goes
            cases goes
          · rename_i saved
            have both := told_saving held owned told member saved
            refine ⟨both.1, ?_⟩
            intro next goes
            cases goes
            exact both.2
  | marking session results =>
      simp only [stageStep]
      split
      · refine ⟨told.rows, ?_⟩
        intro next goes
        cases goes
      · rename_i marked
        refine ⟨told_marking held owned told member marked, ?_⟩
        intro next goes
        cases goes

/-- A row after a step of a task is in its session, or was there before. -/
theorem row_of_stageStep
    (held : TransfersHeld state.settlement)
    {stage : SettlementStage} (member : stage ∈ state.settlement.tasks) {input : StepInput}
    {row : SettlementTransfer}
    (rowMember : row ∈
      (stageStep context.runtime input state.settlement.db stage).1.transfers) :
    row.session ∈ stage.ownedIds ∨ row ∈ state.settlement.db.transfers := by
  have lists := held.lists stage member
  cases stage with
  | inserting zone known => exact .inr rowMember
  | aggregated session count total => exact .inr rowMember
  | settlingAll session => exact .inr rowMember
  | closing session => exact .inr rowMember
  | assigning session
  | updating session count total ahead taken
  | netting session
  | dispatching session transfers =>
      simp only [stageStep] at rowMember
      split at rowMember <;> exact .inr rowMember
  | writing session entries =>
      simp only [stageStep] at rowMember
      split at rowMember
      · exact .inr rowMember
      · rename_i transfers made
        rcases List.mem_append.mp rowMember with old | created
        · exact .inr old
        · rw [createTransfers_rows made] at created
          exact .inl (mem_ownedIds.mpr ⟨session, rfl, (mem_transferRows created).1.symm⟩)
  | saving session transfers results ahead =>
      cases ahead with
      | nil => exact .inr rowMember
      | cons result ahead =>
          simp only [stageStep] at rowMember
          split at rowMember
          · exact .inr rowMember
          · rename_i saved
            rcases transfers_of_saveResult saved with ⟨_, rfl⟩ | ⟨listed, rfl⟩
            · exact .inr rowMember
            · rcases List.mem_map.mp rowMember with ⟨before, beforeMember, rfl⟩
              simp only [savedRow]
              split
              · rename_i here
                rw [← here, show transfers = state.settlement.db.termsIn session.id
                  from lists] at listed
                have own := (session_of_listed held beforeMember listed).1
                exact .inl (mem_ownedIds.mpr ⟨session, rfl, own.symm⟩)
              · exact .inr beforeMember
  | marking session results =>
      simp only [stageStep] at rowMember
      split at rowMember
      · exact .inr rowMember
      · rename_i marked
        rw [transfers_of_markSettled lists held.nodup marked] at rowMember
        rcases List.mem_map.mp rowMember with ⟨before, beforeMember, rfl⟩
        by_cases own : before.session = session.id
        · refine .inl (mem_ownedIds.mpr ⟨session, rfl, ?_⟩)
          have terms := terms_markRow session.id input.now results before
          have sameSession : (markRow session.id input.now results before).terms.session =
              before.terms.session := by rw [terms]
          exact (sameSession.trans own).symm
        · rw [markRow_of_other own]
          exact .inr beforeMember

/-- What a task knows does not depend on the rows of other sessions. -/
theorem StageTold.congr
    {ended : InsertionDict Uuid HttpOutcome} {sent : List Uuid} {db after : LedgerDb}
    {stage : SettlementStage} (told : StageTold context ended sent db stage)
    (rows : ∀ row ∈ after.transfers, row.session ∈ stage.ownedIds → row ∈ db.transfers)
    (terms : ∀ sessionId ∈ stage.ownedIds, after.termsIn sessionId = db.termsIn sessionId) :
    StageTold context ended sent after stage := by
  cases stage with
  | dispatching session transfers =>
      intro behind row member own
      have old := rows row member (mem_ownedIds.mpr ⟨session, rfl, own.symm⟩)
      exact told behind row old own
  | saving session transfers results ahead =>
      intro behind
      rcases told behind with ⟨same, suffix, known⟩
      refine ⟨same, suffix, ?_⟩
      intro row member own
      have old := rows row member (mem_ownedIds.mpr ⟨session, rfl, own.symm⟩)
      exact known row old own
  | marking session results =>
      have same : after.termsIn session.id = db.termsIn session.id :=
        terms session.id (mem_ownedIds.mpr ⟨session, rfl, rfl⟩)
      intro behind
      rw [same]
      rcases told behind with ⟨found, rfl, results, known⟩ | ⟨rfl, known⟩
      · refine .inl ⟨found, rfl, results, ?_⟩
        intro row member own
        have old := rows row member (mem_ownedIds.mpr ⟨session, rfl, own.symm⟩)
        exact known row old own
      · refine .inr ⟨rfl, ?_⟩
        intro row member own
        have old := rows row member (mem_ownedIds.mpr ⟨session, rfl, own.symm⟩)
        exact known row old own
  | _ => trivial

theorem TransfersTold.advanced
    (held : TransfersHeld state.settlement) (owned : SessionsOwned state.settlement)
    (told : TransfersTold context state)
    {place : Nat} {stage : SettlementStage}
    (going : state.settlement.tasks[place]? = some stage) {input : StepInput}
    (known : ∀ session transfers, stage = .dispatching session transfers →
      (mockSystemOf session.zone).isSome → ∃ health,
        input.outcome = state.dispatched context health session transfers ∧
          state.mayFinish health transfers = true) :
    TransfersTold context
      { state with
        settlement := state.settlement.advanced context.runtime place stage input } := by
  have member := List.mem_of_getElem? going
  have both := told_stageStep held owned told member known
  refine ⟨both.1, ?_⟩
  intro other otherMember
  rcases (mem_moveOn going).mp otherMember with moved | rest
  · exact both.2 other moved
  · apply (told.tasks other (List.mem_of_mem_eraseIdx rest)).congr
    · intro row rowMember theirs
      rcases row_of_stageStep held member rowMember with own | old
      · exact absurd theirs (not_held_by_other going owned.once rest own)
      · exact old
    · intro sessionId theirs
      have effect := termsEffect context.runtime input held.nodup (held.lists stage member)
      apply effect.termsIn_other
      intro own
      exact not_held_by_other going owned.once rest own theirs

/-- What becomes known when a request ends. -/
theorem get?_ending
    {transferId : Uuid} (new : state.ended.get? transferId = none) (outcome : HttpOutcome)
    (id : Uuid) (other : HttpOutcome) (known : state.ended.get? id = some other) :
    (state.ending transferId outcome).ended.get? id = some other := by
  simp only [RtgsState.ending, InsertionDict.get?_set]
  rw [if_neg]
  · exact known
  · rintro rfl
    rw [new] at known
    cases known

theorem TransfersTold.ending
    (told : TransfersTold context state) {transferId : Uuid}
    (new : state.ended.get? transferId = none) (outcome : HttpOutcome) :
    TransfersTold context (state.ending transferId outcome) where
  rows row member onMock :=
    (told.rows row member onMock).mono (get?_ending new outcome) fun _ unsent => unsent
  tasks stage member :=
    (told.tasks stage member).mono (get?_ending new outcome) fun _ _ _ _ _ _ unsent => unsent

theorem TransfersTold.sending
    (held : TransfersHeld state.settlement) (owned : SessionsOwned state.settlement)
    (told : TransfersTold context state)
    {place : Nat} {system : MockSystem} {session : SettlementSession}
    {transfers : List SettlementTransfer} {transfer : SettlementTransfer}
    (dispatches : state.Dispatches place system session transfers)
    (listed : transfer ∈ transfers) :
    TransfersTold context (state.sending context system session transfer) := by
  have member := List.mem_of_getElem? dispatches.going
  have lists : transfers = state.settlement.db.termsIn session.id := held.lists _ member
  have behind : (mockSystemOf session.zone).isSome = true := by
    rw [dispatches.behind]
    rfl
  -- a row with the key of the transfer is one of the dispatching task
  have sending {row : SettlementTransfer} (rowMember : row ∈ state.settlement.db.transfers)
      (unsent : row.id ∉ state.sent) (other : row.session ≠ session.id ∨ row ≠ row.terms) :
      row.id ∉ (state.sending context system session transfer).sent := by
    intro sent
    rcases List.mem_append.mp sent with earlier | now
    · exact unsent earlier
    · have inSession : row.id ∈
          (state.settlement.db.termsIn session.id).map SettlementTransfer.id := by
        rw [List.mem_singleton.mp now, ← lists]
        exact List.mem_map_of_mem listed
      have own := (session_of_listed held rowMember inSession).1
      rcases other with elsewhere | changed
      · exact elsewhere own
      · exact changed (told.tasks _ member behind row rowMember own)
  constructor
  · intro row rowMember onMock
    apply (told.rows row rowMember onMock).mono (fun _ _ known => known)
    intro failed unsent
    apply sending rowMember unsent (.inr _)
    intro same
    rw [same] at failed
    cases failed
  · intro stage stageMember
    apply (told.tasks stage stageMember).mono (fun _ _ known => known)
    rintro marked results rfl row rowMember own unsent
    apply sending rowMember unsent (.inl _)
    intro same
    rcases (mem_iff_of_getElem? dispatches.going).mp stageMember with here | rest
    · cases here
    · have held : session.id ∈ (SettlementStage.dispatching session transfers).ownedIds :=
        mem_ownedIds.mpr ⟨session, rfl, rfl⟩
      have theirs : session.id ∈ (SettlementStage.marking marked results).ownedIds :=
        mem_ownedIds.mpr ⟨marked, rfl, own.symm.trans same⟩
      exact not_held_by_other dispatches.going owned.once rest held theirs

/-- A step of the tasks which does not wait for the mock. -/
theorem TransfersTold.settled
    (held : TransfersHeld state.settlement) (owned : SessionsOwned state.settlement)
    (told : TransfersTold context state)
    {action : SettlementAction} {settlement : SettlementState}
    (free : state.waitsForMock action = false)
    (move : SettlementMove context.runtime state.settlement action settlement) :
    TransfersTold context { state with settlement := settlement } := by
  cases move with
  | ignored => exact told
  | called zoneText zone idle =>
      refine ⟨told.rows, ?_⟩
      intro stage member
      rcases List.mem_append.mp member with earlier | last
      · exact told.tasks stage earlier
      · cases List.mem_singleton.mp last
        trivial
  | reached place row stage going ahead unlocked =>
      refine ⟨told.rows, ?_⟩
      intro other member
      have placed : other ∈ moveOn place (some _) state.settlement.tasks := member
      rcases (mem_moveOn going).mp placed with same | rest
      · cases same
        cases stage with
        | updating => trivial
        | _ => exact absurd ahead List.not_mem_nil
      · exact told.tasks other (List.mem_of_mem_eraseIdx rest)
  | advanced place input stage going ready =>
      apply told.advanced held owned going
      rintro session transfers rfl behind
      have waiting : state.waitsForMock (.advance place input) = true := by
        simp only [RtgsState.waitsForMock, RtgsState.dispatchAt, going, Option.bind_some,
          mockDispatch, if_pos behind, Option.isSome_some]
      rw [free] at waiting
      cases waiting
  | lost place stage going =>
      refine ⟨told.rows, ?_⟩
      intro other member
      exact told.tasks other (List.mem_of_mem_eraseIdx member)
  | booked drafts =>
      refine ⟨told.rows, ?_⟩
      intro stage member
      exact (told.tasks stage member).congr (fun _ old _ => old) fun _ _ => rfl

theorem told_step
    (held : TransfersHeld state.settlement) (owned : SessionsOwned state.settlement)
    (told : TransfersTold context state) {action : RtgsAction} {after : RtgsState}
    (move : RtgsMove context state action after) : TransfersTold context after := by
  cases move with
  | settled action settlement free move => exact told.settled held owned free move
  | sent place system session transfers transfer dispatches next new =>
      exact told.sending held owned dispatches next.listed
  | handled => exact ⟨told.rows, told.tasks⟩
  | received place system session transfers transfer dispatches next answer known =>
      exact told.ending next.unended _
  | gaveUp place message system session transfers transfer dispatches next sent =>
      exact told.ending next.unended _
  | finished place now health system session transfers dispatches ready =>
      apply told.advanced held owned dispatches.going
      intro other listed same behind
      cases same
      exact ⟨health, rfl, ready⟩
  | managed => exact ⟨told.rows, told.tasks⟩

theorem told_of_reachable (reached : (rtgsSystem context).Reachable state) :
    TransfersTold context state := by
  apply reached.invariant
  · intro start isStart
    constructor
    · rw [isStart.settlement.transfers]
      intro row member
      cases member
    · rw [isStart.settlement.tasks]
      intro stage member
      cases member
  · intro source label target before told move
    rcases held_of_reachable before with ⟨owned, held⟩
    exact told_step held owned told (rtgsMove_of_step move)

end Steps

end Klik.RtgsMock
