import Klik.Ledger.LedgerSystem
import Klik.Ledger.RecordableAnswers

/-!
# How a settlement run ends its session

A run which creates a session ends it, unless an exception stops the task
first.  With the gateways of the RTGS package these exceptions are known: the
totals of the session do not fit their columns, or the answer to a transfer
gives no result or a result whose texts do not fit.
-/

namespace Klik.Ledger

open Klik.Banks
open Klik.Codes
open Klik.Common
open Klik.Ledger.Rtgs
open Klik.Lib

/-! ## The dispatcher answers each transfer -/

/-- A gateway names the transfer it was asked for. -/
theorem Rtgs.HttpGateway.settleOne_transferId
    (gateway : HttpGateway) {timeoutSeconds : Nat} {transfer : TransferRequest}
    {outcome : HttpOutcome} {result : TransferResult}
    (parsedId : ∀ response parsed,
      gateway.parse transfer response = .result parsed →
        parsed.transferId = transfer.transferId)
    (settled : gateway.settleOne timeoutSeconds transfer outcome = some result) :
    result.transferId = transfer.transferId := by
  simp only [HttpGateway.settleOne] at settled
  cases checked : gateway.validateTransfer transfer with
  | some error =>
      simp only [checked] at settled
      cases settled
      rfl
  | none =>
      simp only [checked] at settled
      cases outcome with
      | timeout =>
          cases settled
          rfl
      | requestException message =>
          cases settled
          rfl
      | response response =>
          simp only at settled
          split at settled
          · rcases Option.map_eq_some_iff.mp settled with ⟨reason, _, rfl⟩
            rfl
          · cases parse : gateway.parse transfer response with
            | result parsed =>
                simp only [parse] at settled
                cases settled
                exact parsedId response _ parse
            | valueError message =>
                simp only [parse] at settled
                cases settled
                rfl
            | raised =>
                simp only [parse] at settled
                cases settled

theorem parseMock_transferId
    {transfer : TransferRequest} {response : HttpResponse} {parsed : TransferResult}
    (read : parseMock transfer response = .result parsed) :
    parsed.transferId = transfer.transferId := by
  simp only [parseMock] at read
  split at read <;> cases read
  rfl

theorem target2Parse_transferId
    {runtime : PyRuntime} {transfer : TransferRequest} {response : HttpResponse}
    {parsed : TransferResult}
    (read : target2Parse runtime transfer response = .result parsed) :
    parsed.transferId = transfer.transferId := by
  simp only [target2Parse] at read
  split at read <;> cases read
  unfold target2Result
  simp only
  split <;> rfl

theorem fednowResult_transferId
    (runtime : PyRuntime) (transfer : TransferRequest) (status : PyStr) :
    (fednowResult runtime transfer status).transferId = transfer.transferId := by
  simp only [fednowResult]
  split <;> rfl

theorem fednowSettleOne_transferId
    {runtime : PyRuntime} {timeoutSeconds : Nat} {transfer : TransferRequest}
    {outcome : HttpOutcome} {result : TransferResult}
    (settled :
      fednowSettleOne runtime timeoutSeconds transfer outcome = some result) :
    result.transferId = transfer.transferId := by
  simp only [fednowSettleOne] at settled
  split at settled
  · cases settled
    rfl
  · cases outcome with
    | timeout =>
        cases settled
        rfl
    | requestException message =>
        cases settled
        rfl
    | response response =>
        simp only [fednowParse] at settled
        split at settled
        · rcases Option.map_eq_some_iff.mp settled with ⟨reason, _, rfl⟩
          rfl
        · split at settled
          · split at settled <;> cases settled
            exact fednowResult_transferId _ _ _
          · cases settled
          · cases settled
            exact fednowResult_transferId _ _ _
          · cases settled

theorem settleOne_transferId
    {runtime : PyRuntime} {settings : RtgsSettings} {zone : Zone}
    {transfer : TransferRequest} {outcome : HttpOutcome} {result : TransferResult}
    (settled : settleOne runtime settings zone transfer outcome = some result) :
    result.transferId = transfer.transferId := by
  have mock : ∀ response parsed, mockGateway.parse transfer response = .result parsed →
      parsed.transferId = transfer.transferId := fun _ _ => parseMock_transferId
  cases zone with
  | PL => exact mockGateway.settleOne_transferId mock settled
  | UK => exact mockGateway.settleOne_transferId mock settled
  | EU =>
      exact (target2Gateway runtime).settleOne_transferId
        (fun _ _ => target2Parse_transferId) settled
  | US => exact fednowSettleOne_transferId settled

/-- The results come in the order of the transfers. -/
theorem settleAll_ids
    {settle : TransferRequest → Option TransferResult}
    (keepsId : ∀ transfer result, settle transfer = some result →
      result.transferId = transfer.transferId)
    {transfers : List TransferRequest} {results : List TransferResult}
    (settled : settleAll settle transfers = some results) :
    results.map TransferResult.transferId =
      transfers.map TransferRequest.transferId := by
  induction transfers generalizing results with
  | nil =>
      cases settled
      rfl
  | cons transfer rest induction =>
      simp only [settleAll] at settled
      cases first : settle transfer with
      | none =>
          rw [first] at settled
          cases settled
      | some result =>
          rw [first] at settled
          rcases Option.map_eq_some_iff.mp settled with ⟨others, later, rfl⟩
          rw [List.map_cons, List.map_cons, keepsId transfer result first,
            induction later]

/-- All results can be saved exactly when each transfer gives one which can. -/
theorem settleAll_fits_iff
    (runtime : PyRuntime) (settle : TransferRequest → Option TransferResult)
    (transfers : List TransferRequest) :
    (∃ results, settleAll settle transfers = some results ∧
        ∀ result ∈ results, resultFits runtime result = true) ↔
      ∀ transfer ∈ transfers, ResultFits runtime (settle transfer) := by
  induction transfers with
  | nil => simp [settleAll]
  | cons transfer rest induction =>
      rw [List.forall_mem_cons, ← induction, settleAll]
      cases first : settle transfer with
      | none => simp
      | some result =>
          simp only [Option.map_eq_some_iff, resultFits_some]
          constructor
          · rintro ⟨_, ⟨others, later, rfl⟩, fits⟩
            rw [List.forall_mem_cons] at fits
            exact ⟨fits.1, others, later, fits.2⟩
          · rintro ⟨fits, others, later, othersFit⟩
            exact ⟨_, ⟨others, later, rfl⟩, List.forall_mem_cons.mpr ⟨fits, othersFit⟩⟩

section Dispatcher

variable (runtime : PyRuntime) (settings : RtgsSettings) (behaviour : RtgsBehaviour)
variable (zone : Zone) (sessionId : Uuid) (transfers : List TransferRequest)

theorem dispatchRtgs_answersEach
    {results : List TransferResult}
    (returned : dispatchRtgs runtime settings behaviour zone sessionId transfers =
      .returned results) :
    DispatchOutcome.AnswersEach (.returned results) transfers := by
  simp only [dispatchRtgs] at returned
  split at returned
  · rename_i empty
    cases returned
    rw [List.isEmpty_iff.mp empty]
    exact List.Perm.refl _
  · split at returned
    · cases returned
    · split at returned
      · rename_i settled
        cases returned
        exact List.Perm.of_eq
          (settleAll_ids (fun _ _ => settleOne_transferId) settled)
      · cases returned

theorem dispatchRtgs_answersEach_of_recorded
    (recorded : DispatchOutcome.Recorded runtime
      (dispatchRtgs runtime settings behaviour zone sessionId transfers)) :
    (dispatchRtgs runtime settings behaviour zone sessionId
      transfers).AnswersEach transfers := by
  cases outcome : dispatchRtgs runtime settings behaviour zone sessionId
      transfers with
  | returned results =>
      exact dispatchRtgs_answersEach _ _ _ _ _ _ outcome
  | unavailable systemName reason => exact trivial
  | raised =>
      rw [outcome] at recorded
      exact recorded.elim

/-- Which behaviours of the RTGS system the task can record. -/
theorem dispatchRtgs_recorded_iff (some : transfers ≠ []) :
    DispatchOutcome.Recorded runtime
        (dispatchRtgs runtime settings behaviour zone sessionId transfers) ↔
      (healthcheck (behaviour.health zone) = true →
        ∀ transfer ∈ transfers,
          AnswerRecordable runtime settings zone transfer
            (behaviour.answer transfer)) := by
  simp only [← settleOne_recordable_iff]
  rw [← settleAll_fits_iff runtime
    (fun transfer =>
      settleOne runtime settings zone transfer (behaviour.answer transfer))]
  simp only [dispatchRtgs]
  rw [if_neg (by simpa using some)]
  cases healthcheck (behaviour.health zone) with
  | false => simp [DispatchOutcome.Recorded]
  | true =>
      simp only [Bool.true_eq_false, if_false, true_implies]
      cases settleAll
          (fun transfer =>
            settleOne runtime settings zone transfer (behaviour.answer transfer))
          transfers with
      | none => simp [DispatchOutcome.Recorded]
      | some results => simp [DispatchOutcome.Recorded]

end Dispatcher

/-! ## Runs with the RTGS gateways -/

/-- The environment of a run whose dispatcher is `RTGSDispatcher`. -/
def rtgsEnv
    (bankOf : Uuid → Bank) (runtime : PyRuntime) (settings : RtgsSettings)
    (behaviour : RtgsBehaviour) : SettlementEnv where
  bankOf := bankOf
  runtime := runtime
  dispatch := dispatchRtgs runtime settings behaviour

/-- The totals of the session fit, and so does what comes back for every
transfer when the system is up. -/
def SettlesInBounds
    (bankOf : Uuid → Bank) (runtime : PyRuntime) (settings : RtgsSettings)
    (behaviour : RtgsBehaviour) (zone : Zone) (db : LedgerDb) : Prop :=
  TotalsFit zone db ∧
    (healthcheck (behaviour.health zone) = true →
      ∀ transfer ∈ plannedTransfers zone db,
        let request :=
          transferRequest (rtgsEnv bankOf runtime settings behaviour) zone transfer
        AnswerRecordable runtime settings zone request (behaviour.answer request))

/-- A session which a run created has ended, it is completed exactly when its
transfers are, and then its entries are settled. -/
def EndsConsistently (db after : LedgerDb) : Prop :=
  ∀ row ∈ after.sessions, row.id = db.sessions.length →
    (row.status = .completed ∨ row.status = .failed) ∧
    (row.status = .completed ↔
      ∀ transfer ∈ after.transfers, transfer.session = row.id →
        transfer.status = .completed) ∧
    (row.status = .completed →
      ∀ entry ∈ after.entries, entry.session = some row.id →
        entry.settled = true)

instance (db after : LedgerDb) : Decidable (EndsConsistently db after) :=
  inferInstanceAs (Decidable (∀ row ∈ after.sessions, row.id = db.sessions.length →
    (row.status = .completed ∨ row.status = .failed) ∧
    (row.status = .completed ↔
      ∀ transfer ∈ after.transfers, transfer.session = row.id →
        transfer.status = .completed) ∧
    (row.status = .completed →
      ∀ entry ∈ after.entries, entry.session = some row.id →
        entry.settled = true)))

section Run

variable (bankOf : Uuid → Bank) (runtime : PyRuntime) (settings : RtgsSettings)
variable (behaviour : RtgsBehaviour)
variable {zone : Zone} {db after : LedgerDb} (wellFormed : db.WellFormed)

theorem settlesCleanly_iff (zone : Zone) (db : LedgerDb) :
    SettlesCleanly (rtgsEnv bankOf runtime settings behaviour) zone db ↔
      SettlesInBounds bankOf runtime settings behaviour zone db := by
  simp only [SettlesCleanly, SettlesInBounds]
  refine and_congr_right fun _ => ?_
  by_cases noTransfers : plannedTransfers zone db = []
  · simp [noTransfers]
  · have requests : (plannedTransfers zone db).map
        (transferRequest (rtgsEnv bankOf runtime settings behaviour) zone) ≠ [] := by
      simpa using noTransfers
    have recorded := dispatchRtgs_recorded_iff runtime settings behaviour zone
      db.sessions.length _ requests
    rw [List.forall_mem_map] at recorded
    rw [← recorded]
    exact ⟨fun needed => needed noTransfers, fun done _ => done⟩

include wellFormed in
/-- A run which creates no session leaves none to look at. -/
theorem endsConsistently_unchanged : EndsConsistently db db := by
  intro row member here
  have older := wellFormed.session_ids row member
  rw [here] at older
  exact absurd older (Nat.lt_irrefl _)

include wellFormed in
theorem Closes.endsConsistently
    {now : Instant} {row : SettlementSession} {made : List SettlementTransfer}
    (closes : Closes db zone now row made after) :
    EndsConsistently db after := by
  intro session member here
  have same : session = row := by
    rw [closes.sessions] at member
    rcases List.mem_append.mp member with old | new
    · have older := wellFormed.session_ids session old
      rw [here] at older
      exact absurd older (Nat.lt_irrefl _)
    · exact List.mem_singleton.mp new
  subst same
  have ofSession : ∀ transfer ∈ after.transfers, transfer.session = session.id →
      transfer ∈ made := by
    intro transfer transferMember owned
    rw [closes.transfers] at transferMember
    rcases List.mem_append.mp transferMember with old | new
    · have older := wellFormed.transfer_session transfer old
      rw [owned, here] at older
      exact absurd older (Nat.lt_irrefl _)
    · exact new
  have completed_iff : session.status = .completed ↔
      ∀ transfer ∈ after.transfers, transfer.session = session.id →
        transfer.status = .completed := by
    rw [closes.row_status, endStatus]
    constructor
    · intro completed transfer transferMember owned
      split at completed
      · rename_i all
        have status := List.all_eq_true.mp all transfer
          (ofSession transfer transferMember owned)
        simpa using status
      · cases completed
    · intro all
      rw [if_pos]
      rw [List.all_eq_true]
      intro transfer transferMember
      have stored : transfer ∈ after.transfers := by
        rw [closes.transfers]
        exact List.mem_append_right _ transferMember
      have owned : transfer.session = session.id :=
        (closes.owns.session transfer transferMember).trans closes.row_id.symm
      simpa using all transfer stored owned
  refine ⟨?_, completed_iff, ?_⟩
  · rw [closes.row_status, endStatus]
    split
    · exact Or.inl rfl
    · exact Or.inr rfl
  · intro completed entry entryMember assigned
    rw [closes.entries] at entryMember
    rcases List.mem_map.mp entryMember with ⟨old, oldMember, rfl⟩
    cases taken : old.isPending zone with
    | false =>
        rw [closes.entry_of_not_pending wellFormed oldMember taken] at assigned
        have older := wellFormed.entry_session old oldMember _ assigned
        rw [here] at older
        exact absurd older (Nat.lt_irrefl _)
    | true =>
        rw [(closedEntry_of_pending now session made taken).2]
        simp [settles, completed]

include wellFormed in
/-- A run ends its session consistently exactly when it stays in bounds, or
creates no session at all. -/
theorem session_ends_consistently (now : Instant) (text : PyStr) :
    EndsConsistently db
        (runSettlementSession (rtgsEnv bankOf runtime settings behaviour) now text
          db).db ↔
      ∀ zone, zoneOfText text = some zone → ZoneIdle zone db →
        SettlesInBounds bankOf runtime settings behaviour zone db := by
  cases known : zoneOfText text with
  | none =>
      rw [runSettlementSession_unknown _ now db known]
      exact iff_of_true (endsConsistently_unchanged wellFormed) fun _ named => nomatch named
  | some zone =>
      have named : (∀ other, some zone = some other → ZoneIdle other db →
          SettlesInBounds bankOf runtime settings behaviour other db) ↔
            (ZoneIdle zone db →
              SettlesInBounds bankOf runtime settings behaviour zone db) := by
        simp
      rw [named]
      by_cases idle : ZoneIdle zone db
      · rw [← settlesCleanly_iff]
        constructor
        · intro consistent _
          by_contra unclean
          rcases runSettlementSession_strands wellFormed now known idle unclean
            (fun results returned =>
              returned ▸ dispatchRtgs_answersEach runtime settings behaviour zone
                db.sessions.length _ returned)
            with ⟨entries, row, made, error, shape, last, _, active⟩
          rw [shape] at consistent
          have ended := (consistent row (List.mem_append_right _ (by simp)) last).1
          rcases ended with completed | failed
          · rw [completed] at active
            cases active
          · rw [failed] at active
            cases active
        · intro clean
          have answered : plannedTransfers zone db ≠ [] →
              (plannedOutcome (rtgsEnv bankOf runtime settings behaviour) zone
                db).AnswersEach ((plannedTransfers zone db).map
                  (transferRequest (rtgsEnv bankOf runtime settings behaviour)
                    zone)) :=
            fun transfers =>
              dispatchRtgs_answersEach_of_recorded runtime settings behaviour zone
                db.sessions.length _ ((clean idle).2 transfers)
          rcases runSettlementSession_closes wellFormed now known idle (clean idle)
            answered with ⟨row, made, report, _, closes, _⟩
          exact closes.endsConsistently wellFormed
      · rw [runSettlementSession_busy now known idle]
        exact iff_of_true (endsConsistently_unchanged wellFormed)
          fun free => absurd free idle

end Run

/-! ## SORBNET3 answers -/

/-- A system which is up and answers every transfer with status 200 and one
JSON body. -/
def answering (body : PyValue) : RtgsBehaviour where
  health _ := .response ⟨200, [], .decoded .none, .crashed⟩
  answer _ := .response ⟨200, [], .decoded body, .crashed⟩

/-- Settings of the gateways. -/
def rtgsSettings : RtgsSettings where
  timeoutSeconds := 30
  baseUrl _ := []

/-- The answer that a transfer succeeded. -/
def successBody : PyValue :=
  .dict [(py "status", .str (py "SUCCESS")), (py "rtgs_reference", .str (py "R1"))]

theorem settlesInBounds_onePayment :
    SettlesInBounds polishBank .ascii rtgsSettings (answering successBody) .PL
      onePayment := by
  refine ⟨⟨by decide +kernel, by decide +kernel⟩, ?_⟩
  intro _ transfer _
  refine ⟨fun failing => absurd failing (by decide), fun _ => ?_⟩
  simp only [successBody, MockRecordable]
  exact ⟨fun _ => by decide, fun _ => by decide⟩

theorem session_ends_consistently_onePayment :
    EndsConsistently onePayment
      (runSettlementSession
        (rtgsEnv polishBank .ascii rtgsSettings (answering successBody)) 0
        (py "PL") onePayment).db := by
  have wellFormed := wellFormed_of_reachable (reachable_polishLedger
    [polishPayment (py "a") 1 2 100])
  refine (session_ends_consistently polishBank .ascii rtgsSettings
    (answering successBody) wellFormed 0 (py "PL")).mpr ?_
  intro zone named _
  have same : zone = .PL := by
    have text : zoneOfText (py "PL") = some .PL := by decide
    rw [text] at named
    exact (Option.some.inj named).symm
  rw [same]
  exact settlesInBounds_onePayment

/-- A body which is a JSON array stops the task after the transfers were
created. -/
theorem session_left_settling :
    ¬ ∀ (bankOf : Uuid → Bank) (runtime : PyRuntime) (settings : RtgsSettings)
        (behaviour : RtgsBehaviour) (db : LedgerDb), db.WellFormed →
          ∀ (now : Instant) (text : PyStr),
            EndsConsistently db
              (runSettlementSession (rtgsEnv bankOf runtime settings behaviour) now
                text db).db := by
  intro always
  have wellFormed := wellFormed_of_reachable (reachable_polishLedger
    [polishPayment (py "a") 1 2 100])
  have consistent := always polishBank .ascii rtgsSettings (answering (.list []))
    onePayment wellFormed 0 (py "PL")
  exact absurd consistent (by decide +kernel)

end Klik.Ledger
