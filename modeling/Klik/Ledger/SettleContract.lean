import Klik.Ledger.Rtgs.Messages
import Klik.Ledger.SessionEnds

/-!
# The contract of `settle`

A gateway answers for each transfer of a list, or says before the first one
that its system is unavailable.  An exception in the middle loses the results
of the transfers before it, and the transfers after it are not sent.  It comes
from a message which cannot be encoded, or from an answer of a shape which the
code does not expect.
-/

namespace Klik.Ledger

open Klik.Common
open Klik.Ledger.Rtgs
open Klik.Lib

/-! ## One call of `settle` -/

/-- A transfer, when its message is built, and how the request for it ends if
it is sent. -/
structure Exchange where
  transfer : TransferRequest
  built : BuiltAt
  outcome : HttpOutcome

/-- `_validate_transfer` of the gateway of a zone. -/
def validateTransfer (runtime : PyRuntime) : Zone → TransferRequest → Option PyStr
  | .PL | .UK => fun _ => none
  | .EU => target2Validate
  | .US => fednowValidate runtime

/-- Whether the message of the gateway of a zone is encoded.  JSON is written
in ASCII. -/
def messageEncodes (sessionId : Uuid) (exchange : Exchange) : Zone → Bool
  | .PL | .UK => true
  | .EU => encodes (buildXml sessionId exchange.transfer)
  | .US => encodes (buildPacs008 exchange.built sessionId exchange.transfer)

/-- How a call of `settle` ends. -/
inductive SettleOutcome where
  | returned (results : List TransferResult)
  /-- `RTGSUnavailableError`. -/
  | unavailable
  /-- Any other exception. -/
  | raised

/-- The transfers which a call has sent, and its end. -/
structure SettleRun where
  sent : List TransferRequest
  outcome : SettleOutcome

/-- A call goes on with another result. -/
def SettleRun.after (result : TransferResult) (run : SettleRun) : SettleRun :=
  match run.outcome with
  | .returned results => { run with outcome := .returned (result :: results) }
  | _ => run

/-- A call which has sent another transfer before. -/
def SettleRun.sending (transfer : TransferRequest) (run : SettleRun) : SettleRun :=
  { run with sent := transfer :: run.sent }

/-- The loop of `settle`. -/
def settleLoop
    (runtime : PyRuntime) (settings : RtgsSettings) (zone : Zone) (sessionId : Uuid) :
    List Exchange → SettleRun
  | [] => ⟨[], .returned []⟩
  | exchange :: rest =>
      let transfer := exchange.transfer
      match validateTransfer runtime zone transfer with
      | some error =>
          (settleLoop runtime settings zone sessionId rest).after
            (notSettled transfer .failed (.str error))
      | none =>
          -- `xml.encode('utf-8')` is not inside a handler for its error.
          if messageEncodes sessionId exchange zone = false then ⟨[], .raised⟩
          else
            match settleOne runtime settings zone transfer exchange.outcome with
            | none => ⟨[transfer], .raised⟩
            | some result =>
                ((settleLoop runtime settings zone sessionId rest).after result).sending transfer

/-- `settle` of the gateway of a zone. -/
def settle
    (runtime : PyRuntime) (settings : RtgsSettings) (zone : Zone) (sessionId : Uuid)
    (health : HttpOutcome) (exchanges : List Exchange) : SettleRun :=
  if healthcheck health = false then ⟨[], .unavailable⟩
  else settleLoop runtime settings zone sessionId exchanges

/-- What the contract says of a call: unavailable before anything is sent, or
one result for each transfer, with all sent which pass the local check. -/
def SettleRun.Keeps
    (runtime : PyRuntime) (zone : Zone) (exchanges : List Exchange) (run : SettleRun) : Prop :=
  match run.outcome with
  | .unavailable => run.sent = []
  | .returned results =>
      results.map TransferResult.transferId =
          exchanges.map (fun exchange => exchange.transfer.transferId) ∧
        run.sent = (exchanges.map Exchange.transfer).filter fun transfer =>
          (validateTransfer runtime zone transfer).isNone
  | .raised => False

/-! ## What is sent and read -/

/-- The texts of a request which the message of a gateway holds. -/
def messageTexts (transfer : TransferRequest) : Zone → List PyStr
  | .PL | .UK => []
  | .EU => [transfer.fromIban, transfer.toIban, transfer.fromBic, transfer.toBic]
  | .US => [transfer.fromBankCode, transfer.toBankCode, transfer.fromBic, transfer.toBic,
      transfer.fromIban, transfer.toIban]

/-- The body is a JSON object, or no JSON. -/
def ObjectOrNoJson (response : HttpResponse) : Prop :=
  match response.json with
  | .decoded (.dict _) | .valueError _ => True
  | .decoded _ | .crashed => False

/-- The body is a JSON object whose status is a text or missing, or no JSON. -/
def TextStatusOrNoJson (response : HttpResponse) : Prop :=
  match response.json with
  | .decoded (.dict items) =>
      match PyValue.lookup items (py "status") with
      | none | some (.str _) => True
      | some _ => False
  | .valueError _ => True
  | .decoded _ | .crashed => False

/-- The shapes of an answer which a gateway reads. -/
def Readable (response : HttpResponse) (zone : Zone) : Prop :=
  if 400 ≤ response.statusCode then ObjectOrNoJson response
  else
    match zone with
    | .PL | .UK => ObjectOrNoJson response
    | .EU => response.xml ≠ .crashed
    | .US => TextStatusOrNoJson response

/-- The transfer is refused locally, or its message has no surrogates and the
answer, if there is one, can be read. -/
def Exchange.Sound (runtime : PyRuntime) (zone : Zone) (exchange : Exchange) : Prop :=
  validateTransfer runtime zone exchange.transfer ≠ none ∨
    (∀ text ∈ messageTexts exchange.transfer zone, encodes text = true) ∧
      ∀ response, exchange.outcome = .response response → Readable response zone

theorem messageEncodes_iff (sessionId : Uuid) (exchange : Exchange) (zone : Zone) :
    messageEncodes sessionId exchange zone = true ↔
      ∀ text ∈ messageTexts exchange.transfer zone, encodes text = true := by
  cases zone with
  | PL | UK => simp [messageEncodes, messageTexts]
  | EU =>
      simp only [messageEncodes, messageTexts, encodes_buildXml, Bool.and_eq_true,
        List.forall_mem_cons, and_assoc]
      simp
  | US =>
      simp only [messageEncodes, messageTexts, encodes_buildPacs008, Bool.and_eq_true,
        List.forall_mem_cons, and_assoc]
      simp

theorem errorReason_isSome_iff (keys : List PyStr) (width : Nat) (response : HttpResponse) :
    (errorReason keys width response).isSome = true ↔ ObjectOrNoJson response := by
  simp only [errorReason, ObjectOrNoJson]
  split <;> simp_all

/-- A gateway with the common base has a result for each answer which it can
parse. -/
theorem Rtgs.HttpGateway.settleOne_isSome_iff
    {gateway : HttpGateway} {transfer : TransferRequest}
    (valid : gateway.validateTransfer transfer = none) (timeoutSeconds : Nat)
    (outcome : HttpOutcome) :
    (gateway.settleOne timeoutSeconds transfer outcome).isSome = true ↔
      ∀ response, outcome = .response response →
        if 400 ≤ response.statusCode then ObjectOrNoJson response
        else gateway.parse transfer response ≠ .raised := by
  simp only [HttpGateway.settleOne, valid]
  cases outcome with
  | timeout => simp
  | requestException message => simp
  | response response =>
      simp only [HttpOutcome.response.injEq, forall_eq']
      by_cases failing : 400 ≤ response.statusCode
      · rw [if_pos failing, if_pos failing, Option.isSome_map, errorReason_isSome_iff]
      · rw [if_neg failing, if_neg failing]
        cases gateway.parse transfer response <;> simp

theorem parseMock_ne_raised_iff (transfer : TransferRequest) (response : HttpResponse) :
    parseMock transfer response ≠ .raised ↔ ObjectOrNoJson response := by
  simp only [parseMock, ObjectOrNoJson]
  split <;> simp_all

theorem target2Parse_ne_raised_iff
    (runtime : PyRuntime) (transfer : TransferRequest) (response : HttpResponse) :
    target2Parse runtime transfer response ≠ .raised ↔ response.xml ≠ .crashed := by
  simp only [target2Parse]
  split <;> simp_all

theorem fednowParse_isSome_iff
    (runtime : PyRuntime) (transfer : TransferRequest) (response : HttpResponse) :
    (fednowParse runtime transfer response).isSome = true ↔ Readable response .US := by
  simp only [fednowParse, Readable]
  by_cases failing : 400 ≤ response.statusCode
  · rw [if_pos failing, if_pos failing, Option.isSome_map, errorReason_isSome_iff]
  · rw [if_neg failing, if_neg failing]
    simp only [TextStatusOrNoJson, PyValue.getD]
    cases response.json with
    | valueError message => simp
    | crashed => simp
    | decoded value =>
        cases value with
        | dict items =>
            simp only
            cases PyValue.lookup items (py "status") with
            | none => simp
            | some status => cases status <;> simp
        | _ => simp

/-- A transfer which passes the local check has a result exactly when the
answer can be read. -/
theorem settleOne_isSome_iff
    {runtime : PyRuntime} {settings : RtgsSettings} {zone : Zone} {transfer : TransferRequest}
    (valid : validateTransfer runtime zone transfer = none) (outcome : HttpOutcome) :
    (settleOne runtime settings zone transfer outcome).isSome = true ↔
      ∀ response, outcome = .response response → Readable response zone := by
  have mock : (mockGateway.settleOne settings.timeoutSeconds transfer outcome).isSome = true ↔
      ∀ response, outcome = .response response → Readable response .PL := by
    rw [HttpGateway.settleOne_isSome_iff rfl]
    simp only [mockGateway, parseMock_ne_raised_iff, Readable]
  cases zone with
  | PL => exact mock
  | UK => exact mock
  | EU =>
      simp only [settleOne]
      rw [HttpGateway.settleOne_isSome_iff valid]
      simp only [target2Gateway, target2Parse_ne_raised_iff, Readable]
  | US =>
      have passed : fednowValidate runtime transfer = none := valid
      simp only [settleOne, fednowSettleOne, passed]
      cases outcome with
      | timeout => simp
      | requestException message => simp
      | response response =>
          simp only [HttpOutcome.response.injEq, forall_eq']
          exact fednowParse_isSome_iff runtime transfer response

/-! ## The loop -/

section Loop

variable {runtime : PyRuntime} {settings : RtgsSettings} {zone : Zone} {sessionId : Uuid}
variable {exchange : Exchange} {rest : List Exchange} {run : SettleRun} {result : TransferResult}

theorem SettleRun.after_available
    (available : run.outcome ≠ .unavailable) : (run.after result).outcome ≠ .unavailable := by
  rcases run with ⟨sent, _ | _ | _⟩
  · exact fun same => by cases same
  · exact absurd rfl available
  · exact fun same => by cases same

/-- Within the loop the system is not found unavailable. -/
theorem settleLoop_available (exchanges : List Exchange) :
    (settleLoop runtime settings zone sessionId exchanges).outcome ≠ .unavailable := by
  induction exchanges with
  | nil => exact fun same => by cases same
  | cons exchange rest induction =>
      simp only [settleLoop]
      split
      · exact SettleRun.after_available induction
      · split
        · exact fun same => by cases same
        · split
          · exact fun same => by cases same
          · exact SettleRun.after_available induction

/-- The result of a transfer which is refused locally. -/
theorem keeps_after
    (refused : validateTransfer runtime zone exchange.transfer ≠ none)
    (same : result.transferId = exchange.transfer.transferId)
    (available : run.outcome ≠ .unavailable) :
    (run.after result).Keeps runtime zone (exchange :: rest) ↔ run.Keeps runtime zone rest := by
  have isNone : (validateTransfer runtime zone exchange.transfer).isNone = false :=
    Option.isNone_eq_false_iff.mpr (Option.isSome_iff_ne_none.mpr refused)
  rcases run with ⟨sent, results | _ | _⟩
  · simp only [SettleRun.after, SettleRun.Keeps, List.map_cons, same, List.cons.injEq, true_and,
      List.filter_cons, isNone, Bool.false_eq_true, if_false]
  · exact absurd rfl available
  · simp only [SettleRun.after, SettleRun.Keeps]

/-- The result of a transfer which is sent. -/
theorem keeps_sending
    (valid : validateTransfer runtime zone exchange.transfer = none)
    (same : result.transferId = exchange.transfer.transferId)
    (available : run.outcome ≠ .unavailable) :
    ((run.after result).sending exchange.transfer).Keeps runtime zone (exchange :: rest) ↔
      run.Keeps runtime zone rest := by
  rcases run with ⟨sent, results | _ | _⟩
  · simp only [SettleRun.after, SettleRun.sending, SettleRun.Keeps, List.map_cons, same,
      List.cons.injEq, true_and, List.filter_cons, valid, Option.isNone_none, if_true]
  · exact absurd rfl available
  · simp only [SettleRun.after, SettleRun.sending, SettleRun.Keeps]

theorem settleLoop_keeps_iff (exchanges : List Exchange) :
    (settleLoop runtime settings zone sessionId exchanges).Keeps runtime zone exchanges ↔
      ∀ exchange ∈ exchanges, exchange.Sound runtime zone := by
  induction exchanges with
  | nil => simp [settleLoop, SettleRun.Keeps]
  | cons exchange rest induction =>
      have available : (settleLoop runtime settings zone sessionId rest).outcome ≠ .unavailable :=
        settleLoop_available rest
      rw [List.forall_mem_cons, ← induction, settleLoop]
      cases valid : validateTransfer runtime zone exchange.transfer with
      | some error =>
          have refused : validateTransfer runtime zone exchange.transfer ≠ none := by
            rw [valid]
            exact Option.some_ne_none error
          simp only
          rw [keeps_after refused rfl available, and_iff_right (.inl refused)]
      | none =>
          simp only
          have sound : exchange.Sound runtime zone ↔
              messageEncodes sessionId exchange zone = true ∧
                (settleOne runtime settings zone exchange.transfer
                  exchange.outcome).isSome = true := by
            rw [Exchange.Sound, valid, messageEncodes_iff, settleOne_isSome_iff valid]
            exact or_iff_right (fun refused => refused rfl)
          rw [sound]
          by_cases encoded : messageEncodes sessionId exchange zone = true
          · rw [encoded, if_neg (Ne.symm Bool.false_ne_true)]
            cases settled : settleOne runtime settings zone exchange.transfer
                exchange.outcome with
            | none => simp [SettleRun.Keeps]
            | some result =>
                simp only [Option.isSome_some, and_self, true_and]
                exact keeps_sending valid (settleOne_transferId settled) available
          · rw [if_pos (Bool.eq_false_of_not_eq_true encoded)]
            simp [SettleRun.Keeps, encoded]

/-- A call keeps the contract exactly when the system is down at the start, or
each transfer is refused locally or sent and answered in a shape which the
gateway reads. -/
theorem settle_keeps_iff
    (runtime : PyRuntime) (settings : RtgsSettings) (zone : Zone) (sessionId : Uuid)
    (health : HttpOutcome) (exchanges : List Exchange) :
    (settle runtime settings zone sessionId health exchanges).Keeps runtime zone exchanges ↔
      healthcheck health = false ∨ ∀ exchange ∈ exchanges, exchange.Sound runtime zone := by
  rw [settle]
  by_cases down : healthcheck health = false
  · rw [if_pos down]
    exact iff_of_true rfl (.inl down)
  · rw [if_neg down, settleLoop_keeps_iff, or_iff_right down]

end Loop

/-! ## Within a dispatch -/

/-- What the dispatcher makes of the end of `settle`. -/
def SettleOutcome.dispatched (settings : RtgsSettings) (zone : Zone) :
    SettleOutcome → DispatchOutcome
  | .returned results => .returned results
  | .unavailable =>
      .unavailable (systemName zone)
        (py "healthcheck failed na " ++ settings.baseUrl zone ++ healthPath zone)
  | .raised => .raised

theorem settleOne_refused
    {runtime : PyRuntime} {settings : RtgsSettings} {zone : Zone} {transfer : TransferRequest}
    {error : PyStr} (refused : validateTransfer runtime zone transfer = some error)
    (outcome : HttpOutcome) :
    settleOne runtime settings zone transfer outcome =
      some (notSettled transfer .failed (.str error)) := by
  cases zone with
  | PL | UK => cases refused
  | EU =>
      have checked : (target2Gateway runtime).validateTransfer transfer = some error := refused
      simp only [settleOne, HttpGateway.settleOne, checked]
  | US =>
      have checked : fednowValidate runtime transfer = some error := refused
      simp only [settleOne, fednowSettleOne, checked]

section Dispatch

variable {runtime : PyRuntime} {settings : RtgsSettings} {zone : Zone} {sessionId : Uuid}
variable {answer : TransferRequest → HttpOutcome} {built : TransferRequest → BuiltAt}

theorem settleLoop_outcome
    {transfers : List TransferRequest}
    (encoded : ∀ transfer ∈ transfers, ∀ text ∈ messageTexts transfer zone,
      encodes text = true) :
    (settleLoop runtime settings zone sessionId
        (transfers.map fun transfer => ⟨transfer, built transfer, answer transfer⟩)).outcome =
      match settleAll
          (fun transfer => settleOne runtime settings zone transfer (answer transfer))
          transfers with
      | some results => .returned results
      | none => .raised := by
  induction transfers with
  | nil => rfl
  | cons transfer rest induction =>
      rw [List.forall_mem_cons] at encoded
      have later := induction encoded.2
      have after (result : TransferResult) :
          ((settleLoop runtime settings zone sessionId (rest.map fun transfer =>
              ⟨transfer, built transfer, answer transfer⟩)).after result).outcome =
            match (settleAll
                (fun transfer => settleOne runtime settings zone transfer (answer transfer))
                rest).map (result :: ·) with
            | some results => .returned results
            | none => .raised := by
        rw [SettleRun.after]
        cases settled : settleAll
            (fun transfer => settleOne runtime settings zone transfer (answer transfer))
            rest with
        | none =>
            rw [settled] at later
            simp only [later, Option.map_none]
        | some results =>
            rw [settled] at later
            simp only [later, Option.map_some]
      rw [List.map_cons, settleLoop, settleAll]
      cases valid : validateTransfer runtime zone transfer with
      | some error =>
          simp only [settleOne_refused valid]
          exact after _
      | none =>
          have message : messageEncodes sessionId
              ⟨transfer, built transfer, answer transfer⟩ zone = true :=
            (messageEncodes_iff _ _ _).mpr encoded.1
          simp only
          rw [message, if_neg (Ne.symm Bool.false_ne_true)]
          cases settleOne runtime settings zone transfer (answer transfer) with
          | none => rfl
          | some result => exact after result

/-- Where the stored texts can be encoded, a dispatch of some transfers ends
as `settle` does. -/
theorem dispatchRtgs_eq_settle
    {behaviour : RtgsBehaviour} {transfers : List TransferRequest} (some : transfers ≠ [])
    (encoded : ∀ transfer ∈ transfers, ∀ text ∈ messageTexts transfer zone,
      encodes text = true) :
    dispatchRtgs runtime settings behaviour zone sessionId transfers =
      (settle runtime settings zone sessionId (behaviour.health zone)
        (transfers.map fun transfer =>
          ⟨transfer, built transfer, behaviour.answer transfer⟩)).outcome.dispatched
        settings zone := by
  have isEmpty : transfers.isEmpty = false := by
    rw [List.isEmpty_eq_false_iff]
    exact some
  rw [dispatchRtgs, isEmpty, if_neg Bool.false_ne_true, settle]
  split
  · rfl
  · rw [settleLoop_outcome encoded]
    cases settleAll
      (fun transfer => settleOne runtime settings zone transfer (behaviour.answer transfer))
      transfers with
    | none => rfl
    | some results => rfl

end Dispatch

/-! ## An answer of an unexpected shape -/

/-- A transfer of 100 between two Polish banks. -/
def polishTransfer (id : Uuid) : TransferRequest where
  transferId := id
  fromBankCode := py "First Bank"
  toBankCode := py "Second Bank"
  amount := 100
  currency := .PLN
  fromBic := []
  toBic := []
  fromIban := []
  toIban := []

/-- An answer with a JSON document. -/
def jsonAnswer (statusCode : Nat) (value : PyValue) : HttpOutcome :=
  .response ⟨statusCode, py "...", .decoded value, .parseError []⟩

/-- The first transfer is executed, a proxy answers the second with a list,
and the third is not sent. -/
def listAnswer : List Exchange :=
  let built : BuiltAt := ⟨9, .firstOfJune 2026, 0⟩
  [⟨polishTransfer 1, built, jsonAnswer 200 (.dict [(py "status", .str (py "SUCCESS"))])⟩,
    ⟨polishTransfer 2, built, jsonAnswer 502 (.list [])⟩,
    ⟨polishTransfer 3, built, jsonAnswer 200 (.dict [(py "status", .str (py "SUCCESS"))])⟩]

/-- Whether a call ends with an exception which is not `RTGSUnavailableError`. -/
def SettleOutcome.isRaised : SettleOutcome → Bool
  | .raised => true
  | .returned _ | .unavailable => false

theorem not_keeps_of_raised
    {runtime : PyRuntime} {zone : Zone} {exchanges : List Exchange} {run : SettleRun}
    (raised : run.outcome.isRaised = true) : ¬ run.Keeps runtime zone exchanges := by
  rcases run with ⟨sent, results | _ | _⟩
  · cases raised
  · cases raised
  · exact id

theorem settle_loses_results :
    let run := settle .ascii ⟨30, fun _ => []⟩ .PL 8 (jsonAnswer 200 (.dict [])) listAnswer
    run.sent = [polishTransfer 1, polishTransfer 2] ∧ run.outcome.isRaised = true ∧
      ¬ run.Keeps .ascii .PL listAnswer := by
  refine ⟨by decide +kernel, by decide +kernel, ?_⟩
  exact not_keeps_of_raised (by decide +kernel)

end Klik.Ledger
