import Klik.Ledger.Rtgs.Gateways
import Klik.Ledger.Settlement

/-!
# Answers which a settlement run can record

The result of a transfer is saved in two text columns.  For each gateway, the
answers for which it returns a result whose texts fit these columns are
described by what the system sent: the status code, the kind of the body and
the lengths of its texts.
-/

namespace Klik.Ledger

open Klik.Common
open Klik.Ledger.Rtgs
open Klik.Lib

/-- Whether a column takes a value of a result; false values are not
written. -/
def valueFits (runtime : PyRuntime) (width : Nat) (value : PyValue) : Prop :=
  value.truthy = true → fitsColumn width (value.text runtime) = true

@[simp]
theorem fitsColumn_nil (width : Nat) : fitsColumn width [] = true := by
  simp [fitsColumn, encodable]

@[simp]
theorem valueFits_str (runtime : PyRuntime) (width : Nat) (text : PyStr) :
    valueFits runtime width (.str text) ↔ fitsColumn width text = true := by
  cases text with
  | nil => simp [valueFits, PyValue.truthy]
  | cons point rest => simp [valueFits, PyValue.truthy, PyValue.text]

theorem resultFits_iff (runtime : PyRuntime) (result : TransferResult) :
    resultFits runtime result = true ↔
      valueFits runtime 100 result.rtgsReference ∧
        valueFits runtime 255 result.failureReason := by
  have written : ∀ (width : Nat) (value : PyValue),
      (writtenText runtime value).all (fitsColumn width) = true ↔
        valueFits runtime width value := by
    intro width value
    simp only [writtenText, valueFits]
    cases value.truthy with
    | false => simp
    | true => simp
  rw [resultFits, Bool.and_eq_true, written, written]

@[simp]
theorem resultFits_notSettled
    (runtime : PyRuntime) (transfer : TransferRequest) (status : TransferStatus)
    (reason : PyValue) :
    resultFits runtime (notSettled transfer status reason) = true ↔
      valueFits runtime 255 reason := by
  simp [resultFits_iff, notSettled]

/-- The gateway returns a result and its texts fit. -/
def ResultFits (runtime : PyRuntime) (result : Option TransferResult) : Prop :=
  ∃ returned, result = some returned ∧ resultFits runtime returned = true

@[simp]
theorem resultFits_some (runtime : PyRuntime) (result : TransferResult) :
    ResultFits runtime (some result) ↔ resultFits runtime result = true := by
  simp [ResultFits]

@[simp]
theorem resultFits_none (runtime : PyRuntime) :
    ¬ ResultFits runtime none := by
  simp [ResultFits]

/-! ## The common base -/

/-- An answer with an error status: its body is a JSON object whose reason
fits, or no JSON at all. -/
def ErrorRecordable (runtime : PyRuntime) (response : HttpResponse) : Prop :=
  match response.json with
  | .decoded (.dict items) =>
      valueFits runtime 255
        (objectReason [py "failure_reason", py "detail"] 100 response items)
  | .decoded _ => False
  | .valueError _ => fitsColumn 255 (bodyReason 100 response) = true
  | .crashed => False

/-- An answer to one of the gateways with the common base. -/
def HttpRecordable
    (runtime : PyRuntime) (timeoutSeconds : Nat)
    (parsed : HttpResponse → Prop) : HttpOutcome → Prop
  | .timeout => fitsColumn 255 (timeoutReason timeoutSeconds) = true
  | .requestException message => fitsColumn 255 (networkReason message) = true
  | .response response =>
      (400 ≤ response.statusCode → ErrorRecordable runtime response) ∧
        (response.statusCode < 400 → parsed response)

/-- A parsed answer whose texts fit. -/
def ParsedFits (runtime : PyRuntime) : Parsed → Prop
  | .result result => resultFits runtime result = true
  | .valueError message => fitsColumn 255 (invalidReason message) = true
  | .raised => False

theorem settleOne_recordable
    (runtime : PyRuntime) (gateway : HttpGateway) (timeoutSeconds : Nat)
    (transfer : TransferRequest) (outcome : HttpOutcome) :
    ResultFits runtime (gateway.settleOne timeoutSeconds transfer outcome) ↔
      match gateway.validateTransfer transfer with
      | some error => fitsColumn 255 error = true
      | none =>
          HttpRecordable runtime timeoutSeconds
            (fun response => ParsedFits runtime (gateway.parse transfer response))
            outcome := by
  simp only [HttpGateway.settleOne]
  cases gateway.validateTransfer transfer with
  | some error => simp
  | none =>
      cases outcome with
      | timeout => simp [HttpRecordable]
      | requestException message => simp [HttpRecordable]
      | response response =>
          by_cases failing : 400 ≤ response.statusCode
          · have notBelow : ¬ response.statusCode < 400 := Nat.not_lt_of_le failing
            simp only [failing, if_true, HttpRecordable, notBelow, false_implies,
              and_true, true_implies, ErrorRecordable, errorReason]
            cases response.json with
            | decoded value => cases value <;> simp
            | valueError message => simp
            | crashed => simp
          · have below : response.statusCode < 400 := Nat.lt_of_not_le failing
            simp only [failing, if_false, HttpRecordable, below, false_implies,
              true_and, true_implies]
            cases gateway.parse transfer response with
            | result result => simp [ParsedFits]
            | valueError message => simp [ParsedFits]
            | raised => simp [ParsedFits]

/-- An answer of SORBNET3 or CHAPS below status 400: a JSON object whose two
texts fit, or no JSON at all. -/
def MockRecordable (runtime : PyRuntime) (response : HttpResponse) : Prop :=
  match response.json with
  | .decoded (.dict items) =>
      valueFits runtime 100 (PyValue.getD items (py "rtgs_reference") (.str [])) ∧
        valueFits runtime 255 (PyValue.getD items (py "failure_reason") (.str []))
  | .decoded _ => False
  | .valueError message => fitsColumn 255 (invalidReason message) = true
  | .crashed => False

theorem parseMock_recordable
    (runtime : PyRuntime) (transfer : TransferRequest) (response : HttpResponse) :
    ParsedFits runtime (parseMock transfer response) ↔
      MockRecordable runtime response := by
  simp only [parseMock, MockRecordable]
  cases response.json with
  | decoded value => cases value <;> simp [ParsedFits, resultFits_iff, mockResult]
  | valueError message => simp [ParsedFits]
  | crashed => simp [ParsedFits]

/-! ## TARGET2 -/

/-- An answer of TARGET2 below status 400: a pain.002 whose status, or whose
reference when it is settled, fits, or no XML at all. -/
def Target2Recordable (runtime : PyRuntime) (response : HttpResponse) : Prop :=
  match response.xml with
  | .parsed txSts orgnlEndToEndId =>
      (runtime.upper (txSts.getD []) ∈ settledTxSts →
        fitsColumn 100 (orgnlEndToEndId.getD []) = true) ∧
      (runtime.upper (txSts.getD []) ∉ settledTxSts →
        fitsColumn 255 (runtime.upper (txSts.getD [])) = true)
  | .parseError message => fitsColumn 255 (invalidReason (xmlReason message)) = true
  | .valueError message => fitsColumn 255 (invalidReason message) = true
  | .crashed => False

theorem target2Parse_recordable
    (runtime : PyRuntime) (transfer : TransferRequest) (response : HttpResponse) :
    ParsedFits runtime (target2Parse runtime transfer response) ↔
      Target2Recordable runtime response := by
  simp only [target2Parse, Target2Recordable]
  cases response.xml with
  | parsed txSts orgnlEndToEndId =>
      simp only [ParsedFits, target2Result]
      by_cases settled : runtime.upper (txSts.getD []) ∈ settledTxSts
      · simp [settled, resultFits_iff]
      · by_cases empty : runtime.upper (txSts.getD []) = []
        · have constant : fitsColumn 255 (py "TARGET: nieznany status") = true := by
            decide +kernel
          rw [empty] at settled
          simp [empty, settled, constant]
        · simp [settled, empty]
  | parseError message => simp [ParsedFits]
  | valueError message => simp [ParsedFits]
  | crashed => simp [ParsedFits]

/-- Which fields are missing depends on which values are empty only. -/
theorem missingFields_eq (fields : List (PyStr × PyStr)) :
    missingFields fields =
      ((fields.map fun field => (field.1, decide (field.2 = []))).filter
        Prod.snd).map Prod.fst := by
  rw [missingFields, List.filter_map, List.map_map]
  rfl

/-- The reason of missing identifiers always fits. -/
theorem target2Validate_fits
    {transfer : TransferRequest} {error : PyStr}
    (refused : target2Validate transfer = some error) :
    fitsColumn 255 error = true := by
  unfold target2Validate at refused
  simp only at refused
  split at refused
  · cases refused
  · cases refused
    rw [missingFields_eq]
    simp only [List.map_cons, List.map_nil]
    generalize decide (transfer.fromBic = []) = first
    generalize decide (transfer.toBic = []) = second
    generalize decide (transfer.fromIban = []) = third
    generalize decide (transfer.toIban = []) = fourth
    revert first second third fourth
    decide +kernel

/-! ## FedNow -/

/-- An answer of FedNow with an error status. -/
def CollectErrorRecordable
    (runtime : PyRuntime) (response : HttpResponse) : Prop :=
  match response.json with
  | .decoded (.dict items) =>
      fitsColumn 255
        ((objectReason [py "detail"] 200 response items).text runtime) = true
  | .decoded _ => False
  | .valueError _ => fitsColumn 255 (bodyReason 200 response) = true
  | .crashed => False

/-- A status which says `received`, or which fits the column. -/
def StatusRecordable (runtime : PyRuntime) (status : PyStr) : Prop :=
  containsReceived (runtime.lower status) = true ∨
    fitsColumn 255 (unexpectedReason status) = true

/-- An answer of FedNow below status 400: a JSON object whose status is a
recordable text, or no JSON at all. -/
def CollectRecordable (runtime : PyRuntime) (response : HttpResponse) : Prop :=
  match response.json with
  | .decoded (.dict items) =>
      match PyValue.getD items (py "status") (.str (py "received")) with
      | .str status => StatusRecordable runtime status
      | _ => False
  | .decoded _ => False
  | .valueError _ => StatusRecordable runtime (py "received")
  | .crashed => False

/-- An answer to the FedNow gateway.  Without any identifier of the two banks
the reason of the refusal itself is too long. -/
def FednowRecordable
    (runtime : PyRuntime) (timeoutSeconds : Nat)
    (transfer : TransferRequest) (outcome : HttpOutcome) : Prop :=
  if missingFields (fednowFields transfer) ≠ [] then
    ¬ (transfer.fromBic = [] ∧ transfer.toBic = [] ∧
      transfer.fromIban = [] ∧ transfer.toIban = [])
  else if abaMatches runtime transfer.fromBic = false then
    fitsColumn 255 (abaReason runtime (py "from_bic") transfer.fromBic) = true
  else if abaMatches runtime transfer.toBic = false then
    fitsColumn 255 (abaReason runtime (py "to_bic") transfer.toBic) = true
  else
    match outcome with
    | .timeout => fitsColumn 255 (collectTimeoutReason timeoutSeconds) = true
    | .requestException message => fitsColumn 255 (networkReason message) = true
    | .response response =>
        (400 ≤ response.statusCode → CollectErrorRecordable runtime response) ∧
          (response.statusCode < 400 → CollectRecordable runtime response)

theorem fednowMissingReason_fits_iff (transfer : TransferRequest) :
    fitsColumn 255
        (fednowMissingReason (missingFields (fednowFields transfer))) = true ↔
      ¬ (transfer.fromBic = [] ∧ transfer.toBic = [] ∧
        transfer.fromIban = [] ∧ transfer.toIban = []) := by
  rw [missingFields_eq, fednowFields, ← decide_eq_true_iff (p := transfer.fromBic = []),
    ← decide_eq_true_iff (p := transfer.toBic = []),
    ← decide_eq_true_iff (p := transfer.fromIban = []),
    ← decide_eq_true_iff (p := transfer.toIban = [])]
  simp only [List.map_cons, List.map_nil]
  generalize decide (transfer.fromBic = []) = first
  generalize decide (transfer.toBic = []) = second
  generalize decide (transfer.fromIban = []) = third
  generalize decide (transfer.toIban = []) = fourth
  revert first second third fourth
  decide +kernel

theorem fednowReference_fits (transfer : TransferRequest) :
    fitsColumn 100 (fednowReference transfer) = true := by
  have prefixClean : encodable (py "FEDNOW-") = true := by decide
  apply fitsColumn_of_length_le
  · have prefixLength : (py "FEDNOW-").length = 7 := by decide
    have digits :
        (asciiUpper ((hexDigits 32 transfer.transferId).take 16)).length ≤ 16 := by
      simp [asciiUpper]
    rw [fednowReference, List.length_append, prefixLength]
    omega
  · rw [fednowReference, encodable_append, prefixClean,
      encodable_asciiUpper_hexDigits, Bool.and_self]

theorem fednowResult_recordable
    (runtime : PyRuntime) (transfer : TransferRequest) (status : PyStr) :
    resultFits runtime (fednowResult runtime transfer status) = true ↔
      StatusRecordable runtime status := by
  simp only [fednowResult, StatusRecordable]
  by_cases received : containsReceived (runtime.lower status) = true
  · simp [received, resultFits_iff, fednowReference_fits]
  · simp [received]

theorem fednowParse_recordable
    (runtime : PyRuntime) (transfer : TransferRequest) (response : HttpResponse) :
    ResultFits runtime (fednowParse runtime transfer response) ↔
      (400 ≤ response.statusCode → CollectErrorRecordable runtime response) ∧
        (response.statusCode < 400 → CollectRecordable runtime response) := by
  simp only [fednowParse]
  by_cases failing : 400 ≤ response.statusCode
  · have notBelow : ¬ response.statusCode < 400 := Nat.not_lt_of_le failing
    simp only [failing, if_true, notBelow, false_implies, and_true, true_implies,
      CollectErrorRecordable, errorReason]
    cases response.json with
    | decoded value => cases value <;> simp
    | valueError message => simp [PyValue.text]
    | crashed => simp
  · have below : response.statusCode < 400 := Nat.lt_of_not_le failing
    simp only [failing, if_false, below, false_implies, true_and, true_implies,
      CollectRecordable]
    cases response.json with
    | decoded value =>
        cases value with
        | dict items =>
            simp only
            cases PyValue.getD items (py "status") (.str (py "received")) with
            | str status => simp [fednowResult_recordable]
            | _ => simp
        | _ => simp
    | valueError message => simp [fednowResult_recordable]
    | crashed => simp

theorem fednowSettleOne_recordable
    (runtime : PyRuntime) (timeoutSeconds : Nat)
    (transfer : TransferRequest) (outcome : HttpOutcome) :
    ResultFits runtime (fednowSettleOne runtime timeoutSeconds transfer outcome) ↔
      FednowRecordable runtime timeoutSeconds transfer outcome := by
  simp only [fednowSettleOne, fednowValidate, FednowRecordable]
  by_cases missing : missingFields (fednowFields transfer) ≠ []
  · simp only [missing, if_true, resultFits_some, resultFits_notSettled,
      valueFits_str, not_false_eq_true, ne_eq]
    exact fednowMissingReason_fits_iff transfer
  · simp only [missing, if_false]
    by_cases payer : abaMatches runtime transfer.fromBic = false
    · simp [payer]
    · simp only [payer]
      by_cases payee : abaMatches runtime transfer.toBic = false
      · simp [payee]
      · simp only [payee]
        cases outcome with
        | timeout => simp
        | requestException message => simp
        | response response =>
            exact fednowParse_recordable runtime transfer response

/-! ## All gateways -/

/-- Answers to a transfer which the gateway of the zone turns into a result
whose texts fit. -/
def AnswerRecordable
    (runtime : PyRuntime) (settings : RtgsSettings) (zone : Zone)
    (transfer : TransferRequest) (outcome : HttpOutcome) : Prop :=
  match zone with
  | .PL | .UK =>
      HttpRecordable runtime settings.timeoutSeconds (MockRecordable runtime) outcome
  | .EU =>
      target2Validate transfer = none →
        HttpRecordable runtime settings.timeoutSeconds (Target2Recordable runtime)
          outcome
  | .US => FednowRecordable runtime settings.timeoutSeconds transfer outcome

/-- Exactly the recordable answers give a result which can be saved. -/
theorem settleOne_recordable_iff
    (runtime : PyRuntime) (settings : RtgsSettings) (zone : Zone)
    (transfer : TransferRequest) (outcome : HttpOutcome) :
    ResultFits runtime (settleOne runtime settings zone transfer outcome) ↔
      AnswerRecordable runtime settings zone transfer outcome := by
  have mock : ResultFits runtime
      (mockGateway.settleOne settings.timeoutSeconds transfer outcome) ↔
        HttpRecordable runtime settings.timeoutSeconds (MockRecordable runtime)
          outcome := by
    rw [settleOne_recordable]
    simp only [mockGateway, parseMock_recordable]
  cases zone with
  | PL => exact mock
  | UK => exact mock
  | EU =>
      simp only [settleOne, AnswerRecordable]
      rw [settleOne_recordable]
      simp only [target2Gateway, target2Parse_recordable]
      cases checked : target2Validate transfer with
      | some error => simp [target2Validate_fits checked]
      | none => simp
  | US => exact fednowSettleOne_recordable runtime _ transfer outcome

end Klik.Ledger
