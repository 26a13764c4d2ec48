import Klik.Ledger.Rtgs.Gateway

/-!
# The RTGS gateways

How each gateway turns the answer to one transfer into a result.  A gateway
looks at an answer only through its status code, its text, and what the JSON
and XML decoders make of it, so an answer is modelled by these four.  A call
which ends with an exception that no handler catches has no result.
-/

namespace Klik.Ledger.Rtgs

open Klik.Common
open Klik.Lib

/-! ## Answers -/

/-- What `response.json()` does. -/
inductive JsonOutcome where
  | decoded (value : PyValue)
  /-- A `ValueError`, with its text. -/
  | valueError (message : PyStr)
  /-- Any other exception, such as a `RecursionError`. -/
  | crashed

/-- What parsing the text as XML does. -/
inductive XmlOutcome where
  /-- The texts found for `.//TxSts` and `.//OrgnlEndToEndId`. -/
  | parsed (txSts orgnlEndToEndId : Option PyStr)
  /-- A `ParseError`, with its text. -/
  | parseError (message : PyStr)
  /-- A `ValueError`, with its text. -/
  | valueError (message : PyStr)
  | crashed

/-- An HTTP response. -/
structure HttpResponse where
  statusCode : Nat
  text : PyStr
  json : JsonOutcome
  xml : XmlOutcome

/-- How one HTTP request ends. -/
inductive HttpOutcome where
  | timeout
  /-- Any other `RequestException`, with its text. -/
  | requestException (message : PyStr)
  | response (response : HttpResponse)

/-- `healthcheck`. -/
def healthcheck : HttpOutcome → Bool
  | .response response => response.statusCode = 200
  | .timeout | .requestException _ => false

/-- What decoding and parsing an answer below status 400 does. -/
inductive Parsed where
  | result (result : TransferResult)
  /-- A `ValueError` or a `KeyError`, with its text. -/
  | valueError (message : PyStr)
  | raised

/-- A result which did not succeed. -/
def notSettled
    (transfer : TransferRequest) (status : TransferStatus) (reason : PyValue) :
    TransferResult where
  transferId := transfer.transferId
  status := status
  rtgsReference := .str []
  failureReason := reason

/-- Reason of a `RequestException`. -/
def networkReason (message : PyStr) : PyStr :=
  py "Network error: " ++ message

/-- The start of the body, or the status when the body is empty. -/
def bodyReason (width : Nat) (response : HttpResponse) : PyStr :=
  if response.text.take width = [] then
    py "HTTP " ++ decimalDigits response.statusCode
  else response.text.take width

/-- Reason of an answer with an error status which is a JSON object. -/
def objectReason
    (keys : List PyStr) (width : Nat) (response : HttpResponse)
    (items : List (PyStr × PyValue)) : PyValue :=
  keys.foldr (fun key rest => (PyValue.getD items key .none).orElse rest)
    (.str (response.text.take width))

/-- Reason of an answer with an error status.  The body is asked for `keys`
without looking whether it is an object. -/
def errorReason
    (keys : List PyStr) (width : Nat) (response : HttpResponse) : Option PyValue :=
  match response.json with
  | .decoded (.dict items) => some (objectReason keys width response items)
  | .decoded _ => none
  | .valueError _ => some (.str (bodyReason width response))
  | .crashed => none

/-! ## The common base -/

/-- What a subclass of `HTTPRTGSGateway` overrides. -/
structure HttpGateway where
  validateTransfer : TransferRequest → Option PyStr
  parse : TransferRequest → HttpResponse → Parsed

/-- Reason of a timeout. -/
def timeoutReason (timeoutSeconds : Nat) : PyStr :=
  py "Timeout " ++ decimalDigits timeoutSeconds ++ py "s"

/-- Reason of an answer which cannot be parsed. -/
def invalidReason (message : PyStr) : PyStr :=
  py "Invalid response: " ++ message

/-- `HTTPRTGSGateway._settle_one`; none when an exception leaves it. -/
def HttpGateway.settleOne
    (gateway : HttpGateway) (timeoutSeconds : Nat)
    (transfer : TransferRequest) (outcome : HttpOutcome) : Option TransferResult :=
  match gateway.validateTransfer transfer with
  | some error => some (notSettled transfer .failed (.str error))
  | none =>
      match outcome with
      | .timeout =>
          some (notSettled transfer .timeout (.str (timeoutReason timeoutSeconds)))
      | .requestException message =>
          some (notSettled transfer .timeout (.str (networkReason message)))
      | .response response =>
          if 400 ≤ response.statusCode then
            (errorReason [py "failure_reason", py "detail"] 100 response).map
              (notSettled transfer .failed)
          else
            match gateway.parse transfer response with
            | .result result => some result
            | .valueError message =>
                some (notSettled transfer .failed (.str (invalidReason message)))
            | .raised => none

/-- `TransferStatus(value)`, or `FAILED` for an unknown value. -/
def transferStatusOf : PyValue → TransferStatus
  | .str text =>
      if text = py "SUCCESS" then .success
      else if text = py "TIMEOUT" then .timeout
      else .failed
  | _ => .failed

/-- The result which the default `parse_response` reads from an object. -/
def mockResult
    (transfer : TransferRequest) (items : List (PyStr × PyValue)) :
    TransferResult where
  transferId := transfer.transferId
  status := transferStatusOf (PyValue.getD items (py "status") (.str (py "FAILED")))
  rtgsReference := PyValue.getD items (py "rtgs_reference") (.str [])
  failureReason := PyValue.getD items (py "failure_reason") (.str [])

/-- The default `parse_response` on the decoded body. -/
def parseMock (transfer : TransferRequest) (response : HttpResponse) : Parsed :=
  match response.json with
  | .decoded (.dict items) => .result (mockResult transfer items)
  | .decoded _ => .raised
  | .valueError message => .valueError message
  | .crashed => .raised

/-- `SORBNET3Gateway` and `CHAPSGateway` override nothing of this. -/
def mockGateway : HttpGateway where
  validateTransfer _ := none
  parse := parseMock

/-! ## TARGET2 -/

/-- Names of the fields which are empty, in the order of the list. -/
def missingFields (fields : List (PyStr × PyStr)) : List PyStr :=
  (fields.filter fun field => field.2 = []).map Prod.fst

/-- `", ".join(names)`. -/
def joinNames (names : List PyStr) : PyStr :=
  (names.intersperse (py ", ")).flatten

/-- `TARGET2Gateway._validate_transfer`. -/
def target2Validate (transfer : TransferRequest) : Option PyStr :=
  let missing := missingFields
    [(py "from_bic", transfer.fromBic), (py "to_bic", transfer.toBic),
      (py "from_iban", transfer.fromIban), (py "to_iban", transfer.toIban)]
  if missing = [] then none
  else
    some (py "Brak danych TARGET (uzupełnij bic/settlement_iban banku): "
      ++ joinNames missing)

/-- `_SETTLED_TX_STS`. -/
def settledTxSts : List PyStr := [py "ACSC", py "ACCC"]

/-- Text of the `ValueError` which replaces a `ParseError`. -/
def xmlReason (message : PyStr) : PyStr :=
  py "Niepoprawny XML od TARGET: " ++ message

/-- `TARGET2Gateway.parse_response` on the parsed pain.002. -/
def target2Result
    (runtime : PyRuntime) (transfer : TransferRequest)
    (txSts orgnlEndToEndId : Option PyStr) : TransferResult :=
  let status := runtime.upper (txSts.getD [])
  if status ∈ settledTxSts then
    { transferId := transfer.transferId
      status := .success
      rtgsReference := .str (orgnlEndToEndId.getD [])
      failureReason := .str [] }
  else
    notSettled transfer .failed
      (.str (if status = [] then py "TARGET: nieznany status" else status))

/-- `_decode_response` and `parse_response` of `TARGET2Gateway`. -/
def target2Parse
    (runtime : PyRuntime) (transfer : TransferRequest) (response : HttpResponse) :
    Parsed :=
  match response.xml with
  | .parsed txSts orgnlEndToEndId =>
      .result (target2Result runtime transfer txSts orgnlEndToEndId)
  | .parseError message => .valueError (xmlReason message)
  | .valueError message => .valueError message
  | .crashed => .raised

/-- `TARGET2Gateway`. -/
def target2Gateway (runtime : PyRuntime) : HttpGateway where
  validateTransfer := target2Validate
  parse := target2Parse runtime

/-! ## FedNow -/

/-- `_ABA_RTN_RE.match`: nine digits, before an optional final newline. -/
def abaMatches (runtime : PyRuntime) (text : PyStr) : Bool :=
  (text.take 9).all runtime.isDigit && 9 ≤ text.length &&
    (text.drop 9 = [] || text.drop 9 = [10])

/-- Reason of a routing number in the wrong format. -/
def abaReason (runtime : PyRuntime) (field rtn : PyStr) : PyStr :=
  py "Niepoprawny ABA routing number w " ++ field ++ py ": "
    ++ runtime.repr rtn ++ py ". Wymagane dokładnie 9 cyfr."

/-- The identifiers of a transfer with the names FedNow reports. -/
def fednowFields (transfer : TransferRequest) : List (PyStr × PyStr) :=
  [(py "from_bic (fednow_routing_number nadawcy)", transfer.fromBic),
    (py "to_bic (fednow_routing_number odbiorcy)", transfer.toBic),
    (py "from_iban (fednow_account_number nadawcy)", transfer.fromIban),
    (py "to_iban (fednow_account_number odbiorcy)", transfer.toIban)]

/-- Reason of missing identifiers. -/
def fednowMissingReason (missing : List PyStr) : PyStr :=
  py "Brak danych FedNow (uzupełnij fednow_routing_number / fednow_account_number "
    ++ py "w konfiguracji banku US): " ++ joinNames missing

/-- `FedNowGateway._validate_transfer`. -/
def fednowValidate (runtime : PyRuntime) (transfer : TransferRequest) :
    Option PyStr :=
  if missingFields (fednowFields transfer) ≠ [] then
    some (fednowMissingReason (missingFields (fednowFields transfer)))
  else if abaMatches runtime transfer.fromBic = false then
    some (abaReason runtime (py "from_bic") transfer.fromBic)
  else if abaMatches runtime transfer.toBic = false then
    some (abaReason runtime (py "to_bic") transfer.toBic)
  else none

/-- `'received' in text`. -/
def containsReceived (text : PyStr) : Bool :=
  text.tails.any fun rest => (py "received").isPrefixOf rest

/-- The reference of an accepted transfer. -/
def fednowReference (transfer : TransferRequest) : PyStr :=
  py "FEDNOW-" ++ asciiUpper ((hexDigits 32 transfer.transferId).take 16)

/-- Reason of an unexpected status. -/
def unexpectedReason (status : PyStr) : PyStr :=
  py "FedNow nieoczekiwany status: " ++ status

/-- The end of `_parse_collect_response`, for a status read as text. -/
def fednowResult
    (runtime : PyRuntime) (transfer : TransferRequest) (status : PyStr) :
    TransferResult :=
  if containsReceived (runtime.lower status) then
    { transferId := transfer.transferId
      status := .success
      rtgsReference := .str (fednowReference transfer)
      failureReason := .str [] }
  else notSettled transfer .failed (.str (unexpectedReason status))

/-- `FedNowGateway._parse_collect_response`.  The status is used as a text
without looking whether it is one. -/
def fednowParse
    (runtime : PyRuntime) (transfer : TransferRequest) (response : HttpResponse) :
    Option TransferResult :=
  if 400 ≤ response.statusCode then
    (errorReason [py "detail"] 200 response).map fun reason =>
      notSettled transfer .failed (.str (reason.text runtime))
  else
    match response.json with
    | .decoded (.dict items) =>
        match PyValue.getD items (py "status") (.str (py "received")) with
        | .str status => some (fednowResult runtime transfer status)
        | _ => none
    | .decoded _ => none
    | .valueError _ => some (fednowResult runtime transfer (py "received"))
    | .crashed => none

/-- Reason of a timeout of `/collect`. -/
def collectTimeoutReason (timeoutSeconds : Nat) : PyStr :=
  timeoutReason timeoutSeconds ++ py " do FedNow /collect"

/-- `FedNowGateway._settle_one`. -/
def fednowSettleOne
    (runtime : PyRuntime) (timeoutSeconds : Nat)
    (transfer : TransferRequest) (outcome : HttpOutcome) : Option TransferResult :=
  match fednowValidate runtime transfer with
  | some error => some (notSettled transfer .failed (.str error))
  | none =>
      match outcome with
      | .timeout =>
          some (notSettled transfer .timeout
            (.str (collectTimeoutReason timeoutSeconds)))
      | .requestException message =>
          some (notSettled transfer .timeout (.str (networkReason message)))
      | .response response => fednowParse runtime transfer response

/-! ## The dispatcher -/

/-- What the four systems answer: to the health check of a zone, and to each
transfer. -/
structure RtgsBehaviour where
  health : Zone → HttpOutcome
  answer : TransferRequest → HttpOutcome

/-- The settings which `from_settings` reads. -/
structure RtgsSettings where
  timeoutSeconds : Nat
  baseUrl : Zone → PyStr

/-- `HEALTH_PATH` of the gateway of a zone. -/
def healthPath : Zone → PyStr
  | .PL => py "/healthz"
  | .EU => py "/banks"
  | .UK => py "/healthz"
  | .US => py "/health"

/-- `system_name` of the gateway of a zone. -/
def systemName : Zone → PyStr
  | .PL => py "SORBNET3"
  | .EU => py "TARGET2"
  | .UK => py "CHAPS"
  | .US => py "FedNow"

/-- `_settle_one` of the gateway of a zone. -/
def settleOne
    (runtime : PyRuntime) (settings : RtgsSettings) :
    Zone → TransferRequest → HttpOutcome → Option TransferResult
  | .PL => mockGateway.settleOne settings.timeoutSeconds
  | .EU => (target2Gateway runtime).settleOne settings.timeoutSeconds
  | .UK => mockGateway.settleOne settings.timeoutSeconds
  | .US => fednowSettleOne runtime settings.timeoutSeconds

/-- `settle` of a gateway: one transfer after the other, where an exception
ends the loop. -/
def settleAll
    (settle : TransferRequest → Option TransferResult) :
    List TransferRequest → Option (List TransferResult)
  | [] => some []
  | transfer :: rest =>
      match settle transfer with
      | none => none
      | some result => (settleAll settle rest).map (result :: ·)

/-- `RTGSDispatcher.dispatch`. -/
def dispatchRtgs
    (runtime : PyRuntime) (settings : RtgsSettings) (behaviour : RtgsBehaviour)
    (zone : Zone) (_sessionId : Uuid) (transfers : List TransferRequest) :
    DispatchOutcome :=
  if transfers.isEmpty then .returned []
  else if healthcheck (behaviour.health zone) = false then
    .unavailable (systemName zone)
      (py "healthcheck failed na " ++ settings.baseUrl zone ++ healthPath zone)
  else
    match settleAll
        (fun transfer =>
          settleOne runtime settings zone transfer (behaviour.answer transfer))
        transfers with
    | some results => .returned results
    | none => .raised

end Klik.Ledger.Rtgs
