import Klik.Ledger.Recording
import Klik.Ledger.Rtgs.Gateway

/-!
# Messages to an RTGS system

TARGET2 and FedNow take a transfer as a document in XML, which is sent as
UTF-8.  Only the names of banks are escaped; the identifiers of a request are
written into the document as they are.
-/

namespace Klik.Ledger.Rtgs

open Klik.Common
open Klik.Lib

/-! ## Parts of a document -/

/-- `<name>text</name>`. -/
def element (name : String) (text : PyStr) : PyStr :=
  py "<" ++ py name ++ py ">" ++ text ++ py "</" ++ py name ++ py ">"

/-- `f'{amount:.2f}'`. -/
def twoDecimals (amount : Decimal) : PyStr :=
  let cents := (quantizeCents amount * 100).num
  (if cents < 0 then py "-" else []) ++ decimalDigits (cents.natAbs / 100) ++ py "."
    ++ zeroPadded 2 (cents.natAbs % 100)

/-- `text.replace(point, new)` for one code point. -/
def replacePoint (point : Nat) (new : PyStr) (text : PyStr) : PyStr :=
  text.flatMap fun old => if old = point then new else [old]

/-- `_xml_escape`. -/
def xmlEscape (text : PyStr) : PyStr :=
  replacePoint 39 (py "&apos;")
    (replacePoint 34 (py "&quot;")
      (replacePoint 62 (py "&gt;")
        (replacePoint 60 (py "&lt;")
          (replacePoint 38 (py "&amp;") text))))

/-- `text.encode('utf-8')` does not raise: there are no surrogates. -/
def encodes (text : PyStr) : Bool :=
  text.all fun point => point < 0xD800 || 0xDFFF < point

/-! ## TARGET2 -/

/-- The parts of the message which `build_xml` joins. -/
def xmlParts (sessionId : Uuid) (transfer : TransferRequest) : List PyStr :=
  [py "<Document><CstmrCdtTrfInitn><PmtId>",
    element "EndToEndId" (hexDigits 32 transfer.transferId),
    py "</PmtId><Amt><InstdAmt Ccy=\"", py transfer.currency.value, py "\">",
    twoDecimals transfer.amount, py "</InstdAmt></Amt><DbtrAcct><Id>",
    element "IBAN" transfer.fromIban, py "</Id></DbtrAcct><CdtrAcct><Id>",
    element "IBAN" transfer.toIban, py "</Id></CdtrAcct><DbtrAgt><FinInstnId>",
    element "BIC" transfer.fromBic, py "</FinInstnId></DbtrAgt><CdtrAgt><FinInstnId>",
    element "BIC" transfer.toBic, py "</FinInstnId></CdtrAgt><RmtInf>",
    element "Ustrd" (py "KLIK netting " ++ uuidText sessionId),
    py "</RmtInf></CstmrCdtTrfInitn></Document>"]

/-- `TARGET2Gateway.build_xml`. -/
def buildXml (sessionId : Uuid) (transfer : TransferRequest) : PyStr :=
  (xmlParts sessionId transfer).flatten

/-! ## FedNow -/

/-- What a message takes from the moment at which it is built: a new UUID, the
day in UTC and the second of the day. -/
structure BuiltAt where
  messageId : Uuid
  day : Date
  second : Nat

/-- `_now_iso`. -/
def nowIso (built : BuiltAt) : PyStr :=
  zeroPadded 4 built.day.year ++ py "-" ++ zeroPadded 2 built.day.month ++ py "-"
    ++ zeroPadded 2 built.day.day ++ py "T" ++ zeroPadded 2 (built.second / 3600) ++ py ":"
    ++ zeroPadded 2 (built.second / 60 % 60) ++ py ":" ++ zeroPadded 2 (built.second % 60)

/-- The agent of a bank in the message. -/
def agentParts (name rtn : PyStr) : List PyStr :=
  [py "        <FinInstnId>\n          <ClrSysMmbId>\n            ", element "nm" name,
    py "\n            ", element "MmbId" rtn,
    py "\n          </ClrSysMmbId>\n        </FinInstnId>\n"]

/-- The account of a bank in the message. -/
def accountParts (account : PyStr) : List PyStr :=
  [py "        <Id>\n          <Othr>\n            ", element "Id" account,
    py "\n            <SchmeNm><Prtry>US_ACCT</Prtry></SchmeNm>\n",
    py "          </Othr>\n        </Id>\n"]

/-- The parts of the message which `_build_pacs008` joins. -/
def pacs008Parts (built : BuiltAt) (sessionId : Uuid) (transfer : TransferRequest) :
    List PyStr :=
  let fromName := xmlEscape transfer.fromBankCode
  let toName := xmlEscape transfer.toBankCode
  [py "<?xml version=\"1.0\" encoding=\"UTF-8\"?>\n",
    py "<Document xmlns=\"urn:iso:std:iso:20022:tech:xsd:pacs.008.001.08\">\n",
    py "  <FIToFICstmrCdtTrf>\n    <GrpHdr>\n      ",
    element "MsgId" (hexDigits 32 built.messageId), py "\n      ",
    element "CreDtTm" (nowIso built), py "\n    </GrpHdr>\n    <CdtTrfTxInf>\n",
    py "      <PmtId>\n        ", element "EndToEndId" (hexDigits 32 transfer.transferId),
    py "\n      </PmtId>\n      <IntrBkSttlmAmt Ccy=\"USD\">", twoDecimals transfer.amount,
    py "</IntrBkSttlmAmt>\n      <DbtrAgt>\n"]
  ++ agentParts fromName transfer.fromBic
  ++ [py "      </DbtrAgt>\n      <Dbtr>\n        ", element "Nm" fromName,
    py "\n      </Dbtr>\n      <DbtrAcct>\n"]
  ++ accountParts transfer.fromIban
  ++ [py "      </DbtrAcct>\n      <CdtrAgt>\n"]
  ++ agentParts toName transfer.toBic
  ++ [py "      </CdtrAgt>\n      <Cdtr>\n        ", element "Nm" toName,
    py "\n      </Cdtr>\n      <CdtrAcct>\n"]
  ++ accountParts transfer.toIban
  ++ [py "      </CdtrAcct>\n      <RmtInf>\n        ",
    element "Ustrd" (py "KLIK netting session " ++ (uuidText sessionId).take 8),
    py "\n      </RmtInf>\n    </CdtTrfTxInf>\n  </FIToFICstmrCdtTrf>\n</Document>"]

/-- `_build_pacs008` before it is encoded. -/
def buildPacs008 (built : BuiltAt) (sessionId : Uuid) (transfer : TransferRequest) : PyStr :=
  (pacs008Parts built sessionId transfer).flatten

/-! ## What a message carries -/

/-- The identifiers stand in the message as they are in the request. -/
theorem buildXml_carries (sessionId : Uuid) (transfer : TransferRequest) :
    (∀ bic ∈ [transfer.fromBic, transfer.toBic],
        element "BIC" bic <:+: buildXml sessionId transfer) ∧
      ∀ iban ∈ [transfer.fromIban, transfer.toIban],
        element "IBAN" iban <:+: buildXml sessionId transfer := by
  constructor <;> intro identifier member <;> apply List.infix_of_mem_flatten <;>
    simp only [List.mem_cons, List.not_mem_nil, or_false] at member <;>
    rcases member with rfl | rfl <;>
    simp only [xmlParts, List.mem_cons, true_or, or_true]

theorem buildPacs008_carries
    (built : BuiltAt) (sessionId : Uuid) (transfer : TransferRequest) :
    (∀ rtn ∈ [transfer.fromBic, transfer.toBic],
        element "MmbId" rtn <:+: buildPacs008 built sessionId transfer) ∧
      ∀ account ∈ [transfer.fromIban, transfer.toIban],
        element "Id" account <:+: buildPacs008 built sessionId transfer := by
  constructor <;> intro identifier member <;> apply List.infix_of_mem_flatten <;>
    simp only [List.mem_cons, List.not_mem_nil, or_false] at member <;>
    rcases member with rfl | rfl <;>
    simp only [pacs008Parts, agentParts, accountParts, List.mem_append, List.mem_cons,
      true_or, or_true]

/-! ## What can be encoded -/

theorem encodes_append (left right : PyStr) :
    encodes (left ++ right) = (encodes left && encodes right) :=
  List.all_append

theorem encodes_flatten (parts : List PyStr) : encodes parts.flatten = parts.all encodes :=
  List.all_flatten

/-- A character is no surrogate. -/
theorem encodes_py (literal : String) : encodes (py literal) = true := by
  rw [encodes, List.all_eq_true]
  intro point member
  rcases List.mem_map.mp member with ⟨character, _, rfl⟩
  rw [Bool.or_eq_true, decide_eq_true_eq, decide_eq_true_eq]
  exact character.valid.imp_right And.left

theorem encodes_of_encodable {text : PyStr} (clean : encodable text = true) :
    encodes text = true := by
  rw [encodes, List.all_eq_true]
  intro point member
  rw [Bool.or_eq_true, decide_eq_true_eq, decide_eq_true_eq]
  exact (encodable_iff.mp clean point member).2

theorem encodes_hexDigits (width number : Nat) : encodes (hexDigits width number) = true := by
  rw [encodes, List.all_eq_true]
  intro point member
  have bounds := hexDigit_bounds member
  rw [Bool.or_eq_true, decide_eq_true_eq]
  exact Or.inl (by omega)

theorem encodes_twoDecimals (amount : Decimal) : encodes (twoDecimals amount) = true := by
  have whole := encodes_of_encodable
    (encodable_decimalDigits ((quantizeCents amount * 100).num.natAbs / 100))
  have cents := encodes_of_encodable
    (encodable_zeroPadded 2 ((quantizeCents amount * 100).num.natAbs % 100))
  simp only [twoDecimals, encodes_append, whole, cents, encodes_py, Bool.and_true]
  split
  · exact encodes_py "-"
  · rfl

theorem encodes_element (name : String) (text : PyStr) :
    encodes (element name text) = encodes text := by
  simp only [element, encodes_append, encodes_py, Bool.and_true, Bool.true_and]

theorem encodes_nowIso (built : BuiltAt) : encodes (nowIso built) = true := by
  simp only [nowIso, encodes_append, encodes_py, Bool.and_true,
    encodes_of_encodable (encodable_zeroPadded _ _)]

theorem encodes_replacePoint
    (point : Nat) (old : encodes [point] = true) (new : String) (text : PyStr) :
    encodes (replacePoint point (py new) text) = encodes text := by
  induction text with
  | nil => rfl
  | cons first rest induction =>
      rw [replacePoint, List.flatMap_cons, encodes_append, ← replacePoint, induction]
      show _ = encodes ([first] ++ rest)
      rw [encodes_append]
      split
      · rename_i same
        rw [same, old, encodes_py]
      · rfl

/-- Escaping a name replaces ASCII only. -/
theorem encodes_xmlEscape (text : PyStr) : encodes (xmlEscape text) = encodes text := by
  rw [xmlEscape, encodes_replacePoint 39 rfl, encodes_replacePoint 34 rfl,
    encodes_replacePoint 62 rfl, encodes_replacePoint 60 rfl, encodes_replacePoint 38 rfl]

theorem encodes_buildXml (sessionId : Uuid) (transfer : TransferRequest) :
    encodes (buildXml sessionId transfer) =
      (encodes transfer.fromIban && encodes transfer.toIban && encodes transfer.fromBic &&
        encodes transfer.toBic) := by
  simp only [buildXml, encodes_flatten, xmlParts, List.all_cons, List.all_nil, encodes_py,
    encodes_element, encodes_append, encodes_hexDigits, encodes_twoDecimals,
    encodes_of_encodable (encodable_uuidText _), Bool.and_true, Bool.true_and, Bool.and_assoc]

theorem encodes_buildPacs008
    (built : BuiltAt) (sessionId : Uuid) (transfer : TransferRequest) :
    encodes (buildPacs008 built sessionId transfer) =
      (encodes transfer.fromBankCode && encodes transfer.toBankCode &&
        encodes transfer.fromBic && encodes transfer.toBic && encodes transfer.fromIban &&
        encodes transfer.toIban) := by
  have start : encodes ((uuidText sessionId).take 8) = true := by
    have whole := encodes_of_encodable (encodable_uuidText sessionId)
    rw [encodes, List.all_eq_true] at whole ⊢
    intro point member
    exact whole point (List.mem_of_mem_take member)
  simp only [buildPacs008, encodes_flatten, pacs008Parts, agentParts, accountParts,
    List.all_append, List.all_cons, List.all_nil, encodes_py, encodes_element, encodes_append,
    encodes_hexDigits, encodes_twoDecimals, encodes_nowIso, encodes_xmlEscape, start,
    Bool.and_true, Bool.true_and]
  cases encodes transfer.fromBankCode <;> cases encodes transfer.toBankCode <;>
    cases encodes transfer.fromBic <;> cases encodes transfer.toBic <;>
    cases encodes transfer.fromIban <;> cases encodes transfer.toIban <;> rfl

end Klik.Ledger.Rtgs
