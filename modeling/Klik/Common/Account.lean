import Klik.Common.Phone

/-!
# Account identifiers

The checks of `validate_account_identifier`: an IBAN in the zones of Europe, a
routing number and an account number in the United States.
-/

namespace Klik.Common

open Klik.Lib

/-- `ZONE_TO_ACCOUNT_TYPE`. -/
def zoneToAccountType : Zone → PyStr
  | .PL | .EU | .UK => py "iban"
  | .US => py "us_routing"

/-- `ZONE_TO_IBAN_PREFIX`. -/
def zoneToIbanPrefix : Zone → Option PyStr
  | .PL => some (py "PL")
  | .UK => some (py "GB")
  | .EU | .US => none

/-- Why an account identifier is refused. -/
inductive AccountError where
  | notAnObject
  | typeMissing
  | otherType (zone : Zone) (expected : PyStr)
  | ibanMissing
  | ibanNotText
  | ibanFormat (value : PyStr)
  | ibanPrefix (zone : Zone) (expected found : PyStr)
  | routingMissing
  | accountMissing
  | routingFormat
  | accountFormat
deriving DecidableEq, Repr

/-- Whether a code point is a capital ASCII letter. -/
def isCapital (point : Nat) : Bool :=
  65 ≤ point && point ≤ 90

/-- `IBAN_REGEX`. -/
def isIban (runtime : PyRuntime) : PyStr → Bool
  | first :: second :: third :: fourth :: rest =>
      isCapital first && isCapital second && runtime.isDigit third &&
        runtime.isDigit fourth &&
        repeats 11 30 (fun point => isCapital point || (48 ≤ point && point ≤ 57))
          (beforeEnd rest)
  | _ => false

/-- `_validate_iban`. -/
def validateIban (runtime : PyRuntime) (items : List (PyStr × PyValue)) (zone : Zone) :
    Except AccountError Unit :=
  let value := PyValue.getD items (py "value") .none
  if value.truthy = false then .error .ibanMissing
  else
    match value with
    | .str text =>
        let normalized := runtime.upper (text.filter (· ≠ 32))
        if isIban runtime normalized = false then .error (.ibanFormat text)
        else
          match zoneToIbanPrefix zone with
          | none => .ok ()
          | some expected =>
              if expected.isPrefixOf normalized = false then
                .error (.ibanPrefix zone expected (normalized.take 2))
              else .ok ()
    | _ => .error .ibanNotText

/-- Whether a value is a text of `least` to `most` digits. -/
def isDigits (runtime : PyRuntime) (least most : Nat) : PyValue → Bool
  | .str text => repeats least most runtime.isDigit (beforeEnd text)
  | _ => false

/-- `_validate_us_routing`. -/
def validateUsRouting (runtime : PyRuntime) (items : List (PyStr × PyValue)) :
    Except AccountError Unit :=
  let routing := PyValue.getD items (py "routing_number") .none
  let account := PyValue.getD items (py "account_number") .none
  if routing.truthy = false then .error .routingMissing
  else if account.truthy = false then .error .accountMissing
  else if isDigits runtime 9 9 routing = false then .error .routingFormat
  else if isDigits runtime 4 17 account = false then .error .accountFormat
  else .ok ()

/-- Whether a value is the given text. -/
def isText (text : PyStr) : PyValue → Bool
  | .str other => other == text
  | _ => false

/-- `validate_account_identifier`. -/
def validateAccountIdentifier (runtime : PyRuntime) (identifier : PyValue) (zone : Zone) :
    Except AccountError Unit :=
  match identifier with
  | .dict items =>
      let accountType := PyValue.getD items (py "type") .none
      let expected := zoneToAccountType zone
      if accountType.truthy = false then .error .typeMissing
      else if isText expected accountType = false then .error (.otherType zone expected)
      else
        match zone with
        | .PL | .EU | .UK => validateIban runtime items zone
        | .US => validateUsRouting runtime items
  | _ => .error .notAnObject

end Klik.Common
