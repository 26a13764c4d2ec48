import Klik.Common.Enums
import Klik.Lib.PyValue
import Mathlib.Data.List.Sort

/-!
# Phone numbers

Numbers in E.164 and the zones of their prefixes.  A pattern which ends in `$`
also takes a text with one line feed after the end.
-/

namespace Klik.Common

open Klik.Lib

/-- What stands before the end at which `$` matches. -/
def beforeEnd (text : PyStr) : PyStr :=
  if text.getLast? = some 10 then text.dropLast else text

/-- Whether the text consists of at least `least` and at most `most` code
points of a kind. -/
def repeats (least most : Nat) (kind : Nat → Bool) (text : PyStr) : Bool :=
  least ≤ text.length && text.length ≤ most && text.all kind

/-- `E164_REGEX`. -/
def isE164 (runtime : PyRuntime) : PyStr → Bool
  | plus :: first :: rest =>
      plus == 43 && 49 ≤ first && first ≤ 57 &&
        repeats 7 14 runtime.isDigit (beforeEnd rest)
  | _ => false

/-- `PHONE_PREFIX_TO_ZONE`. -/
def phonePrefixToZone : List (PyStr × Zone) :=
  [(py "+48", .PL), (py "+44", .UK), (py "+1", .US), (py "+49", .EU), (py "+33", .EU),
    (py "+39", .EU), (py "+34", .EU), (py "+31", .EU), (py "+32", .EU), (py "+351", .EU),
    (py "+353", .EU), (py "+43", .EU), (py "+358", .EU), (py "+30", .EU)]

/-- Why a number is refused. -/
inductive PhoneError where
  | format (phone : PyStr)
  | unknownPrefix (phone : PyStr)
  | otherZone (phone : PyStr) (expected zone : Zone)
deriving DecidableEq, Repr

/-- `validate_e164`. -/
def validateE164 (runtime : PyRuntime) (phone : PyStr) : Except PhoneError Unit :=
  if isE164 runtime phone = false then .error (.format phone) else .ok ()

/-- `resolve_zone_from_phone`: the longest prefix decides. -/
def resolveZoneFromPhone (phone : PyStr) : Option Zone :=
  let longestFirst :=
    phonePrefixToZone.insertionSort fun left right => right.1.length ≤ left.1.length
  (longestFirst.find? fun item => item.1.isPrefixOf phone).map Prod.snd

/-- `validate_phone_matches_zone`. -/
def validatePhoneMatchesZone (runtime : PyRuntime) (phone : PyStr) (zone : Zone) :
    Except PhoneError Unit :=
  match validateE164 runtime phone with
  | .error error => .error error
  | .ok () =>
      match resolveZoneFromPhone phone with
      | none => .error (.unknownPrefix phone)
      | some expected =>
          if expected ≠ zone then .error (.otherZone phone expected zone) else .ok ()

/-- A number which passes has the zone of its prefix. -/
theorem resolveZone_of_matches
    {runtime : PyRuntime} {phone : PyStr} {zone : Zone}
    (checked : validatePhoneMatchesZone runtime phone zone = .ok ()) :
    resolveZoneFromPhone phone = some zone := by
  simp only [validatePhoneMatchesZone] at checked
  split at checked
  · cases checked
  · split at checked
    · cases checked
    · rename_i expected resolved
      split at checked
      · cases checked
      · rename_i same
        rw [resolved, not_not.mp same]

example : resolveZoneFromPhone (py "+351210000000") = some .EU := by decide

end Klik.Common
