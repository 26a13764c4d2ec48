import Klik.Banks.Models
import Klik.Common.Account

/-!
# Aliases

The register of telephone numbers: an alias maps a number to an account at a
bank.  `save` validates the row, and its zone is that of the prefix of the
number and that of the bank.
-/

namespace Klik.Aliases

open Klik.Banks
open Klik.Common
open Klik.Lib

/-- An entry of the register. -/
structure Alias where
  id : Uuid
  phone : PyStr
  bank : Bank
  accountIdentifier : PyValue
  zone : Zone

/-- A message of the `ValidationError` of an alias. -/
inductive AliasProblem where
  | phoneBlank
  | phoneTooLong
  | phoneTaken
  | accountNull
  | accountBlank
  | account (error : AccountError)
  | phoneZone (error : PhoneError)
  | bankZone (zone bankZone : Zone)
deriving DecidableEq, Repr

/-- The field under which a message is filed. -/
def AliasProblem.field : AliasProblem → String
  | .phoneBlank | .phoneTooLong | .phoneTaken => "phone"
  | .accountNull | .accountBlank | .account _ => "account_identifier"
  | .phoneZone _ | .bankZone _ _ => "zone"

/-- `clean_fields`. -/
def Alias.cleanFields (row : Alias) : List AliasProblem :=
  (if row.phone = [] then [.phoneBlank]
  else if 16 < row.phone.length then [.phoneTooLong]
  else [])
  ++ match row.accountIdentifier with
    | .none => [.accountNull]
    | .str [] | .list [] | .dict [] => [.accountBlank]
    | _ => []

/-- `Alias.clean`: the first check which fails raises.  The number is checked
where there is one, and the account where it counts as true. -/
def Alias.clean (runtime : PyRuntime) (row : Alias) : Except AliasProblem Unit :=
  let phone :=
    if row.phone = [] then .ok ()
    else validatePhoneMatchesZone runtime row.phone row.zone
  match phone with
  | .error error => .error (.phoneZone error)
  | .ok () =>
      if row.zone ≠ row.bank.zone then .error (.bankZone row.zone row.bank.zone)
      else if row.accountIdentifier.truthy = false then .ok ()
      else
        match validateAccountIdentifier runtime row.accountIdentifier row.zone with
        | .error error => .error (.account error)
        | .ok () => .ok ()

/-- `full_clean`: the messages of all checks.  Whether the number is taken is
looked up where it has no message yet. -/
def Alias.fullClean (runtime : PyRuntime) (aliases : List Alias) (row : Alias) :
    List AliasProblem :=
  let checked :=
    row.cleanFields ++
      match row.clean runtime with
      | .error problem => [problem]
      | .ok () => []
  let taken :=
    if checked.any fun problem => problem.field = "phone" then []
    else if aliases.any fun old => old.phone = row.phone then [.phoneTaken]
    else []
  checked ++ taken

/-- What a row which passes satisfies. -/
structure Alias.Clean (aliases : List Alias) (row : Alias) : Prop where
  phone_zone : resolveZoneFromPhone row.phone = some row.zone
  bank_zone : row.zone = row.bank.zone
  free : ∀ old ∈ aliases, old.phone ≠ row.phone

theorem Alias.clean_ok
    {runtime : PyRuntime} {row : Alias} (checked : row.clean runtime = .ok ())
    (phone : row.phone ≠ []) :
    resolveZoneFromPhone row.phone = some row.zone ∧ row.zone = row.bank.zone := by
  simp only [clean, if_neg phone] at checked
  split at checked
  · cases checked
  · rename_i matching
    split at checked
    · cases checked
    · rename_i same
      exact ⟨resolveZone_of_matches matching, not_not.mp same⟩

theorem Alias.clean_of_fullClean
    {runtime : PyRuntime} {aliases : List Alias} {row : Alias}
    (checked : row.fullClean runtime aliases = []) :
    row.Clean aliases := by
  simp only [fullClean, List.append_eq_nil_iff] at checked
  rcases checked with ⟨⟨fields, domain⟩, free⟩
  have phone : row.phone ≠ [] := by
    intro blank
    simp [cleanFields, blank] at fields
  have zones : row.clean runtime = .ok () := by
    cases checked : row.clean runtime with
    | error problem => simp [checked] at domain
    | ok done => rfl
  rcases clean_ok zones phone with ⟨phoneZone, bankZone⟩
  refine ⟨phoneZone, bankZone, ?_⟩
  intro old member same
  have taken : aliases.any (fun old => old.phone = row.phone) = true := by
    rw [List.any_eq_true]
    exact ⟨old, member, by simpa using same⟩
  simp [fields, zones, taken] at free

end Klik.Aliases
