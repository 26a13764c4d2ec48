import Klik.Aliases.Models
import Klik.Lib.JsonText
import Klik.Recurring.Models

/-!
# The register of aliases

`AliasService`: a bank registers and removes the numbers of its clients, and
looks up the numbers of others.  The counter of lookups is kept elsewhere.
-/

namespace Klik.Aliases

open Klik.Banks
open Klik.Common
open Klik.Lib
open Klik.Recurring

/-- An exception of the service. -/
inductive AliasError where
  | zoneMismatch (problems : List AliasProblem)
  | alreadyRegistered (phone : PyStr)
  | doesNotExist (phone : PyStr)
  | ownership (phone : PyStr) (bankId : Uuid)
  | validation (problems : List AliasProblem)
  | database (error : DatabaseError)
deriving DecidableEq, Repr

/-- A call of `register`, with the key of the row and whether the server
refuses the insertion. -/
structure RegisterRequest where
  bank : Bank
  phone : PyStr
  accountIdentifier : PyValue
  zone : Zone
  aliasId : Uuid
  refused : Bool

/-- The row which the call saves. -/
def RegisterRequest.row (request : RegisterRequest) : Alias where
  id := request.aliasId
  phone := request.phone
  bank := request.bank
  accountIdentifier := request.accountIdentifier
  zone := request.zone

/-- `register`. -/
def register (runtime : PyRuntime) (request : RegisterRequest) (aliases : List Alias) :
    Except AliasError (List Alias) :=
  let problems := request.row.fullClean runtime aliases
  if problems ≠ [] then
    if problems.any fun problem => problem.field = "zone" then
      .error (.zoneMismatch (problems.filter fun problem => problem.field = "zone"))
    else if problems.any fun problem => problem.field = "phone" then
      .error (.alreadyRegistered request.phone)
    else .error (.validation problems)
  else if request.refused then .error (.database .operational)
  else .ok (aliases ++ [request.row])

/-- `Alias.objects.get(phone=...)`. -/
def getAlias (phone : PyStr) (aliases : List Alias) : Option Alias :=
  aliases.find? fun row => row.phone = phone

/-- `lookup_for_bank`. -/
def lookupForBank (phone : PyStr) (aliases : List Alias) : Except AliasError Alias :=
  match getAlias phone aliases with
  | none => .error (.doesNotExist phone)
  | some row => .ok row

/-- `unregister`. -/
def unregister (bank : Bank) (phone : PyStr) (aliases : List Alias) :
    Except AliasError (List Alias) :=
  match getAlias phone aliases with
  | none => .error (.doesNotExist phone)
  | some row =>
      if row.bank.id ≠ bank.id then .error (.ownership phone bank.id)
      else .ok (aliases.filter fun old => old.id ≠ row.id)

/-- What `_lookup_recipient` keeps of an alias. -/
def Alias.recipient (row : Alias) : Recipient where
  phone := row.phone
  bankId := row.bank.id
  bankCode := row.bank.name
  accountIdentifier := row.accountIdentifier.dumps

/-- `_lookup_recipient` up to the snapshot; none where the alias is gone. -/
def lookupRecipient (phone : PyStr) (aliases : List Alias) : Option Recipient :=
  match lookupForBank phone aliases with
  | .error _ => none
  | .ok row => some row.recipient

/-! ## What the calls do -/

theorem register_ok
    {runtime : PyRuntime} {request : RegisterRequest} {aliases after : List Alias}
    (registered : register runtime request aliases = .ok after) :
    request.row.Clean aliases ∧ after = aliases ++ [request.row] := by
  simp only [register] at registered
  split at registered
  · split at registered
    · cases registered
    · split at registered <;> cases registered
  · rename_i unproblematic
    split at registered
    · cases registered
    · cases registered
      exact ⟨Alias.clean_of_fullClean (not_not.mp unproblematic), rfl⟩

theorem mem_of_getAlias
    {phone : PyStr} {aliases : List Alias} {row : Alias}
    (found : getAlias phone aliases = some row) :
    row ∈ aliases ∧ row.phone = phone :=
  ⟨List.mem_of_find?_eq_some found, by simpa using List.find?_some found⟩

theorem mem_of_unregister
    {bank : Bank} {phone : PyStr} {aliases after : List Alias}
    (removed : unregister bank phone aliases = .ok after) :
    ∀ row ∈ after, row ∈ aliases := by
  simp only [unregister] at removed
  split at removed
  · cases removed
  · split at removed
    · cases removed
    · cases removed
      intro row member
      exact (List.mem_filter.mp member).1

theorem lookupRecipient_eq_some
    {phone : PyStr} {aliases : List Alias} {recipient : Recipient}
    (found : lookupRecipient phone aliases = some recipient) :
    ∃ row ∈ aliases, row.phone = phone ∧ recipient = row.recipient := by
  simp only [lookupRecipient, lookupForBank] at found
  cases known : getAlias phone aliases with
  | none => simp [known] at found
  | some row =>
      simp only [known, Option.some.injEq] at found
      rcases mem_of_getAlias known with ⟨member, same⟩
      exact ⟨row, member, same, found.symm⟩

end Klik.Aliases
