import Klik.Aliases.AliasService
import Klik.Ledger.EntryZones

/-!
# Zones of aliases

An alias is validated when it is saved, and no call changes one: whichever
bank registers a number, the alias is in the zone of the prefix.
-/

namespace Klik.Aliases

open Klik.Banks
open Klik.Common
open Klik.Lib
open Klik.Recurring

/-- An alias in the zone of its bank and of the prefix of its number. -/
structure Alias.InZone (zoneOf : Uuid → Zone) (row : Alias) : Prop where
  bank : zoneOf row.bank.id = row.zone
  phone : resolveZoneFromPhone row.phone = some row.zone

variable {zoneOf : Uuid → Zone}

/-- A registered alias is in its zone. -/
theorem inZone_register
    {runtime : PyRuntime} {request : RegisterRequest} {aliases after : List Alias}
    (bank : request.bank.Zoned zoneOf)
    (inZone : ∀ row ∈ aliases, row.InZone zoneOf)
    (registered : register runtime request aliases = .ok after) :
    ∀ row ∈ after, row.InZone zoneOf := by
  rcases register_ok registered with ⟨clean, rfl⟩
  intro row member
  rcases List.mem_append.mp member with old | new
  · exact inZone row old
  · rw [List.mem_singleton.mp new]
    constructor
    · exact bank.symm.trans clean.bank_zone.symm
    · exact clean.phone_zone

theorem inZone_unregister
    {bank : Bank} {phone : PyStr} {aliases after : List Alias}
    (inZone : ∀ row ∈ aliases, row.InZone zoneOf)
    (removed : unregister bank phone aliases = .ok after) :
    ∀ row ∈ after, row.InZone zoneOf := by
  intro row member
  exact inZone row (mem_of_unregister removed row member)

/-- A lookup finds a bank of the zone of the number, whoever has registered
it. -/
theorem zone_lookupRecipient
    {phone : PyStr} {zone : Zone} (prefixZone : resolveZoneFromPhone phone = some zone)
    {aliases : List Alias} (inZone : ∀ row ∈ aliases, row.InZone zoneOf)
    {recipient : Recipient} (found : lookupRecipient phone aliases = some recipient) :
    zoneOf recipient.bankId = zone := by
  rcases lookupRecipient_eq_some found with ⟨row, member, samePhone, rfl⟩
  have own := (inZone row member).phone
  rw [samePhone, prefixZone] at own
  rw [Option.some.inj own]
  exact (inZone row member).bank

end Klik.Aliases
