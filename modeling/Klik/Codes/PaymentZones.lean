import Klik.Codes.PaymentConfirm
import Klik.Codes.PaymentInitiate
import Klik.Ledger.EntryZones

/-!
# Zones of payments

A payment is checked when it is inserted, whatever zone and currency the
request and the record of the code name.  A decision keeps its parties.
-/

namespace Klik.Codes

open Klik.Agents
open Klik.Banks
open Klik.Common
open Klik.Ledger
open Klik.Lib

/-- The rows which an initiation reads are stored ones. -/
structure InitiateRequest.Stored (zoneOf : Uuid → Zone) (request : InitiateRequest) :
    Prop where
  agent : request.agent.Zoned zoneOf
  merchants : ∀ merchant ∈ request.merchants, merchant.Zoned zoneOf
  banks : ∀ bank ∈ request.banks, bank.Zoned zoneOf

variable {zoneOf : Uuid → Zone}

theorem InitiateRequest.mem_of_check
    {request : InitiateRequest} {merchant : Merchant}
    (checked : request.check = .ok merchant) : merchant ∈ request.merchants := by
  simp only [InitiateRequest.check] at checked
  split at checked
  · cases checked
  · split at checked
    · cases checked
    · rename_i found
      split at checked
      · cases checked
      · cases checked
        exact List.mem_of_find?_eq_some found

/-- The payment of a marked code is in one zone. -/
theorem inZone_create
    {request : InitiateRequest} (stored : request.Stored zoneOf)
    {merchant : Merchant} (member : merchant ∈ request.merchants) (payload : CodePayload)
    {transactions : List Transaction} (inZone : ∀ tx ∈ transactions, tx.InZone zoneOf) :
    ∀ tx ∈ (request.create merchant payload transactions).transactions,
      tx.InZone zoneOf := by
  rcases request.create_cases merchant payload transactions with
    ⟨senderBank, known, creates, created⟩ | ⟨error, _, raised⟩
  · rw [created]
    intro tx listed
    rcases List.mem_append.mp listed with old | new
    · exact inZone tx old
    · rw [List.mem_singleton.mp new]
      rcases creates with ⟨_, sender, found, creatable, _⟩
      cases Option.some.inj (known.symm.trans found)
      apply (Transaction.clean_of_fullClean creatable.clean).inZone
      · exact stored.banks senderBank (List.mem_of_find?_eq_some known)
      · exact stored.agent
      · exact stored.merchants merchant member
  · rw [raised]
    exact inZone

/-- Every payment is in one zone after an initiation. -/
theorem inZone_initiate
    {request : InitiateRequest} (stored : request.Stored zoneOf)
    (now : Nat) (store : CodeStore)
    {transactions : List Transaction} (inZone : ∀ tx ∈ transactions, tx.InZone zoneOf) :
    ∀ tx ∈ (initiate now store transactions request).1.transactions,
      tx.InZone zoneOf := by
  simp only [initiate, InitiateRequest.mark]
  cases checked : request.check with
  | error error => exact inZone
  | ok merchant =>
      cases marked : markUsed now request.data.code store with
      | mk result after =>
          cases result with
          | error error => exact inZone
          | ok payload =>
              exact inZone_create stored (InitiateRequest.mem_of_check checked) payload inZone

/-- A decision keeps the zone of the payment and books in it. -/
theorem inZone_afterConfirm
    {request : ConfirmRequest} (stored : ∀ bank ∈ request.banks, bank.Zoned zoneOf)
    {db : PaymentDb} (inZone : db.row.InZone zoneOf) :
    (afterConfirm request db).row.InZone zoneOf ∧
      BooksInZone zoneOf db.entries (afterConfirm request db).entries := by
  simp only [afterConfirm]
  cases confirmed : confirm request db with
  | error error => exact ⟨inZone, .refl _⟩
  | ok result =>
      rcases result with ⟨response, after⟩
      show after.row.InZone zoneOf ∧ BooksInZone zoneOf db.entries after.entries
      rcases confirm_ok confirmed with ⟨_, _, _, _, same | ⟨_, processed⟩⟩
      · rw [same]
        exact ⟨inZone, .refl _⟩
      · cases processed with
        | accepted split returned decision computed row_eq recorded =>
            have row : after.row.InZone zoneOf := by
              rw [row_eq]
              exact ⟨inZone.senderBank, inZone.agent, inZone.merchant, inZone.sender_zone,
                inZone.agent_zone, inZone.merchant_zone, inZone.currency⟩
            exact ⟨row, booksInZone_recordC2bTransaction stored row recorded⟩
        | rejected reason decision row_eq entries_eq =>
            rw [row_eq, entries_eq]
            refine ⟨?_, .refl _⟩
            exact ⟨inZone.senderBank, inZone.agent, inZone.merchant, inZone.sender_zone,
              inZone.agent_zone, inZone.merchant_zone, inZone.currency⟩

end Klik.Codes
