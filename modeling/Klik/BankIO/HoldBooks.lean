import Klik.BankIO.ChequeHolds

/-!
# The books of the bank

The balance of a client is the one at the start without the cheques which the
bank itself counts as held, and a hold was given back once if the bank counts
its cheque as released.  Whether the bank is right about its cheques is the
matter of KLIK.
-/

namespace Klik.BankIO

open Klik.Cheques
open Klik.Common
open Klik.Lib
open Klik.Lib.InsertionDict

/-- What a cheque takes from the balance of a client. -/
def IssuedCheque.held (userId : PyStr) (cheque : IssuedCheque) : Int :=
  if cheque.userId = userId ∧ isReleased cheque.status = false then cheque.amount else 0

/-- How often the hold of a cheque should have been given back. -/
def IssuedCheque.givenBack (cheque : IssuedCheque) : Nat :=
  if isReleased cheque.status then 1 else 0

structure Books
    (opening : InsertionDict PyStr Int) (bank : BankState) (returned : List Uuid) : Prop where
  named : opening.get? [] = none
  issuedIds : (keys bank.issuedCheques).Nodup
  known : ∀ chequeId cheque, bank.issuedCheques.get? chequeId = some cheque →
    (opening.get? cheque.userId).isSome
  balance : ∀ userId, bank.clients.get? userId =
    (opening.get? userId).map fun balance =>
      balance - total (IssuedCheque.held userId) bank.issuedCheques
  returned : ∀ chequeId,
    returned.count chequeId = countedAt IssuedCheque.givenBack bank.issuedCheques chequeId

namespace Books

variable {opening : InsertionDict PyStr Int} {bank : BankState} {returned : List Uuid}
  {chequeId : Uuid} {cheque : IssuedCheque}

/-- Nobody becomes or ceases to be a client. -/
theorem isSome_clients (books : Books opening bank returned) (userId : PyStr) :
    (bank.clients.get? userId).isSome = (opening.get? userId).isSome := by
  rw [books.balance userId, Option.isSome_map]

/-- What an assignment to a cheque does to the holds of a client. -/
theorem held_set
    (userId : PyStr) (found : bank.issuedCheques.get? chequeId = some cheque)
    (changed : IssuedCheque) :
    total (IssuedCheque.held userId) (set bank.issuedCheques chequeId changed) =
      total (IssuedCheque.held userId) bank.issuedCheques
        - cheque.held userId + changed.held userId := by
  have replaced := total_set (IssuedCheque.held userId) bank.issuedCheques chequeId changed
  rw [countedAt_of_get? found] at replaced
  omega

/-- The keys and users of an overwritten cheque. -/
theorem known_set
    (books : Books opening bank returned)
    {changed : IssuedCheque} (known : (opening.get? changed.userId).isSome) :
    ∀ other row, (set bank.issuedCheques chequeId changed).get? other = some row →
      (opening.get? row.userId).isSome := by
  intro other row found
  rw [get?_set] at found
  split at found
  · cases found
    exact known
  · exact books.known other row found

/-- The hold of a new cheque is taken from the balance. -/
theorem record
    (books : Books opening bank returned)
    (fresh : bank.issuedCheques.get? chequeId = none)
    {userId : PyStr} (known : (opening.get? userId).isSome) (amount : Int) :
    Books opening (apiIssueChequeRecord userId amount chequeId bank) returned where
  named := books.named
  issuedIds := nodup_keys_set books.issuedIds _ _
  known := books.known_set known
  balance := by
    intro other
    have added := total_set (IssuedCheque.held other) bank.issuedCheques chequeId
      { userId := userId, amount := amount, status := .active }
    rw [countedAt_of_absent fresh, add_zero] at added
    simp only [apiIssueChequeRecord, get?_credit, books.balance other, Option.map_map, added]
    congr 1
    funext balance
    simp only [Function.comp_apply, IssuedCheque.held, isReleased, and_true]
    split <;> omega
  returned := by
    intro other
    rw [books.returned other]
    simp only [apiIssueChequeRecord, countedAt, get?_set]
    split
    · rename_i same
      rw [← same, fresh]
      rfl
    · rfl

/-- A status which is as good as the old one. -/
theorem mark
    (books : Books opening bank returned)
    (found : bank.issuedCheques.get? chequeId = some cheque)
    {status : ChequeStatus} (same : isReleased status = isReleased cheque.status) :
    Books opening (bank.mark chequeId status) returned := by
  rw [mark_of_get? found]
  constructor
  · exact books.named
  · exact nodup_keys_set books.issuedIds _ _
  · exact books.known_set (books.known chequeId cheque found)
  · intro userId
    have kept : { cheque with status := status }.held userId = cheque.held userId := by
      simp only [IssuedCheque.held, same]
    simp only [held_set userId found, kept, sub_add_cancel]
    exact books.balance userId
  · intro other
    rw [books.returned other]
    simp only [countedAt, get?_set]
    split
    · rename_i here
      subst here
      simp only [found, Option.map_some, IssuedCheque.givenBack, same]
    · rfl

/-- The hold of a cheque is given back. -/
theorem release
    (books : Books opening bank returned)
    (found : bank.issuedCheques.get? chequeId = some cheque)
    (outstanding : isReleased cheque.status = false)
    {status : ChequeStatus} (released : isReleased status = true) :
    Books opening
      { clients := credit cheque.userId cheque.amount bank.clients
        issuedCheques := bank.issuedCheques.set chequeId { cheque with status := status } }
      (returned ++ [chequeId]) where
  named := books.named
  issuedIds := nodup_keys_set books.issuedIds _ _
  known := books.known_set (books.known chequeId cheque found)
  balance := by
    intro userId
    simp only [held_set userId found, get?_credit, books.balance userId, Option.map_map]
    congr 1
    funext balance
    simp only [Function.comp_apply, IssuedCheque.held, outstanding, released, and_true,
      Bool.true_eq_false, and_false, if_false, add_zero]
    split <;> omega
  returned := by
    intro other
    rw [List.count_append, books.returned other]
    simp only [countedAt, get?_set, List.count_singleton]
    by_cases same : chequeId = other
    · subst same
      simp [found, IssuedCheque.givenBack, outstanding, released]
    · simp [same]

theorem ne_nil_of_known
    (books : Books opening bank returned)
    {userId : PyStr} (known : (opening.get? userId).isSome) : userId ≠ [] := by
  rintro rfl
  rw [books.named] at known
  cases known

/-- A release of a cheque gives its hold back if the cheque is active, and
does nothing otherwise. -/
theorem receive_released
    (books : Books opening bank returned) (reason : ReleaseReason) (payload : Option PyStr)
    (agrees : ∀ row, bank.issuedCheques.get? chequeId = some row →
      row.status = reason.status ∨ row.status = .active) :
    (bank.receive (.released chequeId reason) payload).issuedCheques =
        (bank.mark chequeId reason.status).issuedCheques ∧
      Books opening (bank.receive (.released chequeId reason) payload)
        (returned ++ refunded (.released chequeId reason) payload bank) := by
  have released : isReleased reason.status = true := by
    cases reason with
    | cancelled => rfl
    | expired => rfl
  simp only [BankState.receive, refunded]
  by_cases first : ∃ row, bank.issuedCheques.get? chequeId = some row ∧ row.status = .active
  · rcases first with ⟨row, found, active⟩
    have known := books.known chequeId row found
    have client : (bank.clients.get? row.userId).isSome := by
      rw [books.isSome_clients]
      exact known
    have outstanding : isReleased row.status = false := by
      rw [active]
      rfl
    rcases webhookChequeReleased_of_active found active (books.ne_nil_of_known known)
      client reason payload with ⟨refund, handled⟩
    rw [refund, handled, mark_of_get? found]
    exact ⟨rfl, books.release found outstanding released⟩
  · have inactive : ∀ row, bank.issuedCheques.get? chequeId = some row →
        row.status ≠ .active :=
      fun row found active => first ⟨row, found, active⟩
    have already : ∀ row, bank.issuedCheques.get? chequeId = some row →
        row.status = reason.status :=
      fun row found => (agrees row found).resolve_right (inactive row found)
    rcases webhookChequeReleased_of_inactive inactive reason payload with ⟨nothing, same⟩
    rw [nothing, same, mark_of_same already]
    exact ⟨rfl, by simpa using books⟩

/-- A webhook tells the bank the status of a cheque. -/
theorem receive
    (books : Books opening bank returned)
    {told : KlikCheque} {notice : ChequeNotification}
    (about : told.notice chequeId = some notice)
    (agrees : ∀ row, bank.issuedCheques.get? chequeId = some row →
      row.status = told.status ∨ row.status = .active)
    (payload : Option PyStr) :
    (bank.receive notice payload).issuedCheques =
        (bank.mark chequeId told.status).issuedCheques ∧
      Books opening (bank.receive notice payload)
        (returned ++ refunded notice payload bank) := by
  simp only [KlikCheque.notice] at about
  cases status : told.status with
  | active =>
      rw [status] at about
      cases about
  | redeemed =>
      simp only [status, Option.some.injEq] at about
      subst about
      simp only [BankState.receive, webhookChequeRedeemed, refunded, List.append_nil, true_and]
      cases found : bank.issuedCheques.get? chequeId with
      | none =>
          rw [mark_of_absent found]
          exact books
      | some row =>
          apply books.mark found
          rcases agrees row found with same | active
          · rw [same, status]
          · rw [active]
            rfl
  | cancelled =>
      simp only [status, Option.some.injEq] at about
      subst about
      rw [status] at agrees
      exact books.receive_released .cancelled payload agrees
  | expired =>
      simp only [status, Option.some.injEq] at about
      subst about
      rw [status] at agrees
      exact books.receive_released .expired payload agrees

end Books

end Klik.BankIO
