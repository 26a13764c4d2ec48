import Klik.BankIO.ChequeHolds

/-!
# The bank and KLIK agree

Each cheque of the bank is one of KLIK, with the same client and amount, and a
status which KLIK has or which a webhook will tell.  A cheque which KLIK has
issued is recorded, or a handler waits to record it.
-/

namespace Klik.BankIO

open Klik.Cheques
open Klik.Common
open Klik.Lib
open Klik.Lib.InsertionDict

/-- The bank has the status of KLIK, or has not heard of a change which will
be told. -/
structure Agrees (row : IssuedCheque) (cheque : KlikCheque) : Prop where
  userId : row.userId = cheque.userId
  amount : row.amount = cheque.amount
  status : row.status = cheque.status ∨
    row.status = .active ∧ (isReleased cheque.status = true → cheque.notified = false)

/-- The cheque which KLIK has issued for a call. -/
def BankCall.placed : BankCall → List Uuid
  | .issuing _ _ (some chequeId) => [chequeId]
  | _ => []

/-- The cheques of the bank, those of KLIK, and the calls between them. -/
structure Matched
    (issued : InsertionDict Uuid IssuedCheque) (klik : InsertionDict Uuid KlikCheque)
    (calls : List BankCall) : Prop where
  klikIds : (keys klik).Nodup
  unnotified : ∀ chequeId cheque, klik.get? chequeId = some cheque →
    cheque.status = .active → cheque.notified = false
  agrees : ∀ chequeId row, issued.get? chequeId = some row →
    ∃ cheque, klik.get? chequeId = some cheque ∧ Agrees row cheque
  recorded : ∀ chequeId cheque, klik.get? chequeId = some cheque →
    isReleased cheque.status = false →
      (issued.get? chequeId).isSome ∨ chequeId ∈ calls.flatMap BankCall.placed
  placed : ∀ userId amount chequeId, .issuing userId amount (some chequeId) ∈ calls →
    issued.get? chequeId = none ∧
      ∃ cheque, klik.get? chequeId = some cheque ∧
        cheque.userId = userId ∧ cheque.amount = amount
  once : (calls.flatMap BankCall.placed).Nodup
  cancels : ∀ chequeId, .cancelling chequeId true ∈ calls →
    ∃ cheque, klik.get? chequeId = some cheque ∧ cheque.status = .cancelled

namespace Matched

variable {issued : InsertionDict Uuid IssuedCheque} {klik : InsertionDict Uuid KlikCheque}
  {calls : List BankCall} {chequeId : Uuid} {cheque : KlikCheque} {index : Nat}

/-- A handler begins to wait. -/
theorem ask
    (matched : Matched issued klik calls) {call : BankCall}
    (unplaced : call.placed = []) (unanswered : ∀ id, call ≠ .cancelling id true) :
    Matched issued klik (calls ++ [call]) := by
  have same : (calls ++ [call]).flatMap BankCall.placed = calls.flatMap BankCall.placed := by
    simp [unplaced]
  constructor
  · exact matched.klikIds
  · exact matched.unnotified
  · exact matched.agrees
  · rw [same]
    exact matched.recorded
  · intro userId amount id member
    rcases List.mem_append.mp member with earlier | new
    · exact matched.placed userId amount id earlier
    · rw [← List.mem_singleton.mp new] at unplaced
      cases unplaced
  · rw [same]
    exact matched.once
  · intro id member
    rcases List.mem_append.mp member with earlier | new
    · exact matched.cancels id earlier
    · exact absurd (List.mem_singleton.mp new).symm (unanswered id)

/-- A call whose cheque waits to be recorded. -/
theorem placed_of_mem
    (matched : Matched issued klik calls) (member : chequeId ∈ calls.flatMap BankCall.placed) :
    issued.get? chequeId = none ∧ ∃ cheque, klik.get? chequeId = some cheque := by
  rcases List.mem_flatMap.mp member with ⟨call, callMember, places⟩
  cases call with
  | cancelling id answered => cases places
  | issuing userId amount answer =>
      cases answer with
      | none => cases places
      | some id =>
          cases List.mem_singleton.mp places
          rcases matched.placed _ _ _ callMember with ⟨absent, cheque, known, _⟩
          exact ⟨absent, cheque, known⟩

/-- The bank records no cheque which KLIK does not have. -/
theorem absent_of_fresh
    (matched : Matched issued klik calls) (fresh : klik.get? chequeId = none) :
    issued.get? chequeId = none := by
  cases found : issued.get? chequeId with
  | none => rfl
  | some row =>
      rcases matched.agrees chequeId row found with ⟨cheque, known, _⟩
      rw [fresh] at known
      cases known

/-- KLIK issues a cheque for a call. -/
theorem issue
    (matched : Matched issued klik calls) {userId : PyStr} {amount : Int}
    (waits : calls[index]? = some (.issuing userId amount none))
    (fresh : klik.get? chequeId = none) :
    Matched issued
      (klik.set chequeId
        { userId := userId, amount := amount, status := .active, notified := false })
      (calls.set index (.issuing userId amount (some chequeId))) := by
  have before := flatMap_perm_eraseIdx waits BankCall.placed
  have after := flatMap_perm_moveOn waits (some (.issuing userId amount (some chequeId)))
    BankCall.placed
  simp only [moveOn, Option.toList_some, List.flatMap_singleton, BankCall.placed,
    List.nil_append, List.singleton_append] at before after
  constructor
  · exact nodup_keys_set matched.klikIds _ _
  · intro id cheque found active
    rw [get?_set] at found
    split at found
    · cases found
      rfl
    · exact matched.unnotified id cheque found active
  · intro id row found
    rcases matched.agrees id row found with ⟨cheque, known, agrees⟩
    exact ⟨cheque, get?_set_of_absent fresh known _, agrees⟩
  · intro id cheque found outstanding
    rw [after.mem_iff, List.mem_cons, ← before.mem_iff]
    rw [get?_set] at found
    split at found
    · rename_i same
      exact .inr (.inl same.symm)
    · rcases matched.recorded id cheque found outstanding with row | call
      · exact .inl row
      · exact .inr (.inr call)
  · intro otherUser otherAmount id member
    rcases List.mem_or_eq_of_mem_set member with old | new
    · rcases matched.placed otherUser otherAmount id old with ⟨absent, cheque, known, its⟩
      exact ⟨absent, cheque, get?_set_of_absent fresh known _, its⟩
    · cases new
      exact ⟨matched.absent_of_fresh fresh, _, by rw [get?_set, if_pos rfl], rfl, rfl⟩
  · rw [after.nodup_iff, List.nodup_cons, ← before.mem_iff, ← before.nodup_iff]
    constructor
    · intro member
      rcases (matched.placed_of_mem member).2 with ⟨cheque, known⟩
      rw [fresh] at known
      cases known
    · exact matched.once
  · intro id member
    rcases List.mem_or_eq_of_mem_set member with old | new
    · rcases matched.cancels id old with ⟨cheque, known, cancelled⟩
      exact ⟨cheque, get?_set_of_absent fresh known _, cancelled⟩
    · cases new

/-- A cheque of KLIK changes, and the bank still agrees with it. -/
theorem change
    (matched : Matched issued klik calls) (found : klik.get? chequeId = some cheque)
    (changed : KlikCheque)
    (userId : changed.userId = cheque.userId) (amount : changed.amount = cheque.amount)
    (outstanding : isReleased changed.status = false → isReleased cheque.status = false)
    (cancelled : cheque.status = .cancelled → changed.status = .cancelled)
    (unnotified : changed.status = .active → changed.notified = false)
    (agrees : ∀ row, issued.get? chequeId = some row → Agrees row cheque →
      Agrees row changed) :
    Matched issued (klik.set chequeId changed) calls := by
  constructor
  · exact nodup_keys_set matched.klikIds _ _
  · intro id other known active
    rw [get?_set] at known
    split at known
    · cases known
      exact unnotified active
    · exact matched.unnotified id other known active
  · intro id row recorded
    rcases matched.agrees id row recorded with ⟨other, known, agree⟩
    rw [get?_set]
    split
    · rename_i same
      subst same
      rw [found] at known
      cases known
      exact ⟨changed, rfl, agrees row recorded agree⟩
    · exact ⟨other, known, agree⟩
  · intro id other known still
    rw [get?_set] at known
    split at known
    · rename_i same
      subst same
      cases known
      exact matched.recorded chequeId cheque found (outstanding still)
    · exact matched.recorded id other known still
  · intro user sum id member
    rcases matched.placed user sum id member with ⟨absent, other, known, its⟩
    refine ⟨absent, ?_⟩
    rw [get?_set]
    split
    · rename_i same
      subst same
      rw [found] at known
      cases known
      exact ⟨changed, rfl, userId.trans its.1, amount.trans its.2⟩
    · exact ⟨other, known, its⟩
  · exact matched.once
  · intro id member
    rcases matched.cancels id member with ⟨other, known, ended⟩
    rw [get?_set]
    split
    · rename_i same
      subst same
      rw [found] at known
      cases known
      exact ⟨changed, rfl, cancelled ended⟩
    · exact ⟨other, known, ended⟩

/-- The bank learns the status of a cheque. -/
theorem learn
    (matched : Matched issued klik calls) (found : klik.get? chequeId = some cheque)
    {learnt : InsertionDict Uuid IssuedCheque}
    (same : ∀ other, learnt.get? other = (issued.get? other).map fun row =>
      if chequeId = other then { row with status := cheque.status } else row) :
    Matched learnt klik calls := by
  constructor
  · exact matched.klikIds
  · exact matched.unnotified
  · intro id row recorded
    rw [same id] at recorded
    rcases Option.map_eq_some_iff.mp recorded with ⟨old, before, now⟩
    rcases matched.agrees id old before with ⟨other, known, agree⟩
    refine ⟨other, known, ?_⟩
    rw [← now]
    split
    · rename_i here
      subst here
      rw [found] at known
      cases known
      exact ⟨agree.userId, agree.amount, .inl rfl⟩
    · exact agree
  · intro id other known outstanding
    rw [same id, Option.isSome_map]
    exact matched.recorded id other known outstanding
  · intro userId amount id member
    rcases matched.placed userId amount id member with ⟨absent, its⟩
    refine ⟨?_, its⟩
    rw [same id, absent, Option.map_none]
  · exact matched.once
  · exact matched.cancels

/-- The reply about a cancelled cheque is on its way. -/
theorem answer
    (matched : Matched issued klik calls)
    (waits : calls[index]? = some (.cancelling chequeId false))
    (found : klik.get? chequeId = some cheque) (cancelled : cheque.status = .cancelled) :
    Matched issued klik (calls.set index (.cancelling chequeId true)) := by
  have same : ((calls.set index (.cancelling chequeId true)).flatMap BankCall.placed).Perm
      (calls.flatMap BankCall.placed) :=
    (flatMap_perm_moveOn waits (some (.cancelling chequeId true)) BankCall.placed).trans
      (flatMap_perm_eraseIdx waits BankCall.placed).symm
  constructor
  · exact matched.klikIds
  · exact matched.unnotified
  · exact matched.agrees
  · intro id other known outstanding
    rw [same.mem_iff]
    exact matched.recorded id other known outstanding
  · intro userId amount id member
    rcases List.mem_or_eq_of_mem_set member with old | new
    · exact matched.placed userId amount id old
    · cases new
  · rw [same.nodup_iff]
    exact matched.once
  · intro id member
    rcases List.mem_or_eq_of_mem_set member with old | new
    · exact matched.cancels id old
    · cases new
      exact ⟨cheque, found, cancelled⟩

/-- A handler ends, and no outstanding cheque is left to it. -/
theorem drop
    (matched : Matched issued klik calls) {call : BankCall}
    (waits : calls[index]? = some call)
    (released : ∀ id ∈ call.placed, ∀ cheque, klik.get? id = some cheque →
      isReleased cheque.status = true) :
    Matched issued klik (calls.eraseIdx index) := by
  have parted := flatMap_perm_eraseIdx waits BankCall.placed
  constructor
  · exact matched.klikIds
  · exact matched.unnotified
  · exact matched.agrees
  · intro id other known outstanding
    rcases matched.recorded id other known outstanding with row | called
    · exact .inl row
    · rcases List.mem_append.mp (parted.subset called) with own | rest
      · rw [released id own other known] at outstanding
        cases outstanding
      · exact .inr rest
  · intro userId amount id member
    exact matched.placed userId amount id (List.mem_of_mem_eraseIdx member)
  · exact (List.nodup_append.mp (parted.nodup_iff.mp matched.once)).2.1
  · intro id member
    exact matched.cancels id (List.mem_of_mem_eraseIdx member)

/-- A new cheque is recorded, before a webhook has released it in vain. -/
theorem record
    (matched : Matched issued klik calls) {userId : PyStr} {amount : Int}
    (waits : calls[index]? = some (.issuing userId amount (some chequeId)))
    (untold : ∀ cheque, klik.get? chequeId = some cheque → isReleased cheque.status = true →
      cheque.notified = false) :
    Matched
      (issued.set chequeId { userId := userId, amount := amount, status := .active })
      klik (calls.eraseIdx index) := by
  have parted := flatMap_perm_eraseIdx waits BankCall.placed
  simp only [BankCall.placed, List.singleton_append] at parted
  have once := parted.nodup_iff.mp matched.once
  rw [List.nodup_cons] at once
  rcases matched.placed userId amount chequeId (List.mem_of_getElem? waits) with
    ⟨absent, cheque, known, sameUser, sameAmount⟩
  constructor
  · exact matched.klikIds
  · exact matched.unnotified
  · intro id row recorded
    rw [get?_set] at recorded
    split at recorded
    · rename_i here
      subst here
      cases recorded
      exact ⟨cheque, known, sameUser.symm, sameAmount.symm, .inr ⟨rfl, untold cheque known⟩⟩
    · exact matched.agrees id row recorded
  · intro id other found outstanding
    rw [get?_set]
    split
    · exact .inl rfl
    · rename_i different
      rcases matched.recorded id other found outstanding with row | called
      · exact .inl row
      · rcases List.mem_cons.mp (parted.subset called) with here | rest
        · exact absurd here.symm different
        · exact .inr rest
  · intro otherUser otherAmount id member
    rcases matched.placed otherUser otherAmount id (List.mem_of_mem_eraseIdx member) with
      ⟨unrecorded, its⟩
    refine ⟨?_, its⟩
    rw [get?_set, if_neg, unrecorded]
    rintro rfl
    exact once.1 (List.mem_flatMap_of_mem member List.mem_cons_self)
  · exact once.2
  · intro id member
    exact matched.cancels id (List.mem_of_mem_eraseIdx member)

end Matched

end Klik.BankIO
