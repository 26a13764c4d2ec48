import Klik.BankIO.ChequesMatched

/-!
# Holds are given back once

However early or late the bank writes its own idea of a cheque, and whatever
becomes of the replies of KLIK, a hold is given back at most once, and only
when KLIK has released its cheque.
-/

namespace Klik.BankIO

open Klik.Cheques
open Klik.Common
open Klik.Lib
open Klik.Lib.InsertionDict

/-! ## Receiving a notification -/

/-- A notification marks its cheque as ended or leaves it, and gives the hold of
an active one back. -/
inductive Receives (bank after : BankState) (chequeId : Uuid) (given : List Uuid) : Prop where
  | left (issued : after.issuedCheques = bank.issuedCheques) (none : given = [])
  | marked (status : ChequeStatus) (ended : status ≠ .active)
      (issued : after.issuedCheques = (bank.mark chequeId status).issuedCheques)
      (given : given = [] ∨ given = [chequeId] ∧
        ∃ row, bank.issuedCheques.get? chequeId = some row ∧ row.status = .active)

theorem receives_released
    (chequeId : Uuid) (reason : ReleaseReason) (payload : Option PyStr) (bank : BankState) :
    Receives bank (bank.receive (.released chequeId reason) payload) chequeId
      (refunded (.released chequeId reason) payload bank) := by
  simp only [BankState.receive, refunded]
  by_cases first : ∃ row, bank.issuedCheques.get? chequeId = some row ∧ row.status = .active
  · rcases first with ⟨row, found, active⟩
    simp only [webhookChequeReleased, found, if_pos active]
    refine .marked reason.status reason.status_ne_active ?_ ?_
    · split
      · rfl
      · rfl
    · cases releaseRefund chequeId payload bank with
      | none => exact .inl rfl
      | some refund => exact .inr ⟨rfl, row, found, active⟩
  · have inactive : ∀ row, bank.issuedCheques.get? chequeId = some row → row.status ≠ .active :=
      fun row found active => first ⟨row, found, active⟩
    rcases webhookChequeReleased_of_inactive inactive reason payload with ⟨nothing, same⟩
    rw [nothing, same]
    exact .left rfl rfl

/-- What a webhook about an ended cheque does. -/
theorem receives
    {cheque : KlikCheque} {chequeId : Uuid} {notice : ChequeNotification}
    (about : cheque.notice chequeId = some notice) (payload : Option PyStr) (bank : BankState) :
    Receives bank (bank.receive notice payload) chequeId (refunded notice payload bank) ∧
      (refunded notice payload bank ≠ [] → isReleased cheque.status = true) := by
  simp only [KlikCheque.notice] at about
  cases status : cheque.status with
  | active =>
      rw [status] at about
      cases about
  | redeemed =>
      simp only [status, Option.some.injEq] at about
      subst about
      have ended : ChequeStatus.redeemed ≠ .active := fun same => by cases same
      exact ⟨.marked .redeemed ended rfl (.inl rfl), fun given => absurd rfl given⟩
  | cancelled =>
      simp only [status, Option.some.injEq] at about
      subst about
      exact ⟨receives_released chequeId .cancelled payload bank, fun _ => rfl⟩
  | expired =>
      simp only [status, Option.some.injEq] at about
      subst about
      exact ⟨receives_released chequeId .expired payload bank, fun _ => rfl⟩

/-! ## The invariant -/

/-- The bank has a row for the cheque, and does not take it for active. -/
def Ended (issued : InsertionDict Uuid IssuedCheque) (chequeId : Uuid) : Prop :=
  ∃ row, issued.get? chequeId = some row ∧ row.status ≠ .active

/-- KLIK has cancelled the cheque or let it expire. -/
def Released (klik : InsertionDict Uuid KlikCheque) (chequeId : Uuid) : Prop :=
  ∃ cheque, klik.get? chequeId = some cheque ∧ isReleased cheque.status = true

/-- The cheques of the bank and of the replies on their way are KLIK's, each in
one place, and a hold which was given back is the one of an ended cheque. -/
structure GivenOnce (state : HoldState) : Prop where
  known : ∀ chequeId row, state.bank.issuedCheques.get? chequeId = some row →
    (state.klik.get? chequeId).isSome
  placed : ∀ chequeId ∈ state.calls.flatMap BankCall.placed,
    state.bank.issuedCheques.get? chequeId = none ∧ (state.klik.get? chequeId).isSome
  once : (state.calls.flatMap BankCall.placed).Nodup
  ended : ∀ chequeId ∈ state.returned, Ended state.bank.issuedCheques chequeId
  released : ∀ chequeId ∈ state.returned, Released state.klik chequeId
  nodup : state.returned.Nodup

variable {bank : BankState} {klik : InsertionDict Uuid KlikCheque} {chequeId other : Uuid}

/-- Marking leaves the cheques which are there. -/
theorem isSome_mark (status : ChequeStatus) :
    ((bank.mark chequeId status).issuedCheques.get? other).isSome =
      (bank.issuedCheques.get? other).isSome := by
  rw [get?_mark, Option.isSome_map]

theorem Ended.mark
    (ended : Ended bank.issuedCheques other) {status : ChequeStatus} (final : status ≠ .active) :
    Ended (bank.mark chequeId status).issuedCheques other := by
  rcases ended with ⟨row, found, ending⟩
  refine ⟨_, by rw [get?_mark, found, Option.map_some], ?_⟩
  split
  · exact final
  · exact ending

theorem ended_mark
    {row : IssuedCheque} (found : bank.issuedCheques.get? chequeId = some row)
    {status : ChequeStatus} (final : status ≠ .active) :
    Ended (bank.mark chequeId status).issuedCheques chequeId :=
  ⟨{ row with status := status }, by rw [get?_mark, found, Option.map_some, if_pos rfl], final⟩

/-- A cheque is assigned, and one which is released stays so. -/
theorem Released.set
    (released : Released klik other) {changed : KlikCheque}
    (stays : ∀ cheque, klik.get? chequeId = some cheque → isReleased cheque.status = true →
      isReleased changed.status = true) :
    Released (klik.set chequeId changed) other := by
  rcases released with ⟨cheque, found, its⟩
  rw [Released, get?_set]
  split
  · rename_i same
    subst same
    exact ⟨changed, rfl, stays cheque found its⟩
  · exact ⟨cheque, found, its⟩

theorem isSome_set
    (there : (klik.get? other).isSome) (changed : KlikCheque) :
    ((klik.set chequeId changed).get? other).isSome := by
  rw [get?_set]
  split
  · rfl
  · exact there

namespace GivenOnce

variable {state : HoldState} {index : Nat}

/-- A cheque of KLIK changes, which was not released. -/
theorem change
    (given : GivenOnce state) {cheque : KlikCheque}
    (found : state.klik.get? chequeId = some cheque) {changed : KlikCheque}
    (stays : isReleased cheque.status = true → isReleased changed.status = true) :
    GivenOnce { state with klik := state.klik.set chequeId changed } where
  known := fun id row recorded => isSome_set (given.known id row recorded) changed
  placed := fun id waits =>
    ⟨(given.placed id waits).1, isSome_set (given.placed id waits).2 changed⟩
  once := given.once
  ended := given.ended
  released := fun id member => (given.released id member).set (by
    intro its here
    rw [found] at here
    cases here
    exact stays)
  nodup := given.nodup

/-- The calls change, and hold no more than they did. -/
theorem calls
    (given : GivenOnce state) {calls : List BankCall}
    (fewer : (calls.flatMap BankCall.placed).Subperm (state.calls.flatMap BankCall.placed)) :
    GivenOnce { state with calls := calls } where
  known := given.known
  placed := fun id waits => given.placed id (fewer.subset waits)
  once := by
    rcases fewer with ⟨part, same, within⟩
    exact same.nodup_iff.mp (given.once.sublist within)
  ended := given.ended
  released := given.released
  nodup := given.nodup

theorem ask (given : GivenOnce state) {call : BankCall} (unplaced : call.placed = []) :
    GivenOnce (state.ask call) := by
  apply given.calls
  rw [List.flatMap_append, List.flatMap_singleton, unplaced, List.append_nil]

theorem erase {call : BankCall} (given : GivenOnce state)
    (waits : state.calls[index]? = some call) :
    GivenOnce { state with calls := state.calls.eraseIdx index } :=
  given.calls ((List.sublist_append_right _ _).subperm.trans
    (flatMap_perm_eraseIdx waits BankCall.placed).symm.subperm)

/-- KLIK issues a cheque for a call. -/
theorem issue
    (given : GivenOnce state) {userId : PyStr} {amount : Int} {cheque : KlikCheque}
    (waits : state.calls[index]? = some (.issuing userId amount none))
    (fresh : state.klik.get? chequeId = none) :
    GivenOnce { state with
      klik := state.klik.set chequeId cheque
      calls := state.calls.set index (.issuing userId amount (some chequeId)) } := by
  have unrecorded : state.bank.issuedCheques.get? chequeId = none := by
    cases found : state.bank.issuedCheques.get? chequeId with
    | none => rfl
    | some row =>
        have known := given.known chequeId row found
        rw [fresh] at known
        cases known
  have before := flatMap_perm_eraseIdx waits BankCall.placed
  have after := flatMap_perm_moveOn waits (some (.issuing userId amount (some chequeId)))
    BankCall.placed
  simp only [moveOn, Option.toList_some, List.flatMap_singleton, BankCall.placed,
    List.nil_append, List.singleton_append] at before after
  constructor
  · exact fun id row recorded => isSome_set (given.known id row recorded) cheque
  · intro id member
    rw [after.mem_iff, List.mem_cons, ← before.mem_iff] at member
    rcases member with rfl | earlier
    · exact ⟨unrecorded, by rw [get?_set, if_pos rfl]; rfl⟩
    · exact ⟨(given.placed id earlier).1, isSome_set (given.placed id earlier).2 cheque⟩
  · rw [after.nodup_iff, List.nodup_cons, ← before.mem_iff, ← before.nodup_iff]
    refine ⟨fun member => ?_, given.once⟩
    have known := (given.placed chequeId member).2
    rw [fresh] at known
    cases known
  · exact given.ended
  · intro id member
    apply (given.released id member).set
    intro old here
    rw [fresh] at here
    cases here
  · exact given.nodup

/-- A new cheque is recorded. -/
theorem record
    (given : GivenOnce state) {userId : PyStr} {amount : Int}
    (waits : state.calls[index]? = some (.issuing userId amount (some chequeId))) :
    GivenOnce { state with
      bank := apiIssueChequeRecord userId amount chequeId state.bank
      calls := state.calls.eraseIdx index } := by
  have parted := flatMap_perm_eraseIdx waits BankCall.placed
  simp only [BankCall.placed, List.singleton_append] at parted
  have once := parted.nodup_iff.mp given.once
  rw [List.nodup_cons] at once
  have here := given.placed chequeId (parted.mem_iff.mpr List.mem_cons_self)
  constructor
  · intro id row recorded
    rw [apiIssueChequeRecord, get?_set] at recorded
    split at recorded
    · rename_i same
      exact same ▸ here.2
    · exact given.known id row recorded
  · intro id member
    have earlier := given.placed id (parted.mem_iff.mpr (List.mem_cons_of_mem _ member))
    refine ⟨?_, earlier.2⟩
    rw [apiIssueChequeRecord, get?_set, if_neg, earlier.1]
    rintro rfl
    exact once.1 member
  · exact once.2
  · intro id member
    rcases given.ended id member with ⟨row, found, ending⟩
    refine ⟨row, ?_, ending⟩
    rw [apiIssueChequeRecord, get?_set, if_neg, found]
    rintro rfl
    rw [here.1] at found
    cases found
  · exact given.released
  · exact given.nodup

/-- The bank marks a cheque as ended. -/
theorem mark
    (given : GivenOnce state) {bank : BankState} {status : ChequeStatus}
    (final : status ≠ .active)
    (issued : bank.issuedCheques = (state.bank.mark chequeId status).issuedCheques) :
    GivenOnce { state with bank := bank } where
  known := by
    intro id row recorded
    have there : (bank.issuedCheques.get? id).isSome := by rw [recorded]; rfl
    rw [issued, isSome_mark] at there
    rcases Option.isSome_iff_exists.mp there with ⟨old, found⟩
    exact given.known id old found
  placed := by
    intro id member
    refine ⟨?_, (given.placed id member).2⟩
    rw [issued, get?_mark, (given.placed id member).1]
    rfl
  once := given.once
  ended := by
    intro id member
    rw [issued]
    exact (given.ended id member).mark final
  released := given.released
  nodup := given.nodup

/-- Only the balances change. -/
theorem same
    (given : GivenOnce state) {bank : BankState}
    (issued : bank.issuedCheques = state.bank.issuedCheques) :
    GivenOnce { state with bank := bank } where
  known := by
    rw [issued]
    exact given.known
  placed := by
    rw [issued]
    exact given.placed
  once := given.once
  ended := by
    rw [issued]
    exact given.ended
  released := given.released
  nodup := given.nodup

/-- The hold of a cheque which is released is given back, and its row is ended. -/
theorem give
    (given : GivenOnce state) {row : IssuedCheque} {bank : BankState} {status : ChequeStatus}
    (recorded : state.bank.issuedCheques.get? chequeId = some row)
    (active : row.status = .active) (final : status ≠ .active)
    (issued : bank.issuedCheques = (state.bank.mark chequeId status).issuedCheques)
    (released : Released state.klik chequeId) :
    GivenOnce { state with
      bank := bank
      returned := state.returned ++ [chequeId] } := by
  have marked := given.mark final issued
  constructor
  · exact marked.known
  · exact marked.placed
  · exact marked.once
  · intro id member
    rcases List.mem_append.mp member with earlier | now
    · exact marked.ended id earlier
    · rw [List.mem_singleton.mp now, issued]
      exact ended_mark recorded final
  · intro id member
    rcases List.mem_append.mp member with earlier | now
    · exact marked.released id earlier
    · rw [List.mem_singleton.mp now]
      exact released
  · rw [List.nodup_append]
    refine ⟨given.nodup, List.nodup_singleton _, ?_⟩
    intro id earlier other now same
    rw [List.mem_singleton.mp now] at same
    subst same
    rcases given.ended _ earlier with ⟨old, found, ending⟩
    rw [recorded] at found
    cases found
    exact ending active

/-- A webhook is received. -/
theorem deliver
    (given : GivenOnce state) {cheque : KlikCheque} {notice : ChequeNotification}
    (found : state.klik.get? chequeId = some cheque)
    (about : cheque.notice chequeId = some notice) (payload : Option PyStr) :
    GivenOnce { state with
      bank := state.bank.receive notice payload
      klik := state.klik.set chequeId { cheque with notified := true }
      returned := state.returned ++ refunded notice payload state.bank } := by
  have heard : GivenOnce { state with
      klik := state.klik.set chequeId { cheque with notified := true } } :=
    given.change found id
  rcases receives about payload state.bank with ⟨received, released⟩
  cases received with
  | left issued none =>
      rw [none, List.append_nil]
      exact heard.same issued
  | marked status ended issued givenBack =>
      rcases givenBack with none | ⟨one, row, recorded, active⟩
      · rw [none, List.append_nil]
        exact heard.mark ended issued
      · rw [one]
        apply heard.give recorded active ended issued
        refine ⟨_, by rw [get?_set, if_pos rfl], ?_⟩
        apply released
        rw [one]
        exact List.cons_ne_nil _ _

end GivenOnce

theorem givenOnce_of_move
    {state after : HoldState} {action : HoldAction} (given : GivenOnce state)
    (move : HoldMove state action after) : GivenOnce after := by
  cases move with
  | refused => exact given
  | askedIssue known => exact given.ask rfl
  | askedCancel => exact given.ask rfl
  | issued waits fresh => exact given.issue waits fresh
  | @cancelled index chequeId cheque waits found active =>
      have ended : GivenOnce { state with
          klik := state.klik.set chequeId { cheque with status := .cancelled } } :=
        given.change found fun _ => rfl
      apply ended.calls
      have parted := flatMap_perm_moveOn waits (some (.cancelling chequeId true)) BankCall.placed
      exact (parted.trans (flatMap_perm_eraseIdx waits BankCall.placed).symm).subperm
  | raised waits => exact given.erase waits
  | recorded waits => exact given.record waits
  | @overwritten index chequeId waits =>
      have final : ChequeStatus.cancelled ≠ .active := fun same => by cases same
      have marked : GivenOnce { state with bank := apiCancelChequeRecord chequeId state.bank } :=
        given.mark final rfl
      exact marked.erase waits
  | ended found active final =>
      apply given.change found
      intro released
      rw [active] at released
      cases released
  | delivered found about => exact given.deliver found about _

/-- In every run, however early or late its steps come. -/
theorem givenOnce_of_reachable
    {state : HoldState} (reached : holdSystem.Reachable state) : GivenOnce state := by
  apply reached.invariant
  · intro start isStart
    constructor
    · intro chequeId row found
      rw [isStart.issuedCheques] at found
      cases found
    · intro chequeId member
      rw [isStart.calls] at member
      cases member
    · rw [isStart.calls]
      exact List.nodup_nil
    · intro chequeId member
      rw [isStart.returned] at member
      cases member
    · intro chequeId member
      rw [isStart.returned] at member
      cases member
    · rw [isStart.returned]
      exact List.nodup_nil
  · intro before action after _ given move
    exact givenOnce_of_move given (holdMove_of_step move)

end Klik.BankIO
