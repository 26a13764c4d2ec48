import Klik.BankIO.HoldsReturned
import Klik.BankIO.JointRuns
import Klik.Lib.TableDict

/-!
# KLIK's endpoints as the bank sees them

The bank at KLIK's endpoints refines the bank with the cheques which KLIK is
taken to have: of all that KLIK's requests and tasks do, the bank's own cheques
show that they are issued, and end once.
-/

namespace Klik.BankIO

open Klik.Banks
open Klik.Cheques
open Klik.Codes
open Klik.Common
open Klik.Lib

/-! ## The view -/

def isOwn (bankId : Uuid) (cheque : Cheque) : Bool := cheque.issuerBank.id = bankId

/-- What the bank deals with of a cheque. -/
def shownCheque (told : List Uuid) (cheque : Cheque) : KlikCheque where
  userId := cheque.issuerUserId
  amount := chequeCents cheque
  status := cheque.status
  notified := told.contains cheque.id

/-- The cheques of a bank. -/
def shownCheques (bankId : Uuid) (told : List Uuid) (cheques : List Cheque) :
    InsertionDict Uuid KlikCheque :=
  tableDict Cheque.id (isOwn bankId) (shownCheque told) cheques

def IssueStage.answer : IssueStage → Option Uuid
  | .answered chequeId => some chequeId
  | _ => none

/-- The request as a handler which waits. -/
def Asked.shown : Asked → BankCall
  | .issue userId amount stage => .issuing userId amount stage.answer
  | .cancel chequeId stage => .cancelling chequeId (stage = .answered)

def JointState.shown (bankId : Uuid) (state : JointState) : HoldState where
  opening := state.opening
  bank := state.bank
  klik := shownCheques bankId state.told state.klik.db.cheques
  calls := state.requests.map fun request => request.asked.shown
  returned := state.returned

/-- The steps by which the bank comes neither too early nor too late, where KLIK
reports no overdue cheque. -/
def JointState.inTime (bankId : Uuid) (state : JointState) (action : JointAction) : Bool :=
  reportsInTime state action &&
    match action with
    | .finish index => (state.shown bankId).inTime (.finish index)
    | .ends index => (state.shown bankId).inTime (.raises index)
    | _ => true

/-! ## What KLIK does to the cheques of the bank -/

variable {bankId : Uuid} {told : List Uuid} {cheques : List Cheque}

/-- A changed row shows as another status, if it is the bank's. -/
theorem shownCheques_saveRow
    (bankId : Uuid) (told : List Uuid) (ids : (cheques.map Cheque.id).Nodup)
    {cheque row : Cheque} (member : cheque ∈ cheques)
    (same : SameCheque cheque row) :
    shownCheques bankId told (saveRow Cheque.id row cheques) =
      if cheque.issuerBank.id = bankId then
        (shownCheques bankId told cheques).set cheque.id
          { shownCheque told cheque with status := row.status }
      else shownCheques bankId told cheques := by
  have sameOwner : isOwn bankId row = isOwn bankId cheque := by
    rw [isOwn, isOwn, same.issuerBank]
  split
  · rename_i own
    have kept : isOwn bankId cheque = true := decide_eq_true own
    rw [shownCheques, tableDict_saveRow ids member same.id kept (sameOwner.trans kept), same.id]
    simp only [shownCheques, shownCheque, chequeCents, same.id, same.issuerUserId, same.amount]
  · rename_i other
    have left : isOwn bankId cheque = false := decide_eq_false other
    exact tableDict_saveRow_of_not_kept ids member same.id left (sameOwner.trans left)

/-- What a step of KLIK which belongs to no request of the bank does to the
bank's cheques: nothing, or one of them ends. -/
inductive EndsElsewhere (bankId : Uuid) (told : List Uuid) (before after : List Cheque) :
    Prop where
  | same (kept : shownCheques bankId told after = shownCheques bankId told before)
  | ends (cheque : Cheque) (status : ChequeStatus)
      (member : cheque ∈ before) (own : cheque.issuerBank.id = bankId)
      (active : cheque.status = .active)
      (final : status = .redeemed ∨ status = .expired)
      (changed : shownCheques bankId told after =
        (shownCheques bankId told before).set cheque.id
          { shownCheque told cheque with status := status })

theorem EndsElsewhere.of_saveRow
    (ids : (cheques.map Cheque.id).Nodup) {cheque row : Cheque} (member : cheque ∈ cheques)
    (active : cheque.status = .active) (same : SameCheque cheque row)
    (final : row.status = .redeemed ∨ row.status = .expired) :
    EndsElsewhere bankId told cheques (saveRow Cheque.id row cheques) := by
  have saved := shownCheques_saveRow bankId told ids member same
  by_cases own : cheque.issuerBank.id = bankId
  · rw [if_pos own] at saved
    exact .ends cheque row.status member own active final saved
  · rw [if_neg own] at saved
    exact .same saved

theorem endsElsewhere_of_step
    {klik next : ChequeState} {klikAction : ChequeAction}
    (ids : (klik.db.cheques.map Cheque.id).Nodup)
    (foreign : isElsewhere bankId klikAction = true)
    (moves : chequeSystem.Step klik klikAction next) :
    EndsElsewhere bankId told klik.db.cheques next.db.cheques := by
  cases event_of_step moves with
  | quiet cheques transactions entries redemptions outbox =>
      rw [cheques]
      exact .same rfl
  | created issuing chequeId refused fresh inserted cheques transactions entries redemptions
      outbox =>
      have left : isOwn bankId (issuing.cheque chequeId) = false :=
        decide_eq_false (of_decide_eq_true foreign)
      rw [cheques]
      exact .same (tableDict_insert_of_not_kept left)
  | redeemed request cheque tx redeems cheques transactions entries redemptions outbox =>
      rw [cheques]
      exact .of_saveRow ids redeems.member redeems.active ⟨rfl, rfl, rfl, rfl⟩ (.inl rfl)
  | overdue request cheque reports db redemptions outbox =>
      rw [db]
      exact .same rfl
  | finished redemption banks refused going => exact .same rfl
  | cancelled request cheque member active cheques transactions entries redemptions outbox =>
      have done : klik.cancelled request = next := Option.some.inj moves
      subst done
      simp only [ChequeState.cancelled]
      rcases cancel_cases request klik.db with
        ⟨error, raised⟩ | ⟨old, oldMember, _, issuer, carried⟩
      · rw [raised]
        exact .same rfl
      · have other : old.issuerBank.id ≠ bankId := by
          rw [issuer]
          exact of_decide_eq_true foreign
        have same : SameCheque old (old.cancelledAtTime request.now) := ⟨rfl, rfl, rfl, rfl⟩
        rw [carried]
        exact .same ((shownCheques_saveRow bankId told ids oldMember same).trans (if_neg other))
  | expired run refused cheque member active cheques transactions entries redemptions outbox =>
      rw [cheques]
      exact .of_saveRow ids member active ⟨rfl, rfl, rfl, rfl⟩ (.inr rfl)

/-! ## Steps which are possible -/

section Held

variable {held : HoldState} {index : Nat} {chequeId : Uuid} {cheque : KlikCheque}

theorem klikIssues_eq
    {userId : PyStr} {amount : Int}
    (waits : held.calls[index]? = some (.issuing userId amount none))
    (fresh : held.klik.get? chequeId = none) :
    holdStep held (.klikIssues index chequeId) =
      some { held with
        klik := held.klik.set chequeId
          { userId := userId, amount := amount, status := .active, notified := false }
        calls := held.calls.set index (.issuing userId amount (some chequeId)) } := by
  simp only [holdStep, HoldState.klikIssues, waits, fresh, if_true]

theorem klikEnds_eq
    (found : held.klik.get? chequeId = some cheque) (active : cheque.status = .active)
    (status : ChequeStatus) :
    held.klikEnds chequeId status =
      some { held with klik := held.klik.set chequeId { cheque with status := status } } := by
  simp only [HoldState.klikEnds, found, if_pos active]

theorem klikCancels_eq
    (waits : held.calls[index]? = some (.cancelling chequeId false))
    (found : held.klik.get? chequeId = some cheque) (active : cheque.status = .active) :
    holdStep held (.klikCancels index) =
      some { held with
        klik := held.klik.set chequeId { cheque with status := .cancelled }
        calls := held.calls.set index (.cancelling chequeId true) } := by
  simp only [holdStep, HoldState.klikCancels, waits, klikEnds_eq found active, Option.map_some]

theorem raises_eq {call : BankCall} (waits : held.calls[index]? = some call) :
    holdStep held (.raises index) =
      some { held with calls := held.calls.eraseIdx index } := by
  have bound := (List.getElem?_eq_some_iff.mp waits).1
  simp only [holdStep, HoldState.raises, if_pos bound]

theorem finishIssue_eq
    {userId : PyStr} {amount : Int}
    (waits : held.calls[index]? = some (.issuing userId amount (some chequeId))) :
    holdStep held (.finish index) =
      some { held with
        bank := apiIssueChequeRecord userId amount chequeId held.bank
        calls := held.calls.eraseIdx index } := by
  simp only [holdStep, HoldState.finish, waits]

theorem finishCancel_eq (waits : held.calls[index]? = some (.cancelling chequeId true)) :
    holdStep held (.finish index) =
      some { held with
        bank := apiCancelChequeRecord chequeId held.bank
        calls := held.calls.eraseIdx index } := by
  simp only [holdStep, HoldState.finish, waits]

theorem deliver_eq
    {notice : ChequeNotification} (found : held.klik.get? chequeId = some cheque)
    (about : cheque.notice chequeId = some notice) :
    holdStep held (.deliver chequeId) =
      some { held with
        bank := held.bank.receive notice (some cheque.userId)
        klik := held.klik.set chequeId { cheque with notified := true }
        returned := held.returned ++ refunded notice (some cheque.userId) held.bank } := by
  simp only [holdStep, HoldState.deliver, found, about]

end Held

/-! ## The requests of the bank -/

variable {state after : JointState} {action : JointAction}

theorem shown_call {index : Nat} {request : KlikRequest}
    (going : state.requests[index]? = some request) :
    (state.shown bankId).calls[index]? = some request.asked.shown := by
  rw [JointState.shown, List.getElem?_map, going, Option.map_some]

/-- KLIK goes on with a request, and the handler waits as before. -/
theorem shown_advance
    {index : Nat} {request next : KlikRequest} {klik : ChequeState}
    (going : state.requests[index]? = some request)
    (same : next.asked.shown = request.asked.shown)
    (cheques : klik.db.cheques = state.klik.db.cheques) :
    (state.advance index next klik).shown bankId = state.shown bankId := by
  have calls : (state.requests.set index next).map (fun request => request.asked.shown) =
      state.requests.map fun request => request.asked.shown := by
    rw [List.map_set, same]
    apply List.ext_getElem?
    intro place
    rw [List.getElem?_set]
    split
    · rename_i here
      subst here
      split
      · rw [List.getElem?_map, going, Option.map_some]
      · rename_i beyond
        rw [List.getElem?_eq_none (Nat.not_lt.mp beyond)]
    · rfl
  simp only [JointState.shown, JointState.advance, calls, cheques]

theorem issueStarted_cheques (request : IssueRequest) (klik : ChequeState) :
    (klik.issueStarted request).db.cheques = klik.db.cheques := by
  simp only [ChequeState.issueStarted]
  split
  · rfl
  · rfl

/-- A cheque which KLIK creates for the bank. -/
theorem klikIssues_of_create
    (joined : Joined bankId state) {index : Nat} {chequeId : Uuid}
    {userId : PyStr} {amount : Int} {issuing : Issuing} {waits : Bool} {klik : ChequeState}
    (going : state.requests[index]? = some ⟨.issue userId amount (.drawing issuing), waits⟩)
    (fresh : ∀ old ∈ state.klik.db.cheques, old.id ≠ chequeId)
    (cheques : klik.db.cheques = state.klik.db.cheques ++ [issuing.cheque chequeId]) :
    holdStep (state.shown bankId) (.klikIssues index chequeId) =
      some ((state.advance index ⟨.issue userId amount (.answered chequeId), waits⟩ klik).shown
        bankId) := by
  have fits := joined.drawing _ _ _ _ (List.mem_of_getElem? going)
  have absent : (state.shown bankId).klik.get? chequeId = none := get?_tableDict_of_fresh fresh
  have untold : state.told.contains chequeId = false := by
    rw [← Bool.not_eq_true, List.contains_iff_mem]
    intro told
    rcases List.mem_map.mp (joined.told told) with ⟨old, member, same⟩
    exact fresh old member same
  have own : isOwn bankId (issuing.cheque chequeId) = true := decide_eq_true fits.bank
  have inserted : shownCheques bankId state.told (state.klik.db.cheques ++
      [issuing.cheque chequeId]) =
        (shownCheques bankId state.told state.klik.db.cheques).set chequeId
          { userId := userId, amount := amount, status := .active, notified := false } := by
    rw [shownCheques, tableDict_insert fresh own]
    simp only [shownCheques, shownCheque, chequeCents_of_isFor fits]
    simp only [Issuing.cheque, fits.userId, untold]
  rw [klikIssues_eq (shown_call going) absent]
  simp only [JointState.shown, JointState.advance, cheques, inserted, List.map_set]
  rfl

/-- A cancel request cancels the cheque which it names. -/
theorem id_of_cancelBlock
    {request : CancelRequest} {db : ChequeDb} {row : Cheque}
    (cancelled : (cancelBlock request db).result = .ok row) : row.id = request.chequeId := by
  simp only [cancelBlock] at cancelled
  split at cancelled
  · cases cancelled
  · rename_i cheque found
    split at cancelled
    · cases cancelled
    · split at cancelled
      · cases cancelled
      · cases cancelled
      · cases cancelled
      · split at cancelled
        · cases cancelled
        · cases cancelled
          exact (mem_of_rowAt found).2

theorem id_of_cancel
    {request : CancelRequest} {db : ChequeDb} {row : Cheque}
    (cancelled : (Cheques.cancel request db).result = .ok row) : row.id = request.chequeId := by
  simp only [Cheques.cancel] at cancelled
  split at cancelled
  · cases cancelled
  · apply id_of_cancelBlock
    rw [← result_atomic db]
    split at cancelled
    · exact cancelled
    · exact cancelled

/-- What KLIK makes of a cancel request of the bank. -/
theorem shown_cancelArrived
    (ids : (state.klik.db.cheques.map Cheque.id).Nodup) {index : Nat} {request : CancelRequest}
    {waits : Bool}
    (going : state.requests[index]? = some ⟨.cancel request.chequeId .sent, waits⟩)
    (own : request.bank.id = bankId)
    (next : JointState)
    (moved : next = state.advance index
      ⟨.cancel request.chequeId
        (cancelledStage (Cheques.cancel request state.klik.db).result), waits⟩
      (state.klik.cancelled request)) :
    next.shown bankId = state.shown bankId ∨
      holdStep (state.shown bankId) (.klikCancels index) = some (next.shown bankId) := by
  subst moved
  rcases cancel_cases request state.klik.db with
    ⟨error, raised⟩ | ⟨cheque, member, active, issuer, carried⟩
  · left
    apply shown_advance going
    · rw [raised]
      rfl
    · simp only [ChequeState.cancelled, raised, Outcome.raise]
  · right
    have result : (Cheques.cancel request state.klik.db).result =
        .ok (cheque.cancelledAtTime request.now) := by
      rw [carried]
    have about := id_of_cancel result
    have named : cheque.id = request.chequeId := about
    have kept : isOwn bankId cheque = true := decide_eq_true (issuer.trans own)
    have found : (state.shown bankId).klik.get? request.chequeId =
        some (shownCheque state.told cheque) :=
      (get?_tableDict ids).mpr ⟨cheque, member, kept, named, rfl⟩
    have same : SameCheque cheque (cheque.cancelledAtTime request.now) := ⟨rfl, rfl, rfl, rfl⟩
    have saved := shownCheques_saveRow bankId state.told ids member same
    rw [if_pos (issuer.trans own), named] at saved
    rw [klikCancels_eq (shown_call going) found active]
    simp only [JointState.shown, JointState.advance, ChequeState.cancelled, carried, saved,
      List.map_set]
    rfl

/-! ## Notifications -/

/-- A notification which KLIK has queued is the one about its cheque. -/
theorem notice_of_queued
    (kept : NoticesKept state.klik) {notice : ChequeNotification} {cheque : Cheque}
    (found : rowAt Cheque.id state.klik.db.cheques (noticeCheque notice) = some cheque)
    (queued : notice ∈ state.klik.outbox) :
    (shownCheque state.told cheque).notice cheque.id = some notice := by
  have named : cheque.id = noticeCheque notice := (mem_of_rowAt found).2
  cases notice with
  | redeemed chequeId =>
      have status := kept.redeemed chequeId queued
      rw [statusOf, show rowAt _ _ chequeId = some cheque from found, Option.map_some,
        Option.some.injEq] at status
      simp only [KlikCheque.notice, shownCheque, status, named, noticeCheque]
  | released chequeId reason =>
      have status := kept.released chequeId reason queued
      rw [statusOf, show rowAt _ _ chequeId = some cheque from found, Option.map_some,
        Option.some.injEq] at status
      cases reason with
      | cancelled =>
          have status : cheque.status = .cancelled := status
          simp only [KlikCheque.notice, shownCheque, status, named, noticeCheque]
      | expired =>
          have status : cheque.status = .expired := status
          simp only [KlikCheque.notice, shownCheque, status, named, noticeCheque]

/-- The bank receives a notification. -/
theorem shown_delivered
    (ids : (state.klik.db.cheques.map Cheque.id).Nodup) (kept : NoticesKept state.klik)
    {notice : ChequeNotification} {cheque : Cheque}
    (found : rowAt Cheque.id state.klik.db.cheques (noticeCheque notice) = some cheque)
    (queued : notice ∈ state.klik.outbox) (own : cheque.issuerBank.id = bankId)
    (next : JointState)
    (moved : next = { state with
      bank := state.bank.receive notice (some cheque.issuerUserId)
      told := state.told ++ [cheque.id]
      returned := state.returned ++ refunded notice (some cheque.issuerUserId) state.bank }) :
    holdStep (state.shown bankId) (.deliver cheque.id) = some (next.shown bankId) := by
  subst moved
  have member := (mem_of_rowAt found).1
  have owned : isOwn bankId cheque = true := decide_eq_true own
  have shown : (state.shown bankId).klik.get? cheque.id = some (shownCheque state.told cheque) :=
    (get?_tableDict ids).mpr ⟨cheque, member, owned, rfl, rfl⟩
  have told : shownCheques bankId (state.told ++ [cheque.id]) state.klik.db.cheques =
      (shownCheques bankId state.told state.klik.db.cheques).set cheque.id
        { shownCheque state.told cheque with notified := true } := by
    have changed : tableDict Cheque.id (isOwn bankId) (shownCheque (state.told ++ [cheque.id]))
        state.klik.db.cheques =
          (tableDict Cheque.id (isOwn bankId) (shownCheque state.told) state.klik.db.cheques).set
            cheque.id (shownCheque (state.told ++ [cheque.id]) cheque) := by
      apply tableDict_change ids member owned
      intro other _ apart
      simp [shownCheque, apart]
    rw [shownCheques, changed, shownCheques]
    simp [shownCheque]
  rw [deliver_eq shown (notice_of_queued kept found queued)]
  simp only [JointState.shown, told]
  rfl

/-! ## The refinement -/

/-- A step of KLIK which belongs to no request of the bank. -/
theorem shown_elsewhere
    (ids : (state.klik.db.cheques.map Cheque.id).Nodup)
    {klikAction : ChequeAction} {klik : ChequeState}
    (foreign : isElsewhere bankId klikAction = true)
    (moves : chequeSystem.Step state.klik klikAction klik)
    (next : JointState) (moved : next = { state with klik := klik }) :
    next.shown bankId = state.shown bankId ∨
      ∃ chequeId, holdStep (state.shown bankId) (.klikRedeems chequeId) =
          some (next.shown bankId) ∨
        holdStep (state.shown bankId) (.klikExpires chequeId) = some (next.shown bankId) := by
  subst moved
  have what : EndsElsewhere bankId state.told state.klik.db.cheques klik.db.cheques :=
    endsElsewhere_of_step ids foreign moves
  cases what with
  | same kept =>
      left
      simp only [JointState.shown, kept]
  | ends cheque status member own active final changed =>
      have owned : isOwn bankId cheque = true := decide_eq_true own
      have found : (state.shown bankId).klik.get? cheque.id =
          some (shownCheque state.told cheque) :=
        (get?_tableDict ids).mpr ⟨cheque, member, owned, rfl, rfl⟩
      have ended := klikEnds_eq found active status
      right
      refine ⟨cheque.id, ?_⟩
      simp only [JointState.shown, changed]
      rcases final with rfl | rfl
      · exact .inl ended
      · exact .inr ended

/-- Each step of the bank and KLIK is one of the bank with its cheques, in time
where it is, or none. -/
theorem shown_of_move
    (joined : Joined bankId state) (ids : (state.klik.db.cheques.map Cheque.id).Nodup)
    (kept : NoticesKept state.klik) (move : JointMove bankId state action after) :
    after.shown bankId = state.shown bankId ∨
      ∃ held, holdStep (state.shown bankId) held = some (after.shown bankId) ∧
        (state.inTime bankId action = true → (state.shown bankId).inTime held = true) := by
  cases move with
  | refused => exact .inl rfl
  | @askedIssue userId amount passed =>
      refine .inr ⟨.startIssue userId amount, ?_, fun _ => rfl⟩
      have passes : apiIssueChequeChecks userId amount (state.shown bankId).bank = .ok () := passed
      simp only [holdStep, HoldState.startIssue, passes]
      simp only [JointState.shown, JointState.ask, HoldState.ask, List.map_append]
      rfl
  | @askedCancel chequeId passed =>
      refine .inr ⟨.startCancel chequeId, ?_, fun _ => rfl⟩
      have passes : apiCancelChequeChecks chequeId (state.shown bankId).bank = .ok () := passed
      simp only [holdStep, HoldState.startCancel, passes]
      simp only [JointState.shown, JointState.ask, HoldState.ask, List.map_append]
      rfl
  | arrived going fits begun =>
      left
      apply shown_advance going
      · rcases begun with rfl | rfl
        · rfl
        · rfl
      · exact issueStarted_cheques _ _
  | drawn going moves =>
      left
      refine shown_advance going ?_ ?_
      · rfl
      · simp only [chequeSystem, TransitionSystem.ofStep, chequeStep] at moves
        split at moves
        · cases moves
          rfl
        · cases moves
  | @created index chequeId refused userId amount issuing waits klik going moves =>
      simp only [chequeSystem, TransitionSystem.ofStep, chequeStep] at moves
      split at moves
      · cases moves
        cases creates : Cheques.createCheque chequeId refused issuing state.klik.db.cheques with
        | error error =>
            left
            refine shown_advance going ?_ ?_
            · rfl
            · simp only [ChequeState.chequeCreated, creates]
        | ok cheques =>
            have inserted := createCheque_ok creates
            refine .inr ⟨.klikIssues index chequeId, ?_, fun _ => rfl⟩
            apply klikIssues_of_create joined going inserted.2
            simp only [ChequeState.chequeCreated, creates]
            exact inserted.1
      · cases moves
  | @cancelArrived index request waits going own =>
      rcases shown_cancelArrived ids going own _ rfl with same | cancels
      · exact .inl same
      · exact .inr ⟨.klikCancels index, cancels, fun _ => rfl⟩
  | gaveUp going => exact .inl (shown_advance going rfl rfl)
  | @ended index request going =>
      refine .inr ⟨.raises index, ?_, fun inTime => (Bool.and_eq_true_iff.mp inTime).2⟩
      rw [raises_eq (shown_call going)]
      simp only [JointState.shown, List.eraseIdx_map]
  | @recorded index userId amount chequeId going =>
      refine .inr ⟨.finish index, ?_, fun inTime => (Bool.and_eq_true_iff.mp inTime).2⟩
      rw [finishIssue_eq (shown_call going)]
      simp only [JointState.shown, List.eraseIdx_map]
  | @overwritten index chequeId going =>
      refine .inr ⟨.finish index, ?_, fun inTime => (Bool.and_eq_true_iff.mp inTime).2⟩
      rw [finishCancel_eq (shown_call going)]
      simp only [JointState.shown, List.eraseIdx_map]
  | elsewhere foreign moves =>
      rcases shown_elsewhere ids foreign moves _ rfl with same | ⟨chequeId, redeems | expires⟩
      · exact .inl same
      · exact .inr ⟨.klikRedeems chequeId, redeems, fun _ => rfl⟩
      · exact .inr ⟨.klikExpires chequeId, expires, fun _ => rfl⟩
  | delivered found queued own =>
      exact .inr ⟨_, shown_delivered ids kept found queued own _ rfl, fun _ => rfl⟩

/-- So it is for every step of a run in which KLIK reports no overdue cheque. -/
theorem shown_of_step
    (reached : (reportingSystem bankId).Reachable state)
    (move : (jointSystem bankId).Step state action after) :
    after.shown bankId = state.shown bankId ∨
      ∃ held, holdStep (state.shown bankId) held = some (after.shown bankId) ∧
        (state.inTime bankId action = true → (state.shown bankId).inTime held = true) := by
  have klik := (refines_chequeSystem bankId).reachable reached
  exact shown_of_move (joined_of_reachable reached) (chequeInvariant klik.of_guarded).ids
    (noticesKept_of_reachable klik) (jointMove_of_step move)

theorem isStart_shown (start : state.IsStart) : (state.shown bankId).IsStart where
  clients := start.clients
  named := start.named
  issuedCheques := start.issuedCheques
  klik := by
    simp only [JointState.shown, shownCheques, start.klik.1]
    rfl
  calls := by
    simp only [JointState.shown, start.requests]
    rfl
  returned := start.returned

/-- Where KLIK reports no overdue cheque, the bank at KLIK's endpoints refines
the bank with its cheques. -/
theorem refines_holdSystem (bankId : Uuid) :
    TransitionSystem.Refines (reportingSystem bankId) holdSystem
      (JointState.shown bankId) where
  init _ start := isStart_shown start
  step source label target reached move := by
    rcases shown_of_step reached move.2 with same | ⟨held, moves, _⟩
    · exact .inl same
    · exact .inr ⟨held, moves⟩

theorem reportsInTime_of_inTime
    {state : JointState} {action : JointAction} (inTime : state.inTime bankId action = true) :
    reportsInTime state action = true :=
  (Bool.and_eq_true_iff.mp inTime).1

/-- The joint system in time. -/
def timelySystem (bankId : Uuid) : TransitionSystem JointState JointAction :=
  (jointSystem bankId).guarded fun state action => state.inTime bankId action = true

theorem reporting_of_timely (reached : (timelySystem bankId).Reachable state) :
    (reportingSystem bankId).Reachable state := by
  induction reached with
  | init start => exact .init start
  | step _ move ih => exact .step ih ⟨reportsInTime_of_inTime move.1, move.2⟩

/-- In time, it refines the bank which is in time. -/
theorem refines_holdSystem_inTime (bankId : Uuid) :
    TransitionSystem.Refines (timelySystem bankId)
      (holdSystem.guarded fun state action => state.inTime action = true)
      (JointState.shown bankId) where
  init _ start := isStart_shown start
  step source label target reached move := by
    rcases shown_of_step (reporting_of_timely reached) move.2 with
      same | ⟨held, moves, inTime⟩
    · exact .inl same
    · exact .inr ⟨held, inTime move.1, moves⟩

end Klik.BankIO
