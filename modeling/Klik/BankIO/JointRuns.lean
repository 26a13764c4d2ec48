import Klik.BankIO.ChequeRequests
import Klik.Lib.Refinement

/-!
# Runs of the bank and KLIK

A run of the bank at KLIK's endpoints is a run of KLIK, so that what holds in
these holds beside the bank.  A request which draws a code draws it for the
client who asked, and every cheque of the bank is one which it asked for.
-/

namespace Klik.BankIO

open Klik.Banks
open Klik.Cheques
open Klik.Codes
open Klik.Common
open Klik.Lib

/-! ## The runs of KLIK -/

/-- No redeem request reports an overdue cheque. -/
def reportsInTime (state : JointState) : JointAction → Bool
  | .klik action => queuesNothing state.klik action
  | _ => true

variable {bankId : Uuid} {state after : JointState} {action : JointAction}

/-- A step of the bank and KLIK is a step of KLIK, or none of it. -/
theorem klik_of_move (move : JointMove bankId state action after) :
    after.klik = state.klik ∨
      ∃ klikAction, chequeSystem.Step state.klik klikAction after.klik ∧
        (reportsInTime state action = true → RedeemsInTime state.klik klikAction) := by
  cases move with
  | refused => exact .inl rfl
  | askedIssue passed => exact .inl rfl
  | askedCancel passed => exact .inl rfl
  | arrived going fits begun => exact .inr ⟨.startIssue _, rfl, fun _ => trivial⟩
  | drawn going moves => exact .inr ⟨_, moves, fun _ => trivial⟩
  | created going moves => exact .inr ⟨_, moves, fun _ => trivial⟩
  | cancelArrived going own => exact .inr ⟨.cancel _, rfl, fun _ => trivial⟩
  | gaveUp going => exact .inl rfl
  | ended going => exact .inl rfl
  | recorded going => exact .inl rfl
  | overwritten going => exact .inl rfl
  | elsewhere foreign moves =>
      exact .inr ⟨_, moves, fun inTime => redeemsInTime_of_queuesNothing inTime⟩
  | delivered found queued own => exact .inl rfl

/-- The joint system without reports of overdue cheques. -/
def reportingSystem (bankId : Uuid) : TransitionSystem JointState JointAction :=
  (jointSystem bankId).guarded fun state action => reportsInTime state action = true

theorem refines_chequeSystem (bankId : Uuid) :
    TransitionSystem.Refines (reportingSystem bankId) (chequeSystem.guarded RedeemsInTime)
      JointState.klik where
  init _ start := start.klik
  step _ _ _ _ move := by
    rcases klik_of_move (jointMove_of_step move.2) with same | ⟨klikAction, moves, inTime⟩
    · exact .inl same
    · exact .inr ⟨klikAction, inTime move.1, moves⟩

/-! ## What stays of a cheque -/

/-- Two rows of one cheque: the columns which its end leaves. -/
structure SameCheque (old row : Cheque) : Prop where
  id : row.id = old.id
  issuerBank : row.issuerBank = old.issuerBank
  issuerUserId : row.issuerUserId = old.issuerUserId
  amount : row.amount = old.amount

theorem SameCheque.refl (cheque : Cheque) : SameCheque cheque cheque :=
  ⟨rfl, rfl, rfl, rfl⟩

/-- A cheque is an old one, or was issued in the step. -/
theorem cheque_origin
    {klik next : ChequeState} {klikAction : ChequeAction}
    (moves : chequeSystem.Step klik klikAction next) {cheque : Cheque}
    (member : cheque ∈ next.db.cheques) :
    (∃ old ∈ klik.db.cheques, SameCheque old cheque) ∨
      ∃ issuing chequeId refused, klikAction = .createCheque issuing chequeId refused ∧
        cheque = issuing.cheque chequeId := by
  have saved : ∀ {old row : Cheque},
      next.db.cheques = saveRow Cheque.id row klik.db.cheques →
        old ∈ klik.db.cheques → SameCheque old row →
          ∃ old ∈ klik.db.cheques, SameCheque old cheque := by
    intro old row cheques oldMember same
    rw [cheques] at member
    rcases mem_saveRow member with rfl | ⟨earlier, _⟩
    · exact ⟨old, oldMember, same⟩
    · exact ⟨cheque, earlier, .refl cheque⟩
  cases event_of_step moves with
  | quiet cheques transactions entries redemptions outbox =>
      rw [cheques] at member
      exact .inl ⟨cheque, member, .refl cheque⟩
  | created issuing chequeId refused fresh inserted cheques transactions entries redemptions
      outbox =>
      rw [cheques] at member
      rcases List.mem_append.mp member with earlier | new
      · exact .inl ⟨cheque, earlier, .refl cheque⟩
      · exact .inr ⟨issuing, chequeId, refused, rfl, List.mem_singleton.mp new⟩
  | redeemed request old tx redeems cheques transactions entries redemptions outbox =>
      exact .inl (saved cheques redeems.member ⟨rfl, rfl, rfl, rfl⟩)
  | overdue request old reports db redemptions outbox =>
      rw [db] at member
      exact .inl ⟨cheque, member, .refl cheque⟩
  | finished redemption banks refused going => exact .inl ⟨cheque, member, .refl cheque⟩
  | cancelled request old oldMember active cheques transactions entries redemptions outbox =>
      exact .inl (saved cheques oldMember ⟨rfl, rfl, rfl, rfl⟩)
  | expired run refused old oldMember active cheques transactions entries redemptions outbox =>
      exact .inl (saved cheques oldMember ⟨rfl, rfl, rfl, rfl⟩)

/-- A cheque stays in its table. -/
theorem ids_subset
    {klik next : ChequeState} {klikAction : ChequeAction}
    (moves : chequeSystem.Step klik klikAction next) :
    klik.db.cheques.map Cheque.id ⊆ next.db.cheques.map Cheque.id := by
  cases effect_of_step moves with
  | same cheques transactions =>
      rw [cheques]
      exact List.Subset.refl _
  | issued cheque fresh new cheques transactions =>
      rw [cheques, List.map_append]
      exact List.subset_append_left _ _
  | redeemed request cheque tx redeems cheques transactions =>
      rw [cheques, keys_saveRow]
      exact List.Subset.refl _
  | cancelled cheque now member active cheques transactions =>
      rw [cheques, keys_saveRow]
      exact List.Subset.refl _
  | expired cheque now found active selected cheques transactions =>
      rw [cheques, keys_saveRow]
      exact List.Subset.refl _

/-! ## The requests -/

/-- The cents of an amount. -/
def chequeCents (cheque : Cheque) : Int := (cheque.amount * 100).floor

/-- The bank's cheques are over whole cents, the requests which draw a code are
for the clients who asked, and the webhooks were about cheques. -/
structure Joined (bankId : Uuid) (state : JointState) : Prop where
  told : state.told ⊆ state.klik.db.cheques.map Cheque.id
  drawing : ∀ userId amount issuing waits,
    ⟨.issue userId amount (.drawing issuing), waits⟩ ∈ state.requests →
      IsFor bankId userId amount issuing.request
  cents : ∀ cheque ∈ state.klik.db.cheques, cheque.issuerBank.id = bankId →
    cheque.amount = (chequeCents cheque : Decimal) / 100

theorem chequeCents_of_isFor
    {userId : PyStr} {amount : Int} {issuing : Issuing}
    (fits : IsFor bankId userId amount issuing.request) (chequeId : Uuid) :
    chequeCents (issuing.cheque chequeId) = amount := by
  have whole : (amount : Decimal) / 100 * 100 = amount := by ring
  rw [chequeCents, Issuing.cheque, fits.amount, whole, Rat.floor_intCast]

theorem Joined.klik
    (joined : Joined bankId state) {next : ChequeState} {klikAction : ChequeAction}
    (moves : chequeSystem.Step state.klik klikAction next)
    (issues : ∀ issuing chequeId refused, klikAction = .createCheque issuing chequeId refused →
      issuing.request.bank.id = bankId →
        ∃ userId amount, IsFor bankId userId amount issuing.request) :
    Joined bankId { state with klik := next } where
  told := List.Subset.trans joined.told (ids_subset moves)
  drawing := joined.drawing
  cents := by
    intro cheque member own
    rcases cheque_origin moves member with
      ⟨old, oldMember, same⟩ | ⟨issuing, chequeId, refused, creates, rfl⟩
    · have before := joined.cents old oldMember (same.issuerBank ▸ own)
      rw [chequeCents, same.amount]
      exact before
    · rcases issues issuing chequeId refused creates own with ⟨userId, amount, fits⟩
      rw [chequeCents_of_isFor fits]
      exact fits.amount

/-- A request moves on. -/
theorem Joined.advance
    (joined : Joined bankId state) (index : Nat) (request : KlikRequest)
    (drawing : ∀ userId amount issuing, request.asked = .issue userId amount (.drawing issuing) →
      IsFor bankId userId amount issuing.request) :
    Joined bankId (state.advance index request state.klik) where
  told := joined.told
  cents := joined.cents
  drawing := by
    intro userId amount issuing waits member
    rcases List.mem_or_eq_of_mem_set member with earlier | now
    · exact joined.drawing userId amount issuing waits earlier
    · exact drawing userId amount issuing (congrArg KlikRequest.asked now.symm)

/-- The requests which are left are as good. -/
theorem Joined.subset
    (joined : Joined bankId state) {bank : BankState} {requests : List KlikRequest}
    (subset : requests ⊆ state.requests) {told returned : List Uuid}
    (known : told ⊆ state.klik.db.cheques.map Cheque.id) :
    Joined bankId { state with
      bank := bank, requests := requests, told := told, returned := returned } where
  told := known
  drawing := fun userId amount issuing waits member =>
    joined.drawing userId amount issuing waits (subset member)
  cents := joined.cents

theorem Joined.ask
    (joined : Joined bankId state) (asked : Asked)
    (undrawn : ∀ userId amount issuing, asked ≠ .issue userId amount (.drawing issuing)) :
    Joined bankId (state.ask asked) where
  told := joined.told
  cents := joined.cents
  drawing := by
    intro userId amount issuing waits member
    rcases List.mem_append.mp member with earlier | new
    · exact joined.drawing userId amount issuing waits earlier
    · cases List.mem_singleton.mp new
      exact absurd rfl (undrawn userId amount issuing)

theorem joined_of_move (joined : Joined bankId state) (move : JointMove bankId state action after) :
    Joined bankId after := by
  cases move with
  | refused => exact joined
  | askedIssue passed => exact joined.ask _ (by intro _ _ _ same; cases same)
  | askedCancel passed => exact joined.ask _ (by intro _ _ _ same; cases same)
  | @arrived index request userId amount waits stage going fits begun =>
      have moved := joined.advance index ⟨.issue userId amount stage, waits⟩ (by
        intro _ _ issuing same
        cases same
        rcases begun with same | same
        · cases same
        · cases same
          exact fits)
      have starts : chequeSystem.Step state.klik (.startIssue request)
          (state.klik.issueStarted request) := rfl
      exact moved.klik starts (by intro _ _ _ same; cases same)
  | @drawn index code userId amount issuing waits klik going moves =>
      have fits := joined.drawing _ _ _ _ (List.mem_of_getElem? going)
      have moved := joined.advance index
        ⟨.issue userId amount (.drawing (issuing.draw code state.klik.db.cheques)), waits⟩ (by
          intro _ _ _ same
          cases same
          exact fits)
      exact moved.klik moves (by intro _ _ _ same; cases same)
  | @created index chequeId refused userId amount issuing waits klik going moves =>
      have fits := joined.drawing _ _ _ _ (List.mem_of_getElem? going)
      have moved := joined.advance index
        ⟨.issue userId amount (createdStage chequeId
          (Cheques.createCheque chequeId refused issuing state.klik.db.cheques)), waits⟩ (by
          intro _ _ _ same
          cases creates : Cheques.createCheque chequeId refused issuing state.klik.db.cheques with
          | error error =>
              rw [creates] at same
              cases same
          | ok cheques =>
              rw [creates] at same
              cases same)
      exact moved.klik moves (by
        intro _ _ _ same _
        cases same
        exact ⟨userId, amount, fits⟩)
  | @cancelArrived index request waits going own =>
      have moved := joined.advance index
        ⟨.cancel request.chequeId
          (cancelledStage (Cheques.cancel request state.klik.db).result), waits⟩
        (by intro _ _ _ same; cases same)
      have cancels : chequeSystem.Step state.klik (.cancel request)
          (state.klik.cancelled request) := rfl
      exact moved.klik cancels (by intro _ _ _ same; cases same)
  | @gaveUp index request going =>
      apply joined.advance index { request with waits := false }
      intro userId amount issuing same
      apply joined.drawing userId amount issuing request.waits
      rw [← same]
      exact List.mem_of_getElem? going
  | ended going => exact joined.subset (List.eraseIdx_subset) joined.told
  | recorded going => exact joined.subset (List.eraseIdx_subset) joined.told
  | overwritten going => exact joined.subset (List.eraseIdx_subset) joined.told
  | elsewhere foreign moves =>
      apply joined.klik moves
      intro issuing chequeId refused same own
      rw [same] at foreign
      exact absurd own (of_decide_eq_true foreign)
  | delivered found queued own =>
      apply joined.subset (List.Subset.refl _)
      apply List.append_subset.mpr
      refine ⟨joined.told, ?_⟩
      intro id told
      rw [List.mem_singleton.mp told]
      exact List.mem_map_of_mem (mem_of_rowAt found).1

theorem joined_of_reachable (reached : (reportingSystem bankId).Reachable state) :
    Joined bankId state := by
  apply reached.invariant
  · intro start isStart
    constructor
    · rw [isStart.told]
      exact List.nil_subset _
    · intro userId amount issuing waits member
      rw [isStart.requests] at member
      cases member
    · intro cheque member
      rw [isStart.klik.1] at member
      cases member
  · intro source label target _ joined move
    exact joined_of_move joined (jointMove_of_step move.2)

end Klik.BankIO
