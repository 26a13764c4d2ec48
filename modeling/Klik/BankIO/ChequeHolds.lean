import Klik.BankIO.Cheques

/-!
# The bank and KLIK

The handlers of the bank, the cheques of KLIK and the webhooks, in any
interleaving.  A handler which asks KLIK is cut where it waits for the reply:
KLIK acts on the request, the reply comes or is lost, and the handler writes,
in steps of their own.  The webhook of a cheque comes at any time after KLIK
has changed the cheque, and as often as it likes.
-/

namespace Klik.BankIO

open Klik.Cheques
open Klik.Common
open Klik.Lib

/-- Neither spent nor to be spent. -/
def isReleased : ChequeStatus → Bool
  | .cancelled | .expired => true
  | .active | .redeemed => false

/-- A cheque at KLIK, and whether the webhook about its end was delivered. -/
structure KlikCheque where
  userId : PyStr
  amount : Int
  status : ChequeStatus
  notified : Bool
deriving DecidableEq, Repr

/-- A handler which waits for KLIK, with what KLIK has answered. -/
inductive BankCall where
  | issuing (userId : PyStr) (amount : Int) (answer : Option Uuid)
  | cancelling (chequeId : Uuid) (answered : Bool)
deriving DecidableEq, Repr

/-- The balances at the start, the bank, KLIK, the handlers which wait, and
the cheques whose holds the webhooks gave back, in order. -/
structure HoldState where
  opening : InsertionDict PyStr Int
  bank : BankState
  klik : InsertionDict Uuid KlikCheque
  calls : List BankCall
  returned : List Uuid
deriving DecidableEq, Repr

inductive HoldAction where
  | startIssue (userId : PyStr) (amount : Int)
  | startCancel (chequeId : Uuid)
  | klikIssues (index : Nat) (chequeId : Uuid)
  | klikCancels (index : Nat)
  /-- The request raises: KLIK refuses it, or its reply does not arrive. -/
  | raises (index : Nat)
  | finish (index : Nat)
  | klikRedeems (chequeId : Uuid)
  | klikExpires (chequeId : Uuid)
  | deliver (chequeId : Uuid)
deriving DecidableEq, Repr

/-- What KLIK notifies the bank of, once a cheque has ended. -/
def KlikCheque.notice (chequeId : Uuid) (cheque : KlikCheque) : Option ChequeNotification :=
  match cheque.status with
  | .active => none
  | .redeemed => some (.redeemed chequeId)
  | .cancelled => some (.released chequeId .cancelled)
  | .expired => some (.released chequeId .expired)

/-- The hold which a notification gives back. -/
def refunded (notice : ChequeNotification) (payloadUserId : Option PyStr) (bank : BankState) :
    List Uuid :=
  match notice with
  | .redeemed _ => []
  | .released chequeId _ =>
      ((releaseRefund chequeId payloadUserId bank).map fun _ => chequeId).toList

/-! ## Steps -/

def HoldState.ask (call : BankCall) (state : HoldState) : HoldState :=
  { state with calls := state.calls ++ [call] }

/-- KLIK ends an active cheque. -/
def HoldState.klikEnds (chequeId : Uuid) (status : ChequeStatus) (state : HoldState) :
    Option HoldState :=
  match state.klik.get? chequeId with
  | none => none
  | some cheque =>
      if cheque.status = .active then
        some { state with klik := state.klik.set chequeId { cheque with status := status } }
      else none

def HoldState.startIssue (userId : PyStr) (amount : Int) (state : HoldState) : HoldState :=
  match apiIssueChequeChecks userId amount state.bank with
  | .error _ => state
  | .ok _ => state.ask (.issuing userId amount none)

def HoldState.startCancel (chequeId : Uuid) (state : HoldState) : HoldState :=
  match apiCancelChequeChecks chequeId state.bank with
  | .error _ => state
  | .ok _ => state.ask (.cancelling chequeId false)

def HoldState.klikIssues (index : Nat) (chequeId : Uuid) (state : HoldState) :
    Option HoldState :=
  match state.calls[index]? with
  | some (.issuing userId amount none) =>
      if state.klik.get? chequeId = none then
        some { state with
          klik := state.klik.set chequeId
            { userId := userId
              amount := amount
              status := .active
              notified := false }
          calls := state.calls.set index (.issuing userId amount (some chequeId)) }
      else none
  | _ => none

def HoldState.klikCancels (index : Nat) (state : HoldState) : Option HoldState :=
  match state.calls[index]? with
  | some (.cancelling chequeId false) =>
      (state.klikEnds chequeId .cancelled).map fun ended =>
        { ended with calls := ended.calls.set index (.cancelling chequeId true) }
  | _ => none

/-- A handler whose request raised writes nothing. -/
def HoldState.raises (index : Nat) (state : HoldState) : Option HoldState :=
  if index < state.calls.length then
    some { state with calls := state.calls.eraseIdx index }
  else none

/-- A handler which has got its reply writes. -/
def HoldState.finish (index : Nat) (state : HoldState) : Option HoldState :=
  match state.calls[index]? with
  | some (.issuing userId amount (some chequeId)) =>
      some { state with
        bank := apiIssueChequeRecord userId amount chequeId state.bank
        calls := state.calls.eraseIdx index }
  | some (.cancelling chequeId true) =>
      some { state with
        bank := apiCancelChequeRecord chequeId state.bank
        calls := state.calls.eraseIdx index }
  | _ => none

/-- The webhook of a cheque which has ended. -/
def HoldState.deliver (chequeId : Uuid) (state : HoldState) : Option HoldState :=
  match state.klik.get? chequeId with
  | none => none
  | some cheque =>
      match cheque.notice chequeId with
      | none => none
      | some notice =>
          some { state with
            bank := state.bank.receive notice (some cheque.userId)
            klik := state.klik.set chequeId { cheque with notified := true }
            returned := state.returned ++ refunded notice (some cheque.userId) state.bank }

/-- One step, where it is possible. -/
def holdStep (state : HoldState) : HoldAction → Option HoldState
  | .startIssue userId amount => some (state.startIssue userId amount)
  | .startCancel chequeId => some (state.startCancel chequeId)
  | .klikIssues index chequeId => state.klikIssues index chequeId
  | .klikCancels index => state.klikCancels index
  | .raises index => state.raises index
  | .finish index => state.finish index
  | .klikRedeems chequeId => state.klikEnds chequeId .redeemed
  | .klikExpires chequeId => state.klikEnds chequeId .expired
  | .deliver chequeId => state.deliver chequeId

/-- Before any cheque; no client has the empty text for its key. -/
structure HoldState.IsStart (state : HoldState) : Prop where
  clients : state.bank.clients = state.opening
  named : state.opening.get? [] = none
  issuedCheques : state.bank.issuedCheques = []
  klik : state.klik = []
  calls : state.calls = []
  returned : state.returned = []

def holdSystem : TransitionSystem HoldState HoldAction :=
  .ofStep HoldState.IsStart holdStep

/-! ## What a step can do -/

/-- What one step does, told once for all invariants. -/
inductive HoldMove (state : HoldState) : HoldAction → HoldState → Prop where
  | refused {action : HoldAction} : HoldMove state action state
  | askedIssue {userId : PyStr} {amount : Int}
      (known : (state.bank.clients.get? userId).isSome) :
      HoldMove state (.startIssue userId amount)
        (state.ask (.issuing userId amount none))
  | askedCancel {chequeId : Uuid} :
      HoldMove state (.startCancel chequeId) (state.ask (.cancelling chequeId false))
  | issued {index : Nat} {chequeId : Uuid} {userId : PyStr} {amount : Int}
      (waits : state.calls[index]? = some (.issuing userId amount none))
      (fresh : state.klik.get? chequeId = none) :
      HoldMove state (.klikIssues index chequeId)
        { state with
          klik := state.klik.set chequeId
            { userId := userId
              amount := amount
              status := .active
              notified := false }
          calls := state.calls.set index (.issuing userId amount (some chequeId)) }
  | cancelled {index : Nat} {chequeId : Uuid} {cheque : KlikCheque}
      (waits : state.calls[index]? = some (.cancelling chequeId false))
      (found : state.klik.get? chequeId = some cheque) (active : cheque.status = .active) :
      HoldMove state (.klikCancels index)
        { state with
          klik := state.klik.set chequeId { cheque with status := .cancelled }
          calls := state.calls.set index (.cancelling chequeId true) }
  | raised {index : Nat} {call : BankCall} (waits : state.calls[index]? = some call) :
      HoldMove state (.raises index) { state with calls := state.calls.eraseIdx index }
  | recorded {index : Nat} {userId : PyStr} {amount : Int} {chequeId : Uuid}
      (waits : state.calls[index]? = some (.issuing userId amount (some chequeId))) :
      HoldMove state (.finish index)
        { state with
          bank := apiIssueChequeRecord userId amount chequeId state.bank
          calls := state.calls.eraseIdx index }
  | overwritten {index : Nat} {chequeId : Uuid}
      (waits : state.calls[index]? = some (.cancelling chequeId true)) :
      HoldMove state (.finish index)
        { state with
          bank := apiCancelChequeRecord chequeId state.bank
          calls := state.calls.eraseIdx index }
  | ended {action : HoldAction} {chequeId : Uuid} {cheque : KlikCheque} {status : ChequeStatus}
      (found : state.klik.get? chequeId = some cheque) (active : cheque.status = .active)
      (final : status ≠ .active) :
      HoldMove state action
        { state with klik := state.klik.set chequeId { cheque with status := status } }
  | delivered {chequeId : Uuid} {cheque : KlikCheque} {notice : ChequeNotification}
      (found : state.klik.get? chequeId = some cheque)
      (about : cheque.notice chequeId = some notice) :
      HoldMove state (.deliver chequeId)
        { state with
          bank := state.bank.receive notice (some cheque.userId)
          klik := state.klik.set chequeId { cheque with notified := true }
          returned := state.returned ++ refunded notice (some cheque.userId) state.bank }

theorem klikEnds_some
    {state after : HoldState} {chequeId : Uuid} {status : ChequeStatus}
    (ended : state.klikEnds chequeId status = some after) :
    ∃ cheque, state.klik.get? chequeId = some cheque ∧ cheque.status = .active ∧
      after = { state with
        klik := state.klik.set chequeId { cheque with status := status } } := by
  simp only [HoldState.klikEnds] at ended
  split at ended
  · cases ended
  · rename_i cheque found
    split at ended
    · rename_i active
      cases ended
      exact ⟨cheque, found, active, rfl⟩
    · cases ended

theorem HoldMove.of_klikEnds
    {state after : HoldState} {action : HoldAction} {chequeId : Uuid} {status : ChequeStatus}
    (final : status ≠ .active) (ended : state.klikEnds chequeId status = some after) :
    HoldMove state action after := by
  rcases klikEnds_some ended with ⟨cheque, found, active, rfl⟩
  exact .ended found active final

/-- The checks of `api_issue_cheque` let clients of the bank pass. -/
theorem isSome_of_apiIssueChequeChecks
    {userId : PyStr} {amount : Int} {bank : BankState}
    (passed : apiIssueChequeChecks userId amount bank = .ok ()) :
    (bank.clients.get? userId).isSome := by
  simp only [apiIssueChequeChecks] at passed
  split at passed
  · cases passed
  · rename_i balance found
    rw [found, Option.isSome_some]

theorem holdMove_of_step
    {state after : HoldState} {action : HoldAction}
    (move : holdSystem.Step state action after) : HoldMove state action after := by
  simp only [holdSystem, TransitionSystem.ofStep] at move
  cases action with
  | startIssue userId amount =>
      cases move
      simp only [HoldState.startIssue]
      split
      · exact .refused
      · rename_i passed
        exact .askedIssue (isSome_of_apiIssueChequeChecks passed)
  | startCancel chequeId =>
      cases move
      simp only [HoldState.startCancel]
      split
      · exact .refused
      · exact .askedCancel
  | klikIssues index chequeId =>
      simp only [holdStep, HoldState.klikIssues] at move
      split at move
      · rename_i userId amount waits
        split at move
        · rename_i fresh
          cases move
          exact .issued waits fresh
        · cases move
      · cases move
  | klikCancels index =>
      simp only [holdStep, HoldState.klikCancels] at move
      split at move
      · rename_i chequeId waits
        rcases Option.map_eq_some_iff.mp move with ⟨between, ended, rfl⟩
        rcases klikEnds_some ended with ⟨cheque, found, active, rfl⟩
        exact .cancelled waits found active
      · cases move
  | raises index =>
      simp only [holdStep, HoldState.raises] at move
      split at move
      · rename_i bound
        cases move
        exact .raised (List.getElem?_eq_getElem bound)
      · cases move
  | finish index =>
      simp only [holdStep, HoldState.finish] at move
      split at move
      · rename_i userId amount chequeId waits
        cases move
        exact .recorded waits
      · rename_i chequeId waits
        cases move
        exact .overwritten waits
      · cases move
  | klikRedeems chequeId =>
      have final : ChequeStatus.redeemed ≠ .active := fun same => by cases same
      exact .of_klikEnds final move
  | klikExpires chequeId =>
      have final : ChequeStatus.expired ≠ .active := fun same => by cases same
      exact .of_klikEnds final move
  | deliver chequeId =>
      simp only [holdStep, HoldState.deliver] at move
      split at move
      · cases move
      · rename_i cheque found
        split at move
        · cases move
        · rename_i notice about
          cases move
          exact .delivered found about

/-! ## The cheques of KLIK -/

/-- How the status of a cheque at KLIK moves: a cheque is issued as active,
and an active one ends once. -/
inductive Lifecycle : Option ChequeStatus → Option ChequeStatus → Prop where
  | same (status : Option ChequeStatus) : Lifecycle status status
  | issued : Lifecycle none (some .active)
  | ended {status : ChequeStatus} (final : status ≠ .active) :
      Lifecycle (some .active) (some status)

theorem lifecycle_set
    {klik : InsertionDict Uuid KlikCheque} {chequeId : Uuid} {changed : KlikCheque}
    (moves : Lifecycle ((klik.get? chequeId).map KlikCheque.status) (some changed.status))
    (other : Uuid) :
    Lifecycle ((klik.get? other).map KlikCheque.status)
      (((klik.set chequeId changed).get? other).map KlikCheque.status) := by
  rw [InsertionDict.get?_set]
  split
  · rename_i same
    subst same
    exact moves
  · exact .same _

/-- The cheques of KLIK which the bank deals with follow the life cycle. -/
theorem klik_lifecycle
    {state after : HoldState} {action : HoldAction}
    (move : holdSystem.Step state action after) (chequeId : Uuid) :
    Lifecycle ((state.klik.get? chequeId).map KlikCheque.status)
      ((after.klik.get? chequeId).map KlikCheque.status) := by
  cases holdMove_of_step move with
  | refused => exact .same _
  | askedIssue known => exact .same _
  | askedCancel => exact .same _
  | issued waits fresh =>
      apply lifecycle_set
      rw [fresh]
      exact .issued
  | cancelled waits found active =>
      apply lifecycle_set
      rw [found, Option.map_some, active]
      exact .ended fun same => by cases same
  | raised waits => exact .same _
  | recorded waits => exact .same _
  | overwritten waits => exact .same _
  | ended found active final =>
      apply lifecycle_set
      rw [found, Option.map_some, active]
      exact .ended final
  | delivered found about =>
      apply lifecycle_set
      rw [found]
      exact .same _

/-- So do the cheques of KLIK's endpoints and of its task. -/
theorem chequeSystem_lifecycle
    {state after : ChequeState} {action : ChequeAction}
    (reached : chequeSystem.Reachable state) (move : chequeSystem.Step state action after)
    (chequeId : Uuid) :
    Lifecycle (statusOf chequeId state.db.cheques) (statusOf chequeId after.db.cheques) := by
  have invariant := chequeInvariant reached
  have table := table_of_step invariant move
  simp only [statusOf]
  cases found : rowAt Cheque.id state.db.cheques chequeId with
  | none =>
      rcases table.rowAt_of_absent found with absent | ⟨cheque, added, new⟩
      · rw [absent]
        exact .same _
      · rw [added, Option.map_some, new.status]
        exact .issued
  | some cheque =>
      rcases table.rowAt invariant.ids found with kept | ⟨next, changed, change⟩
      · rw [kept]
        exact .same _
      · rw [changed, Option.map_some, Option.map_some, change.active]
        exact .ended change.ended

end Klik.BankIO
