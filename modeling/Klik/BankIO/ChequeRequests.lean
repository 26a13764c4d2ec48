import Klik.BankIO.ChequeHolds

/-!
# The bank at KLIK's cheque endpoints

The handlers of one bank and KLIK's own endpoints and task, with the requests
of the other banks and of the agents between any two steps.  A request of the
bank is a piece of work which KLIK goes on with also after the handler has
given it up.  A webhook is a notification which KLIK has queued, sent at any
later time and as often as it likes.
-/

namespace Klik.BankIO

open Klik.Banks
open Klik.Cheques
open Klik.Codes
open Klik.Common
open Klik.Lib

/-! ## Requests -/

/-- How far KLIK is with a request to issue a cheque. -/
inductive IssueStage where
  | sent
  | drawing (issuing : Issuing)
  | refused
  | answered (chequeId : Uuid)
deriving DecidableEq, Repr

/-- How far KLIK is with a request to cancel a cheque. -/
inductive CancelStage where
  | sent
  | refused
  | answered
deriving DecidableEq, Repr

inductive Asked where
  | issue (userId : PyStr) (amount : Int) (stage : IssueStage)
  | cancel (chequeId : Uuid) (stage : CancelStage)
deriving DecidableEq, Repr

/-- A request, and whether its handler still waits for the reply. -/
structure KlikRequest where
  asked : Asked
  waits : Bool
deriving DecidableEq, Repr

/-- The balances at the start, the bank, KLIK, the requests between them, the
cheques whose webhooks the bank has received, and those whose holds it gave
back. -/
structure JointState where
  opening : InsertionDict PyStr Int
  bank : BankState
  klik : ChequeState
  requests : List KlikRequest
  told : List Uuid
  returned : List Uuid
deriving DecidableEq, Repr

inductive JointAction where
  | startIssue (userId : PyStr) (amount : Int)
  | startCancel (chequeId : Uuid)
  | issueArrives (index : Nat) (request : IssueRequest)
  | drawCode (index : Nat) (code : PyStr)
  | createCheque (index : Nat) (chequeId : Uuid) (refused : Bool)
  | cancelArrives (index : Nat) (request : CancelRequest)
  /-- The handler raises without a reply. -/
  | givesUp (index : Nat)
  /-- The request is refused, or it or its reply is lost. -/
  | ends (index : Nat)
  | finish (index : Nat)
  /-- KLIK does something else. -/
  | klik (action : ChequeAction)
  | deliver (notice : ChequeNotification)

/-! ## Steps -/

def JointState.ask (asked : Asked) (state : JointState) : JointState :=
  { state with requests := state.requests ++ [⟨asked, true⟩] }

def JointState.startIssue (userId : PyStr) (amount : Int) (state : JointState) : JointState :=
  match apiIssueChequeChecks userId amount state.bank with
  | .error _ => state
  | .ok _ => state.ask (.issue userId amount .sent)

def JointState.startCancel (chequeId : Uuid) (state : JointState) : JointState :=
  match apiCancelChequeChecks chequeId state.bank with
  | .error _ => state
  | .ok _ => state.ask (.cancel chequeId .sent)

/-- KLIK has gone on with a request. -/
def JointState.advance (index : Nat) (request : KlikRequest) (klik : ChequeState)
    (state : JointState) : JointState :=
  { state with
    klik := klik
    requests := state.requests.set index request }

/-- What KLIK's checks make of a request to issue a cheque. -/
def startedStage : Except ChequeError (IssueResponse ⊕ Issuing) → IssueStage
  | .error _ => .refused
  | .ok (.inl response) => .answered response.chequeId
  | .ok (.inr issuing) => .drawing issuing

/-- The body which the handler sends, and a key which it draws anew. -/
def isSent (bankId : Uuid) (userId : PyStr) (amount : Int) (cheques : List Cheque)
    (request : IssueRequest) : Bool :=
  request.bank.id = bankId && request.data.userId = userId &&
    request.data.amount = (amount : Decimal) / 100 &&
      (issuedUnder bankId request.idempotencyKey cheques).isNone

def JointState.issueArrives (bankId : Uuid) (index : Nat) (request : IssueRequest)
    (state : JointState) : Option JointState :=
  match state.requests[index]? with
  | some ⟨.issue userId amount .sent, waits⟩ =>
      if isSent bankId userId amount state.klik.db.cheques request then
        some (state.advance index
          ⟨.issue userId amount (startedStage (Cheques.startIssue request state.klik.db.cheques)),
            waits⟩
          (state.klik.issueStarted request))
      else none
  | _ => none

def JointState.drawCode (index : Nat) (code : PyStr) (state : JointState) :
    Option JointState :=
  match state.requests[index]? with
  | some ⟨.issue userId amount (.drawing issuing), waits⟩ =>
      (chequeStep state.klik (.drawCode issuing code)).map
        (state.advance index
          ⟨.issue userId amount (.drawing (issuing.draw code state.klik.db.cheques)), waits⟩)
  | _ => none

def createdStage (chequeId : Uuid) : Except ChequeError (List Cheque) → IssueStage
  | .error _ => .refused
  | .ok _ => .answered chequeId

def JointState.createCheque (index : Nat) (chequeId : Uuid) (refused : Bool)
    (state : JointState) : Option JointState :=
  match state.requests[index]? with
  | some ⟨.issue userId amount (.drawing issuing), waits⟩ =>
      (chequeStep state.klik (.createCheque issuing chequeId refused)).map
        (state.advance index
          ⟨.issue userId amount (createdStage chequeId
            (Cheques.createCheque chequeId refused issuing state.klik.db.cheques)), waits⟩)
  | _ => none

def cancelledStage : Except ChequeError Cheque → CancelStage
  | .error _ => .refused
  | .ok _ => .answered

def JointState.cancelArrives (bankId : Uuid) (index : Nat) (request : CancelRequest)
    (state : JointState) : Option JointState :=
  match state.requests[index]? with
  | some ⟨.cancel chequeId .sent, waits⟩ =>
      if request.bank.id = bankId ∧ request.chequeId = chequeId then
        some (state.advance index
          ⟨.cancel chequeId (cancelledStage (Cheques.cancel request state.klik.db).result), waits⟩
          (state.klik.cancelled request))
      else none
  | _ => none

def JointState.givesUp (index : Nat) (state : JointState) : Option JointState :=
  match state.requests[index]? with
  | none => none
  | some request => some (state.advance index { request with waits := false } state.klik)

/-- Nothing is left of a request with which KLIK is done. -/
def JointState.ends (index : Nat) (state : JointState) : Option JointState :=
  match state.requests[index]? with
  | none => none
  | some ⟨.issue _ _ (.drawing _), _⟩ => none
  | some _ => some { state with requests := state.requests.eraseIdx index }

/-- A handler which has got its reply writes. -/
def JointState.finish (index : Nat) (state : JointState) : Option JointState :=
  match state.requests[index]? with
  | some ⟨.issue userId amount (.answered chequeId), true⟩ =>
      some { state with
        bank := apiIssueChequeRecord userId amount chequeId state.bank
        requests := state.requests.eraseIdx index }
  | some ⟨.cancel chequeId .answered, true⟩ =>
      some { state with
        bank := apiCancelChequeRecord chequeId state.bank
        requests := state.requests.eraseIdx index }
  | _ => none

/-- The action does not belong to a request of the bank. -/
def isElsewhere (bankId : Uuid) : ChequeAction → Bool
  | .startIssue request => request.bank.id ≠ bankId
  | .drawCode issuing _ => issuing.request.bank.id ≠ bankId
  | .createCheque issuing _ _ => issuing.request.bank.id ≠ bankId
  | .cancel request => request.bank.id ≠ bankId
  | _ => true

def JointState.others (bankId : Uuid) (action : ChequeAction) (state : JointState) :
    Option JointState :=
  if isElsewhere bankId action then
    (chequeStep state.klik action).map fun klik => { state with klik := klik }
  else none

def noticeCheque : ChequeNotification → Uuid
  | .redeemed chequeId => chequeId
  | .released chequeId _ => chequeId

/-- A task sends its notification, with the client whom the cheque names. -/
def JointState.deliver (bankId : Uuid) (notice : ChequeNotification) (state : JointState) :
    Option JointState :=
  match rowAt Cheque.id state.klik.db.cheques (noticeCheque notice) with
  | none => none
  | some cheque =>
      if notice ∈ state.klik.outbox ∧ cheque.issuerBank.id = bankId then
        some { state with
          bank := state.bank.receive notice (some cheque.issuerUserId)
          told := state.told ++ [cheque.id]
          returned := state.returned ++ refunded notice (some cheque.issuerUserId) state.bank }
      else none

/-- One step, where it is possible. -/
def jointStep (bankId : Uuid) (state : JointState) : JointAction → Option JointState
  | .startIssue userId amount => some (state.startIssue userId amount)
  | .startCancel chequeId => some (state.startCancel chequeId)
  | .issueArrives index request => state.issueArrives bankId index request
  | .drawCode index code => state.drawCode index code
  | .createCheque index chequeId refused => state.createCheque index chequeId refused
  | .cancelArrives index request => state.cancelArrives bankId index request
  | .givesUp index => state.givesUp index
  | .ends index => state.ends index
  | .finish index => state.finish index
  | .klik action => state.others bankId action
  | .deliver notice => state.deliver bankId notice

/-- Before any cheque; no client has the empty text for its key. -/
structure JointState.IsStart (state : JointState) : Prop where
  clients : state.bank.clients = state.opening
  named : state.opening.get? [] = none
  issuedCheques : state.bank.issuedCheques = []
  klik : state.klik.IsStart
  requests : state.requests = []
  told : state.told = []
  returned : state.returned = []

def jointSystem (bankId : Uuid) : TransitionSystem JointState JointAction :=
  .ofStep JointState.IsStart (jointStep bankId)

/-! ## What a step can do -/

/-- The request which a handler sends about a cheque. -/
structure IsFor (bankId : Uuid) (userId : PyStr) (amount : Int) (request : IssueRequest) :
    Prop where
  bank : request.bank.id = bankId
  userId : request.data.userId = userId
  amount : request.data.amount = (amount : Decimal) / 100

/-- What one step does, told once for all invariants. -/
inductive JointMove (bankId : Uuid) (state : JointState) : JointAction → JointState → Prop where
  | refused {action : JointAction} : JointMove bankId state action state
  | askedIssue {userId : PyStr} {amount : Int}
      (passed : apiIssueChequeChecks userId amount state.bank = .ok ()) :
      JointMove bankId state (.startIssue userId amount) (state.ask (.issue userId amount .sent))
  | askedCancel {chequeId : Uuid}
      (passed : apiCancelChequeChecks chequeId state.bank = .ok ()) :
      JointMove bankId state (.startCancel chequeId) (state.ask (.cancel chequeId .sent))
  | arrived {index : Nat} {request : IssueRequest} {userId : PyStr} {amount : Int}
      {waits : Bool} {stage : IssueStage}
      (going : state.requests[index]? = some ⟨.issue userId amount .sent, waits⟩)
      (fits : IsFor bankId userId amount request)
      (begun : stage = .refused ∨ stage = .drawing ⟨request, [], 10⟩) :
      JointMove bankId state (.issueArrives index request)
        (state.advance index ⟨.issue userId amount stage, waits⟩
          (state.klik.issueStarted request))
  | drawn {index : Nat} {code : PyStr} {userId : PyStr} {amount : Int} {issuing : Issuing}
      {waits : Bool} {klik : ChequeState}
      (going : state.requests[index]? = some ⟨.issue userId amount (.drawing issuing), waits⟩)
      (moves : chequeSystem.Step state.klik (.drawCode issuing code) klik) :
      JointMove bankId state (.drawCode index code)
        (state.advance index
          ⟨.issue userId amount (.drawing (issuing.draw code state.klik.db.cheques)), waits⟩ klik)
  | created {index : Nat} {chequeId : Uuid} {refused : Bool} {userId : PyStr} {amount : Int}
      {issuing : Issuing} {waits : Bool} {klik : ChequeState}
      (going : state.requests[index]? = some ⟨.issue userId amount (.drawing issuing), waits⟩)
      (moves : chequeSystem.Step state.klik (.createCheque issuing chequeId refused) klik) :
      JointMove bankId state (.createCheque index chequeId refused)
        (state.advance index
          ⟨.issue userId amount (createdStage chequeId
            (Cheques.createCheque chequeId refused issuing state.klik.db.cheques)), waits⟩ klik)
  | cancelArrived {index : Nat} {request : CancelRequest} {waits : Bool}
      (going : state.requests[index]? = some ⟨.cancel request.chequeId .sent, waits⟩)
      (own : request.bank.id = bankId) :
      JointMove bankId state (.cancelArrives index request)
        (state.advance index
          ⟨.cancel request.chequeId
            (cancelledStage (Cheques.cancel request state.klik.db).result), waits⟩
          (state.klik.cancelled request))
  | gaveUp {index : Nat} {request : KlikRequest}
      (going : state.requests[index]? = some request) :
      JointMove bankId state (.givesUp index)
        (state.advance index { request with waits := false } state.klik)
  | ended {index : Nat} {request : KlikRequest}
      (going : state.requests[index]? = some request) :
      JointMove bankId state (.ends index)
        { state with requests := state.requests.eraseIdx index }
  | recorded {index : Nat} {userId : PyStr} {amount : Int} {chequeId : Uuid}
      (going : state.requests[index]? =
        some ⟨.issue userId amount (.answered chequeId), true⟩) :
      JointMove bankId state (.finish index)
        { state with
          bank := apiIssueChequeRecord userId amount chequeId state.bank
          requests := state.requests.eraseIdx index }
  | overwritten {index : Nat} {chequeId : Uuid}
      (going : state.requests[index]? = some ⟨.cancel chequeId .answered, true⟩) :
      JointMove bankId state (.finish index)
        { state with
          bank := apiCancelChequeRecord chequeId state.bank
          requests := state.requests.eraseIdx index }
  | elsewhere {action : ChequeAction} {klik : ChequeState}
      (foreign : isElsewhere bankId action = true)
      (moves : chequeSystem.Step state.klik action klik) :
      JointMove bankId state (.klik action) { state with klik := klik }
  | delivered {notice : ChequeNotification} {cheque : Cheque}
      (found : rowAt Cheque.id state.klik.db.cheques (noticeCheque notice) = some cheque)
      (queued : notice ∈ state.klik.outbox) (own : cheque.issuerBank.id = bankId) :
      JointMove bankId state (.deliver notice)
        { state with
          bank := state.bank.receive notice (some cheque.issuerUserId)
          told := state.told ++ [cheque.id]
          returned := state.returned ++ refunded notice (some cheque.issuerUserId) state.bank }

theorem isSent_eq_true {bankId : Uuid} {userId : PyStr} {amount : Int} {cheques : List Cheque}
    {request : IssueRequest} (sent : isSent bankId userId amount cheques request = true) :
    IsFor bankId userId amount request ∧
      issuedUnder bankId request.idempotencyKey cheques = none := by
  simp only [isSent, Bool.and_eq_true, decide_eq_true_eq, Option.isNone_iff_eq_none] at sent
  exact ⟨⟨sent.1.1.1, sent.1.1.2, sent.1.2⟩, sent.2⟩

/-- A request with a key which is new goes on to draw its code, or is refused. -/
theorem startedStage_of_fresh {request : IssueRequest} {cheques : List Cheque}
    (fresh : issuedUnder request.bank.id request.idempotencyKey cheques = none) :
    startedStage (Cheques.startIssue request cheques) = .refused ∨
      startedStage (Cheques.startIssue request cheques) = .drawing ⟨request, [], 10⟩ := by
  simp only [Cheques.startIssue, fresh]
  cases request.check with
  | error error => exact .inl rfl
  | ok done => exact .inr rfl

theorem jointMove_of_step
    {bankId : Uuid} {state after : JointState} {action : JointAction}
    (move : (jointSystem bankId).Step state action after) :
    JointMove bankId state action after := by
  simp only [jointSystem, TransitionSystem.ofStep] at move
  cases action with
  | startIssue userId amount =>
      cases move
      simp only [JointState.startIssue]
      split
      · exact .refused
      · rename_i passed
        exact .askedIssue passed
  | startCancel chequeId =>
      cases move
      simp only [JointState.startCancel]
      split
      · exact .refused
      · rename_i passed
        exact .askedCancel passed
  | issueArrives index request =>
      simp only [jointStep, JointState.issueArrives] at move
      split at move
      · rename_i userId amount waits going
        split at move
        · rename_i sent
          cases move
          have fits := isSent_eq_true sent
          refine .arrived going fits.1 (startedStage_of_fresh ?_)
          rw [fits.1.bank]
          exact fits.2
        · cases move
      · cases move
  | drawCode index code =>
      simp only [jointStep, JointState.drawCode] at move
      split at move
      · rename_i userId amount issuing waits going
        rcases Option.map_eq_some_iff.mp move with ⟨klik, moves, rfl⟩
        exact .drawn going moves
      · cases move
  | createCheque index chequeId refused =>
      simp only [jointStep, JointState.createCheque] at move
      split at move
      · rename_i userId amount issuing waits going
        rcases Option.map_eq_some_iff.mp move with ⟨klik, moves, rfl⟩
        exact .created going moves
      · cases move
  | cancelArrives index request =>
      simp only [jointStep, JointState.cancelArrives] at move
      split at move
      · rename_i chequeId waits going
        split at move
        · rename_i sent
          cases move
          rcases sent with ⟨own, rfl⟩
          exact .cancelArrived going own
        · cases move
      · cases move
  | givesUp index =>
      simp only [jointStep, JointState.givesUp] at move
      split at move
      · cases move
      · rename_i request going
        cases move
        exact .gaveUp going
  | ends index =>
      simp only [jointStep, JointState.ends] at move
      split at move
      · cases move
      · cases move
      · rename_i request _ going
        cases move
        exact .ended going
  | finish index =>
      simp only [jointStep, JointState.finish] at move
      split at move
      · rename_i userId amount chequeId going
        cases move
        exact .recorded going
      · rename_i chequeId going
        cases move
        exact .overwritten going
      · cases move
  | klik action =>
      simp only [jointStep, JointState.others] at move
      split at move
      · rename_i foreign
        rcases Option.map_eq_some_iff.mp move with ⟨klik, moves, rfl⟩
        exact .elsewhere foreign moves
      · cases move
  | deliver notice =>
      simp only [jointStep, JointState.deliver] at move
      split at move
      · cases move
      · rename_i cheque found
        split at move
        · rename_i due
          cases move
          exact .delivered found due.1 due.2
        · cases move

end Klik.BankIO
