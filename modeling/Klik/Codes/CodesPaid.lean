import Klik.Codes.PaymentInitiate
import Klik.Lib.InFlight

/-!
# Codes and the payments they are used for

Initiate requests run side by side with generations: each marks its code in
one step and creates its payment in a later one.  As long as every marked code
gets its payment, each use of a code is for one payment or for a request
which is still under way.
-/

namespace Klik.Codes

open Klik.Agents
open Klik.Banks
open Klik.Common
open Klik.Lib

/-! ## States -/

/-- A request which has marked its code. -/
structure MarkedRequest where
  request : InitiateRequest
  merchant : Merchant
  payload : CodePayload
deriving DecidableEq

/-- The codes in Redis, the payments, the requests which have marked their
code, and the payments to authorise. -/
structure InitiateState where
  codes : CodeState
  transactions : List Transaction
  marked : List MarkedRequest
  outbox : List Uuid

inductive InitiateAction where
  | tick (clock : Nat)
  | startGenerate (bankId : Uuid) (userId : PyStr) (zone : Zone) (createdAt : PyStr)
  | tryCode (index : Nat) (drawn : Fin 1000000)
  | initiate (request : InitiateRequest)
  | create (index : Nat)

/-! ## Steps -/

variable (ttlSeconds : Int)

/-- The state after the first checks and the marking of the code. -/
def InitiateState.initiated (request : InitiateRequest) (state : InitiateState) :
    InitiateState :=
  match request.check with
  | .error _ => state
  | .ok merchant =>
      { state with
        codes := state.codes.marked request.data.code
        marked := state.marked ++
          match (markUsed state.codes.clock request.data.code state.codes.store).1 with
          | .ok payload => [⟨request, merchant, payload⟩]
          | .error _ => [] }

/-- The state after the rest of a request. -/
def InitiateState.created (index : Nat) (marked : MarkedRequest) (state : InitiateState) :
    InitiateState :=
  let ended := marked.request.create marked.merchant marked.payload state.transactions
  { state with
    transactions := ended.transactions
    marked := state.marked.eraseIdx index
    outbox := state.outbox ++ ended.queued }

/-- A step of the codes which is not a use. -/
def InitiateState.withCodes (action : CodeAction) (state : InitiateState) :
    Option InitiateState :=
  (codeStep ttlSeconds state.codes action).map fun codes => { state with codes := codes }

/-- One step, where it is possible. -/
def initiateStep (state : InitiateState) : InitiateAction → Option InitiateState
  | .tick clock => state.withCodes ttlSeconds (.tick clock)
  | .startGenerate bankId userId zone createdAt =>
      state.withCodes ttlSeconds (.startGenerate bankId userId zone createdAt)
  | .tryCode index drawn => state.withCodes ttlSeconds (.tryCode index drawn)
  | .initiate request => some (state.initiated request)
  | .create index =>
      match state.marked[index]? with
      | some marked => some (state.created index marked)
      | none => none

/-- A Redis without codes and a table without payments. -/
structure InitiateState.IsStart (state : InitiateState) : Prop where
  codes : state.codes.IsStart
  transactions : state.transactions = []
  marked : state.marked = []
  outbox : state.outbox = []

def initiateSystem : TransitionSystem InitiateState InitiateAction :=
  .ofStep InitiateState.IsStart (initiateStep ttlSeconds)

/-! ## Codes go on as they do by themselves -/

/-- Every step is a step of the codes or leaves them. -/
theorem codes_of_step
    {state after : InitiateState} {action : InitiateAction}
    (move : (initiateSystem ttlSeconds).Step state action after) :
    after.codes = state.codes ∨
      ∃ codeAction, (codeSystem ttlSeconds).Step state.codes codeAction after.codes := by
  have onCodes : ∀ codeAction, state.withCodes ttlSeconds codeAction = some after →
      ∃ codeAction, (codeSystem ttlSeconds).Step state.codes codeAction after.codes := by
    intro codeAction carried
    rcases Option.map_eq_some_iff.mp carried with ⟨codes, stepped, rfl⟩
    exact ⟨codeAction, stepped⟩
  simp only [initiateSystem, TransitionSystem.ofStep] at move
  cases action with
  | tick clock => exact Or.inr (onCodes _ move)
  | startGenerate bankId userId zone createdAt => exact Or.inr (onCodes _ move)
  | tryCode index drawn => exact Or.inr (onCodes _ move)
  | initiate request =>
      cases move
      simp only [InitiateState.initiated]
      split
      · exact Or.inl rfl
      · exact Or.inr ⟨.markUsed request.data.code, rfl⟩
  | create index =>
      simp only [initiateStep] at move
      split at move
      · cases move
        exact Or.inl rfl
      · cases move

/-- The codes of a reachable state are reachable by themselves. -/
theorem codes_reachable
    {state : InitiateState} (reached : (initiateSystem ttlSeconds).Reachable state) :
    (codeSystem ttlSeconds).Reachable state.codes := by
  apply reached.invariant
  · intro start isStart
    exact .init isStart.codes
  · intro source action target _ held move
    rcases codes_of_step ttlSeconds move with same | ⟨codeAction, stepped⟩
    · rw [same]
      exact held
    · exact .step held stepped

/-! ## Uses and payments -/

/-- How often a code was used. -/
def usesOf (code : PyStr) (log : List CodeEvent) : Nat :=
  (history code log).countP CodeEvent.isUse

/-- How many payments have a code. -/
def paymentsOf (code : PyStr) (transactions : List Transaction) : Nat :=
  transactions.countP fun tx => tx.codeSnapshot = code

/-- How many requests have marked a code. -/
def markedOf (code : PyStr) (marked : List MarkedRequest) : Nat :=
  marked.countP fun request => request.request.data.code = code

/-- A payment is for the record of a code. -/
structure PaidBy (code : PyStr) (payload : CodePayload) (tx : Transaction) : Prop where
  code : tx.codeSnapshot = code
  bank : tx.senderBank.id = payload.bankId
  user : tx.userId = payload.userId
  zone : tx.zone = payload.zone

/-- Each use of a code is for one payment or one request under way, and a
record which is used has its payment or its request. -/
structure CodesPaid (state : InitiateState) : Prop where
  counted : ∀ code, usesOf code state.codes.log =
    paymentsOf code state.transactions + markedOf code state.marked
  paid : ∀ code stored, state.codes.store (codeKey code) = some stored →
    stored.value.status = .used →
      (∃ tx ∈ state.transactions, PaidBy code stored.value tx) ∨
        ∃ marked ∈ state.marked, marked.request.data.code = code ∧
          marked.payload = stored.value

/-- The payment of a marked code is created. -/
def CreatesPayment (state : InitiateState) (action : InitiateAction) : Prop :=
  match action with
  | .create index => ∀ marked, state.marked[index]? = some marked →
      marked.request.Creates marked.merchant marked.payload state.transactions
  | _ => True

theorem usesOf_append
    (code : PyStr) (log added : List CodeEvent) :
    usesOf code (log ++ added) = usesOf code log + usesOf code added := by
  simp [usesOf, history_append]

/-- A step of the codes which uses none leaves the accounts. -/
theorem CodesPaid.of_codes
    {state after : InitiateState} (paid : CodesPaid state) {action : CodeAction}
    (notUse : ∀ code, action ≠ .markUsed code)
    (stepped : (codeSystem ttlSeconds).Step state.codes action after.codes)
    (transactions : after.transactions = state.transactions)
    (marked : after.marked = state.marked) :
    CodesPaid after := by
  cases effect_of_step ttlSeconds stepped with
  | idle _ store log =>
      constructor
      · rw [log, transactions, marked]
        exact paid.counted
      · rw [store, transactions, marked]
        exact paid.paid
  | generated index drawn generation expiresAt unseen store log =>
      constructor
      · intro code
        have none_used : usesOf code
            [.generated (randomCode drawn) generation.payload] = 0 := by
          apply List.countP_eq_zero.mpr
          intro event member
          rw [List.mem_singleton.mp (List.mem_of_mem_filter member)]
          exact Bool.false_ne_true
        rw [log, transactions, marked, usesOf_append, none_used]
        exact paid.counted code
      · intro code stored present used
        rw [transactions, marked]
        rw [store] at present
        by_cases same : codeKey code = codeKey (randomCode drawn)
        · rw [same, ExpiringStore.set_same] at present
          cases present
          rw [generation.active] at used
          cases used
        · rw [ExpiringStore.set_other _ _ _ same] at present
          exact paid.paid code stored present used
  | used code => exact absurd rfl (notUse code)
  | refused code => exact absurd rfl (notUse code)

theorem usesOf_used (code used : PyStr) (payload : CodePayload) :
    usesOf code [.used used payload] = if used = code then 1 else 0 := by
  by_cases same : used = code
  · subst same
    have here : history used [.used used payload] = [.used used payload] :=
      history_self (.used used payload)
    rw [usesOf, here, if_pos rfl]
    rfl
  · have elsewhere : history code [.used used payload] = [] := by
      have event : (CodeEvent.used used payload).code ≠ code := same
      exact history_other event
    rw [usesOf, elsewhere, if_neg same]
    rfl

/-- A request which marks its code goes on with the record. -/
theorem CodesPaid.initiated
    {state : InitiateState} (paid : CodesPaid state) (request : InitiateRequest) :
    CodesPaid (state.initiated request) := by
  simp only [InitiateState.initiated, CodeState.marked]
  split
  · exact paid
  · rename_i merchant checked
    rcases markUsed_cases state.codes.clock request.data.code state.codes.store with
      ⟨payload, after, marked, marks⟩ | ⟨error, _, raised, _⟩
    · rw [marked]
      constructor
      · intro code
        simp only [usesOf_append, usesOf_used, paid.counted code, markedOf,
          List.countP_append, List.countP_singleton, decide_eq_true_eq]
        exact Nat.add_assoc _ _ _
      · intro code stored present used
        by_cases same : codeKey code = codeKey request.data.code
        · rcases marks.kept with ⟨expiresAt, kept⟩
          simp only [same, kept, Option.some.injEq] at present
          subst present
          right
          exact ⟨_, List.mem_append_right _ (List.mem_singleton_self _),
            (codeKey_injective same).symm, rfl⟩
        · simp only [marks.others _ same] at present
          rcases paid.paid code stored present used with done | ⟨going, member, its⟩
          · exact Or.inl done
          · exact Or.inr ⟨going, List.mem_append_left _ member, its⟩
    · rw [raised]
      simp only [List.append_nil]
      exact ⟨paid.counted, paid.paid⟩

/-- A request whose payment is created is done. -/
theorem CodesPaid.created
    {state : InitiateState} (paid : CodesPaid state) {index : Nat}
    {marked : MarkedRequest} (going : state.marked[index]? = some marked)
    (creates : marked.request.Creates marked.merchant marked.payload
      state.transactions) :
    CodesPaid (state.created index marked) := by
  rcases marked.request.create_cases marked.merchant marked.payload state.transactions
    with ⟨senderBank, bank, _, created⟩ | ⟨error, uncreated, _⟩
  · simp only [InitiateState.created, created]
    constructor
    · intro code
      rw [paid.counted code, markedOf, countP_eraseIdx going]
      simp only [paymentsOf, markedOf, List.countP_append, List.countP_singleton,
        InitiateRequest.transaction, decide_eq_true_eq]
      omega
    · intro code stored present used
      rcases paid.paid code stored present used with ⟨tx, member, its⟩ | ⟨other, member, its⟩
      · exact Or.inl ⟨tx, List.mem_append_left _ member, its⟩
      · by_cases same : other = marked
        · subst same
          left
          refine ⟨_, List.mem_append_right _ (List.mem_singleton_self _), ?_⟩
          rw [← its.2]
          constructor
          · exact its.1
          · exact getBank_id bank
          · rfl
          · exact creates.1.symm
        · exact Or.inr ⟨other, mem_eraseIdx_of_ne going member same, its⟩
  · exact absurd creates uncreated

theorem codesPaid_step
    {state after : InitiateState} {action : InitiateAction}
    (paid : CodesPaid state) (creates : CreatesPayment state action)
    (move : (initiateSystem ttlSeconds).Step state action after) :
    CodesPaid after := by
  have onCodes : ∀ codeAction : CodeAction, (∀ code, codeAction ≠ .markUsed code) →
      state.withCodes ttlSeconds codeAction = some after → CodesPaid after := by
    intro codeAction notUse carried
    rcases Option.map_eq_some_iff.mp carried with ⟨codes, stepped, rfl⟩
    exact paid.of_codes ttlSeconds notUse stepped rfl rfl
  simp only [initiateSystem, TransitionSystem.ofStep] at move
  cases action with
  | tick clock =>
      apply onCodes (.tick clock) _ move
      intro code impossible
      cases impossible
  | startGenerate bankId userId zone createdAt =>
      apply onCodes (.startGenerate bankId userId zone createdAt) _ move
      intro code impossible
      cases impossible
  | tryCode index drawn =>
      apply onCodes (.tryCode index drawn) _ move
      intro code impossible
      cases impossible
  | initiate request =>
      cases move
      exact paid.initiated request
  | create index =>
      simp only [initiateStep] at move
      split at move
      · rename_i marked going
        cases move
        exact paid.created going (creates marked going)
      · cases move

theorem codesPaid_of_reachable
    {state : InitiateState}
    (reached : ((initiateSystem ttlSeconds).guarded CreatesPayment).Reachable state) :
    CodesPaid state := by
  apply reached.invariant
  · intro start isStart
    constructor
    · intro code
      rw [isStart.codes.log, isStart.transactions, isStart.marked]
      rfl
    · intro code stored present
      rw [isStart.codes.store] at present
      cases present
  · intro source action target _ paid move
    exact codesPaid_step ttlSeconds paid move.1 move.2

/-- A failed request keeps the code exactly if it does not burn it, and while
no request burns its code, codes are used for their payments only. -/
theorem failed_initiate_keeps_code :
    (∀ (now : Nat) (store : CodeStore) (transactions : List Transaction)
      (request : InitiateRequest),
        KeepsCode now store transactions request ↔
          ¬ BurnsCode now store transactions request) ∧
      ∀ state : InitiateState,
        ((initiateSystem ttlSeconds).guarded CreatesPayment).Reachable state →
          CodesPaid state := by
  constructor
  · exact keepsCode_iff
  · intro state reached
    exact codesPaid_of_reachable ttlSeconds reached

/-! ## A code of another zone -/

/-- A Redis without codes and a table without payments, at the first
millisecond. -/
def noPayments : InitiateState where
  codes := noCodes
  transactions := []
  marked := []
  outbox := []

theorem isStart_noPayments : noPayments.IsStart :=
  ⟨isStart_noCodes, rfl, rfl, rfl⟩

/-- A Polish agent asks for 100 with the code 123456. -/
def polishRequest : InitiateRequest where
  agent := ⟨5, polishBank 3, .PL⟩
  data :=
    { code := py "123456"
      amount := 100
      currency := "PLN"
      merchantId := 6
      code_length := by decide
      amount_min := cent_le_hundred
      amount_fits := hundred_fits }
  idempotencyKey := py "key"
  merchants := [⟨6, polishBank 2, .PL⟩]
  banks := [polishBank 1, polishBank 2, polishBank 3]
  transactionId := 7
  createdAt := 0
  refused := false

/-- Bank 1 generates the code 123456 in a zone. -/
def generateIn (zone : Zone) : List InitiateAction :=
  [.startGenerate 1 (py "client") zone (py "now"), .tryCode 0 123456]

/-- A code of the right zone is marked, and without a code the request keeps
what there is. -/
theorem failed_initiate_keeps_code_marked :
    (∃ state, TransitionSystem.runLabels (initiateStep 120) noPayments
        (generateIn .PL ++ [.initiate polishRequest]) = some state ∧
        state.marked.length = 1 ∧ CodesPaid state) ∧
      KeepsCode 0 .empty [] polishRequest := by
  constructor
  · have marked : (TransitionSystem.runLabels (initiateStep 120) noPayments
        (generateIn .PL ++ [.initiate polishRequest])).map
          (fun state => state.marked.length) = some 1 := by
      decide +kernel
    rcases Option.map_eq_some_iff.mp marked with ⟨state, run, length⟩
    refine ⟨state, run, length, ?_⟩
    apply (failed_initiate_keeps_code 120).2
    have path : (initiateSystem 120).Path noPayments
        (generateIn .PL ++ [.initiate polishRequest]) state :=
      TransitionSystem.path_of_runLabels run
    apply (path.to_guarded ?_).reachable (.init isStart_noPayments)
    intro action member _
    simp only [generateIn, List.cons_append, List.nil_append, List.mem_cons,
      List.not_mem_nil, or_false] at member
    rcases member with rfl | rfl | rfl
    · trivial
    · trivial
    · trivial
  · apply ((failed_initiate_keeps_code 120).1 ..).mpr
    rintro ⟨merchant, payload, _, seen, _⟩
    cases seen

/-- The code of a European bank is used by a request which fails. -/
theorem code_burnt_by_other_zone :
    ¬ ∀ state, (initiateSystem 120).Reachable state →
        ∀ request, KeepsCode state.codes.clock state.codes.store state.transactions
          request := by
  intro keeps
  have burnt : (TransitionSystem.runLabels (initiateStep 120) noPayments
      (generateIn .EU)).map (fun state =>
        let ended := initiate state.codes.clock state.codes.store state.transactions
          polishRequest
        (ended.1.result.isOk,
          decide (ended.2 (codeKey (py "123456")) =
            state.codes.store (codeKey (py "123456"))))) = some (false, false) := by
    decide +kernel
  rcases Option.map_eq_some_iff.mp burnt with ⟨state, run, ends⟩
  simp only [Prod.mk.injEq, decide_eq_false_iff_not] at ends
  have reached : (initiateSystem 120).Reachable state :=
    TransitionSystem.reachable_of_runLabels isStart_noPayments run
  cases result : (initiate state.codes.clock state.codes.store state.transactions
      polishRequest).1.result with
  | ok response =>
      rw [result] at ends
      cases ends.1
  | error error =>
      exact ends.2 (keeps state reached polishRequest error result).1

end Klik.Codes
