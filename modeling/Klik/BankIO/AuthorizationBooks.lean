import Klik.BankIO.PaymentsDebited

/-!
# Balances at the bank

The balance of a client is the one at the start with the moves of the other
handlers and without the debits for payments.  A handler looks at the balance
before it asks KLIK and takes the amount after the reply; since no other
handler runs in between, no payment overdraws an account.
-/

namespace Klik.BankIO

open Klik.Codes
open Klik.Common
open Klik.Lib

variable {bankId : Uuid} {createdAt : Uuid → Instant} {state after : AuthorizationState}
  {label : AuthorizationAction}

/-! ## Balances -/

/-- The debit as a move. -/
def AuthorizedDebit.charge (debit : AuthorizedDebit) : PyStr × Int :=
  (debit.userId, debit.amount)

/-- What has come to a client since the start. -/
def AuthorizationState.changeOf (userId : PyStr) (state : AuthorizationState) : Int :=
  movedTo userId state.moves - movedTo userId (state.debits.map AuthorizedDebit.charge)

def AuthorizationState.Balanced (state : AuthorizationState) : Prop :=
  ∀ userId, state.bank.clients.get? userId =
    (state.opening.get? userId).map fun balance => balance + state.changeOf userId

/-- A credit adds to the balance of one client. -/
theorem get?_credit_of_total
    {clients opening : InsertionDict PyStr Int} {total : PyStr → Int}
    (balanced : ∀ userId, clients.get? userId =
      (opening.get? userId).map fun balance => balance + total userId)
    (credited : PyStr) (amount : Int) (userId : PyStr) :
    (credit credited amount clients).get? userId =
      (opening.get? userId).map fun balance =>
        balance + (total userId + movedTo userId [(credited, amount)]) := by
  rw [get?_credit, balanced, Option.map_map]
  congr 1
  funext balance
  simp only [Function.comp_apply, movedTo]
  by_cases same : credited = userId
  · simp [same]
    omega
  · simp [same]

theorem balanced_step_authorization
    (balanced : state.Balanced) (move : AuthorizationMove bankId createdAt state label after) :
    after.Balanced := by
  cases move with
  | klik going foreign step => exact balanced
  | delivered idle sent =>
      intro userId
      rw [show (webhookAuthorize _ _ state.bank).clients = state.bank.clients from
        pruneExpired_clients]
      exact balanced userId
  | pruned less =>
      intro userId
      rw [less.clients]
      exact balanced userId
  | asked idle less sent =>
      intro userId
      rw [less.clients]
      exact balanced userId
  | handled waiting going sent sameId => exact balanced
  | handledLate member going sent sameId => exact balanced
  | @finished call answered =>
      intro userId
      cases made : call.debit with
      | none =>
          have before := balanced userId
          simpa [AuthorizationBank.confirmed, AuthorizationState.changeOf, made] using before
      | some debit =>
          simp only [AuthorizationBank.confirmed, made]
          rw [get?_credit_of_total balanced]
          congr 1
          funext balance
          simp only [AuthorizationState.changeOf, Option.toList_some, List.map_append,
            List.map_singleton, movedTo_append, AuthorizedDebit.charge]
          rw [show movedTo userId [(debit.userId, -debit.amount)] =
            -movedTo userId [(debit.userId, debit.amount)] by
              by_cases same : debit.userId = userId <;> simp [movedTo, same]]
          omega
  | raised answered => exact balanced
  | ended waiting given => exact balanced
  | moved idle =>
      intro userId
      rw [get?_credit_of_total balanced]
      congr 1
      funext balance
      simp only [AuthorizationState.changeOf, movedTo_append]
      omega

/-- Each balance is the one at the start with the moves of other handlers and
without the debits for payments. -/
theorem balanced_of_authorizations
    (reached : (authorizationSystem bankId createdAt).Reachable state) : state.Balanced := by
  apply reached.invariant
  · intro start isStart other
    rw [isStart.clients, AuthorizationState.changeOf, isStart.moves, isStart.debits]
    cases start.opening.get? other with
    | none => rfl
    | some balance => simp [movedTo]
  · intro source action target _ held move
    exact balanced_step_authorization held (authorizationMove_of_step bankId createdAt move)

/-! ## No overdrafts -/

/-- The other handlers take no more than there is. -/
def movesCovered (state : AuthorizationState) : AuthorizationAction → Bool
  | .move userId amount =>
      (state.bank.clients.get? userId).all fun balance => 0 ≤ balance + amount
  | _ => true

/-- No balance is negative. -/
def NoneOverdrawn (clients : InsertionDict PyStr Int) : Prop :=
  ∀ userId balance, clients.get? userId = some balance → 0 ≤ balance

/-- No account is overdrawn, and the one which the waiting handler is going to
debit has enough on it. -/
structure Solvent (state : AuthorizationState) : Prop where
  balances : NoneOverdrawn state.bank.clients
  call : ∀ call reply debit, state.call = some (call, reply) → call.debit = some debit →
    ∃ balance, state.bank.clients.get? debit.userId = some balance ∧ debit.amount ≤ balance

/-- A step which leaves the balances and the handler. -/
theorem Solvent.keep
    (solvent : Solvent state) (clients : after.bank.clients = state.bank.clients)
    (calls : ∀ call reply, after.call = some (call, reply) →
      ∃ earlier, state.call = some (call, earlier)) : Solvent after := by
  constructor
  · rw [clients]
    exact solvent.balances
  · rw [clients]
    intro call reply debit waiting made
    rcases calls call reply waiting with ⟨earlier, before⟩
    exact solvent.call call earlier debit before made

/-- A handler has seen that there is enough. -/
theorem enough_of_sent
    {bank : AuthorizationBank} {call : ConfirmCall} (sent : CallSent bank call)
    {debit : AuthorizedDebit} (made : call.debit = some debit) :
    ∃ balance, bank.clients.get? debit.userId = some balance ∧ debit.amount ≤ balance := by
  cases sent with
  | accept transactionId pin accepts =>
      rcases accepts.pending with ⟨pending, _, outcome⟩
      cases client : clientOf bank.clients pending.userId with
      | none =>
          rw [client] at outcome
          rw [outcome.2] at made
          cases made
      | some account =>
          rcases account with ⟨userId, balance⟩
          rw [client] at outcome
          rcases outcome with ⟨_, ⟨_, _, noDebit⟩ | ⟨enough, _, its⟩⟩
          · rw [noDebit] at made
            cases made
          · rw [its] at made
            cases made
            exact ⟨balance, (clientOf_eq_some client).2, enough⟩
  | reject pending found declines noDebit =>
      rw [noDebit] at made
      cases made

theorem solvent_step
    (solvent : Solvent state) (covered : movesCovered state label = true)
    (move : AuthorizationMove bankId createdAt state label after) : Solvent after := by
  cases move with
  | klik going foreign step => exact solvent.keep rfl fun _ reply waiting => ⟨reply, waiting⟩
  | delivered idle sent =>
      exact solvent.keep pruneExpired_clients fun _ reply waiting => ⟨reply, waiting⟩
  | pruned less => exact solvent.keep less.clients fun _ reply waiting => ⟨reply, waiting⟩
  | asked idle less sent =>
      constructor
      · rw [less.clients]
        exact solvent.balances
      · intro call reply debit waiting made
        cases waiting
        exact enough_of_sent sent made
  | handled waiting going sent sameId =>
      refine solvent.keep rfl ?_
      intro call reply replied
      cases replied
      exact ⟨none, waiting⟩
  | handledLate member going sent sameId =>
      exact solvent.keep rfl fun _ reply waiting => ⟨reply, waiting⟩
  | @finished call answered =>
      constructor
      · intro userId balance found
        cases made : call.debit with
        | none =>
            simp only [AuthorizationBank.confirmed, made] at found
            exact solvent.balances userId balance found
        | some debit =>
            rcases solvent.call call _ debit answered made with ⟨old, known, enough⟩
            simp only [AuthorizationBank.confirmed, made, get?_credit] at found
            rcases Option.map_eq_some_iff.mp found with ⟨before, earlier, rfl⟩
            split
            · rename_i same
              rw [← same, known, Option.some.injEq] at earlier
              omega
            · exact solvent.balances userId before earlier
      · intro other reply debit waiting
        cases waiting
  | raised answered =>
      refine solvent.keep rfl ?_
      intro call reply waiting
      cases waiting
  | ended waiting given =>
      refine solvent.keep rfl ?_
      intro call reply waiting
      cases waiting
  | @moved userId amount idle =>
      constructor
      · intro other balance found
        rw [get?_credit] at found
        rcases Option.map_eq_some_iff.mp found with ⟨before, earlier, rfl⟩
        split
        · rename_i same
          subst same
          simp only [movesCovered, earlier, Option.all_some, decide_eq_true_eq] at covered
          exact covered
        · exact solvent.balances other before earlier
      · intro call reply debit waiting
        rw [idle] at waiting
        cases waiting

theorem opening_of_move (move : AuthorizationMove bankId createdAt state label after) :
    after.opening = state.opening := by
  cases move with
  | klik going foreign step => rfl
  | delivered idle sent => rfl
  | pruned less => rfl
  | asked idle less sent => rfl
  | handled waiting going sent sameId => rfl
  | handledLate member going sent sameId => rfl
  | finished answered => rfl
  | raised answered => rfl
  | ended waiting given => rfl
  | moved idle => rfl

/-- The accounts are solvent if they were at the start. -/
def SolventFromStart (state : AuthorizationState) : Prop :=
  NoneOverdrawn state.opening → Solvent state

/-- While the other handlers overdraw no account, no account is overdrawn. -/
theorem never_overdrawn
    (state : AuthorizationState)
    (reached : ((authorizationSystem bankId createdAt).guarded fun state label =>
      movesCovered state label = true).Reachable state)
    (opened : NoneOverdrawn state.opening) : NoneOverdrawn state.bank.clients := by
  have solvent : SolventFromStart state := by
    apply reached.invariant
    · intro start isStart opened
      constructor
      · rw [isStart.clients]
        exact opened
      · intro call reply debit waiting
        rw [isStart.call] at waiting
        cases waiting
    · intro source action target _ held move opened
      have step := authorizationMove_of_step bankId createdAt move.2
      rw [opening_of_move step] at opened
      exact solvent_step (held opened) move.1 step
  exact (solvent opened).balances

/-- Another handler takes most of what there is, and the payment the rest. -/
def paidInFull : List AuthorizationAction :=
  [.move (py "user-1") (-490000), .klik 0 .start, .webhook 0 (fun _ => 0),
    .accept 7 (py "1234") 0, .handle 0 (confirmRequest .accepted 10) true, .finish]

/-- Nothing is left, and nothing is missing. -/
theorem never_overdrawn_paidInFull :
    ∃ state, TransitionSystem.runLabels
        (TransitionSystem.guardStep (authorizationStep 1 fun _ => 0) movesCovered)
        authorizationStart paidInFull = some state ∧
      state.bank.clients = [(py "user-1", 0)] ∧ NoneOverdrawn state.bank.clients := by
  have shown : (TransitionSystem.runLabels
      (TransitionSystem.guardStep (authorizationStep 1 fun _ => 0) movesCovered)
      authorizationStart paidInFull).map (fun state => (state.opening, state.bank.clients)) =
      some ([(py "user-1", 500000)], [(py "user-1", 0)]) := by
    decide +kernel
  rcases Option.map_eq_some_iff.mp shown with ⟨state, run, balances⟩
  have reached : ((authorizationSystem 1 fun _ => 0).guarded fun state label =>
      movesCovered state label = true).Reachable state :=
    (TransitionSystem.guarded_path_of_runLabels run).reachable
      (.init authorizationStart_isStart)
  refine ⟨state, run, congrArg Prod.snd balances, never_overdrawn state reached ?_⟩
  rw [show state.opening = [(py "user-1", 500000)] from congrArg Prod.fst balances]
  intro userId balance found
  simp only [InsertionDict.get?] at found
  split at found
  · cases found
    decide
  · cases found

end Klik.BankIO
