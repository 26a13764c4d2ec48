import Klik.Cheques.ChequeSafety
import Klik.Codes.StatusView

/-!
# Reading a cheque

`ChequeStatusView.get`: the bank of a cheque reads it at any time, and an agent
once it has redeemed it.  An answer says what the row says when it is read, so
that two answers can differ only where the first one says that the cheque is
active.
-/

namespace Klik.Cheques

open Klik.Agents
open Klik.Banks
open Klik.Codes
open Klik.Common
open Klik.Lib

/-! ## The view -/

/-- The fields of `ChequeStatusResponseSerializer`. -/
structure StatusResponse where
  chequeId : Uuid
  status : ChequeStatus
  amount : Decimal
  currency : Currency
  zone : Zone
  issuedAt : Instant
  expiresAt : Instant
  redeemedAt : Option Instant
  transactionId : Option Uuid
deriving DecidableEq, Repr

def statusResponse (cheque : Cheque) : StatusResponse where
  chequeId := cheque.id
  status := cheque.status
  amount := cheque.amount
  currency := cheque.currency
  zone := cheque.zone
  issuedAt := cheque.issuedAt
  expiresAt := cheque.expiresAt
  redeemedAt := cheque.redeemedAt
  transactionId := cheque.transaction

/-- A bank reads its own cheques, an agent those which it has redeemed. -/
def mayRead (transactions : List Transaction) (cheque : Cheque) : StatusReader → Bool
  | .bank bank => cheque.issuerBank.id = bank.id
  | .agent agent =>
      (cheque.transaction.bind (rowAt Transaction.id transactions)).any fun tx =>
        tx.agent.id = agent.id
  | .anonymous => false

/-- `ChequeStatusView.get`. -/
def chequeStatusView (reader : StatusReader) (chequeId : Uuid) (db : ChequeDb) :
    Except ChequeError StatusResponse :=
  match rowAt Cheque.id db.cheques chequeId with
  | none => .error (.api chequeNotFoundError)
  | some cheque =>
      if mayRead db.transactions cheque reader then .ok (statusResponse cheque)
      else .error (.api chequeNotFoundError)

theorem chequeStatusView_eq_ok
    {reader : StatusReader} {chequeId : Uuid} {db : ChequeDb} {response : StatusResponse} :
    chequeStatusView reader chequeId db = .ok response ↔
      ∃ cheque, rowAt Cheque.id db.cheques chequeId = some cheque ∧
        mayRead db.transactions cheque reader = true ∧ statusResponse cheque = response := by
  simp only [chequeStatusView]
  constructor
  · intro answered
    split at answered
    · cases answered
    · rename_i cheque found
      split at answered
      · rename_i allowed
        cases answered
        exact ⟨cheque, found, allowed, rfl⟩
      · cases answered
  · rintro ⟨cheque, found, allowed, rfl⟩
    rw [found]
    exact if_pos allowed

/-! ## What is claimed -/

/-- What an answer says of a redemption is so: a payment which is completed and
over the amount, in time, and by the agent who is told of it. -/
structure StatusResponse.Backed (response : StatusResponse) (reader : StatusReader)
    (transactions : List Transaction) : Prop where
  redeemedAt_iff : response.redeemedAt.isSome ↔ response.status = .redeemed
  transactionId_iff : response.transactionId.isSome ↔ response.status = .redeemed
  early : ∀ time, response.redeemedAt = some time → time < response.expiresAt
  paid : ∀ transactionId, response.transactionId = some transactionId →
    ∃ tx, rowAt Transaction.id transactions transactionId = some tx ∧
      tx.status = .completed ∧ tx.amountGross = response.amount ∧
        ∀ agent, reader = .agent agent → tx.agent.id = agent.id
  spent : ∀ agent, reader = .agent agent → response.status = .redeemed

/-- A later answer about the same cheque. -/
structure StatusResponse.Follows (later response : StatusResponse) : Prop where
  chequeId : later.chequeId = response.chequeId
  amount : later.amount = response.amount
  currency : later.currency = response.currency
  zone : later.zone = response.zone
  issuedAt : later.issuedAt = response.issuedAt
  expiresAt : later.expiresAt = response.expiresAt
  final : response.status ≠ .active → later = response

/-! ## The row behind the answers -/

/-- What a row may become: only an active one changes, and keeps its terms. -/
structure Cheque.Becomes (cheque next : Cheque) : Prop where
  issuerBank : next.issuerBank = cheque.issuerBank
  answer : (statusResponse next).Follows (statusResponse cheque)
  final : cheque.status ≠ .active → next = cheque

theorem Cheque.Becomes.refl (cheque : Cheque) : cheque.Becomes cheque :=
  ⟨rfl, ⟨rfl, rfl, rfl, rfl, rfl, rfl, fun _ => rfl⟩, fun _ => rfl⟩

theorem Cheque.Becomes.of_change
    {old cheque next : Cheque} (becomes : old.Becomes cheque) (change : ChequeChange cheque next) :
    old.Becomes next := by
  -- Only an active cheque changes, so that the old one was active too.
  have live : old.status = .active := by
    by_contra ended
    have same := becomes.final ended
    exact ended (same ▸ change.active)
  have answer := becomes.answer
  cases change <;>
    exact ⟨becomes.issuerBank,
      ⟨answer.chequeId, answer.amount, answer.currency, answer.zone, answer.issuedAt,
        answer.expiresAt, fun ended => absurd live ended⟩,
      fun ended => absurd live ended⟩

variable {state after : ChequeState} {chequeId : Uuid} {cheque : Cheque}

/-- Over a run, the row at an id becomes another one. -/
theorem becomes_of_path
    (reached : chequeSystem.Reachable state) {actions : List ChequeAction}
    (path : chequeSystem.Path state actions after)
    (found : rowAt Cheque.id state.db.cheques chequeId = some cheque) :
    ∃ next, rowAt Cheque.id after.db.cheques chequeId = some next ∧ cheque.Becomes next := by
  apply path.preserves (fun between => ∃ next,
    rowAt Cheque.id between.db.cheques chequeId = some next ∧ cheque.Becomes next)
  · rintro source action target sourceReached ⟨row, atId, becomes⟩ move
    have held := chequeInvariant sourceReached
    rcases (table_of_step held move).rowAt held.ids atId with same | ⟨next, there, change⟩
    · exact ⟨row, same, becomes⟩
    · exact ⟨next, there, becomes.of_change change⟩
  · exact reached
  · exact ⟨cheque, found, .refl cheque⟩

/-- A step adds payments and changes none. -/
theorem transaction_of_step
    {action : ChequeAction} (move : chequeSystem.Step state action after)
    {transactionId : Uuid} {tx : Transaction}
    (found : rowAt Transaction.id state.db.transactions transactionId = some tx) :
    rowAt Transaction.id after.db.transactions transactionId = some tx := by
  cases effect_of_step move with
  | same cheques transactions =>
      rw [transactions]
      exact found
  | issued cheque fresh new cheques transactions =>
      rw [transactions]
      exact found
  | redeemed request cheque added redeems cheques transactions =>
      rw [transactions]
      exact rowAt_append found [added]
  | cancelled cheque now member active cheques transactions =>
      rw [transactions]
      exact found
  | expired cheque now atId active selected cheques transactions =>
      rw [transactions]
      exact found

theorem transaction_of_path
    (reached : chequeSystem.Reachable state) {actions : List ChequeAction}
    (path : chequeSystem.Path state actions after) {transactionId : Uuid} {tx : Transaction}
    (found : rowAt Transaction.id state.db.transactions transactionId = some tx) :
    rowAt Transaction.id after.db.transactions transactionId = some tx := by
  apply path.preserves fun between =>
    rowAt Transaction.id between.db.transactions transactionId = some tx
  · intro source action target _ there move
    exact transaction_of_step move there
  · exact reached
  · exact found

/-! ## The answers -/

/-- The payment which an agent is told of. -/
theorem paid_of_mayRead
    {transactions : List Transaction} {agent : Agent}
    (allowed : mayRead transactions cheque (.agent agent) = true) :
    ∃ transactionId tx, cheque.transaction = some transactionId ∧
      rowAt Transaction.id transactions transactionId = some tx ∧ tx.agent.id = agent.id := by
  rcases (Option.any_eq_true _ _).mp allowed with ⟨tx, paid, its⟩
  rcases Option.bind_eq_some_iff.mp paid with ⟨transactionId, link, found⟩
  exact ⟨transactionId, tx, link, found, of_decide_eq_true its⟩

theorem backed_of_mayRead
    (invariant : ChequeInvariant state) (member : cheque ∈ state.db.cheques)
    {reader : StatusReader} (allowed : mayRead state.db.transactions cheque reader = true) :
    (statusResponse cheque).Backed reader state.db.transactions := by
  rcases invariant.shown cheque member with ⟨fate, shows_⟩
  have consistent := shows_.consistent
  constructor
  · exact consistent.redeemedAt_iff
  · exact consistent.transaction_iff
  · exact consistent.redeemed_early
  · intro transactionId link
    rcases invariant.linked cheque member transactionId link with ⟨tx, found, completed, amount⟩
    refine ⟨tx, found, completed, amount, ?_⟩
    rintro agent rfl
    rcases paid_of_mayRead allowed with ⟨itsId, its, itsLink, itsFound, itsAgent⟩
    rw [show cheque.transaction = some transactionId from link] at itsLink
    cases itsLink
    rw [found] at itsFound
    cases itsFound
    exact itsAgent
  · rintro agent rfl
    rcases paid_of_mayRead allowed with ⟨itsId, _, itsLink, _, _⟩
    apply consistent.transaction_iff.mp
    rw [itsLink]
    rfl

/-- Who may read a cheque may read it later. -/
theorem mayRead_later
    (invariant : ChequeInvariant state) (member : cheque ∈ state.db.cheques)
    {transactions : List Transaction}
    (kept : ∀ transactionId tx,
      rowAt Transaction.id state.db.transactions transactionId = some tx →
        rowAt Transaction.id transactions transactionId = some tx)
    {next : Cheque} (becomes : cheque.Becomes next)
    {reader : StatusReader} (allowed : mayRead state.db.transactions cheque reader = true) :
    mayRead transactions next reader = true := by
  cases reader with
  | bank bank =>
      simp only [mayRead, decide_eq_true_eq] at allowed ⊢
      rw [becomes.issuerBank]
      exact allowed
  | agent agent =>
      have backed := backed_of_mayRead invariant member allowed
      have redeemed : cheque.status = .redeemed := backed.spent agent rfl
      have same : next = cheque := by
        apply becomes.final
        rw [redeemed]
        exact fun active => by cases active
      rcases paid_of_mayRead allowed with ⟨transactionId, tx, link, found, its⟩
      simp only [mayRead, same, link, Option.bind_some, kept transactionId tx found,
        Option.any_some, its, decide_true]
  | anonymous => cases allowed

/-- In every run, what a reader is told of a cheque is so, the reader is
answered ever after, and each later answer to whichever reader follows: it is the
same one, unless the cheque was active. -/
theorem status_answers_kept
    (state : ChequeState) (reached : chequeSystem.Reachable state)
    (reader : StatusReader) (chequeId : Uuid) (response : StatusResponse)
    (answered : chequeStatusView reader chequeId state.db = .ok response) :
    response.Backed reader state.db.transactions ∧
      ∀ actions after, chequeSystem.Path state actions after →
        (∃ later, chequeStatusView reader chequeId after.db = .ok later) ∧
          ∀ other later, chequeStatusView other chequeId after.db = .ok later →
            later.Follows response := by
  have invariant := chequeInvariant reached
  rcases chequeStatusView_eq_ok.mp answered with ⟨cheque, found, allowed, rfl⟩
  have member := (mem_of_rowAt found).1
  constructor
  · exact backed_of_mayRead invariant member allowed
  · intro actions after path
    rcases becomes_of_path reached path found with ⟨next, there, becomes⟩
    constructor
    · refine ⟨statusResponse next, chequeStatusView_eq_ok.mpr ⟨next, there, ?_, rfl⟩⟩
      apply mayRead_later invariant member _ becomes allowed
      intro transactionId tx paid
      exact transaction_of_path reached path paid
    · intro other later told
      rcases chequeStatusView_eq_ok.mp told with ⟨row, atId, _, rfl⟩
      rw [there] at atId
      cases atId
      exact becomes.answer

/-- What the bank of a cheque and the agent of its redemption are told. -/
def toldOfFirst (state : ChequeState) : Option ChequeStatus × Option ChequeStatus :=
  ((chequeStatusView (.bank (polishBank 1)) 1 state.db).toOption.map StatusResponse.status,
    (chequeStatusView (.agent ⟨5, polishBank 3, .PL⟩) 1 state.db).toOption.map
      StatusResponse.status)

/-- The agent is told nothing before it redeems the cheque, and both are told
of the redemption after it. -/
theorem told_issued_redeemed :
    (TransitionSystem.runLabels chequeStep noCheques
      (issueActions (py "a") (py "123456789") 1)).map (fun state =>
        (toldOfFirst state,
          (chequeStep state (.redeem (redeemRequest (py "123456789") 5 [1]))).map toldOfFirst)) =
      some ((some .active, none), some (some .redeemed, some .redeemed)) := by
  decide +kernel

theorem ok_of_status {answer : Except ChequeError StatusResponse} {status : ChequeStatus}
    (told : answer.toOption.map StatusResponse.status = some status) :
    ∃ response, answer = .ok response ∧ response.status = status := by
  cases answer with
  | error error => cases told
  | ok response => exact ⟨response, rfl, Option.some.inj told⟩

/-- The bank is told that its cheque is active, and the agent of the redemption
what follows from it. -/
theorem status_answers_kept_redeemed :
    ∃ (state after : ChequeState) (response later : StatusResponse),
      chequeStatusView (.bank (polishBank 1)) 1 state.db = .ok response ∧
        response.status = .active ∧
        response.Backed (.bank (polishBank 1)) state.db.transactions ∧
        chequeStatusView (.agent ⟨5, polishBank 3, .PL⟩) 1 after.db = .ok later ∧
        later.status = .redeemed ∧ later.Follows response := by
  rcases Option.map_eq_some_iff.mp told_issued_redeemed with ⟨state, run, told⟩
  rcases Prod.mk.inj told with ⟨issued, redeemed⟩
  rcases Option.map_eq_some_iff.mp redeemed with ⟨after, move, toldLater⟩
  rcases ok_of_status (Prod.mk.inj issued).1 with ⟨response, answered, active⟩
  rcases ok_of_status (Prod.mk.inj toldLater).2 with ⟨later, answeredLater, spent⟩
  have reached : chequeSystem.Reachable state :=
    TransitionSystem.reachable_of_runLabels ⟨rfl, rfl, rfl, rfl, rfl⟩ run
  have path : chequeSystem.Path state _ after := .step (.refl state) move
  rcases status_answers_kept state reached _ 1 response answered with ⟨backed, kept⟩
  exact ⟨state, after, response, later, answered, active, backed, answeredLater, spent,
    (kept _ after path).2 _ later answeredLater⟩

end Klik.Cheques
