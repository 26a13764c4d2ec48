import Klik.BankIO.ChequesMatched
import Klik.BankIO.HoldBooks

/-!
# Holds given back

Every cheque which KLIK releases is paid back once, as long as the bank does
not write its own idea of the cheque too early: a cancel which is answered
marks the cheque as cancelled, and the webhook which comes after it takes the
hold for one it has given back.
-/

namespace Klik.BankIO

open Klik.Cheques
open Klik.Common
open Klik.Lib
open Klik.Lib.InsertionDict

/-! ## What is claimed -/

/-- No handler waits, and every webhook was delivered. -/
structure HoldState.Settled (state : HoldState) : Prop where
  calls : state.calls = []
  notified : ∀ entry ∈ state.klik, entry.2.status ≠ .active → entry.2.notified = true

instance (state : HoldState) : Decidable state.Settled :=
  decidable_of_iff
    (state.calls = [] ∧
      ∀ entry ∈ state.klik, entry.2.status ≠ .active → entry.2.notified = true)
    ⟨fun both => ⟨both.1, both.2⟩, fun settled => ⟨settled.calls, settled.notified⟩⟩

/-- What a cheque at KLIK should take from the balance of a client. -/
def KlikCheque.held (userId : PyStr) (cheque : KlikCheque) : Int :=
  if cheque.userId = userId ∧ isReleased cheque.status = false then cheque.amount else 0

/-- The balances are those at the start without the cheques which KLIK has as
active or redeemed, and the hold of each other cheque was given back once. -/
structure HoldState.HoldsReturned (state : HoldState) : Prop where
  balances : ∀ userId balance, state.opening.get? userId = some balance →
    state.bank.clients.get? userId =
      some (balance - total (KlikCheque.held userId) state.klik)
  once : ∀ chequeId cheque row, state.klik.get? chequeId = some cheque →
    state.bank.issuedCheques.get? chequeId = some row →
      state.returned.count chequeId = if isReleased cheque.status then 1 else 0

/-- The steps by which the bank does not come too early or too late: a
cancelled cheque is marked after its webhook was received, a new cheque is
recorded before the webhook of its release is, and the reply about a new
cheque is lost only if KLIK has released the cheque. -/
def HoldState.inTime (state : HoldState) : HoldAction → Bool
  | .finish index =>
      match state.calls[index]? with
      | some (.issuing _ _ (some chequeId)) =>
          (state.klik.get? chequeId).all fun cheque =>
            !isReleased cheque.status || !cheque.notified
      | some (.cancelling chequeId true) =>
          (state.bank.issuedCheques.get? chequeId).all fun cheque =>
            cheque.status ≠ .active
      | _ => true
  | .raises index =>
      match state.calls[index]? with
      | some (.issuing _ _ (some chequeId)) =>
          (state.klik.get? chequeId).all fun cheque => isReleased cheque.status
      | _ => true
  | _ => true

/-! ## The invariant -/

/-- A cheque is issued for a client of the bank. -/
def BankCall.ForClient (opening : InsertionDict PyStr Int) : BankCall → Prop
  | .issuing userId _ _ => (opening.get? userId).isSome
  | .cancelling _ _ => True

structure Kept (state : HoldState) : Prop where
  books : Books state.opening state.bank state.returned
  matched : Matched state.bank.issuedCheques state.klik state.calls
  asked : ∀ call ∈ state.calls, call.ForClient state.opening

theorem kept_of_isStart {state : HoldState} (start : state.IsStart) : Kept state := by
  constructor
  · constructor
    · exact start.named
    · rw [start.issuedCheques]
      exact List.nodup_nil
    · intro chequeId cheque found
      rw [start.issuedCheques] at found
      cases found
    · intro userId
      simp [start.clients, start.issuedCheques, total]
    · intro chequeId
      simp [start.returned, start.issuedCheques, countedAt]
  · rw [start.issuedCheques, start.klik, start.calls]
    constructor
    · exact List.nodup_nil
    · intro chequeId cheque found
      cases found
    · intro chequeId row found
      cases found
    · intro chequeId cheque found
      cases found
    · intro userId amount chequeId member
      cases member
    · exact List.nodup_nil
    · intro chequeId member
      cases member
  · rw [start.calls]
    intro call member
    cases member

/-- The ended cheque of KLIK, as the bank sees it. -/
theorem Agrees.ended
    {row : IssuedCheque} {cheque : KlikCheque} (agrees : Agrees row cheque)
    (active : cheque.status = .active) (unnotified : cheque.notified = false)
    (status : ChequeStatus) : Agrees row { cheque with status := status } where
  userId := agrees.userId
  amount := agrees.amount
  status := by
    right
    constructor
    · rcases agrees.status with same | ⟨unheard, _⟩
      · exact same.trans active
      · exact unheard
    · intro _
      exact unnotified

theorem Kept.ended
    {state : HoldState} (kept : Kept state) {chequeId : Uuid} {cheque : KlikCheque}
    (found : state.klik.get? chequeId = some cheque) (active : cheque.status = .active)
    {status : ChequeStatus} (final : status ≠ .active) :
    Matched state.bank.issuedCheques
      (state.klik.set chequeId { cheque with status := status }) state.calls := by
  have unnotified := kept.matched.unnotified chequeId cheque found active
  apply kept.matched.change found { cheque with status := status } rfl rfl
  · intro _
    rw [active]
    rfl
  · intro cancelled
    rw [active] at cancelled
    cases cancelled
  · intro again
    exact absurd again final
  · intro row _ agrees
    exact agrees.ended active unnotified status

theorem Kept.delivered
    {state : HoldState} (kept : Kept state) {chequeId : Uuid} {cheque : KlikCheque}
    {notice : ChequeNotification} (found : state.klik.get? chequeId = some cheque)
    (about : cheque.notice chequeId = some notice) :
    Kept { state with
      bank := state.bank.receive notice (some cheque.userId)
      klik := state.klik.set chequeId { cheque with notified := true }
      returned := state.returned ++ refunded notice (some cheque.userId) state.bank } := by
  have heard : ∀ row, state.bank.issuedCheques.get? chequeId = some row →
      row.status = cheque.status ∨ row.status = .active := by
    intro row recorded
    rcases kept.matched.agrees chequeId row recorded with ⟨other, known, agrees⟩
    rw [found] at known
    cases known
    rcases agrees.status with same | ⟨active, _⟩
    · exact .inl same
    · exact .inr active
  rcases kept.books.receive about heard (some cheque.userId) with ⟨marked, books⟩
  have learnt := get?_mark state.bank chequeId cheque.status
  constructor
  · exact books
  · rw [marked]
    apply (kept.matched.learn found learnt).change found { cheque with notified := true } rfl rfl
    · exact id
    · exact id
    · intro active
      have still : cheque.status = .active := active
      simp only [KlikCheque.notice, still] at about
      cases about
    · intro row recorded agrees
      rw [learnt chequeId] at recorded
      rcases Option.map_eq_some_iff.mp recorded with ⟨old, _, now⟩
      rw [if_pos rfl] at now
      refine ⟨agrees.userId, agrees.amount, .inl ?_⟩
      rw [← now]
  · exact kept.asked

theorem Kept.raised
    {state : HoldState} (kept : Kept state) {index : Nat} {call : BankCall}
    (waits : state.calls[index]? = some call)
    (inTime : state.inTime (.raises index) = true) :
    Kept { state with calls := state.calls.eraseIdx index } := by
  refine ⟨kept.books, ?_, fun _ member => kept.asked _ (List.mem_of_mem_eraseIdx member)⟩
  apply kept.matched.drop waits
  intro id own cheque known
  cases call with
  | cancelling chequeId answered => cases own
  | issuing userId amount answer =>
      cases answer with
      | none => cases own
      | some chequeId =>
          cases List.mem_singleton.mp own
          simpa [HoldState.inTime, waits, known] using inTime

theorem Kept.recorded
    {state : HoldState} (kept : Kept state) {index : Nat}
    {userId : PyStr} {amount : Int} {chequeId : Uuid}
    (waits : state.calls[index]? = some (.issuing userId amount (some chequeId)))
    (inTime : state.inTime (.finish index) = true) :
    Kept { state with
      bank := apiIssueChequeRecord userId amount chequeId state.bank
      calls := state.calls.eraseIdx index } := by
  have call := List.mem_of_getElem? waits
  have fresh := (kept.matched.placed _ _ _ call).1
  refine ⟨kept.books.record fresh (kept.asked _ call) amount, ?_,
    fun _ member => kept.asked _ (List.mem_of_mem_eraseIdx member)⟩
  apply kept.matched.record waits
  intro cheque known released
  simpa [HoldState.inTime, waits, known, released] using inTime

/-- A cancel which is in time writes what the bank has already. -/
theorem Kept.overwritten
    {state : HoldState} (kept : Kept state) {index : Nat} {chequeId : Uuid}
    (waits : state.calls[index]? = some (.cancelling chequeId true))
    (inTime : state.inTime (.finish index) = true) :
    Kept { state with
      bank := apiCancelChequeRecord chequeId state.bank
      calls := state.calls.eraseIdx index } := by
  have already : ∀ row, state.bank.issuedCheques.get? chequeId = some row →
      row.status = .cancelled := by
    intro row found
    have heard : row.status ≠ .active := by
      simpa [HoldState.inTime, waits, found] using inTime
    rcases kept.matched.cancels chequeId (List.mem_of_getElem? waits) with
      ⟨cheque, known, cancelled⟩
    rcases kept.matched.agrees chequeId row found with ⟨other, same, agrees⟩
    rw [known] at same
    cases same
    rcases agrees.status with same | ⟨active, _⟩
    · exact same.trans cancelled
    · exact absurd active heard
  rw [apiCancelChequeRecord, mark_of_same already]
  refine ⟨kept.books, ?_, fun _ member => kept.asked _ (List.mem_of_mem_eraseIdx member)⟩
  apply kept.matched.drop waits
  intro id own
  cases own

theorem Kept.ask
    {state : HoldState} (kept : Kept state) {call : BankCall}
    (unplaced : call.placed = []) (unanswered : ∀ id, call ≠ .cancelling id true)
    (client : call.ForClient state.opening) : Kept (state.ask call) := by
  refine ⟨kept.books, kept.matched.ask unplaced unanswered, ?_⟩
  intro other member
  rcases List.mem_append.mp member with earlier | new
  · exact kept.asked other earlier
  · cases List.mem_singleton.mp new
    exact client

theorem kept_of_move
    {state after : HoldState} {action : HoldAction} (kept : Kept state)
    (inTime : state.inTime action = true) (move : HoldMove state action after) :
    Kept after := by
  cases move with
  | refused => exact kept
  | askedIssue known =>
      exact kept.ask rfl nofun ((kept.books.isSome_clients _).symm.trans known)
  | askedCancel => exact kept.ask rfl nofun trivial
  | issued waits fresh =>
      refine ⟨kept.books, kept.matched.issue waits fresh, ?_⟩
      intro call member
      rcases List.mem_or_eq_of_mem_set member with old | rfl
      · exact kept.asked call old
      · have before := kept.asked _ (List.mem_of_getElem? waits)
        exact before
  | cancelled waits found active =>
      have final : ChequeStatus.cancelled ≠ .active := fun same => by cases same
      refine ⟨kept.books, ?_, ?_⟩
      · exact (kept.ended found active final).answer waits (by rw [get?_set, if_pos rfl]) rfl
      · intro call member
        rcases List.mem_or_eq_of_mem_set member with old | rfl
        · exact kept.asked call old
        · trivial
  | raised waits => exact kept.raised waits inTime
  | recorded waits => exact kept.recorded waits inTime
  | overwritten waits => exact kept.overwritten waits inTime
  | ended found active final =>
      exact ⟨kept.books, kept.ended found active final, kept.asked⟩
  | delivered found about => exact kept.delivered found about

theorem kept_of_reachable
    {state : HoldState}
    (reached : (holdSystem.guarded fun state action =>
      state.inTime action = true).Reachable state) : Kept state := by
  apply reached.invariant
  · intro start isStart
    exact kept_of_isStart isStart
  · intro before action after _ kept move
    exact kept_of_move kept move.1 (holdMove_of_step move.2)

/-! ## Holds given back -/

/-- When every webhook was delivered, the bank knows what was released. -/
theorem Agrees.isReleased_eq
    {row : IssuedCheque} {cheque : KlikCheque} (agrees : Agrees row cheque)
    (notified : cheque.status ≠ .active → cheque.notified = true) :
    isReleased row.status = isReleased cheque.status := by
  rcases agrees.status with same | ⟨active, unnotified⟩
  · rw [same]
  · cases released : isReleased cheque.status with
    | false =>
        rw [active]
        rfl
    | true =>
        have ended : cheque.status ≠ .active := by
          intro still
          rw [still] at released
          cases released
        have told := notified ended
        rw [unnotified released] at told
        cases told

theorem Kept.notified
    {state : HoldState} (kept : Kept state) (settled : state.Settled)
    {chequeId : Uuid} {cheque : KlikCheque}
    (found : state.klik.get? chequeId = some cheque) :
    cheque.status ≠ .active → cheque.notified = true :=
  settled.notified (chequeId, cheque)
    ((get?_eq_some_iff kept.matched.klikIds chequeId cheque).mp found)

/-- The bank holds what KLIK would have it hold. -/
theorem Kept.held_eq
    {state : HoldState} (kept : Kept state) (settled : state.Settled) (userId : PyStr) :
    total (IssuedCheque.held userId) state.bank.issuedCheques =
      total (KlikCheque.held userId) state.klik := by
  apply total_eq_of_countedAt kept.books.issuedIds kept.matched.klikIds
  intro chequeId
  cases recorded : state.bank.issuedCheques.get? chequeId with
  | some row =>
      rcases kept.matched.agrees chequeId row recorded with ⟨cheque, found, agrees⟩
      have same := agrees.isReleased_eq (kept.notified settled found)
      rw [countedAt_of_get? recorded, countedAt_of_get? found]
      simp only [IssuedCheque.held, KlikCheque.held, agrees.userId, agrees.amount, same]
  | none =>
      rw [countedAt_of_absent recorded]
      cases found : state.klik.get? chequeId with
      | none => rw [countedAt_of_absent found]
      | some cheque =>
          rw [countedAt_of_get? found]
          cases released : isReleased cheque.status with
          | true => simp [KlikCheque.held, released]
          | false =>
              rcases kept.matched.recorded chequeId cheque found released with row | call
              · rw [recorded] at row
                cases row
              · rw [settled.calls] at call
                cases call

/-- The hold of a cheque which KLIK released was given back once. -/
theorem Kept.count_returned
    {state : HoldState} (kept : Kept state) (settled : state.Settled)
    {chequeId : Uuid} {cheque : KlikCheque} {row : IssuedCheque}
    (found : state.klik.get? chequeId = some cheque)
    (recorded : state.bank.issuedCheques.get? chequeId = some row) :
    state.returned.count chequeId = if isReleased cheque.status then 1 else 0 := by
  rcases kept.matched.agrees chequeId row recorded with ⟨other, known, agrees⟩
  rw [found] at known
  cases known
  rw [kept.books.returned chequeId, countedAt_of_get? recorded, IssuedCheque.givenBack,
    agrees.isReleased_eq (kept.notified settled found)]

/-- In every run of steps in time, once no handler waits and every webhook was
delivered, each balance is the one at the start without the active and the
redeemed cheques, and each hold of another cheque was given back once. -/
theorem holds_returned
    (state : HoldState)
    (reached : (holdSystem.guarded fun state action =>
      state.inTime action = true).Reachable state)
    (settled : state.Settled) : state.HoldsReturned := by
  have kept := kept_of_reachable reached
  constructor
  · intro userId balance opened
    rw [kept.books.balance userId, opened, Option.map_some, kept.held_eq settled userId]
  · intro chequeId cheque row found recorded
    exact kept.count_returned settled found recorded

/-- The bank before any cheque. -/
def bankStart : HoldState where
  opening := clients
  bank := { clients := clients, issuedCheques := [] }
  klik := []
  calls := []
  returned := []

theorem bankStart_isStart : bankStart.IsStart where
  clients := rfl
  named := by decide
  issuedCheques := rfl
  klik := rfl
  calls := rfl
  returned := rfl

/-- A client gets a cheque over a hundred. -/
def issueHundred (chequeId : Uuid) : List HoldAction :=
  [.startIssue (py "user-1") 10000, .klikIssues 0 chequeId, .finish 0]

/-- One cheque is cancelled, and its webhook comes twice, first before the
handler of the cancel goes on; the other one is redeemed. -/
def cancelledInTime : List HoldAction :=
  issueHundred 1 ++ issueHundred 2 ++
    [.startCancel 1, .klikCancels 0, .deliver 1, .finish 0, .deliver 1,
      .klikRedeems 2, .deliver 2]

/-- What a state shows of the first client. -/
def HoldState.shows (state : HoldState) : Option Int × List Uuid × Bool :=
  (state.bank.clients.get? (py "user-1"), state.returned, decide state.Settled)

/-- The redeemed cheque is paid, and the hold of the cancelled one is given
back once. -/
theorem holds_returned_cancelledInTime :
    ∃ state, TransitionSystem.runLabels holdStep bankStart cancelledInTime = some state ∧
      state.shows = (some 490000, [1], true) ∧ state.HoldsReturned := by
  have shown : (TransitionSystem.runLabels
      (TransitionSystem.guardStep holdStep HoldState.inTime) bankStart cancelledInTime).map
        HoldState.shows = some (some 490000, [1], true) := by
    decide +kernel
  rcases Option.map_eq_some_iff.mp shown with ⟨state, run, shows_⟩
  refine ⟨state, TransitionSystem.runLabels_of_guardStep run, shows_, ?_⟩
  have path : (holdSystem.guarded fun state action => state.inTime action = true).Path
      bankStart cancelledInTime state :=
    TransitionSystem.guarded_path_of_runLabels run
  have settled : state.Settled := by
    simp only [HoldState.shows, Prod.mk.injEq, decide_eq_true_eq] at shows_
    exact shows_.2.2
  exact holds_returned state (path.reachable (.init bankStart_isStart)) settled

/-- The handler of the cancel writes before the webhook comes. -/
def cancelledEarly : List HoldAction :=
  issueHundred 1 ++ [.startCancel 1, .klikCancels 0, .finish 0, .deliver 1]

/-- The cheque is cancelled, and its hold is lost. -/
theorem hold_lost :
    ¬ ∀ state, holdSystem.Reachable state → state.Settled → state.HoldsReturned := by
  intro returned
  have shown : (TransitionSystem.runLabels holdStep bankStart cancelledEarly).map
      (fun state => (state.shows, state.opening.get? (py "user-1"),
        total (KlikCheque.held (py "user-1")) state.klik)) =
      some ((some 490000, [], true), some 500000, 0) := by
    decide +kernel
  rcases Option.map_eq_some_iff.mp shown with ⟨state, run, shows_⟩
  simp only [HoldState.shows, Prod.mk.injEq, decide_eq_true_eq] at shows_
  rcases shows_ with ⟨⟨balance, _, settled⟩, opened, held⟩
  have reached : holdSystem.Reachable state :=
    TransitionSystem.reachable_of_runLabels bankStart_isStart run
  have owed := (returned state reached settled).balances _ _ opened
  rw [balance, held] at owed
  cases owed

end Klik.BankIO
