import Klik.Cheques.ChequeEvents

/-!
# Codes of active cheques

The table has no constraint on codes, and the loop which draws one gives up
after ten collisions.  As long as no cheque is inserted with the code of an
active one, a code names one active cheque.
-/

namespace Klik.Cheques

open Klik.Banks
open Klik.Codes
open Klik.Common
open Klik.Ledger
open Klik.Lib

/-- A code names one active cheque, which is the one that a redeem by code
spends. -/
structure CodesNameOne (state : ChequeState) : Prop where
  unique : ∀ first ∈ state.db.cheques, ∀ second ∈ state.db.cheques,
    first.status = .active → second.status = .active →
      first.code = second.code → first = second
  spent : ∀ request cheque tx, Redeems request state.db cheque tx →
    ∀ other ∈ state.db.cheques, other.status = .active →
      other.code = request.chequeCode → other = cheque

/-- The row of an issue request is inserted: its key fits the column, its id is
new, and the server takes it. -/
structure Issuing.Inserts
    (issuing : Issuing) (chequeId : Uuid) (refused : Bool) (cheques : List Cheque) :
    Prop where
  key_length : issuing.request.idempotencyKey.length ≤ 64
  fresh : ∀ old ∈ cheques, old.id ≠ chequeId
  carried : refused = false

theorem createCheque_of_inserts
    {chequeId : Uuid} {refused : Bool} {issuing : Issuing} {cheques : List Cheque}
    (inserts : issuing.Inserts chequeId refused cheques) :
    createCheque chequeId refused issuing cheques =
      .ok (cheques ++ [issuing.cheque chequeId]) := by
  have absent : cheques.any (fun cheque => cheque.id = chequeId) = false := by
    simpa using inserts.fresh
  simp only [createCheque, if_neg (Nat.not_lt_of_le inserts.key_length), absent,
    inserts.carried, Bool.false_eq_true, if_false]

/-- An inserted cheque does not get the code of an active one. -/
def InsertsFreeCode (state : ChequeState) (action : ChequeAction) : Prop :=
  match action with
  | .createCheque issuing chequeId refused =>
      issuing.Inserts chequeId refused state.db.cheques →
        codeInUse issuing.code state.db.cheques = false
  | _ => True

theorem inserts_of_createCheque
    {chequeId : Uuid} {refused : Bool} {issuing : Issuing} {cheques after : List Cheque}
    (created : createCheque chequeId refused issuing cheques = .ok after) :
    issuing.Inserts chequeId refused cheques := by
  have fresh := (createCheque_ok created).2
  simp only [createCheque] at created
  split at created
  · cases created
  · rename_i short
    split at created
    · cases created
    · split at created
      · cases created
      · rename_i carried
        exact ⟨Nat.le_of_not_lt short, fresh, Bool.eq_false_iff.mpr carried⟩

/-- Each active cheque has a code of its own. -/
def UniqueActive (cheques : List Cheque) : Prop :=
  ∀ first ∈ cheques, ∀ second ∈ cheques,
    first.status = .active → second.status = .active →
      first.code = second.code → first = second

/-- Overwriting a row with one which is not active adds no active cheque. -/
theorem UniqueActive.saveRow
    {cheques : List Cheque} (unique : UniqueActive cheques)
    {row : Cheque} (ended : row.status ≠ .active) :
    UniqueActive (saveRow Cheque.id row cheques) := by
  have earlier : ∀ cheque ∈ Lib.saveRow Cheque.id row cheques,
      cheque.status = .active → cheque ∈ cheques := by
    intro cheque member active
    rcases mem_saveRow member with rfl | ⟨old, _⟩
    · exact absurd active ended
    · exact old
  intro first firstMember second secondMember firstActive secondActive
  exact unique first (earlier first firstMember firstActive)
    second (earlier second secondMember secondActive) firstActive secondActive

theorem UniqueActive.insert
    {cheques : List Cheque} (unique : UniqueActive cheques)
    {cheque : Cheque} (free : codeInUse cheque.code cheques = false) :
    UniqueActive (cheques ++ [cheque]) := by
  have unused : ∀ old ∈ cheques, old.status = .active → old.code ≠ cheque.code := by
    intro old member active same
    simp only [codeInUse, List.any_eq_false, Bool.and_eq_true, decide_eq_true_eq,
      not_and] at free
    exact free old member same active
  intro first firstMember second secondMember firstActive secondActive same
  rcases List.mem_append.mp firstMember with firstOld | firstNew
  · rcases List.mem_append.mp secondMember with secondOld | secondNew
    · exact unique first firstOld second secondOld firstActive secondActive same
    · rw [List.mem_singleton.mp secondNew] at same
      exact absurd same (unused first firstOld firstActive)
  · rw [List.mem_singleton.mp firstNew] at same ⊢
    rcases List.mem_append.mp secondMember with secondOld | secondNew
    · exact absurd same.symm (unused second secondOld secondActive)
    · exact (List.mem_singleton.mp secondNew).symm

theorem uniqueActive_step
    {state after : ChequeState} {action : ChequeAction}
    (unique : UniqueActive state.db.cheques) (free : InsertsFreeCode state action)
    (move : chequeSystem.Step state action after) :
    UniqueActive after.db.cheques := by
  cases event_of_step move with
  | quiet cheques transactions entries redemptions outbox =>
      rw [cheques]
      exact unique
  | created issuing chequeId refused fresh inserted cheques transactions entries
      redemptions outbox =>
      rw [cheques]
      apply unique.insert
      exact free (inserts_of_createCheque inserted)
  | redeemed request cheque tx redeems cheques transactions entries redemptions outbox =>
      rw [cheques]
      apply unique.saveRow
      exact nofun
  | overdue request cheque reports db redemptions outbox =>
      rw [db]
      exact unique
  | finished redemption banks refused going => exact unique
  | cancelled request cheque member active cheques transactions entries redemptions outbox =>
      rw [cheques]
      apply unique.saveRow
      exact nofun
  | expired run refused cheque member active cheques transactions entries redemptions
      outbox =>
      rw [cheques]
      apply unique.saveRow
      exact nofun

theorem uniqueActive_of_reachable
    {state : ChequeState}
    (reached : (chequeSystem.guarded InsertsFreeCode).Reachable state) :
    UniqueActive state.db.cheques := by
  apply reached.invariant
  · rintro start ⟨noCheques, _⟩ first member
    rw [noCheques] at member
    cases member
  · intro source action target _ unique move
    exact uniqueActive_step unique move.1 move.2

theorem codesNameOne_of_unique
    {state : ChequeState} (unique : UniqueActive state.db.cheques) : CodesNameOne state := by
  constructor
  · exact unique
  · intro request cheque tx redeems other member active code
    exact unique other member cheque redeems.member active redeems.active
      (code.trans redeems.code.symm)

/-- After an insertion with the code of an active cheque, the code names two. -/
theorem not_codesNameOne_of_step
    {state after : ChequeState} {action : ChequeAction}
    (taken : ¬ InsertsFreeCode state action)
    (move : chequeSystem.Step state action after) : ¬ CodesNameOne after := by
  intro names
  simp only [chequeSystem, TransitionSystem.ofStep] at move
  cases action with
  | createCheque issuing chequeId refused =>
      simp only [InsertsFreeCode, Classical.not_imp, Bool.not_eq_false] at taken
      rcases taken with ⟨inserts, inUse⟩
      simp only [codeInUse, List.any_eq_true, Bool.and_eq_true, decide_eq_true_eq] at inUse
      rcases inUse with ⟨old, member, code, active⟩
      simp only [chequeStep] at move
      split at move
      · cases move
        simp only [ChequeState.chequeCreated, createCheque_of_inserts inserts] at names
        have same := names.unique old (List.mem_append_left _ member)
          (issuing.cheque chequeId) (List.mem_append_right _ (List.mem_singleton_self _))
          active rfl code
        apply inserts.fresh old member
        rw [same]
        rfl
      · cases move
  | _ => exact taken trivial

/-- While cheques are inserted with free codes, a code names one active
cheque; an insertion with a code which is taken ends this at once. -/
theorem active_codes_unique (state : ChequeState) :
    ((chequeSystem.guarded InsertsFreeCode).Reachable state → CodesNameOne state) ∧
      ∀ action after, ¬ InsertsFreeCode state action →
        chequeSystem.Step state action after → ¬ CodesNameOne after := by
  constructor
  · intro reached
    exact codesNameOne_of_unique (uniqueActive_of_reachable reached)
  · intro action after taken move
    exact not_codesNameOne_of_step taken move

/-! ## Ten collisions -/

/-- The actions of a request whose every draw is the same code. -/
def stubbornActions (key code : PyStr) (chequeId : Uuid) : List ChequeAction :=
  [.startIssue (issueRequest key), .drawCode ⟨issueRequest key, [], 10⟩ code] ++
    ((List.range 9).reverse.map fun left =>
      .drawCode ⟨issueRequest key, code, left + 1⟩ code) ++
    [.createCheque ⟨issueRequest key, code, 0⟩ chequeId false]

/-- Two cheques are issued with codes of their own. -/
def issuedApart : List ChequeAction :=
  issueActions (py "a") (py "123456789") 1 ++ issueActions (py "b") (py "987654321") 2

/-- The codes which are inserted are free. -/
def insertsFreeCode (state : ChequeState) (action : ChequeAction) : Bool :=
  match action with
  | .createCheque issuing _ _ => !codeInUse issuing.code state.db.cheques
  | _ => true

/-- The code of the first cheque is taken. -/
theorem codeInUse_issued :
    (TransitionSystem.runLabels chequeStep noCheques
      (issueActions (py "a") (py "123456789") 1 ++
        (stubbornActions (py "b") (py "123456789") 2).dropLast)).map
          (fun state => (decide (⟨issueRequest (py "b"), py "123456789", 0⟩ ∈ state.issuing),
            codeInUse (py "123456789") state.db.cheques, state.db.cheques.map Cheque.id)) =
        some (true, true, [1]) := by
  decide +kernel

/-- The codes of the two cheques name one each, until a third one is inserted
with the code of the first. -/
theorem active_codes_unique_issuedApart :
    (∃ state, TransitionSystem.runLabels chequeStep noCheques issuedApart = some state ∧
      state.db.cheques.map Cheque.code = [py "123456789", py "987654321"] ∧
        CodesNameOne state) ∧
      ∃ state, chequeSystem.Reachable state ∧ ¬ CodesNameOne
        (state.chequeCreated ⟨issueRequest (py "b"), py "123456789", 0⟩ 2 false) := by
  constructor
  · have issued : (TransitionSystem.runLabels
        (TransitionSystem.guardStep chequeStep insertsFreeCode) noCheques issuedApart).map
          (fun state => state.db.cheques.map Cheque.code) =
            some [py "123456789", py "987654321"] := by
      decide +kernel
    rcases Option.map_eq_some_iff.mp issued with ⟨state, run, codes⟩
    refine ⟨state, TransitionSystem.runLabels_of_guardStep run, codes, ?_⟩
    apply (active_codes_unique state).1
    have path : (chequeSystem.guarded fun state action =>
        insertsFreeCode state action = true).Path noCheques issuedApart state :=
      TransitionSystem.guarded_path_of_runLabels run
    have guarded : (chequeSystem.guarded InsertsFreeCode).Path
        noCheques issuedApart state := by
      apply path.mono
      intro before action after move
      refine ⟨?_, move.2⟩
      cases action with
      | createCheque issuing chequeId refused =>
          intro _
          exact Bool.not_eq_true' _ |>.mp move.1
      | _ => trivial
    exact guarded.reachable (.init ⟨rfl, rfl, rfl, rfl, rfl⟩)
  · rcases Option.map_eq_some_iff.mp codeInUse_issued with ⟨state, run, shown⟩
    simp only [Prod.mk.injEq, decide_eq_true_eq] at shown
    refine ⟨state, TransitionSystem.reachable_of_runLabels ⟨rfl, rfl, rfl, rfl, rfl⟩ run, ?_⟩
    have ready : ⟨issueRequest (py "b"), py "123456789", 0⟩ ∈ state.issuing ∧ 0 = 0 :=
      ⟨shown.1, rfl⟩
    apply (active_codes_unique state).2
      (.createCheque ⟨issueRequest (py "b"), py "123456789", 0⟩ 2 false)
    · intro free
      have fresh : ∀ old ∈ state.db.cheques, old.id ≠ 2 := by
        intro old member same
        have among := List.mem_map_of_mem (f := Cheque.id) member
        rw [shown.2.2, same] at among
        cases List.mem_singleton.mp among
      have notInUse := free ⟨by decide, fresh, rfl⟩
      rw [shown.2.1] at notInUse
      cases notInUse
    · exact if_pos ready

/-- The second cheque is issued with the code of the first one, which was drawn
ten times. -/
theorem active_code_issued_twice :
    ¬ ∀ state, chequeSystem.Reachable state → CodesNameOne state := by
  intro unique
  have issued : (TransitionSystem.runLabels chequeStep noCheques
      (issueActions (py "a") (py "123456789") 1 ++
        stubbornActions (py "b") (py "123456789") 2)).map
          (fun state => state.db.cheques.map fun cheque =>
            (cheque.id, cheque.code, decide (cheque.status = .active))) =
        some [(1, py "123456789", true), (2, py "123456789", true)] := by
    decide +kernel
  rcases Option.map_eq_some_iff.mp issued with ⟨state, run, cheques⟩
  have reached : chequeSystem.Reachable state :=
    TransitionSystem.reachable_of_runLabels ⟨rfl, rfl, rfl, rfl, rfl⟩ run
  match table : state.db.cheques with
  | [first, second] =>
      simp only [table, List.map_cons, List.map_nil, List.cons.injEq, Prod.mk.injEq,
        decide_eq_true_eq, and_true] at cheques
      have same := (unique state reached).unique first (by simp [table]) second
        (by simp [table]) cheques.1.2.2 cheques.2.2.2
        (cheques.1.2.1.trans cheques.2.2.1.symm)
      rw [same, cheques.2.1] at cheques
      cases cheques.1.1
  | [] => simp [table] at cheques
  | [_] => simp [table] at cheques
  | _ :: _ :: _ :: _ => simp [table] at cheques

end Klik.Cheques
