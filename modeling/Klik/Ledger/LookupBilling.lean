import Klik.Ledger.LookupAccrual
import Klik.Lib.InFlight
import Mathlib.Tactic.Linarith

/-!
# Billing lookups once

The fees which are committed, those in flight in a run and those still in the
counter add up to the fees of all lookups, as long as every deletion removes
just what its run has billed and no run fails after a deletion.  A final run
then leaves nothing in the counters and nothing in flight.
-/

namespace Klik.Ledger

open Klik.Banks
open Klik.Common
open Klik.Lib

/-! ## Fees in flight -/

/-- Fees of the runs in progress whose counters are deleted already. -/
def inFlight (bankId : Uuid) (day : Date) (runs : List AccrualRun) : Decimal :=
  (runs.map fun run => feesOf bankId day run.billed).sum

@[simp]
theorem inFlight_nil (bankId : Uuid) (day : Date) : inFlight bankId day [] = 0 := rfl

theorem inFlight_perm
    {bankId : Uuid} {day : Date} {runs others : List AccrualRun}
    (perm : runs.Perm others) : inFlight bankId day runs = inFlight bankId day others :=
  (perm.map _).sum_eq

theorem inFlight_cons
    (bankId : Uuid) (day : Date) (run : AccrualRun) (runs : List AccrualRun) :
    inFlight bankId day (run :: runs) =
      feesOf bankId day run.billed + inFlight bankId day runs := by
  simp [inFlight]

/-- A run which ends takes its fees out of flight. -/
theorem inFlight_eraseIdx
    (bankId : Uuid) (day : Date) {runs : List AccrualRun} {index : Nat}
    {run : AccrualRun} (found : runs[index]? = some run) :
    inFlight bankId day runs =
      feesOf bankId day run.billed + inFlight bankId day (runs.eraseIdx index) := by
  rw [← inFlight_cons]
  exact inFlight_perm (perm_eraseIdx found).symm

/-- A run which moves on changes the fees in flight by its own. -/
theorem inFlight_set
    (bankId : Uuid) (day : Date) {runs : List AccrualRun} {index : Nat}
    {run : AccrualRun} (found : runs[index]? = some run) (after : AccrualRun) :
    inFlight bankId day (runs.set index after) + feesOf bankId day run.billed =
      inFlight bankId day runs + feesOf bankId day after.billed := by
  rw [inFlight_eraseIdx bankId day found, inFlight_perm (perm_set found after),
    inFlight_cons]
  ring

/-! ## What the checks decide -/

/-- An entry is created only for a known bank, with the fee of the count. -/
theorem decideCounter_bill
    {banks : List Bank} {entries : List LedgerEntry} {bankId : Uuid} {day : Date}
    {count : Nat} {draft : EntryDraft}
    (decision : decideCounter banks entries bankId day count = .bill draft) :
    ∃ bank, getBank banks bankId = some bank ∧
      draft = p2pDraft banks bank day (lookupTotal bank count) := by
  simp only [decideCounter] at decision
  split at decision
  · cases decision
  · cases known : getBank banks bankId with
    | none => simp [known] at decision
    | some bank =>
        simp only [known] at decision
        split at decision
        · cases decision
        · split at decision
          · cases decision
          · split at decision
            · cases decision
            · cases decision
              exact ⟨bank, rfl, rfl⟩

/-- A counter of a known bank with lookups is not skipped. -/
theorem decideCounter_ne_skip
    {banks : List Bank} {entries : List LedgerEntry} {bankId : Uuid} {day : Date}
    {count : Nat} {bank : Bank} (known : getBank banks bankId = some bank)
    (positive : count ≠ 0) :
    decideCounter banks entries bankId day count ≠ .skip := by
  intro skipped
  simp only [decideCounter, positive, if_false, known] at skipped
  split at skipped
  · cases skipped
  · split at skipped
    · cases skipped
    · split at skipped <;> cases skipped

/-- What a run is after its checks. -/
inductive Decided
    (banks : List Bank) (bankId : Uuid) (count : Nat) (run : AccrualRun) :
    AccrualRun → Prop where
  | skipped
      (unbillable : ∀ bank, getBank banks bankId = some bank → count = 0) :
      Decided banks bankId count run { run with stage := .between }
  | dropped :
      Decided banks bankId count run { run with stage := .deleting bankId count none }
  | billed (bank : Bank) (known : getBank banks bankId = some bank) :
      Decided banks bankId count run
        { run with
          stage := .deleting bankId count
            (some (p2pDraft banks bank run.day (lookupTotal bank count)).row) }

theorem decided_of_some
    {banks : List Bank} {entries : List LedgerEntry} {bankId : Uuid} {count : Nat}
    {run after : AccrualRun}
    (decision : run.decided banks entries bankId count = some after) :
    Decided banks bankId count run after := by
  simp only [AccrualRun.decided] at decision
  cases checks : decideCounter banks (entries ++ run.billed) bankId run.day count with
  | skip =>
      simp only [checks] at decision
      cases decision
      refine .skipped fun bank known => ?_
      by_contra positive
      exact decideCounter_ne_skip known positive checks
  | drop =>
      simp only [checks] at decision
      cases decision
      exact .dropped
  | bill draft =>
      simp only [checks] at decision
      rcases decideCounter_bill checks with ⟨bank, known, rfl⟩
      cases creation : (p2pDraft banks bank run.day (lookupTotal bank count)).create with
      | error error => simp [creation] at decision
      | ok entry =>
          simp only [creation] at decision
          cases decision
          rw [(EntryDraft.create_ok creation).1]
          exact .billed bank known

/-! ## What a step does to the runs -/

/-- A step of one run, with everything it changes. -/
inductive RunStep (banks : List Bank) (state : LookupState) (index : Nat)
    (run : AccrualRun) : AccrualAction → LookupState → Prop where
  | fetched (bankId : Uuid) (rest : List Uuid)
      (stage_eq : run.stage = .between) (remaining_eq : run.remaining = bankId :: rest) :
      RunStep banks state index run (.fetch index)
        { state with
          runs := state.runs.set index
            ⟨run.day, rest, run.billed, .read bankId (state.counters bankId run.day)⟩ }
  | decided (bankId : Uuid) (count : Nat) (after : AccrualRun)
      (stage_eq : run.stage = .read bankId count)
      (decision : Decided banks bankId count run after) :
      RunStep banks state index run (.decide index)
        { state with runs := state.runs.set index after }
  | raised (bankId : Uuid) (count : Nat)
      (stage_eq : run.stage = .read bankId count)
      (exception : run.decided banks state.entries bankId count = none) :
      RunStep banks state index run (.decide index)
        { state with runs := state.runs.eraseIdx index }
  | deleted (bankId : Uuid) (count : Nat) (inserted : Option LedgerEntry)
      (stage_eq : run.stage = .deleting bankId count inserted) :
      RunStep banks state index run (.delete index)
        { state with
          counters := state.counters.delete bankId run.day
          runs := state.runs.set index
            ⟨run.day, run.remaining, run.billed ++ inserted.toList, .between⟩ }
  | finished (stage_eq : run.stage = .between) (remaining_eq : run.remaining = []) :
      RunStep banks state index run (.finish index)
        { state with
          entries := state.entries ++ run.billed
          runs := state.runs.eraseIdx index }
  | failed :
      RunStep banks state index run (.fail index)
        { state with runs := state.runs.eraseIdx index }

/-- Actions which are steps of the run at a position. -/
def AccrualAction.runIndex : AccrualAction → Option Nat
  | .fetch index | .decide index | .delete index | .finish index | .fail index =>
      some index
  | .lookup _ _ | .expire _ _ | .book _ | .start _ _ => none

theorem runStep_of_step
    {banks : List Bank} {state after : LookupState} {action : AccrualAction}
    {index : Nat} (moves : action.runIndex = some index)
    (move : accrualStep banks state action = some after) :
    ∃ run, state.runs[index]? = some run ∧ RunStep banks state index run action after := by
  cases action with
  | lookup bankId day => cases moves
  | expire bankId day => cases moves
  | book created => cases moves
  | start day scanned => cases moves
  | fetch index =>
      cases moves
      simp only [accrualStep] at move
      split at move
      · rename_i found
        cases move
        exact ⟨_, found, .fetched _ _ rfl rfl⟩
      · cases move
  | decide index =>
      cases moves
      simp only [accrualStep] at move
      split at move
      · rename_i found
        refine ⟨_, found, ?_⟩
        split at move
        · rename_i decision
          cases move
          exact .decided _ _ _ rfl (decided_of_some decision)
        · rename_i exception
          cases move
          exact .raised _ _ rfl exception
      · cases move
  | delete index =>
      cases moves
      simp only [accrualStep] at move
      split at move
      · rename_i found
        cases move
        exact ⟨_, found, .deleted _ _ _ rfl⟩
      · cases move
  | finish index =>
      cases moves
      simp only [accrualStep] at move
      split at move
      · rename_i found
        cases move
        exact ⟨_, found, .finished rfl rfl⟩
      · cases move
  | fail index =>
      cases moves
      simp only [accrualStep] at move
      split at move
      · rename_i found
        cases move
        exact ⟨_, found, .failed⟩
      · cases move

/-! ## Every lookup is accounted for -/

/-- Banks whose lookups cost a positive number of whole cents. -/
def WholeCents (banks : List Bank) : Prop :=
  ∀ bank ∈ banks, ∃ cents : Int, 0 < cents ∧ bank.p2pLookupFee = cents / 100

/-- The fees of all lookups are committed, in flight, or still to be billed. -/
def LookupsBalanced (banks : List Bank) (state : LookupState) : Prop :=
  ∀ bank bankId day, getBank banks bankId = some bank →
    feesOf bankId day state.entries + inFlight bankId day state.runs +
        state.counters bankId day * bank.p2pLookupFee =
      state.lookups bankId day * bank.p2pLookupFee

/-- The entry of a run has the fee of the lookups which the run has read. -/
def InsertionsPriced (banks : List Bank) (state : LookupState) : Prop :=
  ∀ run ∈ state.runs, ∀ bankId count entry,
    run.stage = .deleting bankId count (some entry) →
      ∃ bank, getBank banks bankId = some bank ∧
        entry = (p2pDraft banks bank run.day (lookupTotal bank count)).row

theorem lookupTotal_of_known
    {banks : List Bank} (cents : WholeCents banks) {bankId : Uuid} {bank : Bank}
    (known : getBank banks bankId = some bank) (count : Nat) :
    lookupTotal bank count = count * bank.p2pLookupFee := by
  rcases cents bank (List.mem_of_find?_eq_some known) with ⟨_, _, fee_eq⟩
  exact lookupTotal_of_cents fee_eq count

theorem insertionsPriced_step
    {banks : List Bank} {state after : LookupState} {action : AccrualAction}
    (move : accrualStep banks state action = some after)
    (priced : InsertionsPriced banks state) :
    InsertionsPriced banks after := by
  cases moves : action.runIndex with
  | none =>
      cases action with
      | lookup bankId day =>
          rcases Option.map_eq_some_iff.mp move with ⟨bank, _, rfl⟩
          exact priced
      | expire bankId day =>
          cases move
          exact priced
      | book created =>
          simp only [accrualStep] at move
          split at move <;> cases move
          exact priced
      | start day scanned =>
          simp only [accrualStep] at move
          split at move <;> cases move
          intro run member
          rcases List.mem_append.mp member with old | new
          · exact priced run old
          · rw [List.mem_singleton.mp new]
            intro bankId count entry stage_eq
            cases stage_eq
      | _ => cases moves
  | some index =>
      rcases runStep_of_step moves move with ⟨run, found, step⟩
      cases step with
      | fetched bankId rest stage_eq remaining_eq =>
          intro other member
          rcases List.mem_or_eq_of_mem_set member with old | rfl
          · exact priced other old
          · intro bankId count entry stage_eq
            cases stage_eq
      | decided bankId count next stage_eq decision =>
          intro other member
          rcases List.mem_or_eq_of_mem_set member with old | rfl
          · exact priced other old
          · intro otherBank otherCount entry other_stage
            cases decision with
            | skipped unbillable => cases other_stage
            | dropped => cases other_stage
            | billed bank known =>
                cases other_stage
                exact ⟨bank, known, rfl⟩
      | raised bankId count stage_eq exception =>
          exact fun other member => priced other (List.mem_of_mem_eraseIdx member)
      | deleted bankId count inserted stage_eq =>
          intro other member
          rcases List.mem_or_eq_of_mem_set member with old | rfl
          · exact priced other old
          · intro bankId count entry stage_eq
            cases stage_eq
      | finished stage_eq remaining_eq =>
          exact fun other member => priced other (List.mem_of_mem_eraseIdx member)
      | failed =>
          exact fun other member => priced other (List.mem_of_mem_eraseIdx member)

/-- A guarded step keeps the balance. -/
theorem lookupsBalanced_step
    {banks : List Bank} (cents : WholeCents banks)
    {state after : LookupState} {action : AccrualAction}
    (guard : countsKept banks state action = true)
    (move : accrualStep banks state action = some after)
    (priced : InsertionsPriced banks state)
    (balanced : LookupsBalanced banks state) :
    LookupsBalanced banks after := by
  intro bank bankId day known
  have before := balanced bank bankId day known
  cases moves : action.runIndex with
  | none =>
      cases action with
      | lookup otherBank otherDay =>
          rcases Option.map_eq_some_iff.mp move with ⟨_, _, rfl⟩
          simp only [LookupCounters.increment]
          by_cases here : bankId = otherBank ∧ day = otherDay
          · rw [if_pos here, if_pos here]
            rw [here.1, here.2] at before ⊢
            push_cast
            linarith
          · rw [if_neg here, if_neg here]
            exact before
      | expire otherBank otherDay =>
          cases move
          simp only [LookupCounters.delete]
          by_cases here : bankId = otherBank ∧ day = otherDay
          · have nothing : state.counters bankId day = 0 := by
              rw [here.1, here.2]
              simpa [countsKept] using guard
            rw [nothing] at before
            rw [if_pos here]
            exact before
          · rw [if_neg here]
            exact before
      | book created =>
          simp only [accrualStep] at move
          split at move
          · rename_i others
            cases move
            have noFees : feesOf bankId day created = 0 := by
              apply feesOf_eq_zero
              intro entry member
              simpa using List.all_eq_true.mp others entry member
            rw [feesOf_append, noFees, add_zero]
            exact before
          · cases move
      | start otherDay scanned =>
          simp only [accrualStep] at move
          split at move <;> cases move
          rw [inFlight_perm List.perm_append_comm, List.singleton_append, inFlight_cons,
            feesOf_nil, zero_add]
          exact before
      | _ => cases moves
  | some index =>
      rcases runStep_of_step moves move with ⟨run, found, step⟩
      have ended := inFlight_eraseIdx bankId day found
      have moved := inFlight_set bankId day found
      cases step with
      | fetched otherBank rest stage_eq remaining_eq =>
          have same := moved ⟨run.day, rest, run.billed,
            .read otherBank (state.counters otherBank run.day)⟩
          simp only at same ⊢
          linarith
      | decided otherBank count next stage_eq decision =>
          have sameBilled : next.billed = run.billed := by
            cases decision <;> rfl
          have same := moved next
          rw [sameBilled] at same
          simp only
          linarith
      | raised otherBank count stage_eq exception =>
          have nothing : run.billed = [] := by
            simpa [countsKept, found, AccrualRun.raisesEarly, stage_eq, exception]
              using guard
          rw [nothing, feesOf_nil, zero_add] at ended
          rw [ended] at before
          exact before
      | deleted otherBank count inserted stage_eq =>
          have read : state.counters otherBank run.day =
              if inserted = none then 0 else count := by
            simpa [countsKept, found, AccrualRun.deletesBilled, stage_eq] using guard
          have changed := moved
            ⟨run.day, run.remaining, run.billed ++ inserted.toList, .between⟩
          simp only [feesOf_append] at changed
          simp only [LookupCounters.delete]
          have paid : feesOf bankId day inserted.toList =
              if bankId = otherBank ∧ day = run.day then
                state.counters bankId day * bank.p2pLookupFee
              else 0 := by
            cases inserted with
            | none =>
                split
                · rename_i here
                  rw [here.1, here.2, read]
                  simp
                · rfl
            | some entry =>
                rcases priced run (List.mem_of_getElem? found) otherBank count entry
                  stage_eq with ⟨payer, payerKnown, rfl⟩
                simp only [Option.toList_some, feesOf_p2pDraft, getBank_id payerKnown]
                by_cases here : bankId = otherBank ∧ day = run.day
                · have samePayer : payer = bank := by
                    rw [← here.1, known] at payerKnown
                    exact (Option.some.inj payerKnown).symm
                  rw [if_pos ⟨here.1.symm, here.2.symm⟩, if_pos here, samePayer,
                    lookupTotal_of_known cents known, here.1, here.2, read]
                  simp
                · rw [if_neg fun there => here ⟨there.1.symm, there.2.symm⟩,
                    if_neg here]
          rw [paid] at changed
          by_cases here : bankId = otherBank ∧ day = run.day
          · rw [if_pos here] at changed
            rw [if_pos here]
            push_cast
            linarith
          · rw [if_neg here] at changed
            rw [if_neg here]
            linarith
      | finished stage_eq remaining_eq =>
          simp only [feesOf_append]
          linarith
      | failed =>
          have nothing : run.billed = [] := by
            simpa [countsKept, found] using guard
          rw [nothing, feesOf_nil, zero_add] at ended
          rw [ended] at before
          exact before

/-- While counts are kept, every lookup is accounted for. -/
theorem lookupsBalanced_of_reachable
    {banks : List Bank} (cents : WholeCents banks) {state : LookupState}
    (reached : (countedSystem banks).Reachable state) :
    LookupsBalanced banks state := by
  have both : LookupsBalanced banks state ∧ InsertionsPriced banks state := by
    apply reached.invariant
    · rintro start ⟨noCounters, noLookups, noFees, noRuns⟩
      constructor
      · intro bank bankId day _
        rw [noCounters, noLookups, noRuns, feesOf_eq_zero bankId day noFees]
        simp
      · intro run member
        rw [noRuns] at member
        cases member
    · intro source action target _ held move
      exact ⟨lookupsBalanced_step cents move.1 move.2 held.2 held.1,
        insertionsPriced_step move.2 held.2⟩
  exact both.1

/-! ## The final run -/

/-- The only run in progress will still come to every counter of its day. -/
def Covers (banks : List Bank) (day : Date) (state : LookupState) : Prop :=
  state.runs = [] ∨
    ∃ run, state.runs = [run] ∧ run.day = day ∧
      ∀ bankId bank, getBank banks bankId = some bank →
        state.counters bankId day ≠ 0 →
          bankId ∈ run.remaining ∨
            run.stage = .read bankId (state.counters bankId day) ∨
              ∃ count inserted, run.stage = .deleting bankId count inserted

theorem covers_start
    {banks : List Bank} {state after : LookupState} {day : Date} {scanned : List Uuid}
    (idle : state.runs = [])
    (move : accrualStep banks state (.start day scanned) = some after) :
    Covers banks day after := by
  simp only [accrualStep] at move
  split at move
  · rename_i complete
    cases move
    right
    refine ⟨⟨day, scanned, [], .between⟩, by rw [idle]; rfl, rfl, ?_⟩
    intro bankId bank known positive
    left
    have listed := List.all_eq_true.mp complete bank (List.mem_of_find?_eq_some known)
    rw [getBank_id known] at listed
    simpa [positive] using listed
  · cases move

theorem covers_step
    {banks : List Bank} {state after : LookupState} {day : Date}
    {action : AccrualAction} (own : action ∈ [.fetch 0, .decide 0, .delete 0])
    (move : accrualStep banks state action = some after)
    (covers : Covers banks day state) :
    Covers banks day after := by
  have moves : action.runIndex = some 0 := by
    simp only [List.mem_cons, List.not_mem_nil, or_false] at own
    rcases own with rfl | rfl | rfl <;> rfl
  rcases runStep_of_step moves move with ⟨run, found, step⟩
  rcases covers with idle | ⟨only, runs_eq, rfl, reaches⟩
  · rw [idle] at found
    cases found
  · rw [runs_eq] at found
    cases found
    cases step with
    | fetched bankId rest stage_eq remaining_eq =>
        right
        refine ⟨⟨run.day, rest, run.billed,
          .read bankId (state.counters bankId run.day)⟩, by rw [runs_eq]; rfl, rfl, ?_⟩
        intro otherBank bank known positive
        rcases reaches otherBank bank known positive with later | read | deleting
        · rw [remaining_eq] at later
          rcases List.mem_cons.mp later with rfl | inRest
          · exact Or.inr (Or.inl rfl)
          · exact Or.inl inRest
        · rw [stage_eq] at read
          cases read
        · rcases deleting with ⟨count, inserted, impossible⟩
          rw [stage_eq] at impossible
          cases impossible
    | decided bankId count next stage_eq decision =>
        right
        refine ⟨next, by rw [runs_eq]; rfl, by cases decision <;> rfl, ?_⟩
        intro otherBank bank known positive
        rcases reaches otherBank bank known positive with later | read | deleting
        · left
          cases decision <;> exact later
        · right
          right
          rw [stage_eq] at read
          cases read
          cases decision with
          | skipped unbillable => exact absurd (unbillable bank known) positive
          | dropped => exact ⟨_, _, rfl⟩
          | billed payer payerKnown => exact ⟨_, _, rfl⟩
        · rcases deleting with ⟨count, inserted, impossible⟩
          rw [stage_eq] at impossible
          cases impossible
    | raised bankId count stage_eq exception =>
        left
        simp only [runs_eq]
        rfl
    | deleted bankId count inserted stage_eq =>
        right
        refine ⟨⟨run.day, run.remaining, run.billed ++ inserted.toList, .between⟩,
          by rw [runs_eq]; rfl, rfl, ?_⟩
        intro otherBank bank known positive
        simp only [LookupCounters.delete] at positive
        split at positive
        · exact absurd rfl positive
        · rename_i elsewhere
          rcases reaches otherBank bank known positive with later | read | deleting
          · exact Or.inl later
          · rw [stage_eq] at read
            cases read
          · rcases deleting with ⟨_, _, same⟩
            rw [stage_eq] at same
            cases same
            exact absurd ⟨rfl, trivial⟩ elsewhere
    | finished stage_eq remaining_eq => simp at own
    | failed => simp at own

/-- A final run leaves no counter of its day. -/
theorem counters_after_finalRun
    {banks : List Bank} {day : Date} {state after : LookupState}
    (closing : FinalRun (countedSystem banks) day state after) :
    after.runs = [] ∧ ∀ bankId bank, getBank banks bankId = some bank →
      after.counters bankId day = 0 := by
  rcases closing.run with ⟨scanned, actions, started, ended, starts, path, own, ends⟩
  have covered : Covers banks day ended := by
    have first := covers_start closing.idle starts.2
    clear ends starts
    induction path with
    | refl => exact first
    | step before move induction =>
        have earlier := induction fun action member =>
          own action (List.mem_append_left _ member)
        exact covers_step (own _ (by simp)) move.2 earlier
  rcases runStep_of_step rfl ends.2 with ⟨run, found, step⟩
  rcases covered with idle | ⟨only, runs_eq, rfl, reaches⟩
  · rw [idle] at found
    cases found
  · rw [runs_eq] at found
    cases found
    cases step with
    | finished stage_eq remaining_eq =>
        refine ⟨by simp only [runs_eq]; rfl, ?_⟩
        intro bankId bank known
        by_contra positive
        rcases reaches bankId bank known positive with later | read | deleting
        · rw [remaining_eq] at later
          cases later
        · rw [stage_eq] at read
          cases read
        · rcases deleting with ⟨count, inserted, impossible⟩
          rw [stage_eq] at impossible
          cases impossible

/-- While counts are kept, a final run of a day leaves a ledger whose fees of
the day are those of all its lookups. -/
theorem lookups_billed_once
    (banks : List Bank) (cents : WholeCents banks)
    (state : LookupState)
    (reached : (countedSystem banks).Reachable state)
    (day : Date) (after : LookupState)
    (closing : FinalRun (countedSystem banks) day state after)
    (bankId : Uuid) (bank : Bank) (known : getBank banks bankId = some bank) :
    feesOf bankId day after.entries =
      after.lookups bankId day * bank.p2pLookupFee := by
  have final : (countedSystem banks).Reachable after := by
    rcases closing.run with ⟨scanned, actions, started, ended, starts, path, _, ends⟩
    exact .step (path.reachable (.step reached starts)) ends
  have balance := lookupsBalanced_of_reachable cents final bank bankId day known
  have nothing := counters_after_finalRun closing
  rw [nothing.1, nothing.2 bankId bank known] at balance
  simpa using balance

/-! ## A bank with a fee -/

/-- A bank which pays half a zloty for a lookup. -/
def payingBank : Bank := { polishBank 1 with p2pLookupFee := 1 / 2 }

/-- The second of January 2026. -/
def accrualDay : Date :=
  ⟨2026, 1, 2, Nat.one_pos, january_le_december, by decide, by decide⟩

/-- No lookups, entries or runs. -/
def noLookups : LookupState := ⟨fun _ _ => 0, fun _ _ => 0, [], []⟩

theorem wholeCents_payingBank : WholeCents [payingBank] := by
  intro bank member
  rw [List.mem_singleton.mp member]
  exact ⟨50, by decide, by norm_num [payingBank]⟩

theorem reachable_noLookups (banks : List Bank) :
    (countedSystem banks).Reachable noLookups := by
  refine .init ⟨fun _ _ => rfl, fun _ _ => rfl, ?_, rfl⟩
  intro entry member
  cases member

/-- The steps of a run over one key. -/
def oneKeyRun : List AccrualAction :=
  [.start accrualDay [1], .fetch 0, .decide 0, .delete 0, .finish 0]

/-- Without other runs the steps are a final run. -/
theorem finalRun_oneKeyRun
    {banks : List Bank} {Guard : LookupState → AccrualAction → Bool}
    {state after : LookupState} (idle : state.runs = [])
    (run : TransitionSystem.runLabels
      (TransitionSystem.guardStep (accrualStep banks) Guard) state oneKeyRun =
        some after) :
    FinalRun
      ((accrualSystem banks).guarded fun state action => Guard state action = true)
      accrualDay state after := by
  have first : oneKeyRun = [.start accrualDay [1]] ++
      ([.fetch 0, .decide 0, .delete 0] ++ [.finish 0]) := rfl
  rw [first] at run
  rcases TransitionSystem.runLabels_append run with ⟨started, starts, rest⟩
  rcases TransitionSystem.runLabels_append rest with ⟨ended, steps, ends⟩
  have single : ∀ {source target : LookupState} {action : AccrualAction},
      TransitionSystem.runLabels (TransitionSystem.guardStep (accrualStep banks) Guard)
        source [action] = some target →
      ((accrualSystem banks).guarded fun state action => Guard state action = true).Step
        source action target := by
    intro source target action taken
    have move := TransitionSystem.step_of_runLabels taken
    simp only [TransitionSystem.guardStep] at move
    split at move
    · rename_i meets
      exact ⟨meets, move⟩
    · cases move
  exact ⟨idle, [1], _, started, ended, single starts,
    TransitionSystem.guarded_path_of_runLabels steps, fun action member => member, single ends⟩

theorem FinalRun.of_guarded
    {system : TransitionSystem LookupState AccrualAction}
    {Guard : LookupState → AccrualAction → Prop} {day : Date}
    {state after : LookupState}
    (closing : FinalRun (system.guarded Guard) day state after) :
    FinalRun system day state after := by
  rcases closing with ⟨idle, scanned, actions, started, ended, starts, path, own, ends⟩
  exact ⟨idle, scanned, actions, started, ended, starts.2, path.of_guarded, own, ends.2⟩

/-- One lookup, and a final run. -/
theorem lookups_billed_once_oneLookup :
    ∃ after, TransitionSystem.runLabels
        (TransitionSystem.guardStep (accrualStep [payingBank]) (countsKept [payingBank]))
        noLookups (.lookup 1 accrualDay :: oneKeyRun) = some after ∧
      feesOf 1 accrualDay after.entries =
        after.lookups 1 accrualDay * payingBank.p2pLookupFee := by
  have possible : (TransitionSystem.runLabels
      (TransitionSystem.guardStep (accrualStep [payingBank]) (countsKept [payingBank]))
      noLookups ([.lookup 1 accrualDay] ++ oneKeyRun)).isSome = true := by
    decide +kernel
  rcases Option.isSome_iff_exists.mp possible with ⟨after, run⟩
  rcases TransitionSystem.runLabels_append run with ⟨counted, lookup, final⟩
  have reached : (countedSystem [payingBank]).Reachable counted :=
    (TransitionSystem.guarded_path_of_runLabels lookup).reachable (reachable_noLookups _)
  have idle : counted.runs = [] := by
    cases lookup
    rfl
  exact ⟨after, run, lookups_billed_once [payingBank] wholeCents_payingBank counted
    reached accrualDay after (finalRun_oneKeyRun idle final) 1 payingBank rfl⟩

/-- A lookup, a run of its day, and another lookup. -/
def lateLookup : List AccrualAction :=
  .lookup 1 accrualDay :: (oneKeyRun ++ [.lookup 1 accrualDay])

/-- A lookup after the run of its day is deleted by the next run: the day has
an entry already. -/
theorem late_lookup_not_billed :
    ¬ ∀ (banks : List Bank), WholeCents banks →
        ∀ state, (accrualSystem banks).Reachable state →
          ∀ (day : Date) (after : LookupState),
            FinalRun (accrualSystem banks) day state after →
              ∀ (bankId : Uuid) (bank : Bank), getBank banks bankId = some bank →
                feesOf bankId day after.entries =
                  after.lookups bankId day * bank.p2pLookupFee := by
  intro always
  have possible : (TransitionSystem.runLabels
      (TransitionSystem.guardStep (accrualStep [payingBank]) fun _ _ => true)
      noLookups (lateLookup ++ oneKeyRun)).isSome = true := by
    decide +kernel
  rcases Option.isSome_iff_exists.mp possible with ⟨after, run⟩
  rcases TransitionSystem.runLabels_append run with ⟨state, before, final⟩
  have reached : (accrualSystem [payingBank]).Reachable state :=
    (TransitionSystem.guarded_path_of_runLabels before).of_guarded.reachable
      (reachable_noLookups _).of_guarded
  have idle : state.runs = [] := by
    have noRuns : (TransitionSystem.runLabels
        (TransitionSystem.guardStep (accrualStep [payingBank]) fun _ _ => true)
        noLookups lateLookup).map LookupState.runs = some [] := by
      decide +kernel
    rw [before] at noRuns
    exact Option.some.inj noRuns
  have billed := always [payingBank] wholeCents_payingBank state reached accrualDay
    after (finalRun_oneKeyRun idle final).of_guarded 1 payingBank rfl
  have figures : (TransitionSystem.runLabels
      (TransitionSystem.guardStep (accrualStep [payingBank]) fun _ _ => true)
      noLookups (lateLookup ++ oneKeyRun)).map
        (fun after => (feesOf 1 accrualDay after.entries, after.lookups 1 accrualDay)) =
          some (1 / 2, 2) := by
    decide +kernel
  rw [run] at figures
  have pair := Option.some.inj figures
  rw [Prod.mk.injEq] at pair
  rw [pair.1, pair.2] at billed
  exact absurd billed (by norm_num [payingBank])

end Klik.Ledger
