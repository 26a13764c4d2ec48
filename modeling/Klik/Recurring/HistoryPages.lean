import Klik.Recurring.ExecutionsView
import Klik.Recurring.SlotsOnce

/-!
# Paging through the history of a mandate

A client asks for page after page, with the time of the last item as the
cursor, until a page is empty.  It misses executions exactly if two of them
are for one time and a page ends between them.  As long as mandates are
resumed late enough no two executions are for one time.
-/

namespace Klik.Recurring

open Klik.Banks
open Klik.Common
open Klik.Lib

/-! ## Clients -/

/-- A client of the payer's bank, with the orders in which the database answers
its requests, and times which can be read back as they are written. -/
structure HistoryClient (env : RecurringEnv) (db : RecurringDb) where
  bank : Bank
  limit : Nat
  orders : Nat → DescendingOrder RecurringExecution.instant
  checked : checkBank bank = .ok ()
  owner : db.mandate.payerBank.id = bank.id
  limit_pos : 1 ≤ limit
  readsBack : ∀ execution ∈ db.executions, ∃ time,
    env.parseDatetime (isoformat execution.scheduledFor) = .parsed time ∧
      time.instant = execution.scheduledFor.instant

namespace HistoryClient

variable {env : RecurringEnv} {db : RecurringDb} (client : HistoryClient env db)

def request (before : PyStr) : ExecutionsRequest where
  bank := client.bank
  recurringTransferId := db.mandate.id
  limit := .number client.limit
  before := before

/-- The length of a full page. -/
def size : Nat :=
  min client.limit executionsMaxLimit

/-- The pages from a cursor on, for a number of requests; none if a request
fails or the requests do not suffice. -/
def fetch : Nat → Nat → PyStr → Option (List (List ExecutionItem))
  | 0, _, _ => none
  | turns + 1, index, before =>
      match executionsView env (client.orders index) (client.request before) db with
      | .error _ => none
      | .ok items =>
          match items.getLast? with
          | none => some []
          | some last => (fetch turns (index + 1) last.scheduledFor).map (items :: ·)

/-- After enough requests the client has seen an empty page, and before it all
executions, each once and the newest first. -/
def Complete : Prop :=
  ∀ turns, db.executions.length < turns →
    ∃ pages : List (List RecurringExecution),
      client.fetch turns 0 [] = some (pages.map (List.map RecurringExecution.item)) ∧
      pages.flatten.Perm db.executions ∧
      pages.flatten.Pairwise fun earlier later => later.instant ≤ earlier.instant

/-! ## What the client reads -/

theorem size_pos : 0 < client.size :=
  Nat.lt_min.mpr ⟨client.limit_pos, by decide⟩

/-- What stands for a cursor in the parameter `before`. -/
def Stands (db : RecurringDb) (before : PyStr) : Option Nat → Prop
  | none => before = []
  | some bound => ∃ execution ∈ db.executions,
      before = isoformat execution.scheduledFor ∧ bound = execution.instant

/-- One request reads one page. -/
theorem view_eq
    {before : PyStr} {cursor : Option Nat} (stands : Stands db before cursor)
    (order : DescendingOrder RecurringExecution.instant) :
    executionsView env order (client.request before) db =
      .ok ((pageBefore order client.size cursor db.executions).map
        RecurringExecution.item) := by
  have checked : checkBank (client.request before).bank = .ok () := client.checked
  have known : ¬ db.mandate.id ≠ (client.request before).recurringTransferId := not_not.mpr rfl
  have owner : ¬ db.mandate.payerBank.id ≠ (client.request before).bank.id :=
    not_not.mpr client.owner
  have limit : parseLimit (client.request before).limit = .ok client.size :=
    parseLimit_number client.limit_pos
  simp only [executionsView, checked, if_neg known, if_neg owner, limit]
  cases cursor with
  | none =>
      have blank : (client.request before).before = [] := stands
      rw [if_pos blank]
  | some bound =>
      rcases stands with ⟨execution, member, written, atInstant⟩
      rcases client.readsBack execution member with ⟨time, parsed, same⟩
      have given : (client.request before).before ≠ [] := by
        show before ≠ []
        rw [written]
        exact isoformat_ne_nil _
      have read : env.parseDatetime (client.request before).before = .parsed time := by
        show env.parseDatetime before = _
        rw [written, parsed]
      have instant : time.instant = bound := same.trans atInstant.symm
      rw [if_neg given, read]
      simp only [instant]

theorem mem_of_mem_page
    {order : DescendingOrder RecurringExecution.instant} {cursor : Option Nat}
    {execution : RecurringExecution}
    (member : execution ∈ pageBefore order client.size cursor db.executions) :
    execution ∈ db.executions := by
  have inside := (order.perm _).subset (List.mem_of_mem_take member)
  cases cursor with
  | none => exact inside
  | some bound => exact (List.mem_filter.mp inside).1

/-- The client reads the pages of the table. -/
theorem fetch_eq
    (turns index : Nat) {before : PyStr} {cursor : Option Nat}
    (stands : Stands db before cursor) :
    client.fetch turns index before =
      (pagesFrom client.orders client.size db.executions turns index cursor).map
        (List.map (List.map RecurringExecution.item)) := by
  induction turns generalizing index before cursor with
  | zero => rfl
  | succ turns induction =>
      rw [fetch, client.view_eq stands, pagesFrom]
      simp only [List.getLast?_map]
      cases ends : (pageBefore (client.orders index) client.size cursor
          db.executions).getLast? with
      | none => rfl
      | some last =>
          have member := client.mem_of_mem_page (List.mem_of_getLast? ends)
          have next : Stands db last.item.scheduledFor (some last.instant) :=
            ⟨last, member, rfl, rfl⟩
          simp only [Option.map_some, induction (index + 1) next, Option.map_map]
          rfl

/-- Whatever the database does, the client comes to an end. -/
theorem fetch_spec {turns : Nat} (enough : db.executions.length < turns) :
    ∃ pages : List (List RecurringExecution),
      client.fetch turns 0 [] = some (pages.map (List.map RecurringExecution.item)) ∧
      ReadFrom RecurringExecution.instant client.size db.executions pages := by
  rcases pagesFrom_spec client.orders client.size_pos db.executions turns 0 none enough with
    ⟨pages, found, read⟩
  refine ⟨pages, ?_, read⟩
  have stands : Stands db [] none := rfl
  rw [client.fetch_eq turns 0 stands, found]
  rfl

/-- The history is complete exactly if no page ends between two executions for
one time. -/
theorem complete_iff :
    client.Complete ↔
      SplitsNowhere client.size (sortedKeys RecurringExecution.instant db.executions) := by
  constructor
  · intro complete
    rcases client.fetch_spec (Nat.lt_succ_self db.executions.length) with ⟨pages, found, read⟩
    rcases complete _ (Nat.lt_succ_self _) with ⟨others, foundToo, perm, _⟩
    -- Both have the same items, and so the same number of executions.
    have items := congrArg (fun pages => pages.flatten.length)
      (Option.some.inj (found.symm.trans foundToo))
    simp only [← List.map_flatten, List.length_map] at items
    apply read.complete_iff.mp
    apply read.subperm.perm_of_length_le
    rw [items, perm.length_eq]
  · intro nowhere turns enough
    rcases client.fetch_spec enough with ⟨pages, found, read⟩
    exact ⟨pages, found, read.complete_iff.mpr nowhere, read.descending⟩

end HistoryClient

/-! ## Histories of runs -/

variable (env : RecurringEnv)

/-- Paging is complete exactly if no page ends between two executions for one
time.  While mandates are resumed late enough it is complete for every limit
and every order of the database. -/
theorem history_complete
    (adds : env.schedule.dateutil.AddsMonths) :
    (∀ state, (mandateSystem env).Reachable state →
      ∀ client : HistoryClient env state.db, client.Complete ↔
        SplitsNowhere client.size
          (sortedKeys RecurringExecution.instant state.db.executions)) ∧
    ∀ state, ((mandateSystem env).guarded ResumesLate).Reachable state →
      ∀ client : HistoryClient env state.db, client.Complete := by
  constructor
  · intro state _ client
    exact client.complete_iff
  · intro state reached client
    apply client.complete_iff.mpr
    have distinct := (orderly_of_reachable env adds reached).distinct
    simp only [RecurringDb.plan, List.map_map] at distinct
    exact splitsNowhere_of_nodup distinct client.size_pos

/-! ## A page of one execution -/

/-- The documented libraries, as far as they read the first slot of the
example. -/
def pagingEnv : RecurringEnv :=
  { documentedEnv with
    parseDatetime := fun text =>
      if text = py "2026-06-01T08:00:00Z" then .parsed (.atHour firstOfJune 8) else .none }

theorem isStart_pagingEnv : newMandate.IsStart pagingEnv where
  mandate := isStart_newMandate.mandate
  executions := rfl
  attempts := rfl
  outbox := rfl
  sent := rfl
  finalized := rfl

/-- All executions are for the first slot. -/
def AtFirstSlot (db : RecurringDb) : Prop :=
  db.mandate.payerBank.id = 1 ∧
    ∀ execution ∈ db.executions, execution.scheduledFor = .atHour firstOfJune 8

instance (db : RecurringDb) : Decidable (AtFirstSlot db) :=
  inferInstanceAs (Decidable (_ ∧ _))

theorem isoformat_firstSlot :
    isoformat (.atHour firstOfJune 8) = py "2026-06-01T08:00:00Z" := by
  decide +kernel

theorem checkBank_polishBank : checkBank (polishBank 1) = .ok () := rfl

/-- The bank of the payer reads one execution at a time. -/
def oneByOne (db : RecurringDb) (atFirst : AtFirstSlot db) : HistoryClient pagingEnv db where
  bank := polishBank 1
  limit := 1
  orders _ := .insertion RecurringExecution.instant
  checked := checkBank_polishBank
  owner := atFirst.1
  limit_pos := Nat.one_pos
  readsBack := by
    intro execution member
    refine ⟨.atHour firstOfJune 8, ?_, ?_⟩
    · rw [atFirst.2 execution member, isoformat_firstSlot]
      simp only [pagingEnv, if_true]
    · rw [atFirst.2 execution member]

/-- After the first run the history is one page. -/
theorem history_complete_claimFirst :
    ∃ state, TransitionSystem.runLabels (mandateStep pagingEnv) newMandate
        (claimFirst 1) = some state ∧
      ∃ client : HistoryClient pagingEnv state.db, client.limit = 1 ∧ client.Complete := by
  have claimed : (TransitionSystem.runLabels (mandateStep pagingEnv) newMandate
      (claimFirst 1)).map (fun state => decide (AtFirstSlot state.db)) = some true := by
    decide +kernel
  rcases Option.map_eq_some_iff.mp claimed with ⟨state, run, atFirst⟩
  refine ⟨state, run, oneByOne state.db (of_decide_eq_true atFirst), rfl, ?_⟩
  apply (history_complete pagingEnv addsMonths_dateutil).2 state
  have path : (mandateSystem pagingEnv).Path newMandate (claimFirst 1) state :=
    TransitionSystem.path_of_runLabels run
  apply (path.to_guarded ?_).reachable (.init isStart_pagingEnv)
  intro action member _
  simp only [claimFirst, List.mem_cons, List.not_mem_nil, or_false] at member
  rcases member with rfl | rfl
  · trivial
  · trivial

/-- The first slot has been executed twice, and a client which reads one
execution at a time sees only one of the two. -/
theorem execution_missed :
    ¬ ∀ state, (mandateSystem pagingEnv).Reachable state →
        ∀ client : HistoryClient pagingEnv state.db, client.Complete := by
  intro complete
  have twice : (TransitionSystem.runLabels (mandateStep pagingEnv) newMandate
      resumedEarly).map (fun state => decide (AtFirstSlot state.db ∧
        (sortedKeys RecurringExecution.instant state.db.executions)[1]? =
          some (DateTime.atHour firstOfJune 8).instant ∧
        (sortedKeys RecurringExecution.instant state.db.executions)[0]? =
          some (DateTime.atHour firstOfJune 8).instant)) = some true := by
    decide +kernel
  rcases Option.map_eq_some_iff.mp twice with ⟨state, run, seen⟩
  rcases of_decide_eq_true seen with ⟨atFirst, second, first⟩
  have reached := TransitionSystem.reachable_of_runLabels isStart_pagingEnv run
  have nowhere := (oneByOne state.db atFirst).complete_iff.mp
    (complete state reached (oneByOne state.db atFirst))
  exact nowhere 0 _ _ first second rfl

end Klik.Recurring
