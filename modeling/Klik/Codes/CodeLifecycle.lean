import Klik.Codes.CodeService

/-!
# Codes are used once

Generations and uses of codes run side by side on one Redis whose clock may
show any time.  The history of a code is what has been generated and used
under it, in order; a use always comes right after the generation of the
record which it uses.
-/

namespace Klik.Codes

open Klik.Common
open Klik.Lib

/-! ## States -/

/-- A code was generated, or used. -/
inductive CodeEvent where
  | generated (code : PyStr) (payload : CodePayload)
  | used (code : PyStr) (payload : CodePayload)
deriving DecidableEq, Repr

namespace CodeEvent

def code : CodeEvent → PyStr
  | .generated code _ => code
  | .used code _ => code

def isUse : CodeEvent → Bool
  | .generated _ _ => false
  | .used _ _ => true

end CodeEvent

/-- The events of one code, in order. -/
def history (code : PyStr) (log : List CodeEvent) : List CodeEvent :=
  log.filter fun event => event.code = code

theorem history_append (code : PyStr) (log added : List CodeEvent) :
    history code (log ++ added) = history code log ++ history code added := by
  simp [history]

theorem history_self (event : CodeEvent) : history event.code [event] = [event] := by
  simp [history]

theorem history_other
    {event : CodeEvent} {code : PyStr} (other : event.code ≠ code) :
    history code [event] = [] := by
  simp [history, other]

/-- The clock of Redis, the code records, the calls of `generate_code` under
way, what has happened to codes, and the uses which were refused. -/
structure CodeState where
  clock : Nat
  store : CodeStore
  generating : List Generation
  log : List CodeEvent
  refused : List (PyStr × CodeError)

inductive CodeAction where
  | tick (clock : Nat)
  | startGenerate (bankId : Uuid) (userId : PyStr) (zone : Zone) (createdAt : PyStr)
  | tryCode (index : Nat) (drawn : Fin 1000000)
  | markUsed (code : PyStr)

/-! ## Steps -/

variable (ttlSeconds : Int)

/-- The state after an attempt of a generation. -/
def CodeState.tried
    (index : Nat) (generation : Generation) (code : PyStr) (state : CodeState) :
    CodeState :=
  match generation.tryCode ttlSeconds state.clock code state.store with
  | (.generated made, after) =>
      { state with
        store := after
        generating := state.generating.eraseIdx index
        log := state.log ++ [.generated made generation.payload] }
  | (.again next, after) =>
      { state with
        store := after
        generating := state.generating.set index next }
  | (.raised _, after) =>
      { state with
        store := after
        generating := state.generating.eraseIdx index }

/-- The state after `mark_used`. -/
def CodeState.marked (code : PyStr) (state : CodeState) : CodeState :=
  match markUsed state.clock code state.store with
  | (.ok payload, after) =>
      { state with
        store := after
        log := state.log ++ [.used code payload] }
  | (.error error, after) =>
      { state with
        store := after
        refused := state.refused ++ [(code, error)] }

/-- One step, where it is possible. -/
def codeStep (state : CodeState) : CodeAction → Option CodeState
  | .tick clock => some { state with clock := clock }
  | .startGenerate bankId userId zone createdAt =>
      some
        { state with
          generating := state.generating ++
            [⟨newPayload bankId userId zone createdAt, rfl, 0⟩] }
  | .tryCode index drawn =>
      match state.generating[index]? with
      | some generation =>
          some (state.tried ttlSeconds index generation (randomCode drawn))
      | none => none
  | .markUsed code => some (state.marked code)

/-- A Redis without codes. -/
structure CodeState.IsStart (state : CodeState) : Prop where
  store : state.store = ExpiringStore.empty
  generating : state.generating = []
  log : state.log = []
  refused : state.refused = []

def codeSystem : TransitionSystem CodeState CodeAction :=
  .ofStep CodeState.IsStart (codeStep ttlSeconds)

/-! ## What one step does -/

/-- The effect of a step. -/
inductive CodeEffect (state : CodeState) : CodeAction → CodeState → Prop where
  | idle {action : CodeAction} {after : CodeState}
      (notUse : ∀ code, action ≠ .markUsed code)
      (store : after.store = state.store)
      (log : after.log = state.log) :
      CodeEffect state action after
  | generated {after : CodeState} (index : Nat) (drawn : Fin 1000000)
      (generation : Generation) (expiresAt : Option Nat)
      (unseen : state.store.get state.clock (codeKey (randomCode drawn)) = none)
      (store : after.store =
        state.store.set (codeKey (randomCode drawn)) generation.payload expiresAt)
      (log : after.log =
        state.log ++ [.generated (randomCode drawn) generation.payload]) :
      CodeEffect state (.tryCode index drawn) after
  | used {after : CodeState} (code : PyStr) (payload : CodePayload)
      (clock : after.clock = state.clock)
      (marks : Marks state.clock code state.store payload after.store)
      (log : after.log = state.log ++ [.used code payload.used]) :
      CodeEffect state (.markUsed code) after
  | refused {after : CodeState} (code : PyStr) (error : CodeError)
      (clock : after.clock = state.clock)
      (reason : error = .notFound ∨ error = .alreadyUsed)
      (inactive : ∀ payload, state.store.get state.clock (codeKey code) = some payload →
        payload.status ≠ .active)
      (store : after.store = state.store)
      (log : after.log = state.log)
      (refusal : after.refused = state.refused ++ [(code, error)]) :
      CodeEffect state (.markUsed code) after

theorem effect_tried
    (index : Nat) (drawn : Fin 1000000) (generation : Generation) (state : CodeState) :
    CodeEffect state (.tryCode index drawn)
      (state.tried ttlSeconds index generation (randomCode drawn)) := by
  simp only [CodeState.tried]
  rcases generation.tryCode_cases ttlSeconds state.clock (randomCode drawn) state.store
    with ⟨unseen, stored⟩ | ⟨kept, notGenerated⟩
  · rw [stored]
    exact .generated index drawn generation _ unseen rfl rfl
  · cases attempt :
        generation.tryCode ttlSeconds state.clock (randomCode drawn) state.store with
    | mk result after =>
        rw [attempt] at kept notGenerated
        cases kept
        have notUse : ∀ code, CodeAction.tryCode index drawn ≠ .markUsed code := by
          intro code impossible
          cases impossible
        cases result with
        | generated made => exact absurd rfl (notGenerated made)
        | again next => exact .idle notUse rfl rfl
        | raised error => exact .idle notUse rfl rfl

theorem effect_marked (code : PyStr) (state : CodeState) :
    CodeEffect state (.markUsed code) (state.marked code) := by
  simp only [CodeState.marked]
  rcases markUsed_cases state.clock code state.store with
    ⟨payload, after, marked, marks⟩ | ⟨error, reason, raised, inactive⟩
  · rw [marked]
    exact .used code payload rfl marks rfl
  · rw [raised]
    exact .refused code error rfl reason inactive rfl rfl rfl

/-- The effect of every step. -/
theorem effect_of_step
    {state after : CodeState} {action : CodeAction}
    (move : (codeSystem ttlSeconds).Step state action after) :
    CodeEffect state action after := by
  simp only [codeSystem, TransitionSystem.ofStep] at move
  cases action with
  | tick clock =>
      cases move
      refine .idle ?_ rfl rfl
      intro code impossible
      cases impossible
  | startGenerate bankId userId zone createdAt =>
      cases move
      refine .idle ?_ rfl rfl
      intro code impossible
      cases impossible
  | tryCode index drawn =>
      simp only [codeStep] at move
      split at move
      · cases move
        exact effect_tried ttlSeconds index drawn _ state
      · cases move
  | markUsed code =>
      cases move
      exact effect_marked code state

/-! ## Histories -/

/-- The record which the last event of a history has issued and nothing has
used. -/
def openRecord (events : List CodeEvent) : Option CodePayload :=
  match events.getLast? with
  | some (.generated _ payload) => some payload
  | _ => none

theorem openRecord_generated
    (events : List CodeEvent) (code : PyStr) (payload : CodePayload) :
    openRecord (events ++ [.generated code payload]) = some payload := by
  simp [openRecord]

/-- Every use comes right after the generation of the record which it uses. -/
inductive Orderly : List CodeEvent → Prop where
  | nil : Orderly []
  | generated {events : List CodeEvent} (before : Orderly events)
      (code : PyStr) (payload : CodePayload) :
      Orderly (events ++ [.generated code payload])
  | used {events : List CodeEvent} (before : Orderly events)
      (code : PyStr) {payload : CodePayload}
      (open_ : openRecord events = some payload) :
      Orderly (events ++ [.used code payload.used])

theorem Orderly.openRecord_of_used
    {events before after : List CodeEvent} {code : PyStr} {payload : CodePayload}
    (orderly : Orderly events)
    (parts : events = before ++ [.used code payload] ++ after) :
    ∃ issued, openRecord before = some issued ∧ payload = issued.used := by
  induction orderly generalizing after with
  | nil =>
      have impossible := congrArg List.length parts
      simp at impossible
  | @generated events _ made issued induction =>
      rcases List.eq_nil_or_concat after with rfl | ⟨middle, last, rfl⟩
      · rw [List.append_nil] at parts
        cases (List.append_inj' parts rfl).2
      · rw [List.concat_eq_append, ← List.append_assoc] at parts
        exact induction (List.append_inj' parts rfl).1
  | @used events _ made issued open_ induction =>
      rcases List.eq_nil_or_concat after with rfl | ⟨middle, last, rfl⟩
      · rw [List.append_nil] at parts
        rcases List.append_inj' parts rfl with ⟨rfl, same⟩
        cases same
        exact ⟨issued, open_, rfl⟩
      · rw [List.concat_eq_append, ← List.append_assoc] at parts
        exact induction (List.append_inj' parts rfl).1

theorem eq_append_of_openRecord
    {events : List CodeEvent} {payload : CodePayload}
    (open_ : openRecord events = some payload) :
    ∃ earlier code, events = earlier ++ [.generated code payload] := by
  simp only [openRecord] at open_
  split at open_
  · rename_i code last ends
    cases open_
    exact ⟨events.dropLast, code, (List.dropLast_append_getLast? _ ends).symm⟩
  · cases open_

/-- Between two generations there is at most one use. -/
theorem Orderly.length_uses_le
    {events before between after : List CodeEvent} (orderly : Orderly events)
    (parts : events = before ++ between ++ after)
    (uses : ∀ event ∈ between, event.isUse = true) :
    between.length ≤ 1 := by
  match between, uses with
  | [], _ => exact Nat.zero_le 1
  | [_], _ => exact Nat.le_refl 1
  | first :: second :: rest, uses =>
      exfalso
      have firstUse := uses first (List.mem_cons_self ..)
      have secondUse := uses second (List.mem_cons_of_mem _ (List.mem_cons_self ..))
      cases second with
      | generated code payload => cases secondUse
      | used code payload =>
          have again : events =
              (before ++ [first]) ++ [.used code payload] ++ (rest ++ after) := by
            rw [parts]
            simp
          rcases orderly.openRecord_of_used again with ⟨issued, open_, _⟩
          rcases eq_append_of_openRecord open_ with ⟨earlier, made, ends⟩
          rcases List.append_inj' ends rfl with ⟨_, same⟩
          rw [List.singleton_inj.mp same] at firstUse
          cases firstUse

/-! ## Runs -/

/-- Histories are orderly, and an active record is the one which was issued
last. -/
structure CodeInvariant (state : CodeState) : Prop where
  orderly : ∀ code, Orderly (history code state.log)
  active : ∀ code stored, state.store (codeKey code) = some stored →
    stored.value.status = .active →
      openRecord (history code state.log) = some stored.value

/-- A step which adds one event, and touches the record of its code only. -/
theorem CodeInvariant.of_event
    {state after : CodeState} (invariant : CodeInvariant state)
    {event : CodeEvent} {value : CodePayload}
    (log : after.log = state.log ++ [event])
    (orderly : Orderly (history event.code state.log ++ [event]))
    (stored : ∃ expiresAt, after.store (codeKey event.code) = some ⟨value, expiresAt⟩)
    (active : value.status = .active →
      openRecord (history event.code state.log ++ [event]) = some value)
    (others : ∀ key, key ≠ codeKey event.code → after.store key = state.store key) :
    CodeInvariant after := by
  have here : history event.code after.log = history event.code state.log ++ [event] := by
    rw [log, history_append, history_self]
  have elsewhere : ∀ code, event.code ≠ code →
      history code after.log = history code state.log := by
    intro code different
    rw [log, history_append, history_other different, List.append_nil]
  constructor
  · intro code
    by_cases same : event.code = code
    · subst same
      rw [here]
      exact orderly
    · rw [elsewhere code same]
      exact invariant.orderly code
  · intro code found present isActive
    by_cases same : event.code = code
    · subst same
      rcases stored with ⟨expiresAt, kept⟩
      rw [kept] at present
      cases present
      rw [here]
      exact active isActive
    · have different : codeKey code ≠ codeKey event.code := by
        intro equal
        exact same (codeKey_injective equal).symm
      rw [others _ different] at present
      rw [elsewhere code same]
      exact invariant.active code found present isActive

/-- Every step keeps the histories orderly. -/
theorem codeInvariant_step
    {state after : CodeState} {action : CodeAction}
    (invariant : CodeInvariant state)
    (move : (codeSystem ttlSeconds).Step state action after) :
    CodeInvariant after := by
  have unchanged : after.store = state.store → after.log = state.log →
      CodeInvariant after := by
    intro store log
    constructor
    · rw [log]
      exact invariant.orderly
    · rw [store, log]
      exact invariant.active
  cases effect_of_step ttlSeconds move with
  | idle notUse store log => exact unchanged store log
  | generated index drawn generation expiresAt unseen store log =>
      apply invariant.of_event log
      · exact (invariant.orderly _).generated _ _
      · rw [store]
        exact ⟨expiresAt, ExpiringStore.set_same ..⟩
      · intro _
        exact openRecord_generated ..
      · intro key different
        rw [store]
        exact ExpiringStore.set_other _ _ _ different
  | used code payload clock marks log =>
      have issued : openRecord (history code state.log) = some payload := by
        rcases ExpiringStore.get_eq_some.mp marks.seen with ⟨stored, present, _, rfl⟩
        exact invariant.active code stored present marks.active
      apply invariant.of_event log
      · exact (invariant.orderly code).used code issued
      · exact marks.kept
      · intro impossible
        cases impossible
      · exact marks.others
  | refused code error clock reason inactive store log refusal =>
      exact unchanged store log

theorem codeInvariant
    {state : CodeState} (reached : (codeSystem ttlSeconds).Reachable state) :
    CodeInvariant state := by
  apply reached.invariant
  · intro start isStart
    constructor
    · intro code
      rw [isStart.log]
      exact .nil
    · intro code stored present
      rw [isStart.store] at present
      cases present
  · intro source action target _ invariant move
    exact codeInvariant_step ttlSeconds invariant move

/-- What `mark_used` has done: it used the active record, or was refused and
changed nothing. -/
inductive MarkedUsed (state after : CodeState) (code : PyStr) : Prop where
  | used (payload : CodePayload)
      (seen : state.store.get state.clock (codeKey code) = some payload)
      (active : payload.status = .active)
      (stored : after.store.get state.clock (codeKey code) = some payload.used)
      (returned : after.log = state.log ++ [.used code payload.used])
  | refused (error : CodeError)
      (reason : error = .notFound ∨ error = .alreadyUsed)
      (store : after.store = state.store)
      (log : after.log = state.log)
      (raised : after.refused = state.refused ++ [(code, error)])

/-- Codes are used once, and only as they were generated. -/
structure UsedOnce (state : CodeState) : Prop where
  /-- No generation overwrites a record which can be seen. -/
  keptByGenerate : ∀ index drawn after,
    (codeSystem ttlSeconds).Step state (.tryCode index drawn) after →
      ∀ code payload, state.store.get state.clock (codeKey code) = some payload →
        after.store (codeKey code) = state.store (codeKey code)
  marked : ∀ code after,
    (codeSystem ttlSeconds).Step state (.markUsed code) after →
      MarkedUsed state after code
  /-- No use changes whose code it is. -/
  keptByUse : ∀ used after,
    (codeSystem ttlSeconds).Step state (.markUsed used) after →
      ∀ code payload, state.store.get state.clock (codeKey code) = some payload →
        ∃ kept, after.store.get state.clock (codeKey code) = some kept ∧
          kept.bankId = payload.bankId ∧ kept.userId = payload.userId ∧
          kept.zone = payload.zone
  /-- Events without a generation between them have one use at most. -/
  single : ∀ code before between after,
    history code state.log = before ++ between ++ after →
      (∀ event ∈ between, event.isUse = true) → between.length ≤ 1
  /-- A use returns what the generation right before it has stored. -/
  issued : ∀ code payload before after,
    history code state.log = before ++ [.used code payload] ++ after →
      ∃ earlier stored, before = earlier ++ [.generated code stored] ∧
        payload.bankId = stored.bankId ∧ payload.userId = stored.userId ∧
        payload.zone = stored.zone

/-- One-time codes: in every reachable state, whatever the clock shows. -/
theorem codes_used_once
    (state : CodeState) (reached : (codeSystem ttlSeconds).Reachable state) :
    UsedOnce ttlSeconds state := by
  have invariant := codeInvariant ttlSeconds reached
  constructor
  · intro index drawn after move code payload seen
    cases effect_of_step ttlSeconds move with
    | idle notUse store log => rw [store]
    | generated index drawn generation expiresAt unseen store log =>
        have different : codeKey code ≠ codeKey (randomCode drawn) := by
          intro same
          rw [same, unseen] at seen
          cases seen
        rw [store]
        exact ExpiringStore.set_other _ _ _ different
  · intro code after move
    cases effect_of_step ttlSeconds move with
    | idle notUse store log => exact absurd rfl (notUse code)
    | used code payload clock marks log =>
        exact .used payload marks.seen marks.active marks.stored log
    | refused code error clock reason inactive store log refusal =>
        exact .refused error reason store log refusal
  · intro used after move code payload seen
    cases effect_of_step ttlSeconds move with
    | idle notUse store log => exact absurd rfl (notUse used)
    | used _ marked clock marks log =>
        by_cases same : codeKey code = codeKey used
        · rw [same] at seen ⊢
          cases marks.seen.symm.trans seen
          exact ⟨_, marks.stored, rfl, rfl, rfl⟩
        · refine ⟨payload, ?_, rfl, rfl, rfl⟩
          rw [ExpiringStore.get_congr (marks.others _ same)]
          exact seen
    | refused _ error clock reason inactive store log refusal =>
        rw [store]
        exact ⟨payload, seen, rfl, rfl, rfl⟩
  · intro code before between after parts uses
    exact (invariant.orderly code).length_uses_le parts uses
  · intro code payload before after parts
    rcases (invariant.orderly code).openRecord_of_used parts with ⟨stored, open_, rfl⟩
    rcases eq_append_of_openRecord open_ with ⟨earlier, made, rfl⟩
    have member : CodeEvent.generated made stored ∈ history code state.log := by
      rw [parts]
      simp
    have sameCode : made = code := of_decide_eq_true (List.mem_filter.mp member).2
    subst sameCode
    exact ⟨earlier, stored, rfl, rfl, rfl, rfl⟩

/-! ## A code which is used -/

/-- A Redis without codes at its first millisecond. -/
def noCodes : CodeState where
  clock := 0
  store := .empty
  generating := []
  log := []
  refused := []

theorem isStart_noCodes : noCodes.IsStart :=
  ⟨rfl, rfl, rfl, rfl⟩

/-- A code is generated for a client of bank 1 and used twice. -/
def generateAndUse : List CodeAction :=
  [.startGenerate 1 (py "client") .PL (py "now"), .tryCode 0 123456,
    .tick 1000, .markUsed (py "123456"), .markUsed (py "123456")]

/-- The second use is refused. -/
theorem codes_used_once_generateAndUse :
    ∃ state, TransitionSystem.runLabels (codeStep 120) noCodes generateAndUse =
        some state ∧
      state.refused = [(py "123456", .alreadyUsed)] ∧ UsedOnce 120 state := by
  have refusals : (TransitionSystem.runLabels (codeStep 120) noCodes generateAndUse).map
      CodeState.refused = some [(py "123456", .alreadyUsed)] := by
    decide +kernel
  rcases Option.map_eq_some_iff.mp refusals with ⟨state, run, refused⟩
  exact ⟨state, run, refused, codes_used_once 120 state
    (TransitionSystem.reachable_of_runLabels isStart_noCodes run)⟩

end Klik.Codes
