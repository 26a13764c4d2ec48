import Klik.Codes.CodeLifecycle

/-!
# Codes expire

A code record is stored with a time to live, and `mark_used` stores it again
with the time which is left.  In the last millisecond no time is left, though
the record can still be seen: it is stored again without a time to live, and
its six digits are never free again.
-/

namespace Klik.Codes

open Klik.Common
open Klik.Lib

variable (ttlSeconds : Int)

/-! ## When a record was generated -/

/-- The codes, and when the record of each was generated. -/
structure ExpiryState where
  codes : CodeState
  generatedAt : PyStr → Option Nat

/-- When the records were generated, after an action. -/
def ExpiryState.generatedAfter (state : ExpiryState) : CodeAction → PyStr → Option Nat
  | .tryCode index drawn =>
      match state.codes.generating[index]? with
      | some generation =>
          match (generation.tryCode ttlSeconds state.codes.clock (randomCode drawn)
            state.codes.store).1 with
          | .generated made =>
              Function.update state.generatedAt made (some state.codes.clock)
          | _ => state.generatedAt
      | none => state.generatedAt
  | _ => state.generatedAt

/-- Time passes. -/
def passesTime (state : ExpiryState) : CodeAction → Bool
  | .tick clock => state.codes.clock ≤ clock
  | _ => true

/-- One step, where it is possible. -/
def expiryStep (state : ExpiryState) (action : CodeAction) : Option ExpiryState :=
  if passesTime state action then
    (codeStep ttlSeconds state.codes action).map fun after =>
      ⟨after, state.generatedAfter ttlSeconds action⟩
  else none

structure ExpiryState.IsStart (state : ExpiryState) : Prop where
  codes : state.codes.IsStart
  generatedAt : ∀ code, state.generatedAt code = none

def expirySystem : TransitionSystem ExpiryState CodeAction :=
  .ofStep ExpiryState.IsStart (expiryStep ttlSeconds)

/-! ## Keeping the expiry -/

/-- Every record expires when its generation has said, and what blocks a code
was generated within the time to live. -/
structure ExpiryKept (state : ExpiryState) : Prop where
  expires : ∀ code stored, state.codes.store (codeKey code) = some stored →
    ∃ time, state.generatedAt code = some time ∧
      stored.expiresAt = some (time + 1000 * ttlSeconds.toNat)
  unblocked : ∀ code, (state.codes.store.get state.codes.clock (codeKey code)).isSome →
    ∃ time, state.generatedAt code = some time ∧
      state.codes.clock ≤ time + 1000 * ttlSeconds.toNat

/-- A use of an active code comes before the last millisecond of its record. -/
def MarksBeforeTheEnd (state : ExpiryState) (action : CodeAction) : Prop :=
  match action with
  | .markUsed code =>
      ∀ stored, state.codes.store (codeKey code) = some stored →
        stored.value.status = .active → stored.expiresAt ≠ some state.codes.clock
  | _ => True

instance (state : ExpiryState) (action : CodeAction) :
    Decidable (MarksBeforeTheEnd state action) :=
  match action with
  | .markUsed code =>
      inferInstanceAs (Decidable (∀ stored ∈ state.codes.store (codeKey code),
        stored.value.status = .active → stored.expiresAt ≠ some state.codes.clock))
  | .tick _ | .startGenerate .. | .tryCode .. => isTrue trivial

/-- A record which expires in time blocks its code no longer. -/
theorem expiryKept_iff_expires {state : ExpiryState} :
    ExpiryKept ttlSeconds state ↔
      ∀ code stored, state.codes.store (codeKey code) = some stored →
        ∃ time, state.generatedAt code = some time ∧
          stored.expiresAt = some (time + 1000 * ttlSeconds.toNat) := by
  refine ⟨ExpiryKept.expires, ?_⟩
  intro expires
  refine ⟨expires, ?_⟩
  intro code seen
  rcases Option.isSome_iff_exists.mp seen with ⟨payload, visible⟩
  rcases ExpiringStore.get_eq_some.mp visible with ⟨stored, present, live, _⟩
  rcases expires code stored present with ⟨time, generated, ends⟩
  refine ⟨time, generated, ?_⟩
  rw [Stored.isLive, ends] at live
  exact of_decide_eq_true live

/-- What marking leaves at a key: the record with its expiry, or without one
where no time is left. -/
theorem store_markUsed
    {now : Nat} {code : PyStr} {store : CodeStore} {payload : CodePayload} {time : Nat}
    (present : store (codeKey code) = some ⟨payload, some time⟩) (live : now ≤ time)
    (active : payload.status = .active) :
    (markUsed now code store).2 =
      store.set (codeKey code) payload.used (if time = now then none else some time) := by
  have seen : store.get now (codeKey code) = some payload :=
    ExpiringStore.get_eq_some.mpr ⟨_, present, decide_eq_true live, rfl⟩
  have left : store.pttl now (codeKey code) = (time - now : Nat) := by
    simp [ExpiringStore.pttl, present]
  simp only [markUsed, markUsedScript, seen, active, ne_eq, not_true_eq_false, if_false, left]
  by_cases last : time = now
  · simp [last]
  · have before : 0 < ((time - now : Nat) : Int) := by omega
    rw [if_pos before, if_neg last]
    simp only [Int.toNat_natCast]
    congr 2
    omega

/-- Marking a code which is not active, or cannot be seen, stores nothing. -/
theorem store_markUsed_of_inactive
    {now : Nat} {code : PyStr} {store : CodeStore}
    (inactive : ∀ payload, store.get now (codeKey code) = some payload →
      payload.status ≠ .active) :
    (markUsed now code store).2 = store := by
  rcases markUsed_cases now code store with
    ⟨payload, after, marked, marks⟩ | ⟨error, _, raised, _⟩
  · exact absurd marks.active (inactive payload marks.seen)
  · rw [raised]

theorem store_marked (code : PyStr) (state : CodeState) :
    (state.marked code).store = (markUsed state.clock code state.store).2 := by
  simp only [CodeState.marked]
  split <;> rename_i marked <;> rw [marked]

/-- A use keeps the expiry of every record exactly if the record which it
stores again has time left. -/
theorem expiryKept_marked_iff
    {state : ExpiryState} (kept : ExpiryKept ttlSeconds state) (code : PyStr) :
    ExpiryKept ttlSeconds ⟨state.codes.marked code, state.generatedAt⟩ ↔
      MarksBeforeTheEnd state (.markUsed code) := by
  rw [expiryKept_iff_expires, MarksBeforeTheEnd]
  simp only [store_marked]
  by_cases inactive : ∀ payload,
      state.codes.store.get state.codes.clock (codeKey code) = some payload →
        payload.status ≠ .active
  · rw [store_markUsed_of_inactive inactive]
    refine ⟨fun _ stored present active ends => ?_, fun _ => kept.expires⟩
    have seen : state.codes.store.get state.codes.clock (codeKey code) = some stored.value :=
      ExpiringStore.get_eq_some.mpr
        ⟨stored, present, by rw [Stored.isLive, ends]; exact decide_eq_true (le_refl _), rfl⟩
    exact inactive stored.value seen active
  · simp only [ne_eq, not_forall, not_not] at inactive
    rcases inactive with ⟨payload, seen, active⟩
    rcases ExpiringStore.get_eq_some.mp seen with ⟨⟨value, expiresAt⟩, present, live, rfl⟩
    rcases kept.expires code _ present with ⟨time, generated, ends⟩
    simp only at ends active
    subst ends
    have notPast : state.codes.clock ≤ time + 1000 * ttlSeconds.toNat :=
      of_decide_eq_true live
    rw [store_markUsed present notPast active]
    constructor
    · intro expires stored found _ last
      rw [present] at found
      cases found
      have again := expires code _ (ExpiringStore.set_same ..)
      rw [if_pos (Option.some.inj last)] at again
      rcases again with ⟨_, _, impossible⟩
      cases impossible
    · intro inTime other stored found
      have early : time + 1000 * ttlSeconds.toNat ≠ state.codes.clock := by
        intro last
        exact inTime _ present active (congrArg some last)
      rw [if_neg early] at found
      by_cases same : other = code
      · rw [same, ExpiringStore.set_same] at found
        cases found
        rw [same]
        exact ⟨time, generated, rfl⟩
      · rw [ExpiringStore.set_other _ _ _ (codeKey_injective.ne same)] at found
        exact kept.expires other stored found

/-- An attempt of a generation keeps the expiry of every record. -/
theorem expiryKept_tried
    {state : ExpiryState} (kept : ExpiryKept ttlSeconds state)
    {index : Nat} (drawn : Fin 1000000) {generation : Generation}
    (known : state.codes.generating[index]? = some generation) :
    ExpiryKept ttlSeconds
      ⟨state.codes.tried ttlSeconds index generation (randomCode drawn),
        state.generatedAfter ttlSeconds (.tryCode index drawn)⟩ := by
  rw [expiryKept_iff_expires]
  simp only [ExpiryState.generatedAfter, known, CodeState.tried]
  rcases generation.tryCode_cases ttlSeconds state.codes.clock (randomCode drawn)
      state.codes.store with ⟨_, stored⟩ | ⟨same, notGenerated⟩
  · rw [stored]
    simp only
    intro code record found
    by_cases here : code = randomCode drawn
    · subst here
      rw [ExpiringStore.set_same] at found
      cases found
      rw [Function.update_self]
      exact ⟨_, rfl, rfl⟩
    · rw [ExpiringStore.set_other _ _ _ (codeKey_injective.ne here)] at found
      rw [Function.update_of_ne here]
      exact kept.expires code record found
  · cases attempt : generation.tryCode ttlSeconds state.codes.clock (randomCode drawn)
        state.codes.store with
    | mk result after =>
        rw [attempt] at same notGenerated
        cases same
        cases result with
        | generated made => exact absurd rfl (notGenerated made)
        | again next => exact kept.expires
        | raised error => exact kept.expires

/-- A step keeps the expiry of every record exactly if it does not use a code
in the last millisecond of its record. -/
theorem expiryKept_step_iff
    {state after : ExpiryState} {action : CodeAction} (kept : ExpiryKept ttlSeconds state)
    (move : (expirySystem ttlSeconds).Step state action after) :
    ExpiryKept ttlSeconds after ↔ MarksBeforeTheEnd state action := by
  simp only [expirySystem, TransitionSystem.ofStep, expiryStep] at move
  split at move
  · rcases Option.map_eq_some_iff.mp move with ⟨codes, moved, rfl⟩
    cases action with
    | tick clock =>
        cases moved
        exact ⟨fun _ => trivial,
          fun _ => (expiryKept_iff_expires ttlSeconds).mpr kept.expires⟩
    | startGenerate bankId userId zone createdAt =>
        cases moved
        exact ⟨fun _ => trivial,
          fun _ => (expiryKept_iff_expires ttlSeconds).mpr kept.expires⟩
    | tryCode index drawn =>
        simp only [codeStep] at moved
        split at moved
        · rename_i generation known
          cases moved
          exact ⟨fun _ => trivial, fun _ => expiryKept_tried ttlSeconds kept drawn known⟩
        · cases moved
    | markUsed code =>
        cases moved
        exact expiryKept_marked_iff ttlSeconds kept code
  · cases move

/-- In every run which uses no code in the last millisecond of its record, all
records expire in time; the next step keeps that exactly if it does not
either. -/
theorem expiry_kept_iff
    {state : ExpiryState}
    (reached : ((expirySystem ttlSeconds).guarded MarksBeforeTheEnd).Reachable state) :
    ExpiryKept ttlSeconds state ∧
      ∀ action after, (expirySystem ttlSeconds).Step state action after →
        (ExpiryKept ttlSeconds after ↔ MarksBeforeTheEnd state action) := by
  have kept : ExpiryKept ttlSeconds state := by
    apply reached.invariant
    · intro start isStart
      rw [expiryKept_iff_expires]
      intro code stored present
      rw [isStart.codes.store] at present
      cases present
    · intro source action target _ held move
      exact (expiryKept_step_iff ttlSeconds held move.2).mpr move.1
  exact ⟨kept, fun action after move => expiryKept_step_iff ttlSeconds kept move⟩

/-! ## A code in its last millisecond -/

/-- A Redis without codes, before any generation. -/
def noRecords : ExpiryState := ⟨noCodes, fun _ => none⟩

theorem isStart_noRecords : noRecords.IsStart :=
  ⟨isStart_noCodes, fun _ => rfl⟩

/-- A code is generated for 120 seconds and used at a time. -/
def generateAndUseAt (time : Nat) : List CodeAction :=
  [.startGenerate 1 (py "client") .PL (py "now"), .tryCode 0 123456, .tick time,
    .markUsed (py "123456")]

/-- When the record of the code expires, where there is one. -/
def ExpiryState.expiryOf (state : ExpiryState) (code : PyStr) : Option (Option Nat) :=
  (state.codes.store (codeKey code)).map Stored.expiresAt

/-- A code which is used in the millisecond before the last one still expires
after 120 seconds. -/
theorem expiry_kept_iff_inTime :
    ∃ state, TransitionSystem.runLabels (expiryStep 120) noRecords
        (generateAndUseAt 119999) = some state ∧
      state.expiryOf (py "123456") = some (some 120000) ∧ ExpiryKept 120 state := by
  have expiry : (TransitionSystem.runLabels
      (TransitionSystem.guardStep (expiryStep 120)
        fun state action => decide (MarksBeforeTheEnd state action))
      noRecords (generateAndUseAt 119999)).map
        (fun state => state.expiryOf (py "123456")) = some (some (some 120000)) := by
    decide +kernel
  rcases Option.map_eq_some_iff.mp expiry with ⟨state, run, expires⟩
  have path : ((expirySystem 120).guarded MarksBeforeTheEnd).Path noRecords
      (generateAndUseAt 119999) state := by
    have guarded : ((expirySystem 120).guarded fun state action =>
        decide (MarksBeforeTheEnd state action) = true).Path noRecords _ state :=
      TransitionSystem.guarded_path_of_runLabels run
    apply guarded.mono
    intro source action target move
    exact ⟨of_decide_eq_true move.1, move.2⟩
  exact ⟨state, TransitionSystem.runLabels_of_guardStep run, expires,
    (expiry_kept_iff 120 (path.reachable (.init isStart_noRecords))).1⟩

/-- A code which is used in the last millisecond never expires. -/
theorem code_blocked_for_ever :
    ¬ ∀ state, (expirySystem 120).Reachable state → ExpiryKept 120 state := by
  intro always
  have expiry : (TransitionSystem.runLabels (expiryStep 120) noRecords
      (generateAndUseAt 120000)).map (fun state => state.expiryOf (py "123456")) =
        some (some none) := by
    decide +kernel
  rcases Option.map_eq_some_iff.mp expiry with ⟨state, run, expires⟩
  rcases Option.map_eq_some_iff.mp expires with ⟨stored, present, endless⟩
  have kept := always state (TransitionSystem.reachable_of_runLabels isStart_noRecords run)
  rcases kept.expires _ stored present with ⟨time, _, ends⟩
  rw [endless] at ends
  cases ends

end Klik.Codes
