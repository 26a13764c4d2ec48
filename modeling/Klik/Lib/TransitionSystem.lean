import Mathlib.Data.List.Induction

/-!
# Labelled transition systems and their invariants

A system is a set of initial states and a labelled step relation.  Reachable
states are generated from the initial ones by steps; a *guarded* system keeps
only the steps which meet a condition on the state they start from, so that
the runs whose every step meets the condition are exactly the runs of the
guarded system.

The rules below are the only induction principles the verified components
use: an invariant which holds initially and is kept by every step holds in
every reachable state, and a property kept by every step is kept along every
path.
-/

namespace Klik.Lib

universe u v

/-- A labelled transition system over the states `State`. -/
structure TransitionSystem (State : Type u) (Label : Type v) where
  Init : State → Prop
  Step : State → Label → State → Prop

namespace TransitionSystem

variable {State : Type u} {Label : Type v}

/-- States generated from an initial state by finitely many steps. -/
inductive Reachable (system : TransitionSystem State Label) : State → Prop where
  | init {state : State} (start : system.Init state) :
      Reachable system state
  | step {source target : State} {label : Label}
      (reached : Reachable system source)
      (move : system.Step source label target) :
      Reachable system target

/-- Finite sequences of steps, with the labels they take in order. -/
inductive Path (system : TransitionSystem State Label) :
    State → List Label → State → Prop where
  | refl (state : State) : Path system state [] state
  | step {first source target : State} {labels : List Label} {label : Label}
      (before : Path system first labels source)
      (move : system.Step source label target) :
      Path system first (labels ++ [label]) target

/-- The system which keeps only the steps meeting `Guard` where they start. -/
def guarded
    (system : TransitionSystem State Label)
    (Guard : State → Label → Prop) :
    TransitionSystem State Label where
  Init := system.Init
  Step source label target :=
    Guard source label ∧ system.Step source label target

/-- An invariant holding initially and kept by every reachable step. -/
theorem Reachable.invariant
    {system : TransitionSystem State Label}
    {Invariant : State → Prop}
    (initially : ∀ state, system.Init state → Invariant state)
    (preserved : ∀ source label target,
      system.Reachable source → Invariant source →
        system.Step source label target → Invariant target)
    {state : State}
    (reached : system.Reachable state) :
    Invariant state := by
  induction reached with
  | init start =>
      exact initially _ start
  | step before move held =>
      exact preserved _ _ _ before held move

/-- Guarding the steps only removes runs. -/
theorem Reachable.of_guarded
    {system : TransitionSystem State Label}
    {Guard : State → Label → Prop}
    {state : State}
    (reached : (system.guarded Guard).Reachable state) :
    system.Reachable state := by
  induction reached with
  | init start =>
      exact .init start
  | step _ move before =>
      exact .step before move.2

/-- A system with more steps has more paths. -/
theorem Path.mono
    {system larger : TransitionSystem State Label}
    (steps : ∀ source label target,
      system.Step source label target → larger.Step source label target)
    {source target : State} {labels : List Label}
    (path : system.Path source labels target) :
    larger.Path source labels target := by
  induction path with
  | refl => exact .refl _
  | step _ move before => exact .step before (steps _ _ _ move)

/-- Paths of the guarded system are paths of the system. -/
theorem Path.of_guarded
    {system : TransitionSystem State Label}
    {Guard : State → Label → Prop}
    {source target : State} {labels : List Label}
    (path : (system.guarded Guard).Path source labels target) :
    system.Path source labels target := by
  apply path.mono
  intro before label after move
  exact move.2

/-- A path is guarded when all its labels meet the guard everywhere. -/
theorem Path.to_guarded
    {system : TransitionSystem State Label}
    {Guard : State → Label → Prop}
    {source target : State} {labels : List Label}
    (path : system.Path source labels target)
    (meets : ∀ label ∈ labels, ∀ state, Guard state label) :
    (system.guarded Guard).Path source labels target := by
  induction path with
  | refl => exact .refl _
  | step _ move before =>
      apply Path.step
      · apply before
        intro label member
        exact meets label (List.mem_append_left _ member)
      · exact ⟨meets _ (List.mem_append_right _ (List.mem_singleton_self _)) _, move⟩

/-- A path from a reachable state ends in a reachable state. -/
theorem Path.reachable
    {system : TransitionSystem State Label}
    {source target : State} {labels : List Label}
    (path : system.Path source labels target)
    (reached : system.Reachable source) :
    system.Reachable target := by
  induction path with
  | refl => exact reached
  | step _ move before => exact .step before move

/-- A guard which follows from another one in reachable states leaves the
paths of the other. -/
theorem Path.guarded_mono
    {system : TransitionSystem State Label}
    {Guard Weaker : State → Label → Prop}
    (weaker : ∀ state label, system.Reachable state → Guard state label → Weaker state label)
    {source target : State} {labels : List Label}
    (path : (system.guarded Guard).Path source labels target)
    (reached : system.Reachable source) :
    (system.guarded Weaker).Path source labels target := by
  induction path with
  | refl => exact .refl _
  | step before move induction =>
      have between := before.of_guarded.reachable reached
      exact .step induction ⟨weaker _ _ between move.1, move.2⟩

/-- A property of states kept by every reachable step is kept along paths. -/
theorem Path.preserves
    {system : TransitionSystem State Label}
    (Property : State → Prop)
    (preserved : ∀ source label target,
      system.Reachable source → Property source →
        system.Step source label target → Property target)
    {source target : State} {labels : List Label}
    (path : system.Path source labels target)
    (reached : system.Reachable source)
    (holds : Property source) :
    Property target := by
  induction path with
  | refl => exact holds
  | step before move held =>
      exact preserved _ _ _ (before.reachable reached) held move

/-! ## Executable systems -/

/-- The system of a step function which is undefined where no step is
possible. -/
def ofStep (Init : State → Prop) (step : State → Label → Option State) :
    TransitionSystem State Label where
  Init := Init
  Step source label target := step source label = some target

/-- Take the steps with the given labels. -/
def runLabels (step : State → Label → Option State) :
    State → List Label → Option State
  | state, [] => some state
  | state, label :: labels =>
      match step state label with
      | none => none
      | some next => runLabels step next labels

/-- Only the steps which meet a condition. -/
def guardStep
    (step : State → Label → Option State) (Guard : State → Label → Bool) :
    State → Label → Option State :=
  fun state label => if Guard state label then step state label else none

/-- A run whose labels meet a condition is a run. -/
theorem runLabels_of_guardStep
    {step : State → Label → Option State} {Guard : State → Label → Bool}
    {source target : State} {labels : List Label}
    (run : runLabels (guardStep step Guard) source labels = some target) :
    runLabels step source labels = some target := by
  induction labels generalizing source with
  | nil => exact run
  | cons label labels induction =>
      simp only [runLabels, guardStep] at run ⊢
      split at run
      · cases run
      · rename_i next moved
        split at moved
        · rw [moved]
          exact induction run
        · cases moved

theorem runLabels_append
    {step : State → Label → Option State} {source target : State}
    {first second : List Label}
    (run : runLabels step source (first ++ second) = some target) :
    ∃ between, runLabels step source first = some between ∧
      runLabels step between second = some target := by
  induction first generalizing source with
  | nil => exact ⟨source, rfl, run⟩
  | cons label labels induction =>
      simp only [List.cons_append, runLabels] at run ⊢
      cases next : step source label with
      | none => simp [next] at run
      | some state =>
          simp only [next] at run
          exact induction run

theorem step_of_runLabels
    {step : State → Label → Option State} {source target : State} {label : Label}
    (run : runLabels step source [label] = some target) :
    step source label = some target := by
  simp only [runLabels] at run
  cases next : step source label with
  | none => simp [next] at run
  | some state =>
      simp only [next] at run
      rw [run]

/-- The steps of a run are a path. -/
theorem path_of_runLabels
    {Init : State → Prop} {step : State → Label → Option State}
    {source target : State} {labels : List Label}
    (run : runLabels step source labels = some target) :
    (ofStep Init step).Path source labels target := by
  induction labels using List.reverseRecOn generalizing target with
  | nil =>
      cases run
      exact .refl source
  | append_singleton labels label induction =>
      rcases runLabels_append run with ⟨between, before, last⟩
      exact .step (induction before) (step_of_runLabels last)

/-- The steps of a run whose labels all meet the guard are a path of the
guarded system. -/
theorem guarded_path_of_runLabels
    {Init : State → Prop} {step : State → Label → Option State}
    {Guard : State → Label → Bool} {source target : State} {labels : List Label}
    (run : runLabels (guardStep step Guard) source labels = some target) :
    ((ofStep Init step).guarded fun state label => Guard state label = true).Path
      source labels target := by
  have path : (ofStep Init (guardStep step Guard)).Path source labels target :=
    path_of_runLabels run
  apply path.mono
  intro before label after move
  simp only [ofStep, guardStep] at move
  split at move
  · rename_i meets
    exact ⟨meets, move⟩
  · cases move

/-- A run from an initial state ends in a reachable state. -/
theorem reachable_of_runLabels
    {Init : State → Prop} {step : State → Label → Option State}
    {source target : State} {labels : List Label}
    (start : Init source)
    (run : runLabels step source labels = some target) :
    (ofStep Init step).Reachable target :=
  (path_of_runLabels run).reachable (.init start)

end TransitionSystem

end Klik.Lib
