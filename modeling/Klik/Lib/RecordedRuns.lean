import Klik.Lib.TransitionSystem

/-!
# Runs with a record

A system whose steps are recorded: each adds its events to a record which no
step reads.  The record shows what has happened, and every state of the system
is reached with some record.
-/

namespace Klik.Lib.TransitionSystem

universe u v w

variable {State : Type u} {Label : Type v} {Event : Type w}

/-- The system in which each step adds its events to a record. -/
def recording
    (system : TransitionSystem State Label) (events : State → Label → List Event) :
    TransitionSystem (State × List Event) Label where
  Init recorded := system.Init recorded.1 ∧ recorded.2 = []
  Step source label target :=
    system.Step source.1 label target.1 ∧ target.2 = source.2 ++ events source.1 label

variable {system : TransitionSystem State Label} {events : State → Label → List Event}

/-- Recording adds no runs. -/
theorem Reachable.of_recording
    {recorded : State × List Event} (reached : (system.recording events).Reachable recorded) :
    system.Reachable recorded.1 := by
  induction reached with
  | init start => exact .init start.1
  | step _ move before => exact .step before move.1

/-- Recording removes no runs. -/
theorem Reachable.exists_record
    {state : State} (reached : system.Reachable state) :
    ∃ record, (system.recording events).Reachable (state, record) := by
  induction reached with
  | init start => exact ⟨[], .init ⟨start, rfl⟩⟩
  | @step source target label _ move before =>
      rcases before with ⟨record, reached⟩
      exact ⟨record ++ events source label, .step reached ⟨move, rfl⟩⟩

/-- The steps of a function, with their record. -/
def recordStep
    (step : State → Label → Option State) (events : State → Label → List Event) :
    State × List Event → Label → Option (State × List Event) :=
  fun recorded label =>
    (step recorded.1 label).map fun next => (next, recorded.2 ++ events recorded.1 label)

/-- A run with its record, from an initial state. -/
theorem reachable_of_recordStep
    {Init : State → Prop} {step : State → Label → Option State} {start : State}
    {labels : List Label} {recorded : State × List Event}
    (initial : Init start)
    (run : runLabels (recordStep step events) (start, []) labels = some recorded) :
    ((ofStep Init step).recording events).Reachable recorded := by
  have path : (ofStep (fun first => Init first.1 ∧ first.2 = []) (recordStep step events)).Path
      (start, []) labels recorded := path_of_runLabels run
  have recordedPath : ((ofStep Init step).recording events).Path (start, []) labels recorded := by
    apply path.mono
    intro before label after move
    rcases Option.map_eq_some_iff.mp move with ⟨next, moved, rfl⟩
    exact ⟨moved, rfl⟩
  exact recordedPath.reachable (.init ⟨initial, rfl⟩)

end Klik.Lib.TransitionSystem
