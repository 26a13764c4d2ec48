import Klik.Lib.TransitionSystem

/-!
# Refinement

A system refines another one through a view of its states: every step is a
step of the other one on what the view shows, or leaves the view.  Runs are
then runs of the other system, and what holds in these holds of the views.
-/

namespace Klik.Lib.TransitionSystem

universe u v w x

variable {State : Type u} {Label : Type v} {View : Type w} {Action : Type x}
  {concrete : TransitionSystem State Label} {abstract : TransitionSystem View Action}
  {view : State → View}

structure Refines
    (concrete : TransitionSystem State Label) (abstract : TransitionSystem View Action)
    (view : State → View) : Prop where
  init : ∀ state, concrete.Init state → abstract.Init (view state)
  step : ∀ state label after, concrete.Reachable state → concrete.Step state label after →
    view after = view state ∨ ∃ action, abstract.Step (view state) action (view after)

namespace Refines

theorem reachable
    (refines : Refines concrete abstract view) {state : State}
    (reached : concrete.Reachable state) : abstract.Reachable (view state) := by
  induction reached with
  | init start => exact .init (refines.init _ start)
  | step earlier move ih =>
      rcases refines.step _ _ _ earlier move with same | ⟨action, moves⟩
      · rw [same]
        exact ih
      · exact .step ih moves

theorem path
    (refines : Refines concrete abstract view) {state after : State} {labels : List Label}
    (reached : concrete.Reachable state) (path : concrete.Path state labels after) :
    ∃ actions, abstract.Path (view state) actions (view after) := by
  induction path with
  | refl => exact ⟨[], .refl _⟩
  | step before move ih =>
      rcases ih with ⟨actions, sofar⟩
      rcases refines.step _ _ _ (before.reachable reached) move with same | ⟨action, moves⟩
      · exact ⟨actions, same ▸ sofar⟩
      · exact ⟨actions ++ [action], .step sofar moves⟩

end Refines

end Klik.Lib.TransitionSystem
