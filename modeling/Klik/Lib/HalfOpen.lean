import Mathlib.Order.Lattice
import Mathlib.Data.List.Basic

/-!
# Half-open periods

A period has its start and ends before its stop; without a stop it is
unbounded.  Two periods which are not empty share a time unless one of them
stops at or before the start of the other.
-/

namespace Klik.Lib

universe u

/-- A half-open period of time. -/
structure HalfOpen (Time : Type u) where
  start : Time
  stop : Option Time

namespace HalfOpen

variable {Time : Type u} [LinearOrder Time] {first second : HalfOpen Time}

/-- The times of a period. -/
def Contains (period : HalfOpen Time) (time : Time) : Prop :=
  period.start ≤ time ∧ ∀ stop ∈ period.stop, time < stop

/-- A period which is not empty. -/
def Proper (period : HalfOpen Time) : Prop :=
  ∀ stop ∈ period.stop, period.start < stop

/-- A period which is over at a time. -/
def StopsBy (period : HalfOpen Time) (time : Time) : Prop :=
  ∃ stop ∈ period.stop, stop ≤ time

/-- Two periods without a common time. -/
def Apart (first second : HalfOpen Time) : Prop :=
  ∀ time, ¬ (first.Contains time ∧ second.Contains time)

theorem Apart.symm (apart : Apart first second) : Apart second first :=
  fun time both => apart time both.symm

/-- A proper period contains its start. -/
theorem contains_start {period : HalfOpen Time} (proper : period.Proper) :
    period.Contains period.start :=
  ⟨le_rfl, proper⟩

/-- A period which starts in another one which is not over yet shares its start
with it. -/
theorem contains_of_not_stopsBy
    {period : HalfOpen Time} {time : Time}
    (started : period.start ≤ time) (going : ¬ period.StopsBy time) :
    period.Contains time := by
  refine ⟨started, ?_⟩
  intro stop stops
  by_contra passed
  exact going ⟨stop, stops, not_lt.mp passed⟩

/-- A time of a period is before its stop. -/
theorem Contains.not_stopsBy
    {period : HalfOpen Time} {time later : Time}
    (contains : period.Contains later) (earlier : time ≤ later) :
    ¬ period.StopsBy time := by
  rintro ⟨stop, stops, passed⟩
  exact absurd (le_trans passed earlier) (not_le.mpr (contains.2 stop stops))

/-- Proper periods share a time exactly if neither is over when the other one
starts. -/
theorem common_iff (firstProper : first.Proper) (secondProper : second.Proper) :
    (∃ time, first.Contains time ∧ second.Contains time) ↔
      ¬ (first.StopsBy second.start ∨ second.StopsBy first.start) := by
  constructor
  · rintro ⟨time, inFirst, inSecond⟩ (firstOver | secondOver)
    · exact inFirst.not_stopsBy inSecond.1 firstOver
    · exact inSecond.not_stopsBy inFirst.1 secondOver
  · intro neither
    rw [not_or] at neither
    rcases le_total first.start second.start with before | after
    · exact ⟨second.start, contains_of_not_stopsBy before neither.1,
        contains_start secondProper⟩
    · exact ⟨first.start, contains_start firstProper,
        contains_of_not_stopsBy after neither.2⟩

end HalfOpen

end Klik.Lib
