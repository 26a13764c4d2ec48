import Mathlib.Data.List.TakeDrop

/-!
# Data and the history of its changes

Data which starts from some value and changes by one recorded change after the
other.  A moment is a number of changes: what the data was at a moment is what
these changes have made of the start, whatever comes later.
-/

namespace Klik.Lib

universe u v

variable {Data : Type u} {Change : Type v}

/-- The data after changes. -/
def replay (apply : Data → Change → Data) (start : Data) (history : List Change) : Data :=
  history.foldl apply start

/-- The data at a moment of the history. -/
def dataAt
    (apply : Data → Change → Data) (start : Data) (history : List Change) (moment : Nat) :
    Data :=
  replay apply start (history.take moment)

variable {apply : Data → Change → Data} {start : Data} {history later : List Change}

theorem replay_append :
    replay apply start (history ++ later) = replay apply (replay apply start history) later :=
  List.foldl_append ..

/-- What each change moves by one, or leaves alone, counts the changes which
move it. -/
theorem replay_counts
    (seen : Data → Nat) {counts : Change → Bool}
    (moves : ∀ data change, seen (apply data change) = seen data + if counts change then 1 else 0) :
    seen (replay apply start history) = seen start + history.countP counts := by
  induction history generalizing start with
  | nil => rfl
  | cons change rest induction =>
      have later : seen (replay apply (apply start change) rest) =
          seen (apply start change) + rest.countP counts := induction
      rw [moves] at later
      rw [List.countP_cons, replay, List.foldl_cons, ← replay, later]
      omega

theorem dataAt_length : dataAt apply start history history.length = replay apply start history := by
  rw [dataAt, List.take_length]

/-- Later changes do not change what was. -/
theorem dataAt_append {moment : Nat} (before : moment ≤ history.length) :
    dataAt apply start (history ++ later) moment = dataAt apply start history moment := by
  rw [dataAt, List.take_append_of_le_length before, dataAt]

/-- Each change makes the data of the next moment. -/
theorem dataAt_succ {moment : Nat} {change : Change} (found : history[moment]? = some change) :
    dataAt apply start history (moment + 1) =
      apply (dataAt apply start history moment) change := by
  rw [dataAt, List.take_add_one, found, replay_append, dataAt]
  rfl

/-! ## During an interval -/

/-- A property holds at all moments from one to another. -/
def Throughout
    (apply : Data → Change → Data) (start : Data) (history : List Change)
    (first last : Nat) (Property : Data → Prop) : Prop :=
  ∀ moment, first ≤ moment → moment ≤ last → Property (dataAt apply start history moment)

/-- A property holds at a moment from one to another. -/
def Sometime
    (apply : Data → Change → Data) (start : Data) (history : List Change)
    (first last : Nat) (Property : Data → Prop) : Prop :=
  ∃ moment, first ≤ moment ∧ moment ≤ last ∧ Property (dataAt apply start history moment)

variable {first last : Nat} {Property : Data → Prop}

theorem Sometime.append
    (holds : Sometime apply start history first last Property) (before : last ≤ history.length) :
    Sometime apply start (history ++ later) first last Property := by
  rcases holds with ⟨moment, since, within, property⟩
  refine ⟨moment, since, within, ?_⟩
  rw [dataAt_append (Nat.le_trans within before)]
  exact property

theorem Sometime.mono
    (holds : Sometime apply start history first last Property) {further : Nat}
    (le : last ≤ further) :
    Sometime apply start history first further Property := by
  rcases holds with ⟨moment, since, within, property⟩
  exact ⟨moment, since, Nat.le_trans within le, property⟩

end Klik.Lib
