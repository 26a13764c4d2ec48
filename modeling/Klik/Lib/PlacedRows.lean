import Mathlib.Data.List.Basic

/-!
# Tables whose rows keep their places

Rows are told apart by their places: new rows are appended, and no row is
removed.  What may become of a row is a relation on rows, and a table moves
when each of its rows stays where it is and moves.
-/

namespace Klik.Lib

universe u

variable {Row : Type u} {Moves : Row → Row → Prop}

/-- Every row is where it was, and has moved. -/
def RowsMove (Moves : Row → Row → Prop) (before after : List Row) : Prop :=
  ∀ (place : Nat) (row : Row), before[place]? = some row →
    ∃ moved, after[place]? = some moved ∧ Moves row moved

namespace RowsMove

theorem refl (stays : ∀ row, Moves row row) (rows : List Row) : RowsMove Moves rows rows :=
  fun _ row found => ⟨row, found, stays row⟩

theorem trans
    {first second third : List Row}
    (before : RowsMove Moves first second) (after : RowsMove Moves second third)
    (compose : ∀ first second third, Moves first second → Moves second third →
      Moves first third) :
    RowsMove Moves first third := by
  intro place row found
  rcases before place row found with ⟨middle, middleFound, toMiddle⟩
  rcases after place middle middleFound with ⟨moved, movedFound, fromMiddle⟩
  exact ⟨moved, movedFound, compose row middle moved toMiddle fromMiddle⟩

theorem append (stays : ∀ row, Moves row row) (rows created : List Row) :
    RowsMove Moves rows (rows ++ created) := by
  intro place row found
  refine ⟨row, ?_, stays row⟩
  rw [List.getElem?_append_left (List.getElem?_eq_some_iff.mp found).1]
  exact found

theorem mapIdx
    {change : Nat → Row → Row} {rows : List Row}
    (moves : ∀ place row, rows[place]? = some row → Moves row (change place row)) :
    RowsMove Moves rows (rows.mapIdx change) := by
  intro place row found
  rw [List.getElem?_mapIdx, found]
  exact ⟨_, rfl, moves place row found⟩

theorem map
    {change : Row → Row} (moves : ∀ row, Moves row (change row)) (rows : List Row) :
    RowsMove Moves rows (rows.map change) := by
  intro place row found
  rw [List.getElem?_map, found]
  exact ⟨_, rfl, moves row⟩

end RowsMove

/-! ## Rows which a filter selects -/

/-- A change of rows which the filter selects neither before nor after leaves
the selected rows. -/
theorem filter_mapIdx_of_stays
    {selected : Row → Bool} {change : Nat → Row → Row} {rows : List Row}
    (stays : ∀ place row, rows[place]? = some row →
      change place row = row ∨ selected row = false ∧ selected (change place row) = false) :
    (rows.mapIdx change).filter selected = rows.filter selected := by
  induction rows generalizing change with
  | nil => rfl
  | cons row rest induction =>
      have later : (rest.mapIdx fun place => change (place + 1)).filter selected =
          rest.filter selected :=
        induction fun place other found => stays (place + 1) other found
      rw [List.mapIdx_cons]
      rcases stays 0 row rfl with same | ⟨before, after⟩
      · rw [same, List.filter_cons, List.filter_cons, later]
      · rw [List.filter_cons_of_neg (by rw [after]; exact Bool.false_ne_true),
          List.filter_cons_of_neg (by rw [before]; exact Bool.false_ne_true), later]

end Klik.Lib
