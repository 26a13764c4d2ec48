import Mathlib.Algebra.BigOperators.Group.List.Basic
import Mathlib.Algebra.Group.Prod
import Mathlib.Data.List.Nodup

/-!
# Counts and sums of selected rows

The rows of a table which a filter selects, counted and summed up.  The same
totals come from the places of these rows, in any order.
-/

namespace Klik.Lib

universe u v

variable {Row : Type u} {Total : Type v} [AddCommMonoid Total]

/-- The number of the selected rows and the sum of their weights. -/
def selectedTotals (selected : Row → Bool) (weight : Row → Total) (rows : List Row) :
    Nat × Total :=
  ((rows.filter selected).length, ((rows.filter selected).map weight).sum)

/-- The places of the selected rows. -/
def placesWhere (selected : Row → Bool) (rows : List Row) : List Nat :=
  (List.range rows.length).filter fun place => rows[place]?.any selected

/-- The weight of the row at a place. -/
def weightAt (weight : Row → Total) (rows : List Row) (place : Nat) : Total :=
  (rows[place]?.map weight).getD 0

/-- The number of places and the sum of the weights at them. -/
def totalsAt (weight : Row → Total) (rows : List Row) (places : List Nat) : Nat × Total :=
  (places.length, (places.map (weightAt weight rows)).sum)

variable {selected other : Row → Bool} {weight : Row → Total} {rows : List Row}

theorem selectedTotals_cons (row : Row) :
    selectedTotals selected weight (row :: rows) =
      (if selected row then (1, weight row) else (0, 0)) +
        selectedTotals selected weight rows := by
  simp only [selectedTotals, List.filter_cons]
  split
  · exact Prod.ext (Nat.add_comm _ 1) (List.sum_cons ..)
  · exact Prod.ext (Nat.zero_add _).symm (zero_add _).symm

/-- A change which keeps what is selected, and the weights, keeps the totals. -/
theorem selectedTotals_mapIdx
    {change : Nat → Row → Row}
    (keeps : ∀ place row, rows[place]? = some row →
      other (change place row) = selected row ∧ weight (change place row) = weight row) :
    selectedTotals other weight (rows.mapIdx change) = selectedTotals selected weight rows := by
  induction rows generalizing change with
  | nil => rfl
  | cons row rows induction =>
      rw [List.mapIdx_cons, selectedTotals_cons, selectedTotals_cons]
      rcases keeps 0 row rfl with ⟨selects, weighs⟩
      rw [selects, weighs, induction]
      intro place later found
      exact keeps (place + 1) later found

theorem selectedTotals_map
    {change : Row → Row}
    (keeps : ∀ row ∈ rows, other (change row) = selected row ∧ weight (change row) = weight row) :
    selectedTotals other weight (rows.map change) = selectedTotals selected weight rows := by
  have indexed : rows.map change = rows.mapIdx fun _ => change := by
    apply List.ext_getElem?
    intro place
    simp
  rw [indexed]
  apply selectedTotals_mapIdx
  intro place row found
  exact keeps row (List.mem_of_getElem? found)

/-- Rows which are not selected do not change the totals. -/
theorem selectedTotals_append
    {added : List Row} (unselected : ∀ row ∈ added, selected row = false) :
    selectedTotals selected weight (rows ++ added) = selectedTotals selected weight rows := by
  have nothing : added.filter selected = [] := by
    rw [List.filter_eq_nil_iff]
    intro row member
    rw [unselected row member]
    exact Bool.false_ne_true
  rw [selectedTotals, List.filter_append, nothing, List.append_nil, selectedTotals]

theorem selectedTotals_none (unselected : ∀ row ∈ rows, selected row = false) :
    selectedTotals selected weight rows = (0, 0) := by
  have same : selectedTotals selected weight ([] ++ rows) = selectedTotals selected weight [] :=
    selectedTotals_append unselected
  rwa [List.nil_append] at same

/-! ## Places -/

theorem mem_placesWhere {place : Nat} :
    place ∈ placesWhere selected rows ↔
      ∃ row, rows[place]? = some row ∧ selected row = true := by
  simp only [placesWhere, List.mem_filter, List.mem_range, Option.any_eq_true]
  constructor
  · exact fun both => both.2
  · rintro ⟨row, found, chosen⟩
    exact ⟨(List.getElem?_eq_some_iff.mp found).1, row, found, chosen⟩

theorem nodup_placesWhere : (placesWhere selected rows).Nodup :=
  List.nodup_range.filter _

theorem placesWhere_cons (row : Row) :
    placesWhere selected (row :: rows) =
      (if selected row then [0] else []) ++ (placesWhere selected rows).map Nat.succ := by
  simp only [placesWhere, List.length_cons, List.range_succ_eq_map, List.filter_cons,
    List.getElem?_cons_zero, Option.any_some, List.filter_map, Function.comp_def,
    List.getElem?_cons_succ]
  split <;> rfl

/-- The totals of the selected rows are those of their places. -/
theorem selectedTotals_eq_totalsAt :
    selectedTotals selected weight rows =
      totalsAt weight rows (placesWhere selected rows) := by
  induction rows with
  | nil => rfl
  | cons row rows induction =>
      have later : ((placesWhere selected rows).map Nat.succ).map (weightAt weight (row :: rows)) =
          (placesWhere selected rows).map (weightAt weight rows) := by
        rw [List.map_map]
        rfl
      rw [selectedTotals_cons, induction, placesWhere_cons]
      simp only [totalsAt, List.map_append, List.length_append, List.length_map, List.sum_append,
        later]
      split
      · ext <;> simp [weightAt]
      · ext <;> simp

/-- Places which are those of the selected rows, in some order. -/
theorem selectedTotals_eq_of_places
    {places : List Nat} (once : places.Nodup)
    (same : ∀ place, place ∈ places ↔
      ∃ row, rows[place]? = some row ∧ selected row = true) :
    selectedTotals selected weight rows = totalsAt weight rows places := by
  have permuted : (placesWhere selected rows).Perm places := by
    rw [List.perm_ext_iff_of_nodup nodup_placesWhere once]
    intro place
    rw [mem_placesWhere, same]
  rw [selectedTotals_eq_totalsAt, totalsAt, totalsAt, permuted.length_eq,
    (permuted.map _).sum_eq]

/-- The totals at places depend on the weights at them only. -/
theorem totalsAt_congr
    {places : List Nat} {after : List Row}
    (same : ∀ place ∈ places, weightAt weight after place = weightAt weight rows place) :
    totalsAt weight after places = totalsAt weight rows places := by
  rw [totalsAt, totalsAt, List.map_congr_left same]

theorem totalsAt_perm {places permuted : List Nat} (perm : places.Perm permuted) :
    totalsAt weight rows places = totalsAt weight rows permuted := by
  rw [totalsAt, totalsAt, perm.length_eq, (perm.map _).sum_eq]

end Klik.Lib
