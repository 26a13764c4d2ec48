import Klik.Lib.InsertionDict
import Klik.Lib.RowTable

/-!
# Tables as dictionaries

The rows of a table which are kept, each under its key, as a dictionary in the
order of insertion.  Statements on the table are assignments to the dictionary
where they concern a row which is kept, and nothing to it where they do not.
-/

namespace Klik.Lib

open InsertionDict

universe u v w

variable {Row : Type u} {Key : Type v} {Value : Type w}

/-- What is shown of the rows which are kept. -/
def tableDict (key : Row → Key) (keep : Row → Bool) (shown : Row → Value) (rows : List Row) :
    InsertionDict Key Value :=
  (rows.filter keep).map fun row => (key row, shown row)

variable {key : Row → Key} {keep : Row → Bool} {shown later : Row → Value}
  {rows : List Row} {row old : Row}

theorem nodup_keys_tableDict (keys : (rows.map key).Nodup) :
    (InsertionDict.keys (tableDict key keep shown rows)).Nodup := by
  rw [InsertionDict.keys, tableDict, List.map_map]
  exact (List.filter_sublist.map key).nodup keys

theorem mem_tableDict {wanted : Key} {value : Value} :
    (wanted, value) ∈ tableDict key keep shown rows ↔
      ∃ row ∈ rows, keep row = true ∧ key row = wanted ∧ shown row = value := by
  simp only [tableDict, List.mem_map, List.mem_filter, Prod.mk.injEq]
  constructor
  · rintro ⟨row, ⟨member, kept⟩, same⟩
    exact ⟨row, member, kept, same⟩
  · rintro ⟨row, member, kept, same⟩
    exact ⟨row, ⟨member, kept⟩, same⟩

theorem tableDict_insert_of_not_kept (left : keep row = false) :
    tableDict key keep shown (rows ++ [row]) = tableDict key keep shown rows := by
  rw [tableDict, List.filter_append, List.filter_singleton, left]
  exact congrArg (List.map _) (List.append_nil _)

variable [DecidableEq Key]

/-- What is shown under a key is a row of the table. -/
theorem get?_tableDict (keys : (rows.map key).Nodup) {wanted : Key} {value : Value} :
    get? (tableDict key keep shown rows) wanted = some value ↔
      ∃ row ∈ rows, keep row = true ∧ key row = wanted ∧ shown row = value := by
  rw [get?_eq_some_iff (nodup_keys_tableDict keys), mem_tableDict]

theorem get?_tableDict_of_fresh {wanted : Key} (fresh : ∀ row ∈ rows, key row ≠ wanted) :
    get? (tableDict key keep shown rows) wanted = none := by
  rw [get?_eq_none_iff, InsertionDict.keys, tableDict, List.map_map]
  intro member
  rcases List.mem_map.mp member with ⟨row, kept, same⟩
  exact fresh row (List.mem_filter.mp kept).1 same

theorem tableDict_insert (fresh : ∀ old ∈ rows, key old ≠ key row) (kept : keep row = true) :
    tableDict key keep shown (rows ++ [row]) =
      InsertionDict.set (tableDict key keep shown rows) (key row) (shown row) := by
  rw [set_of_not_mem, tableDict, List.filter_append, List.map_append,
    List.filter_singleton, kept]
  · rfl
  · rw [← get?_eq_none_iff]
    exact get?_tableDict_of_fresh fresh

/-! ## Changing what is shown of a row -/

/-- Assigning to the key of an item. -/
theorem set_map
    {items : List Row} (keys : (items.map key).Nodup) (member : row ∈ items)
    {value : Value} (here : later row = value)
    (others : ∀ other ∈ items, key other ≠ key row → later other = shown other) :
    items.map (fun item => (key item, later item)) =
      InsertionDict.set (items.map fun item => (key item, shown item)) (key row) value := by
  induction items with
  | nil => cases member
  | cons first rest ih =>
      rw [List.map_cons, List.nodup_cons] at keys
      simp only [List.map_cons, InsertionDict.set]
      by_cases atFirst : key first = key row
      · have same : first = row := by
          rcases List.mem_cons.mp member with same | further
          · exact same.symm
          · exact absurd (atFirst ▸ List.mem_map_of_mem further) keys.1
        have rest_eq : rest.map (fun item => (key item, later item)) =
            rest.map fun item => (key item, shown item) := by
          apply List.map_congr_left
          intro other further
          have apart : key other ≠ key row := fun equal =>
            keys.1 (atFirst.trans equal.symm ▸ List.mem_map_of_mem further)
          rw [others other (List.mem_cons_of_mem _ further) apart]
        rw [if_pos atFirst, rest_eq, same, here]
      · have further : row ∈ rest := by
          rcases List.mem_cons.mp member with same | further
          · exact absurd (congrArg key same.symm) atFirst
          · exact further
        rw [if_neg atFirst, others first List.mem_cons_self atFirst]
        congr 1
        exact ih keys.2 further fun other among =>
          others other (List.mem_cons_of_mem _ among)

/-- Another thing is shown of one row. -/
theorem tableDict_change
    (keys : (rows.map key).Nodup) (member : row ∈ rows) (kept : keep row = true)
    (others : ∀ other ∈ rows, key other ≠ key row → later other = shown other) :
    tableDict key keep later rows =
      InsertionDict.set (tableDict key keep shown rows) (key row) (later row) := by
  apply set_map ((List.filter_sublist.map key).nodup keys)
    (List.mem_filter.mpr ⟨member, kept⟩) rfl
  intro other among
  exact others other (List.mem_filter.mp among).1

/-! ## Saving a row -/

/-- A row which is kept, and stays so, is saved. -/
theorem tableDict_saveRow
    (keys : (rows.map key).Nodup) (member : old ∈ rows) (same : key row = key old)
    (kept : keep old = true) (keptStill : keep row = true) :
    tableDict key keep shown (saveRow key row rows) =
      InsertionDict.set (tableDict key keep shown rows) (key row) (shown row) := by
  have filtered : (saveRow key row rows).filter keep = saveRow key row (rows.filter keep) := by
    rw [saveRow, List.filter_map, saveRow]
    congr 1
    apply List.filter_congr
    intro other among
    simp only [Function.comp_apply]
    split
    · rename_i here
      rw [List.inj_on_of_nodup_map keys among member (here.trans same), kept, keptStill]
    · rfl
  have saved : (fun item => (key item, shown item)) ∘
        (fun other => if key other = key row then row else other) =
      fun other => (key other, if key other = key row then shown row else shown other) := by
    funext other
    simp only [Function.comp_apply]
    split
    · rename_i here
      rw [here]
    · rfl
  rw [tableDict, filtered, saveRow, List.map_map, saved, same]
  apply set_map ((List.filter_sublist.map key).nodup keys)
    (List.mem_filter.mpr ⟨member, kept⟩)
  · rw [if_pos rfl]
  · intro other _ apart
    rw [if_neg apart]

/-- A row which is not kept is saved. -/
theorem tableDict_saveRow_of_not_kept
    (keys : (rows.map key).Nodup) (member : old ∈ rows) (same : key row = key old)
    (left : keep old = false) (leftStill : keep row = false) :
    tableDict key keep shown (saveRow key row rows) = tableDict key keep shown rows := by
  have atOld : ∀ other ∈ rows, key other = key row → other = old := fun other among here =>
    List.inj_on_of_nodup_map keys among member (here.trans same)
  have filtered : rows.filter (keep ∘ fun other => if key other = key row then row else other) =
      rows.filter keep := by
    apply List.filter_congr
    intro other among
    simp only [Function.comp_apply]
    split
    · rename_i here
      rw [atOld other among here, left, leftStill]
    · rfl
  rw [tableDict, saveRow, List.filter_map, filtered, List.map_map, tableDict]
  apply List.map_congr_left
  intro other among
  have kept := List.mem_filter.mp among
  have apart : key other ≠ key row := by
    intro here
    rw [atOld other kept.1 here, left] at kept
    cases kept.2
  simp only [Function.comp_apply, if_neg apart]

end Klik.Lib
