import Klik.Lib.TransitionSystem
import Mathlib.Data.List.Nodup

/-!
# Tables of keyed rows

A table is the list of its rows in the order of insertion; every row has a
key.  A statement of a program inserts a row under a new key or overwrites
the row with the key of a row it has read.  What the statements of a program
may insert and how they may change a row are parameters, so that a fact about
all rows of a table, or about one row over a whole run, is proved once from
the facts about single rows.
-/

namespace Klik.Lib

universe u v

variable {Row : Type u} {Key : Type v} [DecidableEq Key]

/-- The row with a key. -/
def rowAt (key : Row → Key) (rows : List Row) (wanted : Key) : Option Row :=
  rows.find? fun row => key row = wanted

/-- Overwrite the row which has the key of `row`. -/
def saveRow (key : Row → Key) (row : Row) (rows : List Row) : List Row :=
  rows.map fun old => if key old = key row then row else old

/-- One statement on a table: rows which are `Born` may be inserted, and a row
may be overwritten by one which it `Changes` into. -/
inductive TableStep
    (key : Row → Key) (Born : Row → Prop) (Changes : Row → Row → Prop)
    (before : List Row) : List Row → Prop where
  | same : TableStep key Born Changes before before
  | insert (row : Row)
      (fresh : ∀ old ∈ before, key old ≠ key row)
      (born : Born row) :
      TableStep key Born Changes before (before ++ [row])
  | update (old row : Row)
      (member : old ∈ before)
      (sameKey : key row = key old)
      (changes : Changes old row) :
      TableStep key Born Changes before (saveRow key row before)

theorem keys_saveRow (key : Row → Key) (row : Row) (rows : List Row) :
    (saveRow key row rows).map key = rows.map key := by
  simp only [saveRow, List.map_map]
  apply List.map_congr_left
  intro old _
  simp only [Function.comp_apply]
  split
  · rename_i same
    exact same.symm
  · rfl

/-- Saving a changed row keeps every column which the change keeps. -/
theorem map_saveRow
    {Column : Type*} {key : Row → Key} {old row : Row} {rows : List Row}
    (column : Row → Column)
    (keys : (rows.map key).Nodup) (member : old ∈ rows)
    (sameKey : key row = key old) (sameColumn : column row = column old) :
    (saveRow key row rows).map column = rows.map column := by
  simp only [saveRow, List.map_map]
  apply List.map_congr_left
  intro other otherMember
  simp only [Function.comp_apply]
  split
  · rename_i same
    have atOld : other = old :=
      List.inj_on_of_nodup_map keys otherMember member (same.trans sameKey)
    rw [sameColumn, atOld]
  · rfl

theorem mem_saveRow
    {key : Row → Key} {row after : Row} {rows : List Row}
    (member : after ∈ saveRow key row rows) :
    after = row ∨ after ∈ rows ∧ key after ≠ key row := by
  rcases List.mem_map.mp member with ⟨old, oldMember, rfl⟩
  split
  · exact Or.inl rfl
  · rename_i other
    exact Or.inr ⟨oldMember, other⟩

/-- In a table without repeated keys, a row is the one at its key. -/
theorem rowAt_of_mem
    {key : Row → Key} {row : Row} {rows : List Row}
    (keys : (rows.map key).Nodup) (member : row ∈ rows) :
    rowAt key rows (key row) = some row := by
  induction rows with
  | nil => cases member
  | cons first rest induction =>
      simp only [List.map_cons, List.nodup_cons] at keys
      simp only [rowAt, List.find?_cons]
      rcases List.mem_cons.mp member with rfl | later
      · simp
      · have other : key first ≠ key row := by
          intro same
          apply keys.1
          rw [same]
          exact List.mem_map_of_mem later
        simp only [other, decide_false]
        exact induction keys.2 later

theorem mem_of_rowAt
    {key : Row → Key} {row : Row} {rows : List Row} {wanted : Key}
    (found : rowAt key rows wanted = some row) :
    row ∈ rows ∧ key row = wanted := by
  constructor
  · exact List.mem_of_find?_eq_some found
  · simpa using List.find?_some found

/-- Rows are looked up among the earlier rows first. -/
theorem rowAt_append
    {key : Row → Key} {row : Row} {rows : List Row} {wanted : Key}
    (found : rowAt key rows wanted = some row) (added : List Row) :
    rowAt key (rows ++ added) wanted = some row := by
  simp only [rowAt] at found ⊢
  simp [List.find?_append, found]

/-- A new row is the one at its key. -/
theorem rowAt_append_fresh
    {key : Row → Key} {row : Row} {rows : List Row}
    (fresh : ∀ old ∈ rows, key old ≠ key row) :
    rowAt key (rows ++ [row]) (key row) = some row := by
  have absent : rows.find? (fun old => decide (key old = key row)) = none := by
    simpa using fresh
  simp [rowAt, List.find?_append, absent]

/-- Saving a row changes what is found at its own key only. -/
theorem rowAt_saveRow
    (key : Row → Key) (row : Row) (rows : List Row) (wanted : Key) :
    rowAt key (saveRow key row rows) wanted =
      (rowAt key rows wanted).map fun old =>
        if key old = key row then row else old := by
  induction rows with
  | nil => rfl
  | cons first rest induction =>
      simp only [rowAt, saveRow, List.map_cons, List.find?_cons] at induction ⊢
      by_cases overwritten : key first = key row
      · by_cases here : key row = wanted
        · simp [overwritten, here]
        · simpa [overwritten, here] using induction
      · by_cases here : key first = wanted
        · subst here
          simp [overwritten]
        · simpa [overwritten, here] using induction

namespace TableStep

variable {key : Row → Key} {Born : Row → Prop} {Changes : Row → Row → Prop}
  {before after : List Row}

/-- Keys stay distinct. -/
theorem nodup
    (step : TableStep key Born Changes before after)
    (keys : (before.map key).Nodup) :
    (after.map key).Nodup := by
  cases step with
  | same => exact keys
  | insert row fresh born =>
      rw [List.map_append, List.map_singleton]
      apply List.Nodup.append keys (List.nodup_singleton _)
      intro shared member single
      rcases List.mem_map.mp member with ⟨old, oldMember, rfl⟩
      exact fresh old oldMember (List.mem_singleton.mp single)
  | update old row member sameKey changes =>
      rw [keys_saveRow]
      exact keys

/-- Where a row comes from. -/
theorem origin
    (step : TableStep key Born Changes before after)
    {row : Row} (member : row ∈ after) :
    row ∈ before ∨
      ((∀ old ∈ before, key old ≠ key row) ∧ Born row) ∨
        ∃ old ∈ before, key row = key old ∧ Changes old row := by
  cases step with
  | same => exact Or.inl member
  | insert added fresh born =>
      rcases List.mem_append.mp member with earlier | new
      · exact Or.inl earlier
      · cases List.mem_singleton.mp new
        exact Or.inr (Or.inl ⟨fresh, born⟩)
  | update old changed oldMember sameKey changes =>
      rcases mem_saveRow member with rfl | ⟨earlier, _⟩
      · exact Or.inr (Or.inr ⟨old, oldMember, sameKey, changes⟩)
      · exact Or.inl earlier

/-- What a row becomes. -/
theorem rowAt
    (step : TableStep key Born Changes before after)
    (keys : (before.map key).Nodup)
    {wanted : Key} {row : Row} (found : rowAt key before wanted = some row) :
    Lib.rowAt key after wanted = some row ∨
      ∃ next, Lib.rowAt key after wanted = some next ∧ Changes row next := by
  cases step with
  | same => exact Or.inl found
  | insert added fresh born => exact Or.inl (rowAt_append found [added])
  | update old next member sameKey changes =>
      rw [rowAt_saveRow, found, Option.map_some]
      by_cases overwritten : key row = key next
      · right
        have sameRow : row = old := by
          have atRow := rowAt_of_mem keys (mem_of_rowAt found).1
          rw [overwritten, sameKey, rowAt_of_mem keys member] at atRow
          exact (Option.some.inj atRow).symm
        rw [if_pos overwritten]
        exact ⟨next, rfl, sameRow ▸ changes⟩
      · left
        rw [if_neg overwritten]

/-- What comes to a key which has no row. -/
theorem rowAt_of_absent
    (step : TableStep key Born Changes before after)
    {wanted : Key} (absent : Lib.rowAt key before wanted = none) :
    Lib.rowAt key after wanted = none ∨
      ∃ row, Lib.rowAt key after wanted = some row ∧ Born row := by
  cases step with
  | same => exact Or.inl absent
  | insert added fresh born =>
      by_cases here : key added = wanted
      · right
        subst here
        exact ⟨added, rowAt_append_fresh fresh, born⟩
      · left
        simp only [Lib.rowAt] at absent ⊢
        simp [List.find?_append, absent, here]
  | update old next member sameKey changes =>
      left
      rw [rowAt_saveRow, absent, Option.map_none]

/-- A row which nothing changes stays. -/
theorem rowAt_of_final
    (step : TableStep key Born Changes before after)
    (keys : (before.map key).Nodup)
    {wanted : Key} {row : Row} (final : ∀ next, ¬ Changes row next)
    (found : Lib.rowAt key before wanted = some row) :
    Lib.rowAt key after wanted = some row := by
  rcases step.rowAt keys found with same | ⟨next, _, changes⟩
  · exact same
  · exact absurd changes (final next)

/-- What new rows satisfy and changes keep holds of all rows. -/
theorem forall_mem
    (step : TableStep key Born Changes before after)
    {Invariant : Row → Prop}
    (born : ∀ row, Born row → Invariant row)
    (kept : ∀ old row, Invariant old → Changes old row → Invariant row)
    (held : ∀ row ∈ before, Invariant row) :
    ∀ row ∈ after, Invariant row := by
  intro row member
  rcases step.origin member with earlier | ⟨_, new⟩ | ⟨old, oldMember, _, changes⟩
  · exact held row earlier
  · exact born row new
  · exact kept old row (held old oldMember) changes

end TableStep

/-- Along a run whose every step is a statement on the table, the rows which
nothing changes stay. -/
theorem TransitionSystem.Path.rowAt_of_final
    {State : Type*} {Label : Type*} {system : TransitionSystem State Label}
    {key : Row → Key} {Born : Row → Prop} {Changes : Row → Row → Prop}
    (table : State → List Row)
    (statement : ∀ source label target,
      system.Reachable source → system.Step source label target →
        ((table source).map key).Nodup ∧
          TableStep key Born Changes (table source) (table target))
    {source target : State} {labels : List Label}
    (path : system.Path source labels target)
    (reached : system.Reachable source)
    {wanted : Key} {row : Row} (final : ∀ next, ¬ Changes row next)
    (found : rowAt key (table source) wanted = some row) :
    rowAt key (table target) wanted = some row := by
  refine path.preserves (fun state => rowAt key (table state) wanted = some row)
    ?_ reached found
  intro before label after beforeReached held move
  rcases statement before label after beforeReached move with ⟨keys, step⟩
  exact step.rowAt_of_final keys final held

end Klik.Lib
