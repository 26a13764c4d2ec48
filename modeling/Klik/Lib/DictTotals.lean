import Klik.Lib.InsertionDict
import Mathlib.Algebra.BigOperators.Group.Finset.Basic

/-!
# Totals over a dictionary

The sum of what the values of a dictionary count.  Assigning to a key replaces
what its old value counted, and two dictionaries without repeated keys which
count the same under every key have the same total, whatever their orders.
-/

namespace Klik.Lib.InsertionDict

universe u v w

variable {Key : Type u} {Value : Type v} {Total : Type w} [DecidableEq Key]

section Assigning

variable [AddCommMonoid Total]

/-- What the value under a key counts. -/
def countedAt (counts : Value → Total) (dict : InsertionDict Key Value) (key : Key) : Total :=
  ((get? dict key).map counts).getD 0

/-- The sum of what all values count. -/
def total (counts : Value → Total) (dict : InsertionDict Key Value) : Total :=
  (dict.map fun entry => counts entry.2).sum

variable {counts : Value → Total} {dict : InsertionDict Key Value}

theorem countedAt_of_get? {key : Key} {value : Value} (found : get? dict key = some value) :
    countedAt counts dict key = counts value := by
  rw [countedAt, found, Option.map_some, Option.getD_some]

theorem countedAt_of_absent {key : Key} (absent : get? dict key = none) :
    countedAt counts dict key = 0 := by
  rw [countedAt, absent, Option.map_none, Option.getD_none]

/-- What an assignment takes from the total, and what it adds. -/
theorem total_set (counts : Value → Total) (dict : InsertionDict Key Value)
    (key : Key) (value : Value) :
    total counts (set dict key value) + countedAt counts dict key =
      total counts dict + counts value := by
  induction dict with
  | nil => simp [total, set, countedAt]
  | cons entry rest induction =>
      obtain ⟨known, old⟩ := entry
      by_cases here : known = key
      · simp only [total, countedAt, set, get?, if_pos here, List.map_cons, List.sum_cons,
          Option.map_some, Option.getD_some]
        abel
      · simp only [total, countedAt] at induction
        simp only [total, countedAt, set, get?, if_neg here, List.map_cons, List.sum_cons,
          add_assoc, induction]

/-- Over any keys among which all keys of the dictionary are. -/
theorem total_eq_sum
    (counts : Value → Total) (distinct : (keys dict).Nodup)
    {among : Finset Key} (within : ∀ key ∈ keys dict, key ∈ among) :
    total counts dict = ∑ key ∈ among, countedAt counts dict key := by
  induction dict generalizing among with
  | nil => simp [total, countedAt]
  | cons entry rest induction =>
      obtain ⟨known, value⟩ := entry
      simp only [keys, List.map_cons, List.nodup_cons] at distinct
      have first : known ∈ among := within known List.mem_cons_self
      have later : ∀ key ∈ keys rest, key ∈ among.erase known := by
        intro key member
        apply Finset.mem_erase.mpr
        constructor
        · rintro rfl
          exact distinct.1 member
        · exact within key (List.mem_cons_of_mem _ member)
      have others : ∑ key ∈ among.erase known, countedAt counts ((known, value) :: rest) key =
          ∑ key ∈ among.erase known, countedAt counts rest key := by
        apply Finset.sum_congr rfl
        intro key member
        simp only [countedAt, get?, if_neg (Finset.ne_of_mem_erase member).symm]
      rw [← Finset.add_sum_erase _ _ first, others, ← induction distinct.2 later]
      simp [total, countedAt, get?]

/-- Dictionaries which count the same under every key. -/
theorem total_eq_of_countedAt
    {Other : Type*} {other : InsertionDict Key Other} {countsOther : Other → Total}
    (distinct : (keys dict).Nodup) (distinctOther : (keys other).Nodup)
    (same : ∀ key, countedAt counts dict key = countedAt countsOther other key) :
    total counts dict = total countsOther other := by
  have within : ∀ key ∈ keys dict, key ∈ (keys dict ++ keys other).toFinset :=
    fun key member => List.mem_toFinset.mpr (List.mem_append_left _ member)
  have withinOther : ∀ key ∈ keys other, key ∈ (keys dict ++ keys other).toFinset :=
    fun key member => List.mem_toFinset.mpr (List.mem_append_right _ member)
  have first := total_eq_sum counts distinct within
  have second := total_eq_sum countsOther distinctOther withinOther
  rw [first, second]
  exact Finset.sum_congr rfl fun key _ => same key

end Assigning

end Klik.Lib.InsertionDict
