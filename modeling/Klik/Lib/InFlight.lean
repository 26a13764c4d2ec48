import Mathlib.Data.List.Count
import Mathlib.Data.List.Perm.Basic

/-!
# Work under way

The pieces of work under way in a system are a list, in which a step names its
piece by the place.  A piece which is taken out leaves the others.
-/

namespace Klik.Lib

universe u v

variable {Work : Type u} {Held : Type v} {works : List Work} {index : Nat} {work other : Work}

theorem perm_eraseIdx (going : works[index]? = some work) :
    (work :: works.eraseIdx index).Perm works := by
  rcases List.getElem?_eq_some_iff.mp going with ⟨bound, found⟩
  have permuted := List.getElem_cons_eraseIdx_perm bound
  rwa [found] at permuted

/-- A piece which moves on takes the place of the one it was. -/
theorem perm_set (going : works[index]? = some work) (next : Work) :
    (works.set index next).Perm (next :: works.eraseIdx index) := by
  rcases List.getElem?_eq_some_iff.mp going with ⟨bound, _⟩
  exact List.set_perm_cons_eraseIdx bound next

/-- Each piece is the one which is taken out, or stays. -/
theorem mem_iff_of_getElem? (going : works[index]? = some work) :
    other ∈ works ↔ other = work ∨ other ∈ works.eraseIdx index := by
  rw [← (perm_eraseIdx going).mem_iff, List.mem_cons]

theorem mem_eraseIdx_of_ne
    (going : works[index]? = some work) (member : other ∈ works)
    (different : other ≠ work) : other ∈ works.eraseIdx index :=
  ((mem_iff_of_getElem? going).mp member).resolve_left different

theorem countP_eraseIdx (going : works[index]? = some work) (Counted : Work → Bool) :
    works.countP Counted =
      (works.eraseIdx index).countP Counted + if Counted work then 1 else 0 := by
  rw [← (perm_eraseIdx going).countP_eq, List.countP_cons]

/-! ## Places -/

/-- A piece which begins comes last. -/
theorem getElem?_begun {place : Nat} (found : (works ++ [work])[place]? = some other) :
    works[place]? = some other ∨ place = works.length ∧ other = work := by
  rcases Nat.lt_trichotomy place works.length with earlier | last | later
  · rw [List.getElem?_append_left earlier] at found
    exact .inl found
  · rw [last, List.getElem?_concat_length, Option.some.injEq] at found
    exact .inr ⟨last, found.symm⟩
  · rw [List.getElem?_eq_none (by rw [List.length_append, List.length_singleton]; omega)] at found
    cases found

/-- A piece which moves on leaves the others at their places. -/
theorem getElem?_moved {place : Nat} (found : (works.set index work)[place]? = some other) :
    index = place ∧ other = work ∨ index ≠ place ∧ works[place]? = some other := by
  by_cases same : index = place
  · rw [same, List.getElem?_set_self'] at found
    rcases Option.map_eq_some_iff.mp found with ⟨_, _, rfl⟩
    exact .inl ⟨same, rfl⟩
  · rw [List.getElem?_set_ne same] at found
    exact .inr ⟨same, found⟩

/-! ## Moving on -/

/-- The work after the piece at a place has moved on, or has ended. -/
def moveOn (index : Nat) (next : Option Work) (works : List Work) : List Work :=
  match next with
  | none => works.eraseIdx index
  | some next => works.set index next

theorem moveOn_perm (going : works[index]? = some work) (next : Option Work) :
    (moveOn index next works).Perm (next.toList ++ works.eraseIdx index) := by
  cases next with
  | none => exact List.Perm.refl _
  | some next => exact perm_set going next

theorem mem_moveOn (going : works[index]? = some work) {next : Option Work} :
    other ∈ moveOn index next works ↔ next = some other ∨ other ∈ works.eraseIdx index := by
  rw [(moveOn_perm going next).mem_iff, List.mem_append, Option.mem_toList]

/-- A piece which goes on is there as what it becomes. -/
theorem mem_moveOn_self (going : works[index]? = some work) (next : Work) :
    next ∈ moveOn index (some next) works :=
  (mem_moveOn going).mpr (.inl rfl)

theorem flatMap_perm_eraseIdx
    (going : works[index]? = some work) (held : Work → List Held) :
    (works.flatMap held).Perm (held work ++ (works.eraseIdx index).flatMap held) := by
  rw [← List.flatMap_cons]
  exact (perm_eraseIdx going).symm.flatMap_right held

theorem flatMap_perm_moveOn
    (going : works[index]? = some work) (next : Option Work) (held : Work → List Held) :
    ((moveOn index next works).flatMap held).Perm
      (next.toList.flatMap held ++ (works.eraseIdx index).flatMap held) := by
  rw [← List.flatMap_append]
  exact (moveOn_perm going next).flatMap_right held

/-- What is held once is held once after a piece has moved on with a part of
what it held. -/
theorem nodup_flatMap_moveOn
    (going : works[index]? = some work) {next : Option Work} {held : Work → List Held}
    (fewer : (next.toList.flatMap held).Sublist (held work))
    (once : (works.flatMap held).Nodup) :
    ((moveOn index next works).flatMap held).Nodup := by
  rw [(flatMap_perm_eraseIdx going held).nodup_iff] at once
  rw [(flatMap_perm_moveOn going next held).nodup_iff]
  exact once.sublist (fewer.append_right _)

/-- What one piece holds is not held by another. -/
theorem not_held_by_other
    (going : works[index]? = some work) {held : Work → List Held}
    (once : (works.flatMap held).Nodup)
    (member : other ∈ works.eraseIdx index) {piece : Held} (own : piece ∈ held work) :
    piece ∉ held other := by
  rw [(flatMap_perm_eraseIdx going held).nodup_iff] at once
  intro theirs
  exact (List.nodup_append.mp once).2.2 piece own piece
    (List.mem_flatMap_of_mem member theirs) rfl

end Klik.Lib
