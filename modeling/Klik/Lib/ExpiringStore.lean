import Mathlib.Logic.Function.Basic

/-!
# A key-value store with expiring keys

A store as Redis keeps it: a key has a value and may have a time, in
milliseconds, after which it cannot be seen any more.  What is stored at a
key which has expired stays until it is overwritten, but no command sees it.
-/

namespace Klik.Lib

universe u v

/-- What is stored at a key. -/
structure Stored (Value : Type u) where
  value : Value
  expiresAt : Option Nat
deriving DecidableEq, Repr

/-- Whether the key can still be seen. -/
def Stored.isLive {Value : Type u} (now : Nat) (stored : Stored Value) : Bool :=
  stored.expiresAt.all fun time => now ≤ time

abbrev ExpiringStore (Key : Type u) (Value : Type v) := Key → Option (Stored Value)

namespace ExpiringStore

variable {Key : Type u} {Value : Type v}

/-- A store without keys. -/
def empty : ExpiringStore Key Value := fun _ => none

/-- `GET`. -/
def get (store : ExpiringStore Key Value) (now : Nat) (key : Key) : Option Value :=
  ((store key).filter fun stored => stored.isLive now).map Stored.value

/-- `PTTL` of a key which can be seen: the milliseconds left, or -1 without a
time. -/
def pttl (store : ExpiringStore Key Value) (now : Nat) (key : Key) : Int :=
  match (store key).bind Stored.expiresAt with
  | none => -1
  | some time => (time - now : Nat)

/-- What is stored at a key decides what is seen at it. -/
theorem get_congr
    {store after : ExpiringStore Key Value} {key : Key}
    (same : after key = store key) (now : Nat) :
    after.get now key = store.get now key := by
  simp only [get, same]

theorem get_eq_some
    {store : ExpiringStore Key Value} {now : Nat} {key : Key} {value : Value} :
    store.get now key = some value ↔
      ∃ stored, store key = some stored ∧ stored.isLive now = true ∧
        stored.value = value := by
  simp only [get, Option.map_eq_some_iff, Option.filter_eq_some_iff]
  constructor
  · rintro ⟨stored, ⟨present, live⟩, rfl⟩
    exact ⟨stored, present, live, rfl⟩
  · rintro ⟨stored, present, live, rfl⟩
    exact ⟨stored, ⟨present, live⟩, rfl⟩

variable [DecidableEq Key]

/-- `SET`, with the time to expire or none. -/
def set (store : ExpiringStore Key Value) (key : Key) (value : Value)
    (expiresAt : Option Nat) : ExpiringStore Key Value :=
  Function.update store key (some ⟨value, expiresAt⟩)

/-- `SET ... NX EX`: whether the key was set, and the store. -/
def setNx (store : ExpiringStore Key Value) (now : Nat) (key : Key) (value : Value)
    (seconds : Nat) : Bool × ExpiringStore Key Value :=
  match store.get now key with
  | none => (true, store.set key value (some (now + 1000 * seconds)))
  | some _ => (false, store)

@[simp]
theorem set_same
    (store : ExpiringStore Key Value) (key : Key) (value : Value)
    (expiresAt : Option Nat) :
    store.set key value expiresAt key = some ⟨value, expiresAt⟩ := by
  simp [set]

theorem set_other
    (store : ExpiringStore Key Value) {key other : Key} (value : Value)
    (expiresAt : Option Nat) (different : other ≠ key) :
    store.set key value expiresAt other = store other := by
  simp [set, Function.update_of_ne different]

/-- A value set with a time which has not passed can be seen. -/
theorem get_set
    (store : ExpiringStore Key Value) (now : Nat) (key : Key) (value : Value)
    {expiresAt : Option Nat} (live : expiresAt.all (fun time => now ≤ time) = true) :
    (store.set key value expiresAt).get now key = some value := by
  rw [get_eq_some]
  exact ⟨_, store.set_same key value expiresAt, live, rfl⟩

theorem get_set_later
    (store : ExpiringStore Key Value) (now : Nat) (key : Key) (value : Value)
    (lasts : Nat) :
    (store.set key value (some (now + lasts))).get now key = some value :=
  store.get_set now key value (decide_eq_true (Nat.le_add_right now lasts))

/-- `SET NX` sets a key which cannot be seen, and nothing else. -/
theorem setNx_cases
    (store : ExpiringStore Key Value) (now : Nat) (key : Key) (value : Value)
    (seconds : Nat) :
    (store.get now key = none ∧
        store.setNx now key value seconds =
          (true, store.set key value (some (now + 1000 * seconds)))) ∨
      ((store.get now key).isSome ∧
        store.setNx now key value seconds = (false, store)) := by
  simp only [setNx]
  cases seen : store.get now key with
  | none => exact Or.inl ⟨rfl, rfl⟩
  | some old => exact Or.inr ⟨rfl, rfl⟩

end ExpiringStore

end Klik.Lib
