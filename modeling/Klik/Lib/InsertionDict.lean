import Mathlib.Data.List.Nodup
import Mathlib.Algebra.BigOperators.Group.List.Basic
import Mathlib.Tactic.Abel

/-!
# Insertion-ordered dictionaries

A dictionary is the list of its entries in the order in which their keys
were first inserted.  Assigning to a key which is present keeps its place;
assigning to a new key appends it.  `getD` reads a key with a default, and
`increase` is the read-modify-write `d[k] = d.get(k, 0) + x` that an
accumulating loop performs.
-/

namespace Klik.Lib

universe u v w

/-- A dictionary as the list of its entries in insertion order. -/
abbrev InsertionDict (Key : Type u) (Value : Type v) := List (Key × Value)

namespace InsertionDict

variable {Key : Type u} {Value : Type v} [DecidableEq Key]

/-- `d[key] = value`. -/
def set : InsertionDict Key Value → Key → Value → InsertionDict Key Value
  | [], key, value => [(key, value)]
  | (known, old) :: rest, key, value =>
      if known = key then (known, value) :: rest
      else (known, old) :: set rest key value

/-- `d.get(key)`. -/
def get? : InsertionDict Key Value → Key → Option Value
  | [], _ => none
  | (known, old) :: rest, key =>
      if known = key then some old else get? rest key

/-- `d.pop(key, None)`. -/
def pop (dict : InsertionDict Key Value) (key : Key) : InsertionDict Key Value :=
  dict.filter fun entry => entry.1 ≠ key

/-- `d.get(key, default)`. -/
def getD (dict : InsertionDict Key Value) (key : Key) (default : Value) : Value :=
  (get? dict key).getD default

/-- The keys in insertion order. -/
def keys (dict : InsertionDict Key Value) : List Key := dict.map Prod.fst

@[simp]
theorem get?_nil (key : Key) :
    get? ([] : InsertionDict Key Value) key = none := rfl

@[simp]
theorem getD_nil (key : Key) (default : Value) :
    getD ([] : InsertionDict Key Value) key default = default := rfl

theorem get?_set
    (dict : InsertionDict Key Value)
    (key other : Key)
    (value : Value) :
    get? (set dict key value) other =
      if key = other then some value else get? dict other := by
  induction dict with
  | nil => simp [set, get?]
  | cons entry rest ih =>
      obtain ⟨known, old⟩ := entry
      by_cases here : known = key
      · subst here
        by_cases same : known = other <;> simp [set, get?, same]
      · by_cases same : known = other
        · subst same
          simp [set, get?, here, Ne.symm here]
        · simp [set, get?, here, same, ih]

theorem pop_cons (entry : Key × Value) (rest : InsertionDict Key Value) (key : Key) :
    pop (entry :: rest) key = if entry.1 = key then pop rest key else entry :: pop rest key := by
  by_cases here : entry.1 = key <;> simp [pop, here]

theorem get?_pop (dict : InsertionDict Key Value) (key other : Key) :
    get? (pop dict key) other = if key = other then none else get? dict other := by
  induction dict with
  | nil => simp [pop, get?]
  | cons entry rest ih =>
      obtain ⟨known, old⟩ := entry
      rw [pop_cons]
      by_cases here : known = key
      · subst here
        rw [if_pos rfl, ih]
        by_cases same : known = other <;> simp [get?, same]
      · rw [if_neg here]
        by_cases same : known = other
        · subst same
          simp [get?, Ne.symm here]
        · simp [get?, same, ih]

/-- What is under other keys stays when a new key comes. -/
theorem get?_set_of_absent
    {dict : InsertionDict Key Value} {key other : Key} {value : Value}
    (absent : get? dict key = none) (found : get? dict other = some value) (added : Value) :
    get? (set dict key added) other = some value := by
  rw [get?_set, if_neg, found]
  rintro rfl
  rw [absent] at found
  cases found

theorem getD_set
    (dict : InsertionDict Key Value)
    (key other : Key)
    (value default : Value) :
    getD (set dict key value) other default =
      if key = other then value else getD dict other default := by
  by_cases same : key = other <;> simp [getD, get?_set, same]

theorem keys_set
    (dict : InsertionDict Key Value)
    (key : Key)
    (value : Value) :
    keys (set dict key value) =
      if key ∈ keys dict then keys dict else keys dict ++ [key] := by
  induction dict with
  | nil => simp [set, keys]
  | cons entry rest ih =>
      obtain ⟨known, old⟩ := entry
      by_cases here : known = key
      · simp [set, keys, here]
      · have absent : ¬ key = known := fun same => here same.symm
        simp only [keys] at ih
        by_cases member : key ∈ rest.map Prod.fst <;>
          simp [set, keys, here, ih, absent, member]

/-- Assigning never repeats a key. -/
theorem nodup_keys_set
    {dict : InsertionDict Key Value}
    (distinct : (keys dict).Nodup)
    (key : Key)
    (value : Value) :
    (keys (set dict key value)).Nodup := by
  rw [keys_set]
  split
  · exact distinct
  · rename_i absent
    rw [List.nodup_append]
    refine ⟨distinct, by simp, ?_⟩
    intro known member other single
    have equal : other = key := by simpa using single
    rintro rfl
    exact absent (equal ▸ member)

theorem set_of_not_mem
    {dict : InsertionDict Key Value} {key : Key}
    (absent : key ∉ keys dict)
    (value : Value) :
    set dict key value = dict ++ [(key, value)] := by
  induction dict with
  | nil => rfl
  | cons entry rest ih =>
      have ne : entry.1 ≠ key := by
        intro same
        exact absent (by simp [keys, same])
      have absentRest : key ∉ keys rest := by
        intro member
        exact absent (List.mem_cons_of_mem _ member)
      simp only [set, if_neg ne, ih absentRest, List.cons_append]

/-- Assigning the value which is there changes nothing. -/
theorem set_of_get?
    {dict : InsertionDict Key Value} {key : Key} {value : Value}
    (found : get? dict key = some value) :
    set dict key value = dict := by
  induction dict with
  | nil => cases found
  | cons entry rest ih =>
      obtain ⟨known, old⟩ := entry
      by_cases here : known = key
      · simp only [get?, if_pos here, Option.some.injEq] at found
        simp only [set, if_pos here, found]
      · simp only [get?, if_neg here] at found
        simp only [set, if_neg here, ih found]

/-- Filling a dictionary with distinct keys lists the items in order. -/
theorem foldl_set_eq_map
    {Item : Type w}
    (key : Item → Key) (value : Item → Value)
    (items : List Item)
    (distinct : (items.map key).Nodup) :
    items.foldl (fun dict item => set dict (key item) (value item)) [] =
      items.map fun item => (key item, value item) := by
  have general : ∀ (left : List Item) (dict : InsertionDict Key Value),
      (left.map key).Nodup → (∀ item ∈ left, key item ∉ keys dict) →
        left.foldl (fun dict item => set dict (key item) (value item)) dict =
          dict ++ left.map fun item => (key item, value item) := by
    intro left
    induction left with
    | nil => simp
    | cons item rest ih =>
        intro dict nodup absent
        rw [List.map_cons, List.nodup_cons] at nodup
        rw [List.foldl_cons, set_of_not_mem (absent item List.mem_cons_self), ih]
        · simp
        · exact nodup.2
        · intro other member
          have notEarlier := absent other (List.mem_cons_of_mem _ member)
          have notItem : key other ≠ key item := by
            intro same
            exact nodup.1 (List.mem_map.mpr ⟨other, member, same⟩)
          simp [keys] at notEarlier ⊢
          exact ⟨notEarlier, notItem⟩
  simpa using general items [] distinct (by simp [keys])

/-- With distinct keys, an entry of the list is what reading its key gives. -/
theorem get?_eq_some_iff
    {dict : InsertionDict Key Value}
    (distinct : (keys dict).Nodup)
    (key : Key)
    (value : Value) :
    get? dict key = some value ↔ (key, value) ∈ dict := by
  induction dict with
  | nil => simp
  | cons entry rest ih =>
      obtain ⟨known, old⟩ := entry
      simp only [keys, List.map_cons, List.nodup_cons] at distinct
      by_cases here : known = key
      · subst here
        have absent : (known, value) ∉ rest := fun member =>
          distinct.1 (List.mem_map_of_mem member)
        simp [get?, absent, eq_comm]
      · have tail := ih distinct.2
        simp [get?, here, tail, Ne.symm here]

theorem get?_eq_none_iff
    (dict : InsertionDict Key Value)
    (key : Key) :
    get? dict key = none ↔ key ∉ keys dict := by
  induction dict with
  | nil => simp [keys]
  | cons entry rest ih =>
      obtain ⟨known, old⟩ := entry
      by_cases here : known = key
      · simp [get?, keys, here]
      · have tail := ih
        simp only [keys] at tail
        simp [get?, keys, here, tail, Ne.symm here]

section Accumulating

variable [AddCommGroup Value]

/-- The accumulation `d[key] = d.get(key, 0) + delta`. -/
def increase
    (dict : InsertionDict Key Value) (key : Key) (delta : Value) :
    InsertionDict Key Value :=
  dict.set key (dict.getD key 0 + delta)

theorem getD_increase
    (dict : InsertionDict Key Value)
    (key other : Key)
    (delta : Value) :
    getD (increase dict key delta) other 0 =
      getD dict other 0 + if key = other then delta else 0 := by
  rw [increase, getD_set]
  split
  · rename_i same
    rw [same]
  · simp

/-- With distinct keys, the values under one key sum to reading that key. -/
theorem sum_where_key
    {dict : InsertionDict Key Value}
    (distinct : (keys dict).Nodup)
    (key : Key) :
    (dict.map fun entry => if entry.1 = key then entry.2 else 0).sum =
      getD dict key 0 := by
  induction dict with
  | nil => rfl
  | cons entry rest ih =>
      obtain ⟨known, old⟩ := entry
      simp only [keys, List.map_cons, List.nodup_cons] at distinct
      rw [List.map_cons, List.sum_cons, ih distinct.2]
      by_cases here : known = key
      · subst here
        have absent : get? rest known = none :=
          (get?_eq_none_iff rest known).2 distinct.1
        simp [getD, get?, absent]
      · simp [getD, get?, here]

theorem nodup_keys_increase
    {dict : InsertionDict Key Value}
    (distinct : (keys dict).Nodup)
    (key : Key)
    (delta : Value) :
    (keys (increase dict key delta)).Nodup :=
  nodup_keys_set distinct key _

theorem mem_keys_increase
    (dict : InsertionDict Key Value)
    (key other : Key)
    (delta : Value) :
    other ∈ keys (increase dict key delta) ↔
      other ∈ keys dict ∨ other = key := by
  rw [increase, keys_set]
  by_cases present : key ∈ keys dict
  · rw [if_pos present]
    constructor
    · exact .inl
    · rintro (member | rfl)
      · exact member
      · exact present
  · rw [if_neg present]
    simp

/-- Accumulating moves the total of the values by the increment. -/
theorem sum_increase
    (dict : InsertionDict Key Value)
    (key : Key)
    (delta : Value) :
    ((increase dict key delta).map Prod.snd).sum =
      (dict.map Prod.snd).sum + delta := by
  induction dict with
  | nil => simp [increase, set]
  | cons entry rest ih =>
      obtain ⟨known, old⟩ := entry
      simp only [increase, getD] at ih
      by_cases here : known = key
      · simp only [increase, set, getD, get?, here, if_true, Option.getD_some,
          List.map_cons, List.sum_cons]
        abel
      · simp only [increase, set, getD, get?, here, if_false, List.map_cons,
          List.sum_cons, ih]
        abel

end Accumulating

end InsertionDict

end Klik.Lib
