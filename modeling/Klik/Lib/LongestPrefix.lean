import Mathlib.Data.List.Sort

/-!
# Longest prefixes in a table

A table maps some texts to values.  A search through its keys, longest first,
finds the value of the longest key which begins a text.
-/

namespace Klik.Lib

variable {Point Value : Type*}

/-- The longest key of the table which begins the text has the value. -/
def LongestPrefix
    (table : List (List Point × Value)) (text : List Point) (value : Value) : Prop :=
  ∃ key, (key, value) ∈ table ∧ key <+: text ∧
    ∀ other ∈ table, other.1 <+: text → other.1.length ≤ key.length

/-- Two keys which begin one text are equal where neither is longer. -/
theorem key_unique
    {left right text : List Point} (leftPrefix : left <+: text)
    (rightPrefix : right <+: text) (length : left.length = right.length) :
    left = right :=
  (List.prefix_of_prefix_length_le leftPrefix rightPrefix length.le).eq_of_length length

/-- The value of the longest key is unique in a table without double keys. -/
theorem LongestPrefix.unique
    {table : List (List Point × Value)} (keys : (table.map Prod.fst).Nodup)
    {text : List Point} {left right : Value}
    (leftFound : LongestPrefix table text left)
    (rightFound : LongestPrefix table text right) :
    left = right := by
  rcases leftFound with ⟨leftKey, leftMember, leftPrefix, leftLongest⟩
  rcases rightFound with ⟨rightKey, rightMember, rightPrefix, rightLongest⟩
  have length : leftKey.length = rightKey.length :=
    Nat.le_antisymm (rightLongest _ leftMember leftPrefix)
      (leftLongest _ rightMember rightPrefix)
  have sameKey := key_unique leftPrefix rightPrefix length
  have same := List.inj_on_of_nodup_map keys leftMember rightMember sameKey
  exact congrArg Prod.snd same

variable [DecidableEq Point]

/-- The first entry of a sorted table whose key begins the text has the
longest such key. -/
theorem longest_of_find
    {table : List (List Point × Value)} {text : List Point} {entry : List Point × Value}
    (sorted : table.Pairwise fun left right => right.1.length ≤ left.1.length)
    (found : table.find? (fun entry => entry.1.isPrefixOf text) = some entry) :
    entry ∈ table ∧ entry.1 <+: text ∧
      ∀ other ∈ table, other.1 <+: text → other.1.length ≤ entry.1.length := by
  rcases List.find?_eq_some_iff_append.mp found with ⟨begins, before, after, split, earlier⟩
  refine ⟨List.mem_of_find?_eq_some found, List.isPrefixOf_iff_prefix.mp begins, ?_⟩
  intro other member otherBegins
  rw [split] at member sorted
  rcases List.mem_append.mp member with first | later
  · have missed := earlier other first
    rw [List.isPrefixOf_iff_prefix.mpr otherBegins] at missed
    cases missed
  · rcases List.mem_cons.mp later with same | behind
    · rw [same]
    · exact (List.pairwise_cons.mp (List.pairwise_append.mp sorted).2.1).1 other behind

/-- The search through the keys, longest first, finds the value of the longest
key. -/
theorem find_longest_iff
    {table : List (List Point × Value)} (keys : (table.map Prod.fst).Nodup)
    {text : List Point} {value : Value} :
    (((table.insertionSort fun left right => right.1.length ≤ left.1.length).find?
        fun entry => entry.1.isPrefixOf text).map Prod.snd) = some value ↔
      LongestPrefix table text value := by
  have sorted := table.pairwise_insertionSort
    (r := fun left right => right.1.length ≤ left.1.length)
  have members : ∀ entry,
      entry ∈ table.insertionSort (fun left right => right.1.length ≤ left.1.length) ↔
        entry ∈ table := fun entry => List.mem_insertionSort _
  constructor
  · intro found
    rcases Option.map_eq_some_iff.mp found with ⟨entry, first, rfl⟩
    rcases longest_of_find sorted first with ⟨member, begins, longest⟩
    exact ⟨entry.1, (members entry).mp member, begins,
      fun other otherMember => longest other ((members other).mpr otherMember)⟩
  · intro wanted
    rcases wanted with ⟨key, member, begins, longest⟩
    cases first : (table.insertionSort fun left right =>
        right.1.length ≤ left.1.length).find? (fun entry => entry.1.isPrefixOf text) with
    | none =>
        have missed := List.find?_eq_none.mp first (key, value) ((members _).mpr member)
        exact absurd (List.isPrefixOf_iff_prefix.mpr begins) missed
    | some entry =>
        rcases longest_of_find sorted first with ⟨entryMember, entryBegins, entryLongest⟩
        have found : LongestPrefix table text entry.2 :=
          ⟨entry.1, (members entry).mp entryMember, entryBegins,
            fun other otherMember => entryLongest other ((members other).mpr otherMember)⟩
        rw [Option.map_some, found.unique keys ⟨key, member, begins, longest⟩]

end Klik.Lib
