import Mathlib.Data.List.Infix

/-!
# Entities

A table gives some points a word, and every word begins with one marker.  A
text is escaped by writing the words in place of the points, and read back in
one pass from the left.
-/

namespace Klik.Lib

/-- Points and what stands for each of them behind the marker. -/
structure EntityTable (Point : Type*) where
  marker : Point
  entries : List (Point × List Point)
  /-- The marker is written as an entity itself. -/
  marker_entry : ∃ entry ∈ entries, entry.1 = marker
  /-- The marker comes before all other points of the table. -/
  marker_first : entries.Pairwise fun _ later => later.1 ≠ marker
  /-- No point of the table is part of a word behind its marker. -/
  plain : ∀ entry ∈ entries, ∀ other ∈ entries, other.1 ∉ entry.2
  /-- No word begins another. -/
  prefixFree : ∀ entry ∈ entries, ∀ other ∈ entries, entry.2 <+: other.2 → entry = other

namespace EntityTable

variable {Point : Type*} [DecidableEq Point] (table : EntityTable Point)

/-- The word of an entry. -/
def word (entry : Point × List Point) : List Point :=
  table.marker :: entry.2

/-- What is written for a point if only some entries are considered. -/
def written (entries : List (Point × List Point)) (point : Point) : List Point :=
  match entries.find? (fun entry => entry.1 = point) with
  | some entry => table.word entry
  | none => [point]

/-- All points are replaced at once. -/
def escape (text : List Point) : List Point :=
  text.flatMap (table.written table.entries)

/-- One point is replaced throughout a text. -/
def replaceOne (entry : Point × List Point) (text : List Point) : List Point :=
  text.flatMap fun old => if old = entry.1 then table.word entry else [old]

/-- The points are replaced one after another. -/
def replaceAll (entries : List (Point × List Point)) (text : List Point) : List Point :=
  entries.foldl (fun text entry => table.replaceOne entry text) text

/-- One pass from the left, which still has to skip some points of a word. -/
def pass : Nat → List Point → List Point
  | _, [] => []
  | skip + 1, _ :: rest => pass skip rest
  | 0, point :: rest =>
      match table.entries.find? (fun entry => (table.word entry).isPrefixOf (point :: rest)) with
      | some entry => entry.1 :: pass entry.2.length rest
      | none => point :: pass 0 rest

/-- The words of a text are read as the points which they stand for. -/
def unescape (text : List Point) : List Point :=
  table.pass 0 text

/-! ## One replacement after another -/

theorem written_of_notMem
    {entries : List (Point × List Point)} {point : Point}
    (missing : ∀ entry ∈ entries, entry.1 ≠ point) :
    table.written entries point = [point] := by
  have search : entries.find? (fun entry => entry.1 = point) = none := by
    apply List.find?_eq_none.mpr
    intro entry member
    simpa using missing entry member
  rw [written, search]

theorem written_cons
    (entry : Point × List Point) (entries : List (Point × List Point)) (point : Point) :
    table.written (entry :: entries) point =
      if point = entry.1 then table.word entry else table.written entries point := by
  simp only [written, List.find?_cons]
  by_cases same : entry.1 = point
  · simp [same]
  · simp [same, Ne.symm same]

theorem flatMap_written_of_notMem
    {entries : List (Point × List Point)} {text : List Point}
    (missing : ∀ entry ∈ entries, entry.1 ∉ text) :
    text.flatMap (table.written entries) = text := by
  induction text with
  | nil => rfl
  | cons point rest induction =>
      have here : table.written entries point = [point] := by
        apply table.written_of_notMem
        intro entry member same
        exact missing entry member (same ▸ List.mem_cons_self ..)
      have there := induction fun entry member inside =>
        missing entry member (List.mem_cons_of_mem point inside)
      rw [List.flatMap_cons, here, there, List.singleton_append]

/-- Where no later point occurs in the word of an earlier entry, the order of
the replacements makes no difference. -/
theorem replaceAll_eq_flatMap
    {entries : List (Point × List Point)}
    (apart : entries.Pairwise fun earlier later => later.1 ∉ table.word earlier)
    (text : List Point) :
    table.replaceAll entries text = text.flatMap (table.written entries) := by
  induction entries generalizing text with
  | nil =>
      have nothing : text.flatMap (table.written []) = text :=
        table.flatMap_written_of_notMem fun _ member => absurd member List.not_mem_nil
      exact nothing.symm
  | cons entry rest induction =>
      rcases List.pairwise_cons.mp apart with ⟨first, others⟩
      calc
        table.replaceAll (entry :: rest) text
            = table.replaceAll rest (table.replaceOne entry text) := rfl
        _ = (table.replaceOne entry text).flatMap (table.written rest) :=
          induction others _
        _ = text.flatMap (table.written (entry :: rest)) := by
          rw [replaceOne, List.flatMap_assoc]
          congr 1
          funext point
          rw [written_cons]
          split
          · exact table.flatMap_written_of_notMem first
          · rw [List.flatMap_singleton]

/-- The replacements one after another escape the text. -/
theorem replaceAll_eq_escape (text : List Point) :
    table.replaceAll table.entries text = table.escape text := by
  apply table.replaceAll_eq_flatMap
  have members := List.Pairwise.and_mem.mp table.marker_first
  refine members.imp ?_
  rintro earlier later ⟨earlierMember, laterMember, notMarker⟩ inside
  rcases List.mem_cons.mp inside with marker | behind
  · exact notMarker marker
  · exact table.plain earlier earlierMember later laterMember behind

/-! ## Reading an escaped text back -/

/-- A point is written as itself or as one of the words. -/
theorem written_cases (point : Point) :
    (∃ entry ∈ table.entries, entry.1 = point ∧
      table.written table.entries point = table.word entry) ∨
    ((∀ entry ∈ table.entries, entry.1 ≠ point) ∧
      table.written table.entries point = [point]) := by
  cases search : table.entries.find? (fun entry => entry.1 = point) with
  | some entry =>
      have same := List.find?_some search
      refine Or.inl ⟨entry, List.mem_of_find?_eq_some search, of_decide_eq_true same, ?_⟩
      rw [written, search]
  | none =>
      have missing : ∀ entry ∈ table.entries, entry.1 ≠ point := by
        intro entry member
        simpa using List.find?_eq_none.mp search entry member
      exact Or.inr ⟨missing, table.written_of_notMem missing⟩

theorem escape_cons (point : Point) (text : List Point) :
    table.escape (point :: text) =
      table.written table.entries point ++ table.escape text :=
  List.flatMap_cons

theorem pass_skip (skipped text : List Point) :
    table.pass skipped.length (skipped ++ text) = table.pass 0 text := by
  induction skipped with
  | nil => rfl
  | cons point rest induction => exact induction

/-- A word is read as its point, whatever follows. -/
theorem pass_word
    {entry : Point × List Point} (member : entry ∈ table.entries) (text : List Point) :
    table.pass 0 (table.word entry ++ text) = entry.1 :: table.pass 0 text := by
  have begins : (table.word entry).isPrefixOf (table.word entry ++ text) = true :=
    List.isPrefixOf_iff_prefix.mpr (List.prefix_append _ _)
  have search : table.entries.find?
      (fun entry' => (table.word entry').isPrefixOf (table.word entry ++ text)) =
        some entry := by
    cases found : table.entries.find?
        (fun entry' => (table.word entry').isPrefixOf (table.word entry ++ text)) with
    | none =>
        exact absurd begins (List.find?_eq_none.mp found entry member)
    | some other =>
        have otherMember := List.mem_of_find?_eq_some found
        have begun := List.find?_some found
        have otherBegins : table.word other <+: table.word entry ++ text :=
          List.isPrefixOf_iff_prefix.mp begun
        rcases List.prefix_or_prefix_of_prefix otherBegins (List.prefix_append _ text) with
          shorter | longer
        · rw [table.prefixFree other otherMember entry member
            ((List.cons_prefix_cons.mp shorter).2)]
        · rw [table.prefixFree entry member other otherMember
            ((List.cons_prefix_cons.mp longer).2)]
  have unfolded : table.pass 0 (table.marker :: (entry.2 ++ text)) =
      entry.1 :: table.pass entry.2.length (entry.2 ++ text) := by
    rw [pass]
    rw [show table.entries.find? (fun entry' =>
        (table.word entry').isPrefixOf (table.marker :: (entry.2 ++ text))) = some entry
      from search]
  exact unfolded.trans (congrArg _ (table.pass_skip entry.2 text))

/-- A point which is not the marker begins no word. -/
theorem pass_other
    {point : Point} (other : point ≠ table.marker) (text : List Point) :
    table.pass 0 (point :: text) = point :: table.pass 0 text := by
  have search : table.entries.find?
      (fun entry => (table.word entry).isPrefixOf (point :: text)) = none := by
    apply List.find?_eq_none.mpr
    intro entry _ begins
    have starts := List.isPrefixOf_iff_prefix.mp begins
    exact other (List.cons_prefix_cons.mp starts).1.symm
  rw [pass, search]

theorem unescape_escape (text : List Point) :
    table.unescape (table.escape text) = text := by
  induction text with
  | nil => rfl
  | cons point rest induction =>
      rw [unescape] at induction ⊢
      rw [escape_cons]
      rcases table.written_cases point with ⟨entry, member, same, word⟩ | ⟨missing, itself⟩
      · rw [word, table.pass_word member, induction, same]
      · rcases table.marker_entry with ⟨markerEntry, markerMember, isMarker⟩
        have other : point ≠ table.marker := fun same =>
          missing markerEntry markerMember (isMarker.trans same.symm)
        rw [itself, List.singleton_append, table.pass_other other, induction]

/-! ## What an escaped text holds -/

/-- No point of the table but the marker is left. -/
theorem notMem_escape
    {entry : Point × List Point} (member : entry ∈ table.entries)
    (other : entry.1 ≠ table.marker) (text : List Point) :
    entry.1 ∉ table.escape text := by
  intro inside
  rcases List.mem_flatMap.mp inside with ⟨point, _, pointInside⟩
  rcases table.written_cases point with ⟨written, writtenMember, _, word⟩ | ⟨missing, itself⟩
  · rw [word] at pointInside
    rcases List.mem_cons.mp pointInside with marker | behind
    · exact other marker
    · exact table.plain written writtenMember entry member behind
  · rw [itself] at pointInside
    exact missing entry member (List.mem_singleton.mp pointInside)

/-- Every marker of an escaped text begins a word. -/
theorem word_of_marker
    {text before after : List Point}
    (split : table.escape text = before ++ table.marker :: after) :
    ∃ entry ∈ table.entries, entry.2 <+: after := by
  rcases table.marker_entry with ⟨markerEntry, markerMember, isMarker⟩
  induction text generalizing before with
  | nil => exact absurd split.symm (by simp [escape])
  | cons point rest induction =>
      rw [escape_cons] at split
      rcases List.append_eq_append_iff.mp split with
        ⟨between, beforeSplit, restSplit⟩ | ⟨between, writtenSplit, markerSplit⟩
      · exact induction restSplit
      · cases between with
        | nil =>
            have later : table.escape rest = [] ++ table.marker :: after := markerSplit.symm
            exact induction later
        | cons first behind =>
            rcases List.cons.inj markerSplit with ⟨same, afterSplit⟩
            subst same
            rcases table.written_cases point with
              ⟨entry, member, _, word⟩ | ⟨missing, itself⟩
            · -- The marker does not occur behind the marker of the word.
              rw [word, EntityTable.word] at writtenSplit
              cases before with
              | nil =>
                  rw [List.nil_append] at writtenSplit
                  rw [afterSplit, ← (List.cons.inj writtenSplit).2]
                  exact ⟨entry, member, List.prefix_append ..⟩
              | cons point' before =>
                  have inside : table.marker ∈ entry.2 := by
                    rw [(List.cons.inj writtenSplit).2]
                    exact List.mem_append_right _ (List.mem_cons_self ..)
                  exact absurd (isMarker ▸ inside)
                    (table.plain entry member markerEntry markerMember)
            · have inside : table.marker ∈ [point] := by
                rw [← itself, writtenSplit]
                exact List.mem_append_right _ (List.mem_cons_self ..)
              exact absurd (isMarker.trans (List.mem_singleton.mp inside))
                (missing markerEntry markerMember)

end EntityTable

end Klik.Lib
