import Mathlib.Data.List.Perm.Subperm
import Mathlib.Data.List.Sort

/-!
# Pages behind a cursor

A table is read in pages, the largest keys first.  A page begins behind the
last key of the page before it, and all rows with this key are left out.  The
order of rows with the same key may differ from page to page.
-/

namespace Klik.Lib

variable {Row : Type*}

/-- A way to sort rows by their keys, the largest first. -/
structure DescendingOrder (key : Row → Nat) where
  sort : List Row → List Row
  perm : ∀ rows, (sort rows).Perm rows
  sorted : ∀ rows, (sort rows).Pairwise fun earlier later => key later ≤ key earlier

/-- Rows with the same key stay as they come. -/
def DescendingOrder.insertion (key : Row → Nat) : DescendingOrder key where
  sort rows := rows.insertionSort fun left right => key right ≤ key left
  perm rows := rows.perm_insertionSort _
  sorted rows := rows.pairwise_insertionSort (r := fun left right => key right ≤ key left)

/-- The rows with a key below the cursor. -/
def rowsBefore (key : Row → Nat) (cursor : Option Nat) (rows : List Row) : List Row :=
  match cursor with
  | none => rows
  | some bound => rows.filter fun row => key row < bound

/-- At most `size` of the rows below the cursor. -/
def pageBefore {key : Row → Nat} (order : DescendingOrder key) (size : Nat)
    (cursor : Option Nat) (rows : List Row) : List Row :=
  (order.sort (rowsBefore key cursor rows)).take size

/-- Pages from a cursor on until an empty one, for a number of turns. -/
def pagesFrom {key : Row → Nat} (orders : Nat → DescendingOrder key) (size : Nat)
    (rows : List Row) : Nat → Nat → Option Nat → Option (List (List Row))
  | 0, _, _ => none
  | turns + 1, index, cursor =>
      let page := pageBefore (orders index) size cursor rows
      match page.getLast? with
      | none => some []
      | some last =>
          (pagesFrom orders size rows turns (index + 1) (some (key last))).map (page :: ·)

/-- The keys of some rows, the largest first. -/
def sortedKeys (key : Row → Nat) (rows : List Row) : List Nat :=
  (rows.map key).insertionSort (· ≥ ·)

/-- No two equal keys stand on the two sides of a page boundary. -/
def SplitsNowhere (size : Nat) (keys : List Nat) : Prop :=
  ∀ turn left right, keys[size * (turn + 1) - 1]? = some left →
    keys[size * (turn + 1)]? = some right → left ≠ right

/-! ## Keys in order -/

section Keys

variable {key : Row → Nat}

/-- Rows sorted in any way have the same keys in the same places. -/
theorem map_key_eq_sortedKeys
    {sorted rows : List Row} (perm : sorted.Perm rows)
    (descending : sorted.Pairwise fun earlier later => key later ≤ key earlier) :
    sorted.map key = sortedKeys key rows := by
  apply List.Perm.eq_of_pairwise' (r := (· ≥ ·))
  · exact List.pairwise_map.mpr descending
  · exact List.pairwise_insertionSort _ _
  · exact (perm.map key).trans (List.perm_insertionSort _ _).symm

theorem sortedKeys_congr {rows other : List Row} (perm : rows.Perm other) :
    sortedKeys key rows = sortedKeys key other := by
  apply List.Perm.eq_of_pairwise' (r := (· ≥ ·))
  · exact List.pairwise_insertionSort _ _
  · exact List.pairwise_insertionSort _ _
  · exact (List.perm_insertionSort _ _).trans
      ((perm.map key).trans (List.perm_insertionSort _ _).symm)

/-- Keys which are all different are split by no boundary. -/
theorem splitsNowhere_of_nodup
    {rows : List Row} (distinct : (rows.map key).Nodup) {size : Nat} (size_pos : 0 < size) :
    SplitsNowhere size (sortedKeys key rows) := by
  intro turn left right before behind same
  have sorted : (sortedKeys key rows).Nodup :=
    (List.perm_insertionSort _ _).nodup_iff.mpr distinct
  rcases List.getElem?_eq_some_iff.mp before with ⟨_, rfl⟩
  rcases List.getElem?_eq_some_iff.mp behind with ⟨_, rfl⟩
  have places := (sorted.getElem_inj_iff).mp same
  have later : 0 < size * (turn + 1) := Nat.mul_pos size_pos (Nat.succ_pos turn)
  omega

/-- The first boundary, and those of the other pages. -/
theorem splitsNowhere_iff
    {size : Nat} (size_pos : 0 < size) (keys : List Nat) :
    SplitsNowhere size keys ↔
      (∀ left right, keys[size - 1]? = some left → keys[size]? = some right → left ≠ right) ∧
        SplitsNowhere size (keys.drop size) := by
  constructor
  · intro nowhere
    constructor
    · intro left right before behind
      apply nowhere 0 left right
      · rwa [Nat.zero_add, Nat.mul_one]
      · rwa [Nat.zero_add, Nat.mul_one]
    · intro turn left right before behind
      have later : 0 < size * (turn + 1) := Nat.mul_pos size_pos (Nat.succ_pos turn)
      rw [List.getElem?_drop] at before behind
      have next : size * (turn + 1 + 1) = size + size * (turn + 1) := by
        rw [Nat.mul_add size (turn + 1) 1, Nat.mul_one, Nat.add_comm]
      apply nowhere (turn + 1) left right
      · rw [next, Nat.add_sub_assoc later]
        exact before
      · rw [next]
        exact behind
  · rintro ⟨first, others⟩ turn left right before behind
    cases turn with
    | zero =>
        rw [Nat.zero_add, Nat.mul_one] at before behind
        exact first left right before behind
    | succ turn =>
        have later : 0 < size * (turn + 1) := Nat.mul_pos size_pos (Nat.succ_pos turn)
        have next : size * (turn + 1 + 1) = size + size * (turn + 1) := by
          rw [Nat.mul_add size (turn + 1) 1, Nat.mul_one, Nat.add_comm]
        rw [next] at before behind
        rw [Nat.add_sub_assoc later] at before
        apply others turn left right
        · rw [List.getElem?_drop]
          exact before
        · rw [List.getElem?_drop]
          exact behind

/-! ## One page -/

/-- The last row of a page has the least key. -/
theorem last_le
    {page : List Row} {last : Row} (ends : page.getLast? = some last)
    (descending : page.Pairwise fun earlier later => key later ≤ key earlier) :
    ∀ row ∈ page, key last ≤ key row := by
  rcases List.getLast?_eq_some_iff.mp ends with ⟨front, rfl⟩
  intro row member
  rcases List.mem_append.mp member with inFront | single
  · exact (List.pairwise_append.mp descending).2.2 row inFront last (List.mem_singleton_self _)
  · rw [List.mem_singleton.mp single]

section Page

variable {page behind rows : List Row} {last : Row}
variable (split : (page ++ behind).Perm rows)
variable (descending :
  (page ++ behind).Pairwise fun earlier later => key later ≤ key earlier)
variable (ends : page.getLast? = some last)

include split descending ends

/-- The rows which the next page is taken from are those behind the page with
smaller keys. -/
theorem rowsBefore_last :
    (rowsBefore key (some (key last)) rows).Perm
      (behind.filter fun row => key row < key last) := by
  have none_of_page : page.filter (fun row => key row < key last) = [] := by
    rw [List.filter_eq_nil_iff]
    intro row member below
    have least := last_le ends (List.pairwise_append.mp descending).1 row member
    exact Nat.not_lt_of_le least (of_decide_eq_true below)
  have filtered := (split.filter fun row => key row < key last).symm
  rwa [List.filter_append, none_of_page, List.nil_append] at filtered

/-- No row comes twice. -/
theorem page_subperm :
    (page ++ rowsBefore key (some (key last)) rows).Subperm rows := by
  have next := (rowsBefore_last split descending ends).subperm.trans
    List.filter_sublist.subperm
  exact ((List.subperm_append_left page).mpr next).trans split.subperm

/-- The next page is taken from fewer rows. -/
theorem length_rowsBefore_lt :
    (rowsBefore key (some (key last)) rows).length < rows.length := by
  have shorter := (page_subperm split descending ends).length_le
  have nonempty : page ≠ [] := by
    rintro rfl
    cases ends
  have length := List.length_pos_of_ne_nil nonempty
  rw [List.length_append] at shorter
  omega

/-- No row is left out exactly if the keys on the two sides of the end of the
page differ. -/
theorem behind_below_iff
    {size : Nat} (fits : page.length ≤ size) (full : behind ≠ [] → page.length = size) :
    (∀ row ∈ behind, key row < key last) ↔
      ∀ left right, (sortedKeys key rows)[size - 1]? = some left →
        (sortedKeys key rows)[size]? = some right → left ≠ right := by
  rw [← map_key_eq_sortedKeys split descending]
  cases behind with
  | nil =>
      constructor
      · intro _ left right _ outside
        have short : ((page ++ []).map key).length ≤ size := by simpa using fits
        rw [List.getElem?_eq_none short] at outside
        cases outside
      · intro _ row member
        cases member
  | cons first others =>
      have length : page.length = size := full (List.cons_ne_nil first others)
      have before : ((page ++ first :: others).map key)[size - 1]? = some (key last) := by
        have inside : size - 1 < page.length := by
          have nonempty : page ≠ [] := by
            rintro rfl
            cases ends
          have length_pos := List.length_pos_of_ne_nil nonempty
          omega
        rw [List.getElem?_map, List.getElem?_append_left inside, ← length,
          ← List.getLast?_eq_getElem?, ends]
        rfl
      have after : ((page ++ first :: others).map key)[size]? = some (key first) := by
        rw [List.getElem?_map, List.getElem?_append_right length.le, length, Nat.sub_self]
        rfl
      have least : key first ≤ key last := by
        have member : last ∈ page := List.mem_of_getLast? ends
        exact (List.pairwise_append.mp descending).2.2 last member first
          (List.mem_cons_self ..)
      rw [before, after]
      constructor
      · intro below left right same other equal
        cases same
        cases other
        have strict := below first (List.mem_cons_self ..)
        omega
      · intro differ row member
        have strict : key first < key last :=
          Nat.lt_of_le_of_ne least fun same => differ _ _ rfl rfl same.symm
        rcases List.mem_cons.mp member with rfl | later
        · exact strict
        · have sorted := (List.pairwise_append.mp descending).2.1
          exact Nat.lt_of_le_of_lt ((List.pairwise_cons.mp sorted).1 row later) strict

/-- If no row is left out, the boundaries behind the page are those of the next
pages. -/
theorem sortedKeys_rowsBefore
    {size : Nat} (fits : page.length ≤ size) (full : behind ≠ [] → page.length = size)
    (below : ∀ row ∈ behind, key row < key last) :
    sortedKeys key (rowsBefore key (some (key last)) rows) =
      (sortedKeys key rows).drop size := by
  have whole : behind.filter (fun row => key row < key last) = behind := by
    rw [List.filter_eq_self]
    intro row member
    exact decide_eq_true (below row member)
  have next := rowsBefore_last split descending ends
  rw [whole] at next
  have sorted := (List.pairwise_append.mp descending).2.1
  rw [sortedKeys_congr next, ← map_key_eq_sortedKeys (List.Perm.refl behind) sorted,
    ← map_key_eq_sortedKeys split descending, List.map_append]
  by_cases empty : behind = []
  · subst empty
    rw [List.map_nil, List.append_nil, List.drop_eq_nil_of_le]
    rwa [List.length_map]
  · have length : (page.map key).length = size := by
      rw [List.length_map]
      exact full empty
    rw [List.drop_left' length]

/-- All rows are read exactly if none is left out here and all are read by the
next pages. -/
theorem page_perm_iff {others : List Row}
    (next : others.Subperm (rowsBefore key (some (key last)) rows)) :
    (page ++ others).Perm rows ↔
      (∀ row ∈ behind, key row < key last) ∧
        others.Perm (rowsBefore key (some (key last)) rows) := by
  have rest := rowsBefore_last split descending ends
  constructor
  · intro perm
    have length : others.length = behind.length := by
      have same := perm.length_eq.trans split.length_eq.symm
      rw [List.length_append, List.length_append] at same
      exact Nat.add_left_cancel same
    have shorter := next.length_le
    rw [rest.length_eq, length] at shorter
    have whole : behind.filter (fun row => key row < key last) = behind :=
      List.filter_sublist.eq_of_length_le shorter
    constructor
    · intro row member
      exact of_decide_eq_true (List.filter_eq_self.mp whole row member)
    · apply next.perm_of_length_le
      rw [rest.length_eq, whole, length]
  · rintro ⟨below, perm⟩
    have whole : behind.filter (fun row => key row < key last) = behind := by
      rw [List.filter_eq_self]
      intro row member
      exact decide_eq_true (below row member)
    rw [whole] at rest
    exact ((perm.trans rest).append_left page).trans split

end Page

/-! ## All pages -/

/-- What a client has read: rows of the table in order, each at most once, and
all of them exactly if no boundary splits equal keys. -/
structure ReadFrom
    (key : Row → Nat) (size : Nat) (rows : List Row) (found : List (List Row)) : Prop where
  subperm : found.flatten.Subperm rows
  descending : found.flatten.Pairwise fun earlier later => key later ≤ key earlier
  complete_iff : found.flatten.Perm rows ↔ SplitsNowhere size (sortedKeys key rows)

/-- An empty page means that nothing is left. -/
theorem rowsBefore_of_empty_page
    {size : Nat} (size_pos : 0 < size) (order : DescendingOrder key)
    {rows : List Row} {cursor : Option Nat}
    (empty : (pageBefore order size cursor rows).getLast? = none) :
    rowsBefore key cursor rows = [] := by
  have nothing := List.getLast?_eq_none_iff.mp empty
  have sorted : order.sort (rowsBefore key cursor rows) = [] := by
    rcases List.take_eq_nil_iff.mp nothing with zero | sorted
    · omega
    · exact sorted
  have perm := order.perm (rowsBefore key cursor rows)
  rw [sorted] at perm
  exact List.nil_perm.mp perm

/-- A cursor further down leaves the rows below it. -/
theorem rowsBefore_rowsBefore
    {rows : List Row} {cursor : Option Nat} {row : Row}
    (member : row ∈ rowsBefore key cursor rows) :
    rowsBefore key (some (key row)) (rowsBefore key cursor rows) =
      rowsBefore key (some (key row)) rows := by
  cases cursor with
  | none => rfl
  | some bound =>
      have below := of_decide_eq_true (List.mem_filter.mp member).2
      simp only [rowsBefore, List.filter_filter]
      apply List.filter_congr
      intro other _
      rw [Bool.eq_iff_iff, Bool.and_eq_true, decide_eq_true_eq, decide_eq_true_eq]
      omega

/-- The client reads an empty page after some turns, whatever the orders are. -/
theorem pagesFrom_spec
    (orders : Nat → DescendingOrder key) {size : Nat} (size_pos : 0 < size) (rows : List Row)
    (turns index : Nat) (cursor : Option Nat)
    (enough : (rowsBefore key cursor rows).length < turns) :
    ∃ found, pagesFrom orders size rows turns index cursor = some found ∧
      ReadFrom key size (rowsBefore key cursor rows) found := by
  induction turns generalizing index cursor with
  | zero => exact absurd enough (Nat.not_lt_zero _)
  | succ turns induction =>
      rw [pagesFrom]
      cases ends : (pageBefore (orders index) size cursor rows).getLast? with
      | none =>
          have empty := rowsBefore_of_empty_page size_pos (orders index) ends
          refine ⟨[], rfl, ?_⟩
          rw [empty]
          constructor
          · exact List.nil_subperm
          · exact List.Pairwise.nil
          · refine iff_of_true (List.Perm.refl []) ?_
            have distinct : (([] : List Row).map key).Nodup := List.nodup_nil
            exact splitsNowhere_of_nodup distinct size_pos
      | some last =>
          let sorted := (orders index).sort (rowsBefore key cursor rows)
          have split : (sorted.take size ++ sorted.drop size).Perm
              (rowsBefore key cursor rows) := by
            rw [List.take_append_drop]
            exact (orders index).perm _
          have descending : (sorted.take size ++ sorted.drop size).Pairwise
              fun earlier later => key later ≤ key earlier := by
            rw [List.take_append_drop]
            exact (orders index).sorted _
          have fits : (sorted.take size).length ≤ size := List.length_take_le ..
          have full : sorted.drop size ≠ [] → (sorted.take size).length = size := by
            intro more
            apply List.length_take_of_le
            by_contra short
            exact more (List.drop_eq_nil_of_le (Nat.le_of_not_le short))
          have member : last ∈ rowsBefore key cursor rows :=
            split.subset (List.mem_append_left _ (List.mem_of_getLast? ends))
          have same := rowsBefore_rowsBefore member
          have fewer := length_rowsBefore_lt split descending ends
          rw [same] at fewer
          rcases induction (index + 1) (some (key last)) (by omega) with
            ⟨found, others, read⟩
          rw [← same] at read
          refine ⟨sorted.take size :: found, ?_, ?_⟩
          · simp only [others]
            rfl
          · constructor
            · exact ((List.subperm_append_left _).mpr read.subperm).trans
                (page_subperm split descending ends)
            · rw [List.flatten_cons, List.pairwise_append]
              refine ⟨(List.pairwise_append.mp descending).1, read.descending, ?_⟩
              intro row inPage other later
              have below := (List.mem_filter.mp (read.subperm.subset later)).2
              have least := last_le ends (List.pairwise_append.mp descending).1 row inPage
              exact Nat.le_trans (Nat.le_of_lt (of_decide_eq_true below)) least
            · rw [List.flatten_cons, page_perm_iff split descending ends read.subperm,
                splitsNowhere_iff size_pos, ← behind_below_iff split descending ends fits full,
                read.complete_iff]
              apply and_congr_right
              intro below
              rw [sortedKeys_rowsBefore split descending ends fits full below]

end Keys

end Klik.Lib
