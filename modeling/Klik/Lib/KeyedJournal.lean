import Mathlib.Data.List.Dedup
import Mathlib.Data.List.Induction
import Mathlib.Data.List.Perm.Subperm

/-!
# Journals which are idempotent by a key

An operation is posted by appending its rows, unless the journal already has
an entry under the key of the operation.  The key identifies an operation as
far as different operations under one key do not both have rows: then the
journal holds the rows of every posted operation once, in whatever order and
however often the operations were posted.
-/

namespace Klik.Lib

universe u v w

/-- Operations with the rows they are posted by.  All rows of an operation
carry its key. -/
structure KeyedJournal (Operation : Type u) (Entry : Type v) (Key : Type w) where
  key : Operation → Key
  entryKey : Entry → Key
  rows : Operation → List Entry
  rows_key : ∀ operation, ∀ entry ∈ rows operation, entryKey entry = key operation

namespace KeyedJournal

variable {Operation : Type u} {Entry : Type v} {Key : Type w}
variable [DecidableEq Key]
variable (journal : KeyedJournal Operation Entry Key)

/-- Entries under a key. -/
def under (key : Key) (entries : List Entry) : List Entry :=
  entries.filter fun entry => journal.entryKey entry = key

/-- Post an operation unless its key is taken. -/
def post (operation : Operation) (entries : List Entry) : List Entry :=
  if journal.under (journal.key operation) entries = [] then
    entries ++ journal.rows operation
  else entries

/-- Post operations one after the other on an empty journal. -/
def postAll (operations : List Operation) : List Entry :=
  operations.foldl (fun entries operation => journal.post operation entries) []

/-- Different operations under one key do not both have rows. -/
def Separate (operations : List Operation) : Prop :=
  ∀ first ∈ operations, ∀ second ∈ operations, first ≠ second →
    journal.key first = journal.key second →
      journal.rows first = [] ∨ journal.rows second = []

@[simp]
theorem postAll_nil : journal.postAll [] = [] := rfl

theorem postAll_concat (operations : List Operation) (operation : Operation) :
    journal.postAll (operations ++ [operation]) =
      journal.post operation (journal.postAll operations) := by
  simp only [postAll, List.foldl_append, List.foldl_cons, List.foldl_nil]

@[simp]
theorem under_append (key : Key) (before after : List Entry) :
    journal.under key (before ++ after) =
      journal.under key before ++ journal.under key after := by
  simp only [under, List.filter_append]

/-- All rows of an operation are under its key. -/
@[simp]
theorem under_rows (operation : Operation) :
    journal.under (journal.key operation) (journal.rows operation) =
      journal.rows operation := by
  apply List.filter_eq_self.mpr
  intro entry member
  simpa using journal.rows_key operation entry member

theorem under_rows_of_ne
    {operation : Operation} {key : Key}
    (other : journal.key operation = key → journal.rows operation = []) :
    journal.under key (journal.rows operation) = [] := by
  apply List.filter_eq_nil_iff.mpr
  intro entry member sameKey
  have taken := journal.rows_key operation entry member
  rw [decide_eq_true_eq] at sameKey
  rw [other (taken.symm.trans sameKey)] at member
  cases member

theorem under_flatMap_eq_nil
    {operations : List Operation} {key : Key}
    (others : ∀ operation ∈ operations,
      journal.key operation = key → journal.rows operation = []) :
    journal.under key (operations.flatMap journal.rows) = [] := by
  induction operations with
  | nil => rfl
  | cons operation rest induction =>
      rw [List.flatMap_cons, under_append,
        journal.under_rows_of_ne (others operation List.mem_cons_self),
        induction fun other member => others other (List.mem_cons_of_mem _ member)]
      rfl

/-- Among different operations only one has rows under its key. -/
theorem under_flatMap
    {operations : List Operation} (nodup : operations.Nodup)
    {operation : Operation} (member : operation ∈ operations)
    (alone : ∀ other ∈ operations, other ≠ operation →
      journal.key other = journal.key operation → journal.rows other = []) :
    journal.under (journal.key operation) (operations.flatMap journal.rows) =
      journal.rows operation := by
  induction operations with
  | nil => cases member
  | cons head rest induction =>
      have headNew := (List.nodup_cons.mp nodup).1
      rw [List.flatMap_cons, under_append]
      rcases List.mem_cons.mp member with rfl | inRest
      · have restEmpty : journal.under (journal.key operation)
            (rest.flatMap journal.rows) = [] := by
          apply journal.under_flatMap_eq_nil
          intro other otherMember
          apply alone other (List.mem_cons_of_mem _ otherMember)
          rintro rfl
          exact headNew otherMember
        rw [under_rows, restEmpty, List.append_nil]
      · have headEmpty : journal.under (journal.key operation)
            (journal.rows head) = [] := by
          apply journal.under_rows_of_ne
          apply alone head List.mem_cons_self
          rintro rfl
          exact headNew inRest
        rw [headEmpty, List.nil_append]
        exact induction (List.nodup_cons.mp nodup).2 inRest
          fun other otherMember => alone other (List.mem_cons_of_mem _ otherMember)

variable [DecidableEq Operation]

omit [DecidableEq Key] in
/-- One more operation adds its rows to those of the different operations,
unless it was there before. -/
theorem flatMap_dedup_concat (operations : List Operation) (operation : Operation) :
    ((operations ++ [operation]).dedup.flatMap journal.rows).Perm
      (if operation ∈ operations then operations.dedup.flatMap journal.rows
      else operations.dedup.flatMap journal.rows ++ journal.rows operation) := by
  have front : (operations ++ [operation]).dedup.Perm (operation :: operations).dedup :=
    List.perm_append_comm.dedup
  apply (front.flatMap_right journal.rows).trans
  by_cases known : operation ∈ operations
  · rw [if_pos known, List.dedup_cons_of_mem known]
  · rw [if_neg known, List.dedup_cons_of_notMem known, List.flatMap_cons]
    exact List.perm_append_comm

/-- The journal holds the rows of every posted operation once. -/
theorem postAll_perm
    {operations : List Operation} (separate : journal.Separate operations) :
    (journal.postAll operations).Perm (operations.dedup.flatMap journal.rows) := by
  induction operations using List.reverseRecOn with
  | nil => exact List.Perm.refl _
  | append_singleton operations operation induction =>
      have before := induction fun first firstMember second secondMember =>
        separate first (List.mem_append_left _ firstMember) second
          (List.mem_append_left _ secondMember)
      have newest : operation ∈ operations ++ [operation] := by simp
      rw [postAll_concat, post]
      apply List.Perm.trans _ (journal.flatMap_dedup_concat operations operation).symm
      by_cases noRows : journal.rows operation = []
      · rw [noRows, List.append_nil, List.append_nil, ite_self, ite_self]
        exact before
      · have alone : ∀ other ∈ operations, other ≠ operation →
            journal.key other = journal.key operation → journal.rows other = [] := by
          intro other member different sameKey
          have one := separate other (List.mem_append_left _ member) operation newest
            different sameKey
          exact one.resolve_right noRows
        have seen : (journal.under (journal.key operation)
            (journal.postAll operations)).Perm
              (journal.under (journal.key operation)
                (operations.dedup.flatMap journal.rows)) := before.filter _
        by_cases known : operation ∈ operations
        · have taken := journal.under_flatMap (List.nodup_dedup operations)
            (List.mem_dedup.mpr known)
            fun other member => alone other (List.mem_dedup.mp member)
          rw [taken] at seen
          have present : journal.under (journal.key operation)
              (journal.postAll operations) ≠ [] := by
            intro absent
            rw [absent] at seen
            exact noRows seen.nil_eq.symm
          rw [if_neg present, if_pos known]
          exact before
        · have free := journal.under_flatMap_eq_nil
            fun other member => alone other (List.mem_dedup.mp member)
              fun same => known (same ▸ List.mem_dedup.mp member)
          rw [free] at seen
          rw [if_pos seen.eq_nil, if_neg known]
          exact before.append_right _

/-- The entries under the key of a posted operation are its own. -/
theorem under_postAll_perm
    {operations : List Operation} (separate : journal.Separate operations)
    {operation : Operation} (member : operation ∈ operations)
    (alone : ∀ other ∈ operations, other ≠ operation →
      journal.key other = journal.key operation → journal.rows other = []) :
    (journal.under (journal.key operation) (journal.postAll operations)).Perm
      (journal.rows operation) := by
  have own := journal.under_flatMap (List.nodup_dedup operations)
    (List.mem_dedup.mpr member)
    fun other otherMember => alone other (List.mem_dedup.mp otherMember)
  rw [← own]
  exact (journal.postAll_perm separate).filter _

end KeyedJournal

end Klik.Lib
