import Klik.Ledger.NettingBalance

/-!
# Netting depends on the net positions only

The dictionary of positions lists the banks in the order of their first
appearance, but the pools take from it only the positions which are not zero,
and sort them.  Obligations with the same net positions therefore lead to
pools which differ at most in the order of banks with equal amounts.
-/

namespace Klik.Ledger

open Klik.Common
open Klik.Lib
open Klik.Lib.NorthWestCorner

variable {first second : List Obligation}

/-- Every bank is owed the same on balance. -/
def SamePositions (first second : List Obligation) : Prop :=
  ∀ bank, owedPosition first bank = owedPosition second bank

/-- No two debtors and no two creditors have the same amount. -/
def NoTies (obligations : List Obligation) : Prop :=
  ∀ left right, owedPosition obligations left ≠ 0 →
    owedPosition obligations left = owedPosition obligations right → left = right

theorem NoTies.of_samePositions
    (same : SamePositions first second) (noTies : NoTies first) : NoTies second := by
  intro left right nonzero equal
  apply noTies left right
  · rw [same left]
    exact nonzero
  · rw [same left, same right]
    exact equal

/-! ## The pools -/

/-- The positions which are not zero are in the dictionary. -/
theorem mem_calculateNetPositions
    {obligations : List Obligation} {bank : Uuid} {position : Decimal}
    (nonzero : position ≠ 0) :
    (bank, position) ∈ calculateNetPositions obligations ↔
      owedPosition obligations bank = position := by
  have nodup := calculateNetPositions_nodup obligations
  rw [← InsertionDict.get?_eq_some_iff nodup, ← calculateNetPositions_getD,
    InsertionDict.getD]
  cases (calculateNetPositions obligations).get? bank with
  | none => simp [nonzero.symm]
  | some known => simp

theorem nodup_calculateNetPositions (obligations : List Obligation) :
    (calculateNetPositions obligations).Nodup :=
  List.Nodup.of_map Prod.fst (calculateNetPositions_nodup obligations)

theorem nodup_debtorPool (obligations : List Obligation) :
    (debtorPool (calculateNetPositions obligations)).Nodup := by
  rw [debtorPool, (sortedByAmountDesc_perm _).nodup_iff]
  apply List.Nodup.map
  · intro left right same
    rcases Prod.mk.inj same with ⟨sameBank, sameAmount⟩
    exact Prod.ext sameBank (neg_injective sameAmount)
  · exact (nodup_calculateNetPositions obligations).filter _

theorem nodup_creditorPool (obligations : List Obligation) :
    (creditorPool (calculateNetPositions obligations)).Nodup := by
  rw [creditorPool, (sortedByAmountDesc_perm _).nodup_iff]
  exact (nodup_calculateNetPositions obligations).filter _

/-- A debtor of the pool owes its amount. -/
theorem mem_debtorPool_iff
    {obligations : List Obligation} {entry : Uuid × Decimal} :
    entry ∈ debtorPool (calculateNetPositions obligations) ↔
      owedPosition obligations entry.1 = -entry.2 ∧ 0 < entry.2 := by
  rw [mem_debtorPool]
  apply and_congr_left
  intro positive
  exact mem_calculateNetPositions (neg_ne_zero.mpr positive.ne')

theorem mem_creditorPool_iff
    {obligations : List Obligation} {entry : Uuid × Decimal} :
    entry ∈ creditorPool (calculateNetPositions obligations) ↔
      owedPosition obligations entry.1 = entry.2 ∧ 0 < entry.2 := by
  rw [mem_creditorPool]
  apply and_congr_left
  intro positive
  exact mem_calculateNetPositions positive.ne'

/-- The same positions lead to the same debtors, up to their order. -/
theorem debtorPool_perm (same : SamePositions first second) :
    (debtorPool (calculateNetPositions first)).Perm
      (debtorPool (calculateNetPositions second)) := by
  rw [List.perm_ext_iff_of_nodup (nodup_debtorPool first) (nodup_debtorPool second)]
  intro entry
  rw [mem_debtorPool_iff, mem_debtorPool_iff, same entry.1]

theorem creditorPool_perm (same : SamePositions first second) :
    (creditorPool (calculateNetPositions first)).Perm
      (creditorPool (calculateNetPositions second)) := by
  rw [List.perm_ext_iff_of_nodup (nodup_creditorPool first) (nodup_creditorPool second)]
  intro entry
  rw [mem_creditorPool_iff, mem_creditorPool_iff, same entry.1]

/-! ## Sorted pools -/

theorem sortedByAmountDesc_pairwise (pool : List (Uuid × Decimal)) :
    (sortedByAmountDesc pool).Pairwise fun left right => right.2 ≤ left.2 := by
  have total : Std.Total fun left right : Uuid × Decimal => right.2 ≤ left.2 :=
    ⟨fun left right => le_total right.2 left.2⟩
  have transitive : IsTrans (Uuid × Decimal) fun left right => right.2 ≤ left.2 :=
    ⟨fun _ _ _ before after => le_trans after before⟩
  exact List.pairwise_insertionSort _ pool

/-- The sorted amounts of a pool do not depend on the order of its entries. -/
theorem map_snd_sortedByAmountDesc {left right : List (Uuid × Decimal)}
    (permuted : (sortedByAmountDesc left).Perm (sortedByAmountDesc right)) :
    (sortedByAmountDesc left).map Prod.snd = (sortedByAmountDesc right).map Prod.snd := by
  apply List.Perm.eq_of_pairwise _ _ _ (permuted.map Prod.snd)
  · exact fun larger smaller => smaller ≤ larger
  · intro larger smaller _ _ below above
    exact le_antisymm above below
  · exact List.pairwise_map.mpr (sortedByAmountDesc_pairwise left)
  · exact List.pairwise_map.mpr (sortedByAmountDesc_pairwise right)

/-- Without equal amounts the sorted pool does not depend on the order. -/
theorem sortedByAmountDesc_eq {left right : List (Uuid × Decimal)}
    (permuted : (sortedByAmountDesc left).Perm (sortedByAmountDesc right))
    (distinct : ∀ one ∈ sortedByAmountDesc left, ∀ other ∈ sortedByAmountDesc left,
      one.2 = other.2 → one = other) :
    sortedByAmountDesc left = sortedByAmountDesc right := by
  apply List.Perm.eq_of_pairwise _ (sortedByAmountDesc_pairwise left)
    (sortedByAmountDesc_pairwise right) permuted
  intro one other member otherMember below above
  exact distinct one member other (permuted.mem_iff.mpr otherMember)
    (le_antisymm above below)

/-! ## The transfers -/

/-- The amounts of the transfers, in order, depend on the positions only. -/
theorem map_amount_netObligations (same : SamePositions first second) :
    (netObligations first).map NetTransfer.amount =
      (netObligations second).map NetTransfer.amount := by
  have amounts := map_amount_plan _ _ _ _
    (map_snd_sortedByAmountDesc (debtorPool_perm same))
    (map_snd_sortedByAmountDesc (creditorPool_perm same))
  rw [netObligations_eq, netObligations_eq, List.map_map, List.map_map]
  exact amounts

/-- Banks with different amounts are sorted in one way. -/
theorem debtorPool_eq (same : SamePositions first second) (noTies : NoTies first) :
    debtorPool (calculateNetPositions first) =
      debtorPool (calculateNetPositions second) := by
  apply sortedByAmountDesc_eq (debtorPool_perm same)
  intro one member other otherMember equal
  rcases mem_debtorPool_iff.mp member with ⟨position, positive⟩
  rcases mem_debtorPool_iff.mp otherMember with ⟨otherPosition, _⟩
  apply Prod.ext _ equal
  apply noTies
  · rw [position]
    exact neg_ne_zero.mpr positive.ne'
  · rw [position, otherPosition, equal]

theorem creditorPool_eq (same : SamePositions first second) (noTies : NoTies first) :
    creditorPool (calculateNetPositions first) =
      creditorPool (calculateNetPositions second) := by
  apply sortedByAmountDesc_eq (creditorPool_perm same)
  intro one member other otherMember equal
  rcases mem_creditorPool_iff.mp member with ⟨position, positive⟩
  rcases mem_creditorPool_iff.mp otherMember with ⟨otherPosition, _⟩
  apply Prod.ext _ equal
  apply noTies
  · rw [position]
    exact positive.ne'
  · rw [position, otherPosition, equal]

/-- Obligations which leave every bank with the same net position are netted
to transfers of the same amounts in the same order, and to the very same
transfers if no two debtors and no two creditors have the same amount. -/
theorem netObligations_of_samePositions (same : SamePositions first second) :
    (netObligations first).map NetTransfer.amount =
        (netObligations second).map NetTransfer.amount ∧
      (NoTies first → netObligations first = netObligations second) := by
  constructor
  · exact map_amount_netObligations same
  · intro noTies
    rw [netObligations_eq, netObligations_eq, nettingPlan, nettingPlan,
      debtorPool_eq same noTies, creditorPool_eq same noTies]

/-! ## Obligations with the same positions -/

theorem owedPosition_cons (obligation : Obligation) (obligations : List Obligation)
    (bank : Uuid) :
    owedPosition (obligation :: obligations) bank =
      (if obligation.toBankId = bank then obligation.amount else 0) -
          (if obligation.fromBankId = bank then obligation.amount else 0) +
        owedPosition obligations bank := by
  simp only [owedPosition, List.map_cons, netInflow_cons, Obligation.payment]

/-- The order of the obligations does not matter. -/
theorem samePositions_of_perm (permuted : first.Perm second) :
    SamePositions first second := by
  intro bank
  exact netInflow_perm (permuted.map Obligation.payment) bank

/-- An obligation to oneself does not count. -/
theorem samePositions_self (bank : Uuid) (amount : Decimal)
    (obligations : List Obligation) :
    SamePositions (⟨bank, bank, amount⟩ :: obligations) obligations := by
  intro other
  rw [owedPosition_cons, sub_self, zero_add]

/-- An obligation may be split into two. -/
theorem samePositions_split (fromBankId toBankId : Uuid) (amount rest : Decimal)
    (obligations : List Obligation) :
    SamePositions (⟨fromBankId, toBankId, amount + rest⟩ :: obligations)
      (⟨fromBankId, toBankId, amount⟩ :: ⟨fromBankId, toBankId, rest⟩ :: obligations) := by
  intro bank
  simp only [owedPosition_cons]
  split_ifs <;> ring

/-- A bank which passes an amount on drops out; obligations along a cycle
therefore shrink to one of a bank to itself. -/
theorem samePositions_chain (fromBankId between toBankId : Uuid) (amount : Decimal)
    (obligations : List Obligation) :
    SamePositions
      (⟨fromBankId, between, amount⟩ :: ⟨between, toBankId, amount⟩ :: obligations)
      (⟨fromBankId, toBankId, amount⟩ :: obligations) := by
  intro bank
  simp only [owedPosition_cons]
  ring

/-- An obligation and the two into which it is split. -/
theorem netObligations_of_samePositions_split :
    netObligations [⟨1, 2, 2 + 3⟩] = netObligations [⟨1, 2, 2⟩, ⟨1, 2, 3⟩] := by
  apply (netObligations_of_samePositions (samePositions_split 1 2 2 3 [])).2
  have position : ∀ bank, owedPosition [⟨1, 2, 2 + 3⟩] bank =
      (if 2 = bank then 5 else 0) - if 1 = bank then 5 else 0 := by
    intro bank
    rw [owedPosition_cons]
    norm_num [owedPosition]
  intro left right nonzero equal
  rw [position] at nonzero
  rw [position, position] at equal
  split_ifs at nonzero equal with isTwo rightTwo isOne rightOne
  all_goals first | (subst_vars; rfl) | (norm_num at equal; done) | norm_num at nonzero

end Klik.Ledger
