import Klik.Ledger.Netting
import Klik.Lib.NorthWestCorner
import Mathlib.Algebra.BigOperators.Group.Finset.Basic
import Mathlib.Tactic.Ring
import Mathlib.Tactic.Linarith

/-!
# Netting keeps every position

The matching loop is the north-west corner rule on the two sorted pools.  The
pools hold the negative and the positive part of the net positions, and the
net positions of all participants sum to zero, so the pools are balanced and
are exhausted together.  What the rule ships out of a debtor and into a
creditor is therefore exactly that participant's net position.
-/

namespace Klik.Ledger

open Klik.Common
open Klik.Lib
open Klik.Lib.NorthWestCorner

/-- A payment among banks. -/
abbrev BankPayment := Shipment Uuid Uuid Decimal

/-- The payment which an obligation asks for. -/
def Obligation.payment (obligation : Obligation) : BankPayment :=
  ⟨obligation.fromBankId, obligation.toBankId, obligation.amount⟩

/-- The payment which a net transfer makes. -/
def NetTransfer.payment (transfer : NetTransfer) : BankPayment :=
  ⟨transfer.fromBankId, transfer.toBankId, transfer.amount⟩

/-- Sum received minus sum paid by `bank` over the obligations. -/
def owedPosition (obligations : List Obligation) (bank : Uuid) : Decimal :=
  netInflow (obligations.map Obligation.payment) bank

/-- Sum received minus sum paid by `bank` over the transfers. -/
def transferredPosition (transfers : List NetTransfer) (bank : Uuid) : Decimal :=
  netInflow (transfers.map NetTransfer.payment) bank

/-- The banks which appear in the obligations. -/
def participants (obligations : List Obligation) : Finset Uuid :=
  (obligations.flatMap fun obligation =>
    [obligation.fromBankId, obligation.toBankId]).toFinset

/-! ## The net positions -/

theorem applyObligation_eq
    (positions : InsertionDict Uuid Decimal) (obligation : Obligation) :
    applyObligation positions obligation =
      (positions.increase obligation.fromBankId (-obligation.amount)).increase
        obligation.toBankId obligation.amount := by
  simp only [applyObligation, InsertionDict.increase, sub_eq_add_neg]

theorem foldl_applyObligation_getD
    (obligations : List Obligation)
    (positions : InsertionDict Uuid Decimal)
    (bank : Uuid) :
    (obligations.foldl applyObligation positions).getD bank 0 =
      positions.getD bank 0 + owedPosition obligations bank := by
  induction obligations generalizing positions with
  | nil => simp [owedPosition]
  | cons obligation rest ih =>
      rw [List.foldl_cons, ih, applyObligation_eq,
        InsertionDict.getD_increase, InsertionDict.getD_increase]
      simp only [owedPosition, List.map_cons, netInflow_cons, Obligation.payment]
      split_ifs <;> ring

theorem foldl_applyObligation_nodup
    (obligations : List Obligation)
    {positions : InsertionDict Uuid Decimal}
    (distinct : positions.keys.Nodup) :
    (obligations.foldl applyObligation positions).keys.Nodup := by
  induction obligations generalizing positions with
  | nil => exact distinct
  | cons obligation rest ih =>
      rw [List.foldl_cons, applyObligation_eq]
      exact ih
        (InsertionDict.nodup_keys_increase
          (InsertionDict.nodup_keys_increase distinct _ _) _ _)

theorem foldl_applyObligation_sum
    (obligations : List Obligation)
    (positions : InsertionDict Uuid Decimal) :
    ((obligations.foldl applyObligation positions).map Prod.snd).sum =
      (positions.map Prod.snd).sum := by
  induction obligations generalizing positions with
  | nil => rfl
  | cons obligation rest ih =>
      rw [List.foldl_cons, ih, applyObligation_eq,
        InsertionDict.sum_increase, InsertionDict.sum_increase]
      ring

theorem foldl_applyObligation_keys
    (obligations : List Obligation)
    (positions : InsertionDict Uuid Decimal)
    (bank : Uuid) :
    bank ∈ (obligations.foldl applyObligation positions).keys ↔
      bank ∈ positions.keys ∨ bank ∈ participants obligations := by
  induction obligations generalizing positions with
  | nil => simp [participants]
  | cons obligation rest ih =>
      rw [List.foldl_cons, ih, applyObligation_eq,
        InsertionDict.mem_keys_increase, InsertionDict.mem_keys_increase]
      simp only [participants, List.mem_toFinset, List.flatMap_cons,
        List.mem_append, List.mem_cons, List.not_mem_nil, or_false, or_assoc]

/-- Reading a bank's net position gives what it is owed on balance. -/
theorem calculateNetPositions_getD
    (obligations : List Obligation) (bank : Uuid) :
    (calculateNetPositions obligations).getD bank 0 =
      owedPosition obligations bank := by
  rw [calculateNetPositions, foldl_applyObligation_getD]
  simp

theorem calculateNetPositions_nodup (obligations : List Obligation) :
    (calculateNetPositions obligations).keys.Nodup :=
  foldl_applyObligation_nodup obligations (by simp [InsertionDict.keys])

/-- The sanity check of `calculate_net_positions` never reports a total. -/
theorem calculateNetPositions_sum (obligations : List Obligation) :
    ((calculateNetPositions obligations).map Prod.snd).sum = 0 :=
  foldl_applyObligation_sum obligations []

theorem calculateNetPositions_keys
    (obligations : List Obligation) (bank : Uuid) :
    bank ∈ (calculateNetPositions obligations).keys ↔
      bank ∈ participants obligations := by
  rw [calculateNetPositions, foldl_applyObligation_keys]
  simp [InsertionDict.keys]

/-- The dictionary is the net position of each of its keys. -/
theorem calculateNetPositions_eq_map (obligations : List Obligation) :
    calculateNetPositions obligations =
      (calculateNetPositions obligations).keys.map
        fun bank => (bank, owedPosition obligations bank) := by
  have entries : ∀ entry ∈ calculateNetPositions obligations,
      (entry.1, owedPosition obligations entry.1) = entry := by
    intro entry member
    have found :
        (calculateNetPositions obligations).get? entry.1 = some entry.2 :=
      (InsertionDict.get?_eq_some_iff
        (calculateNetPositions_nodup obligations) _ _).2 member
    have position := calculateNetPositions_getD obligations entry.1
    rw [InsertionDict.getD, found] at position
    exact Prod.ext rfl position.symm
  rw [InsertionDict.keys, List.map_map]
  exact (List.map_congr_left entries |>.trans (List.map_id _)).symm

/-! ## The two pools -/

theorem sortedByAmountDesc_perm (pool : List (Uuid × Decimal)) :
    (sortedByAmountDesc pool).Perm pool :=
  List.perm_insertionSort _ _

theorem mem_debtorPool
    {positions : InsertionDict Uuid Decimal} {entry : Uuid × Decimal} :
    entry ∈ debtorPool positions ↔
      (entry.1, -entry.2) ∈ positions ∧ 0 < entry.2 := by
  rw [debtorPool, (sortedByAmountDesc_perm _).mem_iff]
  constructor
  · intro member
    rcases List.mem_map.mp member with ⟨position, kept, rfl⟩
    rcases List.mem_filter.mp kept with ⟨known, negative⟩
    have below : position.2 < 0 := by simpa using negative
    exact ⟨by simpa using known, neg_pos.mpr below⟩
  · rintro ⟨known, above⟩
    apply List.mem_map.mpr
    refine ⟨(entry.1, -entry.2), List.mem_filter.mpr ⟨known, ?_⟩, ?_⟩
    · simpa using above
    · simp

theorem mem_creditorPool
    {positions : InsertionDict Uuid Decimal} {entry : Uuid × Decimal} :
    entry ∈ creditorPool positions ↔ entry ∈ positions ∧ 0 < entry.2 := by
  rw [creditorPool, (sortedByAmountDesc_perm _).mem_iff]
  simp [List.mem_filter]

theorem positive_debtorPool (positions : InsertionDict Uuid Decimal) :
    Positive (debtorPool positions) :=
  fun _ member => (mem_debtorPool.mp member).2

theorem positive_creditorPool (positions : InsertionDict Uuid Decimal) :
    Positive (creditorPool positions) :=
  fun _ member => (mem_creditorPool.mp member).2

/-- Credit minus debt of the selected banks is the sum of their positions. -/
theorem weight_creditorPool_sub_debtorPool
    (Keep : Uuid → Prop) [DecidablePred Keep]
    (positions : InsertionDict Uuid Decimal) :
    weightWhere Keep (creditorPool positions) -
        weightWhere Keep (debtorPool positions) =
      (positions.map fun entry => if Keep entry.1 then entry.2 else 0).sum := by
  rw [creditorPool, debtorPool,
    weightWhere_perm Keep (sortedByAmountDesc_perm _),
    weightWhere_perm Keep (sortedByAmountDesc_perm _)]
  induction positions with
  | nil => simp
  | cons entry rest ih =>
      rw [List.map_cons, List.sum_cons, ← ih]
      rcases lt_trichotomy entry.2 0 with below | zero | above
      · rw [List.filter_cons_of_neg (by simpa using below.le),
          List.filter_cons_of_pos (by simpa using below),
          List.map_cons, weightWhere_cons]
        by_cases kept : Keep entry.1
        · simp only [kept, if_true]
          ring
        · simp [kept]
      · rw [List.filter_cons_of_neg (by simp [zero]),
          List.filter_cons_of_neg (by simp [zero])]
        simp [zero]
      · rw [List.filter_cons_of_pos (by simpa using above),
          List.filter_cons_of_neg (by simpa using above.le),
          weightWhere_cons]
        ring

/-- Debtors and creditors together are the banks with a nonzero position. -/
theorem length_pools
    (positions : InsertionDict Uuid Decimal) :
    (debtorPool positions).length + (creditorPool positions).length =
      (positions.filter fun entry => entry.2 ≠ 0).length := by
  rw [creditorPool, debtorPool, (sortedByAmountDesc_perm _).length_eq,
    (sortedByAmountDesc_perm _).length_eq, List.length_map]
  induction positions with
  | nil => rfl
  | cons entry rest ih =>
      rcases lt_trichotomy entry.2 0 with below | zero | above
      · rw [List.filter_cons_of_pos (by simpa using below),
          List.filter_cons_of_neg (by simpa using below.le),
          List.filter_cons_of_pos (by simpa using below.ne),
          List.length_cons, List.length_cons, ← ih]
        ring
      · rw [List.filter_cons_of_neg (by simp [zero]),
          List.filter_cons_of_neg (by simp [zero]),
          List.filter_cons_of_neg (by simp [zero])]
        exact ih
      · rw [List.filter_cons_of_neg (by simpa using above.le),
          List.filter_cons_of_pos (by simpa using above),
          List.filter_cons_of_pos (by simpa using above.ne'),
          List.length_cons, List.length_cons, ← ih]
        ring

/-- The pools of the netting are balanced. -/
theorem pools_balanced (obligations : List Obligation) :
    weightWhere (fun _ => True) (debtorPool (calculateNetPositions obligations)) =
      weightWhere (fun _ => True)
        (creditorPool (calculateNetPositions obligations)) := by
  have difference :=
    weight_creditorPool_sub_debtorPool (fun _ => True)
      (calculateNetPositions obligations)
  simp only [if_true] at difference
  rw [calculateNetPositions_sum] at difference
  exact (sub_eq_zero.mp difference).symm

/-- A bank's share of credit minus its share of debt is what it is owed. -/
theorem pools_position (obligations : List Obligation) (bank : Uuid) :
    weightWhere (· = bank) (creditorPool (calculateNetPositions obligations)) -
        weightWhere (· = bank)
          (debtorPool (calculateNetPositions obligations)) =
      owedPosition obligations bank := by
  rw [weight_creditorPool_sub_debtorPool,
    InsertionDict.sum_where_key (calculateNetPositions_nodup obligations),
    calculateNetPositions_getD]

/-! ## The matching loop -/

/-- The loop is the north-west corner rule, with its output appended. -/
theorem greedyLoop_eq_plan
    (debtors creditors : List (Uuid × Decimal))
    (transfers : List NetTransfer) :
    greedyLoop ⟨debtors, creditors, transfers⟩ =
      ⟨(plan debtors creditors).unshipped,
        (plan debtors creditors).unmet,
        transfers ++
          (plan debtors creditors).shipments.map fun shipment =>
            ⟨shipment.source, shipment.target, shipment.amount⟩⟩ := by
  induction debtors, creditors using plan.induct generalizing transfers with
  | case1 debtorId debt debtors creditorId credit creditors amount ih =>
      rw [greedyLoop, plan]
      refine (ih (transfers ++ [⟨debtorId, creditorId, amount⟩])).trans ?_
      simp [amount]
  | case2 debtors creditors other =>
      rw [plan, greedyLoop]
      · simp
      · intro debtorId debt debtors' creditorId credit creditors' output equal
        cases equal
        exact other _ _ _ _ _ _ rfl rfl
      · exact other

/-- The two pools are used up in the same round. -/
theorem greedyLoop_exhausts (obligations : List Obligation) :
    (greedyLoop (matchStart (calculateNetPositions obligations))).debtors = [] ∧
      (greedyLoop
        (matchStart (calculateNetPositions obligations))).creditors = [] := by
  rw [matchStart, greedyLoop_eq_plan]
  exact exhausted_of_balanced _ _
    (positive_debtorPool _) (positive_creditorPool _)
    (pools_balanced obligations)

/-- The shipments which `net_obligations` turns into transfers. -/
def nettingPlan (obligations : List Obligation) :
    ShippingPlan Uuid Uuid Decimal :=
  plan (debtorPool (calculateNetPositions obligations))
    (creditorPool (calculateNetPositions obligations))

theorem netObligations_eq (obligations : List Obligation) :
    netObligations obligations =
      (nettingPlan obligations).shipments.map fun shipment =>
        ⟨shipment.source, shipment.target, shipment.amount⟩ := by
  rw [netObligations]
  split
  · rename_i empty
    have nil : obligations = [] := List.isEmpty_iff.mp empty
    subst nil
    rw [nettingPlan, plan]
    · rfl
    · intro _ _ _ _ _ _ debtors
      have noDebtors : debtorPool (calculateNetPositions []) = [] := rfl
      rw [noDebtors] at debtors
      exact absurd debtors (List.cons_ne_nil _ _).symm
  · rw [greedyMatch, matchStart, greedyLoop_eq_plan]
    rfl

theorem netObligations_payments (obligations : List Obligation) :
    (netObligations obligations).map NetTransfer.payment =
      (nettingPlan obligations).shipments := by
  rw [netObligations_eq, List.map_map]
  exact List.map_id _

theorem nettingPlan_exhausted (obligations : List Obligation) :
    (nettingPlan obligations).unshipped = [] ∧
      (nettingPlan obligations).unmet = [] :=
  exhausted_of_balanced _ _
    (positive_debtorPool _) (positive_creditorPool _)
    (pools_balanced obligations)

/-! ## What the transfers do -/

/-- The transfers leave every bank with the position it is owed. -/
theorem transferredPosition_netObligations
    (obligations : List Obligation) (bank : Uuid) :
    transferredPosition (netObligations obligations) bank =
      owedPosition obligations bank := by
  rcases nettingPlan_exhausted obligations with ⟨allShipped, allMet⟩
  have paid :=
    outflow_add_unshipped (· = bank)
      (debtorPool (calculateNetPositions obligations))
      (creditorPool (calculateNetPositions obligations))
  have received :=
    inflow_add_unmet (· = bank)
      (debtorPool (calculateNetPositions obligations))
      (creditorPool (calculateNetPositions obligations))
  rw [← nettingPlan, allShipped] at paid
  rw [← nettingPlan, allMet] at received
  rw [transferredPosition, netObligations_payments, netInflow,
    ← pools_position, ← paid, ← received]
  simp

theorem mem_netObligations
    {obligations : List Obligation} {transfer : NetTransfer}
    (member : transfer ∈ netObligations obligations) :
    0 < transfer.amount ∧
      owedPosition obligations transfer.fromBankId < 0 ∧
        0 < owedPosition obligations transfer.toBankId := by
  rw [netObligations_eq] at member
  rcases List.mem_map.mp member with ⟨shipment, shipped, rfl⟩
  have amounts :=
    (positive_plan _ _
      (positive_debtorPool (calculateNetPositions obligations))
      (positive_creditorPool (calculateNetPositions obligations))).1
  rcases mem_keys_of_mem_shipments _ _ shipment shipped with ⟨source, target⟩
  rcases List.mem_map.mp source with ⟨debtor, debtorMember, debtorKey⟩
  rcases List.mem_map.mp target with ⟨creditor, creditorMember, creditorKey⟩
  have position : ∀ entry ∈ calculateNetPositions obligations,
      owedPosition obligations entry.1 = entry.2 := by
    intro entry known
    rw [calculateNetPositions_eq_map] at known
    rcases List.mem_map.mp known with ⟨bank, _, rfl⟩
    rfl
  rcases mem_debtorPool.mp debtorMember with ⟨debtorKnown, debt⟩
  rcases mem_creditorPool.mp creditorMember with ⟨creditorKnown, credit⟩
  refine ⟨amounts shipment shipped, ?_, ?_⟩
  · rw [← debtorKey, position _ debtorKnown]
    exact neg_neg_of_pos debt
  · rw [← creditorKey, position _ creditorKnown]
    exact credit

/-- The transfers move the sum of the positive net positions. -/
theorem sum_netObligations (obligations : List Obligation) :
    ((netObligations obligations).map NetTransfer.amount).sum =
      ∑ bank ∈ participants obligations,
        max (owedPosition obligations bank) 0 := by
  have received :=
    inflow_add_unmet (fun _ => True)
      (debtorPool (calculateNetPositions obligations))
      (creditorPool (calculateNetPositions obligations))
  rw [← nettingPlan, (nettingPlan_exhausted obligations).2] at received
  have shipped :
      ((netObligations obligations).map NetTransfer.amount).sum =
        weightWhere (fun _ => True)
          (creditorPool (calculateNetPositions obligations)) := by
    rw [← received, netObligations_eq]
    simp [inflowWhere, Function.comp_def]
  have keys :
      (calculateNetPositions obligations).keys.toFinset =
        participants obligations := by
    ext bank
    rw [List.mem_toFinset, calculateNetPositions_keys]
  have positive : ∀ dict : InsertionDict Uuid Decimal,
      weightWhere (fun _ => True) (dict.filter fun entry => 0 < entry.2) =
        (dict.map fun entry => max entry.2 0).sum := by
    intro dict
    induction dict with
    | nil => rfl
    | cons entry rest ih =>
        rw [List.map_cons, List.sum_cons, ← ih]
        by_cases above : 0 < entry.2
        · rw [List.filter_cons_of_pos (by simpa using above),
            weightWhere_cons, if_pos trivial, max_eq_left above.le]
        · rw [List.filter_cons_of_neg (by simpa using above),
            max_eq_right (not_lt.mp above), zero_add]
  rw [shipped, creditorPool, weightWhere_perm _ (sortedByAmountDesc_perm _),
    positive, ← keys,
    List.sum_toFinset _ (calculateNetPositions_nodup obligations)]
  conv_lhs => rw [calculateNetPositions_eq_map, List.map_map]
  rfl

/-- The banks whose net position is not zero. -/
def unbalancedBanks (obligations : List Obligation) : Finset Uuid :=
  (participants obligations).filter fun bank =>
    owedPosition obligations bank ≠ 0

theorem length_pools_eq_card (obligations : List Obligation) :
    (debtorPool (calculateNetPositions obligations)).length +
        (creditorPool (calculateNetPositions obligations)).length =
      (unbalancedBanks obligations).card := by
  have keys :
      unbalancedBanks obligations =
        ((calculateNetPositions obligations).keys.filter fun bank =>
          owedPosition obligations bank ≠ 0).toFinset := by
    ext bank
    simp [unbalancedBanks, calculateNetPositions_keys]
  rw [length_pools, keys,
    List.toFinset_card_of_nodup
      ((calculateNetPositions_nodup obligations).filter _)]
  conv_lhs => rw [calculateNetPositions_eq_map, List.filter_map, List.length_map]
  rfl

/-- At most one transfer fewer than there are unbalanced banks. -/
theorem length_netObligations (obligations : List Obligation) :
    if unbalancedBanks obligations = ∅ then netObligations obligations = []
    else (netObligations obligations).length + 1 ≤
      (unbalancedBanks obligations).card := by
  rcases nettingPlan_exhausted obligations with ⟨allShipped, allMet⟩
  have pools := length_pools_eq_card obligations
  split
  · rename_i balanced
    rw [balanced, Finset.card_empty] at pools
    have noDebtors :
        debtorPool (calculateNetPositions obligations) = [] :=
      List.length_eq_zero_iff.mp (by omega)
    rw [netObligations_eq, nettingPlan, noDebtors, plan]
    · rfl
    · intro _ _ _ _ _ _ debtors
      exact absurd debtors (List.cons_ne_nil _ _).symm
  · rename_i unbalanced
    have debtors : debtorPool (calculateNetPositions obligations) ≠ [] := by
      intro noDebtors
      -- Without debtors the creditors weigh nothing, so there are none.
      have balanced := pools_balanced obligations
      rw [noDebtors, weightWhere_nil] at balanced
      have noCreditors :=
        nil_of_positive_of_weight_zero
          (positive_creditorPool (calculateNetPositions obligations))
          balanced.symm
      rw [noDebtors, noCreditors] at pools
      exact unbalanced (Finset.card_eq_zero.mp pools.symm)
    have fewer := length_shipments_lt _ _ debtors allShipped allMet
    rw [pools] at fewer
    rw [netObligations_eq, List.length_map]
    exact fewer

/--
Netting preserves every bank's position with at most one transfer fewer than
there are unbalanced banks, and the matching loop ends with both pools used
up.
-/
theorem netting_preserves_positions (obligations : List Obligation) :
    (∀ bank,
      transferredPosition (netObligations obligations) bank =
        owedPosition obligations bank) ∧
    (∀ transfer ∈ netObligations obligations,
      0 < transfer.amount ∧ transfer.fromBankId ≠ transfer.toBankId) ∧
    (∀ paying ∈ netObligations obligations,
      ∀ receiving ∈ netObligations obligations,
        paying.fromBankId ≠ receiving.toBankId) ∧
    ((netObligations obligations).map NetTransfer.amount).sum =
      ∑ bank ∈ participants obligations,
        max (owedPosition obligations bank) 0 ∧
    (if unbalancedBanks obligations = ∅ then netObligations obligations = []
      else (netObligations obligations).length + 1 ≤
        (unbalancedBanks obligations).card) ∧
    (greedyLoop (matchStart (calculateNetPositions obligations))).debtors = [] ∧
    (greedyLoop
      (matchStart (calculateNetPositions obligations))).creditors = [] := by
  have separate : ∀ paying ∈ netObligations obligations,
      ∀ receiving ∈ netObligations obligations,
        paying.fromBankId ≠ receiving.toBankId := by
    intro paying payingMember receiving receivingMember same
    have debt := (mem_netObligations payingMember).2.1
    have credit := (mem_netObligations receivingMember).2.2
    rw [same] at debt
    exact lt_asymm debt credit
  refine ⟨transferredPosition_netObligations obligations, ?_, separate,
    sum_netObligations obligations, length_netObligations obligations,
    greedyLoop_exhausts obligations⟩
  intro transfer member
  exact ⟨(mem_netObligations member).1, separate _ member _ member⟩

end Klik.Ledger
