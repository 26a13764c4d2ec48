import Mathlib.Algebra.BigOperators.Group.List.Basic
import Mathlib.Algebra.BigOperators.Group.Finset.Piecewise
import Mathlib.Algebra.Order.BigOperators.Group.Finset
import Mathlib.Algebra.Order.Group.MinMax
import Mathlib.Tactic.Abel

/-!
# Payments and the positions they leave

A payment moves an amount from a source to a target.  The sums below say what
a list of payments takes out of a set of sources, brings into a set of
targets, and leaves a party with; a pool is a list of keyed amounts and its
weight is summed in the same way.
-/

namespace Klik.Lib

universe u v w

/-- One payment, or one shipment of a transportation plan. -/
structure Shipment (Source : Type u) (Target : Type v) (Amount : Type w) where
  source : Source
  target : Target
  amount : Amount
deriving DecidableEq, Repr

variable {Source : Type u} {Target : Type v} {Amount : Type w}
variable [AddCommGroup Amount]

/-- What the pool holds under the keys which `Keep` selects. -/
def weightWhere {Key : Type u}
    (Keep : Key → Prop) [DecidablePred Keep]
    (pool : List (Key × Amount)) : Amount :=
  (pool.map fun entry => if Keep entry.1 then entry.2 else 0).sum

/-- What the shipments take out of the sources which `Keep` selects. -/
def outflowWhere
    (Keep : Source → Prop) [DecidablePred Keep]
    (shipments : List (Shipment Source Target Amount)) : Amount :=
  (shipments.map fun shipment =>
    if Keep shipment.source then shipment.amount else 0).sum

/-- What the shipments bring into the targets which `Keep` selects. -/
def inflowWhere
    (Keep : Target → Prop) [DecidablePred Keep]
    (shipments : List (Shipment Source Target Amount)) : Amount :=
  (shipments.map fun shipment =>
    if Keep shipment.target then shipment.amount else 0).sum

/-- What the payments among one set of parties leave `party` with. -/
def netInflow {Party : Type u} [DecidableEq Party]
    (payments : List (Shipment Party Party Amount)) (party : Party) : Amount :=
  inflowWhere (· = party) payments - outflowWhere (· = party) payments

@[simp]
theorem weightWhere_nil {Key : Type u}
    (Keep : Key → Prop) [DecidablePred Keep] :
    weightWhere Keep ([] : List (Key × Amount)) = 0 := rfl

@[simp]
theorem weightWhere_cons {Key : Type u}
    (Keep : Key → Prop) [DecidablePred Keep]
    (entry : Key × Amount) (pool : List (Key × Amount)) :
    weightWhere Keep (entry :: pool) =
      (if Keep entry.1 then entry.2 else 0) + weightWhere Keep pool := rfl

theorem weightWhere_perm {Key : Type u}
    (Keep : Key → Prop) [DecidablePred Keep]
    {left right : List (Key × Amount)}
    (permuted : left.Perm right) :
    weightWhere Keep left = weightWhere Keep right :=
  (permuted.map _).sum_eq

@[simp]
theorem netInflow_nil {Party : Type u} [DecidableEq Party] (party : Party) :
    netInflow ([] : List (Shipment Party Party Amount)) party = 0 := by
  simp [netInflow, inflowWhere, outflowWhere]

theorem netInflow_cons {Party : Type u} [DecidableEq Party]
    (payment : Shipment Party Party Amount)
    (payments : List (Shipment Party Party Amount))
    (party : Party) :
    netInflow (payment :: payments) party =
      (if payment.target = party then payment.amount else 0) -
          (if payment.source = party then payment.amount else 0) +
        netInflow payments party := by
  simp only [netInflow, inflowWhere, outflowWhere, List.map_cons, List.sum_cons]
  abel

theorem netInflow_append {Party : Type u} [DecidableEq Party]
    (left right : List (Shipment Party Party Amount))
    (party : Party) :
    netInflow (left ++ right) party =
      netInflow left party + netInflow right party := by
  simp only [netInflow, inflowWhere, outflowWhere, List.map_append,
    List.sum_append]
  abel

/-- Reordering payments changes no position. -/
theorem netInflow_perm {Party : Type u} [DecidableEq Party]
    {left right : List (Shipment Party Party Amount)}
    (permuted : left.Perm right)
    (party : Party) :
    netInflow left party = netInflow right party := by
  simp only [netInflow, inflowWhere, outflowWhere]
  rw [(permuted.map _).sum_eq, (permuted.map _).sum_eq]

/-! ## Parties under other names -/

/-- The payment with its parties under other names. -/
def Shipment.renamed {Party : Type u} {Name : Type v} (name : Party → Name)
    (payment : Shipment Party Party Amount) : Shipment Name Name Amount :=
  ⟨name payment.source, name payment.target, payment.amount⟩

/-- What is left under a name is what is left to all parties of the name. -/
theorem netInflow_renamed
    {Party : Type u} {Name : Type v} [DecidableEq Party] [DecidableEq Name]
    (name : Party → Name) (parties : Finset Party)
    {payments : List (Shipment Party Party Amount)}
    (covered : ∀ payment ∈ payments,
      payment.source ∈ parties ∧ payment.target ∈ parties) (wanted : Name) :
    netInflow (payments.map (Shipment.renamed name)) wanted =
      ∑ party ∈ parties with name party = wanted, netInflow payments party := by
  induction payments with
  | nil =>
      simp only [List.map_nil, netInflow_nil, Finset.sum_const_zero]
  | cons payment rest induction =>
      have here := covered payment List.mem_cons_self
      have side {party : Party} (member : party ∈ parties) :
          (∑ other ∈ parties with name other = wanted,
            if party = other then payment.amount else 0) =
            if name party = wanted then payment.amount else 0 := by
        rw [Finset.sum_ite_eq]
        simp only [Finset.mem_filter, member, true_and]
      simp only [List.map_cons, netInflow_cons, Finset.sum_add_distrib, Finset.sum_sub_distrib,
        side here.1, side here.2,
        induction fun other member => covered other (List.mem_cons_of_mem _ member)]
      rfl

/-- Payments which leave every party with the same do so under any names. -/
theorem netInflow_renamed_congr
    {Party : Type u} {Name : Type v} [DecidableEq Party] [DecidableEq Name]
    {left right : List (Shipment Party Party Amount)}
    (same : ∀ party, netInflow left party = netInflow right party)
    (name : Party → Name) (wanted : Name) :
    netInflow (left.map (Shipment.renamed name)) wanted =
      netInflow (right.map (Shipment.renamed name)) wanted := by
  let parties : Finset Party :=
    ((left ++ right).flatMap fun payment => [payment.source, payment.target]).toFinset
  have covered : ∀ payment ∈ left ++ right,
      payment.source ∈ parties ∧ payment.target ∈ parties := by
    intro payment member
    constructor <;>
      exact List.mem_toFinset.mpr (List.mem_flatMap.mpr ⟨payment, member, by simp⟩)
  rw [netInflow_renamed name parties
      (fun payment member => covered payment (List.mem_append_left _ member)),
    netInflow_renamed name parties
      (fun payment member => covered payment (List.mem_append_right _ member))]
  exact Finset.sum_congr rfl fun party _ => same party

/-- Together, the parties which gain gain no more than what is paid. -/
theorem sum_max_netInflow_le
    {Party : Type u} [DecidableEq Party]
    [LinearOrder Amount] [IsOrderedAddMonoid Amount]
    (parties : Finset Party)
    (payments : List (Shipment Party Party Amount))
    (nonnegative : ∀ payment ∈ payments, 0 ≤ payment.amount) :
    ∑ party ∈ parties, max (netInflow payments party) 0 ≤
      (payments.map Shipment.amount).sum := by
  induction payments with
  | nil => simp
  | cons payment rest ih =>
      have amountNonneg := nonnegative payment List.mem_cons_self
      have restBound := ih fun other member =>
        nonnegative other (List.mem_cons_of_mem _ member)
      have step : ∀ party,
          max (netInflow (payment :: rest) party) 0 ≤
            (if payment.target = party then payment.amount else 0) +
              max (netInflow rest party) 0 := by
        intro party
        have incoming :
            0 ≤ if payment.target = party then payment.amount else 0 := by
          split
          · exact amountNonneg
          · exact le_rfl
        have outgoing :
            0 ≤ if payment.source = party then payment.amount else 0 := by
          split
          · exact amountNonneg
          · exact le_rfl
        rw [netInflow_cons]
        apply max_le
        · exact add_le_add (sub_le_self _ outgoing) (le_max_left _ _)
        · exact add_nonneg incoming (le_max_right _ _)
      have own :
          ∑ party ∈ parties, (if payment.target = party then payment.amount else 0) ≤
            payment.amount := by
        rw [Finset.sum_ite_eq]
        split
        · exact le_rfl
        · exact amountNonneg
      calc
        ∑ party ∈ parties, max (netInflow (payment :: rest) party) 0
          ≤ ∑ party ∈ parties,
              ((if payment.target = party then payment.amount else 0) +
                max (netInflow rest party) 0) :=
            Finset.sum_le_sum fun party _ => step party
        _ ≤ payment.amount + (rest.map Shipment.amount).sum := by
            rw [Finset.sum_add_distrib]
            exact add_le_add own restBound

end Klik.Lib
