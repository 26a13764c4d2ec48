import Klik.Lib.Payments
import Mathlib.Algebra.Order.BigOperators.Group.List
import Mathlib.Algebra.Order.Group.MinMax
import Mathlib.Tactic.Abel

/-!
# The north-west corner rule

Given a list of supplies and a list of demands, the rule repeatedly ships
`min supply demand` from the first supply to the first demand and drops
whichever of the two has become zero.  It is the two-pointer matching loop of
a transportation problem, for amounts in any linearly ordered abelian group.

The lemmas say what the rule ships out of each source and into each target,
that it never ships a non-positive amount, that balanced pools are exhausted
together, and how many shipments it needs.
-/

namespace Klik.Lib

universe u v w

/-- The shipments made, and what is left of the two pools. -/
structure ShippingPlan (Source : Type u) (Target : Type v) (Amount : Type w) where
  shipments : List (Shipment Source Target Amount)
  unshipped : List (Source × Amount)
  unmet : List (Target × Amount)

namespace NorthWestCorner

variable {Source : Type u} {Target : Type v} {Amount : Type w}
variable [AddCommGroup Amount] [LinearOrder Amount]

/-- The first entry with `remaining` left, dropped once nothing remains. -/
def dropIfZero {Key : Type u}
    (key : Key) (remaining : Amount) (rest : List (Key × Amount)) :
    List (Key × Amount) :=
  if remaining = 0 then rest else (key, remaining) :: rest

theorem length_dropIfZero_le {Key : Type u}
    (key : Key) (remaining : Amount) (rest : List (Key × Amount)) :
    (dropIfZero key remaining rest).length ≤ rest.length + 1 := by
  simp only [dropIfZero]
  split <;> simp

/-- At least one side of a shipment of the minimum is used up. -/
theorem sub_min_eq_zero (supply demand : Amount) :
    supply - min supply demand = 0 ∨ demand - min supply demand = 0 := by
  rcases le_total supply demand with smaller | smaller
  · exact .inl (by simp [min_eq_left smaller])
  · exact .inr (by simp [min_eq_right smaller])

theorem length_step_lt
    (source : Source) (target : Target) (supply demand : Amount)
    (supplies : List (Source × Amount)) (demands : List (Target × Amount)) :
    (dropIfZero source (supply - min supply demand) supplies).length +
        (dropIfZero target (demand - min supply demand) demands).length <
      ((source, supply) :: supplies).length +
        ((target, demand) :: demands).length := by
  have supplyLe :=
    length_dropIfZero_le source (supply - min supply demand) supplies
  have demandLe :=
    length_dropIfZero_le target (demand - min supply demand) demands
  rcases sub_min_eq_zero supply demand with used | used
  · simp only [dropIfZero, used, if_true, List.length_cons] at demandLe ⊢
    omega
  · simp only [dropIfZero, used, if_true, List.length_cons] at supplyLe ⊢
    omega

/-- The north-west corner rule. -/
def plan :
    List (Source × Amount) → List (Target × Amount) →
      ShippingPlan Source Target Amount
  | (source, supply) :: supplies, (target, demand) :: demands =>
      let amount := min supply demand
      let rest :=
        plan
          (dropIfZero source (supply - amount) supplies)
          (dropIfZero target (demand - amount) demands)
      { rest with shipments := ⟨source, target, amount⟩ :: rest.shipments }
  | supplies, demands => ⟨[], supplies, demands⟩
termination_by supplies demands => supplies.length + demands.length
decreasing_by
  exact length_step_lt source target supply demand supplies demands

/-- Every entry of the pool holds a positive amount. -/
def Positive {Key : Type u} (pool : List (Key × Amount)) : Prop :=
  ∀ entry ∈ pool, 0 < entry.2

/-! ## What one step leaves of a pool -/

theorem weightWhere_dropIfZero {Key : Type u}
    (Keep : Key → Prop) [DecidablePred Keep]
    (key : Key) (remaining : Amount) (rest : List (Key × Amount)) :
    weightWhere Keep (dropIfZero key remaining rest) =
      (if Keep key then remaining else 0) + weightWhere Keep rest := by
  simp only [dropIfZero]
  split
  · rename_i zero
    simp [zero]
  · simp [weightWhere]

theorem mem_keys_of_mem_dropIfZero {Key : Type u}
    {key : Key} {remaining : Amount} {rest : List (Key × Amount)}
    {known : Key}
    (member : known ∈ (dropIfZero key remaining rest).map Prod.fst) :
    known = key ∨ known ∈ rest.map Prod.fst := by
  simp only [dropIfZero] at member
  split at member
  · exact .inr member
  · simpa using member

/-! ## Balance of the plan -/

/-- Shipments out of the selected sources and what is left there make up
their supply. -/
theorem outflow_add_unshipped
    (Keep : Source → Prop) [DecidablePred Keep]
    (supplies : List (Source × Amount)) (demands : List (Target × Amount)) :
    outflowWhere Keep (plan supplies demands).shipments +
        weightWhere Keep (plan supplies demands).unshipped =
      weightWhere Keep supplies := by
  induction supplies, demands using plan.induct with
  | case1 source supply supplies target demand demands amount ih =>
      rw [weightWhere_dropIfZero] at ih
      rw [plan]
      simp only [outflowWhere, List.map_cons, List.sum_cons, add_assoc] at ih ⊢
      rw [ih]
      by_cases kept : Keep source
      · simp only [kept, if_true, weightWhere, List.map_cons, List.sum_cons]
        abel
      · simp [kept, weightWhere]
  | case2 supplies demands other =>
      rw [plan]
      · simp [outflowWhere]
      · exact other

/-- The same plan read from the side of the demands. -/
def mirror (made : ShippingPlan Source Target Amount) :
    ShippingPlan Target Source Amount where
  shipments := made.shipments.map fun shipment =>
    ⟨shipment.target, shipment.source, shipment.amount⟩
  unshipped := made.unmet
  unmet := made.unshipped

/-- The rule treats its two pools alike. -/
theorem plan_mirror
    (supplies : List (Source × Amount)) (demands : List (Target × Amount)) :
    plan demands supplies = mirror (plan supplies demands) := by
  induction supplies, demands using plan.induct with
  | case1 source supply supplies target demand demands amount ih =>
      rw [plan, plan, min_comm demand supply, ih]
      rfl
  | case2 supplies demands other =>
      rw [plan, plan]
      · rfl
      · exact other
      · intro target demand demands source supply supplies left right
        exact other source supply supplies target demand demands right left

/-- Shipments into the selected targets and what is unmet there make up
their demand. -/
theorem inflow_add_unmet
    (Keep : Target → Prop) [DecidablePred Keep]
    (supplies : List (Source × Amount)) (demands : List (Target × Amount)) :
    inflowWhere Keep (plan supplies demands).shipments +
        weightWhere Keep (plan supplies demands).unmet =
      weightWhere Keep demands := by
  have mirrored := outflow_add_unshipped Keep demands supplies
  rw [plan_mirror] at mirrored
  simpa [mirror, outflowWhere, inflowWhere, Function.comp_def] using mirrored

/-- The rule stops only when one of the pools is used up. -/
theorem unshipped_nil_or_unmet_nil
    (supplies : List (Source × Amount)) (demands : List (Target × Amount)) :
    (plan supplies demands).unshipped = [] ∨
      (plan supplies demands).unmet = [] := by
  induction supplies, demands using plan.induct with
  | case1 source supply supplies target demand demands amount ih =>
      rw [plan]
      exact ih
  | case2 supplies demands other =>
      rw [plan]
      · cases supplies with
        | nil => exact .inl rfl
        | cons entry supplies =>
            cases demands with
            | nil => exact .inr rfl
            | cons demand demands =>
                exact (other _ _ _ _ _ _ rfl rfl).elim
      · exact other

/-- Every shipment joins a source of the supplies to a target of the demands. -/
theorem mem_keys_of_mem_shipments
    (supplies : List (Source × Amount)) (demands : List (Target × Amount)) :
    ∀ shipment ∈ (plan supplies demands).shipments,
      shipment.source ∈ supplies.map Prod.fst ∧
        shipment.target ∈ demands.map Prod.fst := by
  induction supplies, demands using plan.induct with
  | case1 source supply supplies target demand demands amount ih =>
      rw [plan]
      intro shipment member
      rcases List.mem_cons.mp member with rfl | member
      · simp
      · obtain ⟨sourceMember, targetMember⟩ := ih shipment member
        have sources := mem_keys_of_mem_dropIfZero sourceMember
        have targets := mem_keys_of_mem_dropIfZero targetMember
        simpa using And.intro sources targets
  | case2 supplies demands other =>
      rw [plan]
      · simp
      · exact other

theorem positive_dropIfZero {Key : Type u}
    {key : Key} {remaining : Amount} {rest : List (Key × Amount)}
    (remains : 0 ≤ remaining)
    (positive : Positive rest) :
    Positive (dropIfZero key remaining rest) := by
  simp only [dropIfZero]
  split
  · exact positive
  · rename_i nonzero
    intro entry member
    rcases List.mem_cons.mp member with rfl | member
    · exact lt_of_le_of_ne remains (Ne.symm nonzero)
    · exact positive entry member

/-- What is left of a pool, without its keys. -/
theorem map_snd_dropIfZero {Key : Type u}
    (key : Key) (remaining : Amount) (rest : List (Key × Amount)) :
    (dropIfZero key remaining rest).map Prod.snd =
      if remaining = 0 then rest.map Prod.snd else remaining :: rest.map Prod.snd := by
  simp only [dropIfZero]
  split
  · rfl
  · rfl

/-- The amounts of the shipments depend on the amounts of the pools only, not
on their keys. -/
theorem map_amount_plan
    {Source' : Type u} {Target' : Type v}
    (supplies : List (Source × Amount)) (demands : List (Target × Amount))
    (supplies' : List (Source' × Amount)) (demands' : List (Target' × Amount))
    (sameSupplies : supplies.map Prod.snd = supplies'.map Prod.snd)
    (sameDemands : demands.map Prod.snd = demands'.map Prod.snd) :
    (plan supplies demands).shipments.map Shipment.amount =
      (plan supplies' demands').shipments.map Shipment.amount := by
  induction supplies, demands using plan.induct generalizing supplies' demands' with
  | case1 source supply supplies target demand demands amount ih =>
      cases supplies' with
      | nil => cases sameSupplies
      | cons firstSupply supplies' =>
          cases demands' with
          | nil => cases sameDemands
          | cons firstDemand demands' =>
              rcases firstSupply with ⟨source', supply'⟩
              rcases firstDemand with ⟨target', demand'⟩
              rw [List.map_cons, List.map_cons, List.cons.injEq] at sameSupplies sameDemands
              rcases sameSupplies with ⟨rfl, restSupplies⟩
              rcases sameDemands with ⟨rfl, restDemands⟩
              rw [plan, plan, List.map_cons, List.map_cons, List.cons.injEq]
              refine ⟨rfl, ih _ _ ?_ ?_⟩
              · rw [map_snd_dropIfZero, map_snd_dropIfZero, restSupplies]
              · rw [map_snd_dropIfZero, map_snd_dropIfZero, restDemands]
  | case2 supplies demands other =>
      rw [plan, plan]
      · rfl
      · intro source supply rest target demand others suppliesEq demandsEq
        subst suppliesEq demandsEq
        cases supplies with
        | nil => cases sameSupplies
        | cons first _ =>
            cases demands with
            | nil => cases sameDemands
            | cons second _ => exact other first.1 first.2 _ second.1 second.2 _ rfl rfl
      · exact other

section Ordered

variable [IsOrderedAddMonoid Amount]

/-- From positive pools the rule ships positive amounts, and what it leaves
is positive. -/
theorem positive_plan
    (supplies : List (Source × Amount)) (demands : List (Target × Amount))
    (supplied : Positive supplies) (demanded : Positive demands) :
    (∀ shipment ∈ (plan supplies demands).shipments, 0 < shipment.amount) ∧
      Positive (plan supplies demands).unshipped ∧
        Positive (plan supplies demands).unmet := by
  induction supplies, demands using plan.induct with
  | case1 source supply supplies target demand demands amount ih =>
      have supplyPos : 0 < supply := supplied (source, supply) (by simp)
      have demandPos : 0 < demand := demanded (target, demand) (by simp)
      have restSupplied : Positive supplies := fun entry member =>
        supplied entry (List.mem_cons_of_mem _ member)
      have restDemanded : Positive demands := fun entry member =>
        demanded entry (List.mem_cons_of_mem _ member)
      obtain ⟨shippedPos, unshippedPos, unmetPos⟩ :=
        ih
          (positive_dropIfZero (sub_nonneg.mpr (min_le_left _ _)) restSupplied)
          (positive_dropIfZero (sub_nonneg.mpr (min_le_right _ _)) restDemanded)
      rw [plan]
      refine ⟨?_, unshippedPos, unmetPos⟩
      intro shipment member
      rcases List.mem_cons.mp member with rfl | member
      · exact lt_min supplyPos demandPos
      · exact shippedPos shipment member
  | case2 supplies demands other =>
      rw [plan]
      · exact ⟨by simp, supplied, demanded⟩
      · exact other

theorem nil_of_positive_of_weight_zero {Key : Type u}
    {pool : List (Key × Amount)}
    (positive : Positive pool)
    (zero : weightWhere (fun _ => True) pool = 0) :
    pool = [] := by
  cases pool with
  | nil => rfl
  | cons entry rest =>
      have entryPos : 0 < entry.2 := positive entry (by simp)
      have restNonneg : 0 ≤ (rest.map Prod.snd).sum := by
        apply List.sum_nonneg
        intro amount member
        obtain ⟨other, otherMember, rfl⟩ := List.mem_map.mp member
        exact (positive other (List.mem_cons_of_mem _ otherMember)).le
      have total : entry.2 + (rest.map Prod.snd).sum = 0 := by
        simpa [weightWhere] using zero
      exact absurd total (add_pos_of_pos_of_nonneg entryPos restNonneg).ne'

/-- Balanced positive pools are exhausted together. -/
theorem exhausted_of_balanced
    (supplies : List (Source × Amount)) (demands : List (Target × Amount))
    (supplied : Positive supplies) (demanded : Positive demands)
    (balanced :
      weightWhere (fun _ => True) supplies =
        weightWhere (fun _ => True) demands) :
    (plan supplies demands).unshipped = [] ∧
      (plan supplies demands).unmet = [] := by
  obtain ⟨-, unshippedPos, unmetPos⟩ :=
    positive_plan supplies demands supplied demanded
  have outBalance := outflow_add_unshipped (fun _ => True) supplies demands
  have inBalance := inflow_add_unmet (fun _ => True) supplies demands
  have sameFlow :
      outflowWhere (fun _ => True) (plan supplies demands).shipments =
        inflowWhere (fun _ => True) (plan supplies demands).shipments := by
    simp [outflowWhere, inflowWhere]
  have sameRest :
      weightWhere (fun _ => True) (plan supplies demands).unshipped =
        weightWhere (fun _ => True) (plan supplies demands).unmet := by
    rw [← outBalance, ← inBalance, sameFlow] at balanced
    exact add_left_cancel balanced
  rcases unshipped_nil_or_unmet_nil supplies demands with nil | nil
  · refine ⟨nil, nil_of_positive_of_weight_zero unmetPos ?_⟩
    rw [← sameRest, nil]
    rfl
  · refine ⟨nil_of_positive_of_weight_zero unshippedPos ?_, nil⟩
    rw [sameRest, nil]
    rfl

end Ordered

/-- If both pools run out, the rule needs fewer shipments than there are
entries in the pools: its last shipment uses up two of them. -/
theorem length_shipments_lt
    (supplies : List (Source × Amount)) (demands : List (Target × Amount))
    (nonempty : supplies ≠ [])
    (allShipped : (plan supplies demands).unshipped = [])
    (allMet : (plan supplies demands).unmet = []) :
    (plan supplies demands).shipments.length + 1 ≤
      supplies.length + demands.length := by
  induction supplies, demands using plan.induct with
  | case1 source supply supplies target demand demands amount ih =>
      have shorter :=
        length_step_lt source target supply demand supplies demands
      rw [plan] at allShipped allMet ⊢
      simp only [List.length_cons] at shorter ⊢
      by_cases left : dropIfZero source (supply - amount) supplies = []
      · -- The supplies are used up by this shipment, so it is the last one.
        simp only [amount] at left ih allShipped allMet ⊢
        simp only [left, plan] at allMet ⊢
        simp only [List.length_nil]
        omega
      · have rest := ih left allShipped allMet
        simp only [amount] at rest ⊢
        omega
  | case2 supplies demands other =>
      rw [plan] at allShipped
      · exact (nonempty allShipped).elim
      · exact other

end NorthWestCorner

end Klik.Lib
