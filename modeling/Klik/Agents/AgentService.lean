import Klik.Banks.Models
import Mathlib.Data.List.Sort
import Mathlib.Data.Rat.Floor

/-!
# Agents, merchants and the fee split

An agent's merchant service charge agreements give the percentages of the
fees; the split of a gross amount uses the agreement in force at the time.
-/

namespace Klik.Agents

open Klik.Banks
open Klik.Common
open Klik.Lib

/-- A settlement agent, with the bank which keeps its account. -/
structure Agent where
  id : Uuid
  settlementBank : Bank
  zone : Zone
deriving DecidableEq, Repr

/-- A merchant, with the bank which keeps its account. -/
structure Merchant where
  id : Uuid
  settlementBank : Bank
  zone : Zone
deriving DecidableEq, Repr

/-- A merchant service charge agreement; `validTo` is none when open-ended. -/
structure MSCAgreement where
  id : Uuid
  agentId : Uuid
  klikFeePerc : Decimal
  agentFeePerc : Decimal
  validFrom : Instant
  validTo : Option Instant
deriving DecidableEq, Repr

/-- `NoActiveMSCAgreementError`. -/
structure NoActiveMSCAgreementError where
  agentId : Uuid
  when_ : Instant
deriving DecidableEq, Repr

/-- The filters of `get_active_msc`. -/
def selectedAt (agent : Agent) (now : Instant) (agreement : MSCAgreement) : Bool :=
  agreement.agentId = agent.id && agreement.validFrom ≤ now &&
    match agreement.validTo with
    | none => true
    | some validTo => now < validTo

/-- The agreement in force, the latest `valid_from` first. -/
def getActiveMsc
    (agreements : List MSCAgreement) (agent : Agent) (now : Instant) :
    Except NoActiveMSCAgreementError MSCAgreement :=
  let active :=
    (agreements.filter (selectedAt agent now)).insertionSort
      fun left right => right.validFrom ≤ left.validFrom
  match active.head? with
  | none => .error ⟨agent.id, now⟩
  | some agreement => .ok agreement

/-- `quantize(Decimal('0.01'), rounding=ROUND_HALF_UP)`: ties away from zero. -/
def roundMoney (value : Decimal) : Decimal :=
  if 0 ≤ value then ⌊value * 100 + 1 / 2⌋ / 100
  else -(⌊-value * 100 + 1 / 2⌋ / 100)

/-- Result of `calculate_split`. -/
structure Split where
  klikFee : Decimal
  agentFee : Decimal
  merchantNet : Decimal
  mscId : Uuid
deriving DecidableEq, Repr

/-- Split of a gross amount between KLIK, the agent and the merchant. -/
def calculateSplit
    (agreements : List MSCAgreement) (agent : Agent)
    (amountGross : Decimal) (now : Instant) :
    Except NoActiveMSCAgreementError Split :=
  match getActiveMsc agreements agent now with
  | .error error => .error error
  | .ok msc =>
      let klikFee := roundMoney (amountGross * msc.klikFeePerc / 100)
      let agentFee := roundMoney (amountGross * msc.agentFeePerc / 100)
      .ok ⟨klikFee, agentFee, amountGross - klikFee - agentFee, msc.id⟩

/-- Whatever the rounding, the split adds up to the gross amount. -/
theorem calculateSplit_total
    {agreements : List MSCAgreement} {agent : Agent}
    {amountGross : Decimal} {now : Instant} {split : Split}
    (computed : calculateSplit agreements agent amountGross now = .ok split) :
    split.klikFee + split.agentFee + split.merchantNet = amountGross := by
  simp only [calculateSplit] at computed
  split at computed
  · cases computed
  · cases computed
    ring

end Klik.Agents
