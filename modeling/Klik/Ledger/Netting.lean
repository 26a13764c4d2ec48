import Klik.Common.Enums
import Klik.Lib.InsertionDict
import Mathlib.Algebra.Order.Ring.Rat
import Mathlib.Data.List.Sort

/-!
# Multilateral netting with greedy matching

The netting service works on plain values: a list of obligations
`(from_bank_id, to_bank_id, amount)` is turned into the net position of every
participant, and the net positions into the list of RTGS transfers.

The two sorted pools of the matching loop are modelled by the parts
`debtors[d_idx:]` and `creditors[c_idx:]` which the loop has not passed yet;
the remaining amount of the entry under the index is updated in place, and
the index moves on exactly when that amount has become zero.
-/

namespace Klik.Ledger

open Klik.Common
open Klik.Lib

/-- A single obligation: `fromBankId` has to pay `toBankId` the amount. -/
structure Obligation where
  fromBankId : Uuid
  toBankId : Uuid
  amount : Decimal
deriving DecidableEq, Repr

/-- One RTGS transfer of the netting result. -/
structure NetTransfer where
  fromBankId : Uuid
  toBankId : Uuid
  amount : Decimal
deriving DecidableEq, Repr

/-- Body of the loop of `calculate_net_positions`: the payer's position goes
down by the amount, then the receiver's goes up. -/
def applyObligation
    (positions : InsertionDict Uuid Decimal) (obligation : Obligation) :
    InsertionDict Uuid Decimal :=
  let positions :=
    positions.set obligation.fromBankId
      (positions.getD obligation.fromBankId 0 - obligation.amount)
  positions.set obligation.toBankId
    (positions.getD obligation.toBankId 0 + obligation.amount)

/-- Net position of every participant, in order of first appearance. -/
def calculateNetPositions (obligations : List Obligation) :
    InsertionDict Uuid Decimal :=
  obligations.foldl applyObligation []

/-- `sorted(..., key=lambda x: x[1], reverse=True)`: stable, largest first. -/
def sortedByAmountDesc (pool : List (Uuid × Decimal)) : List (Uuid × Decimal) :=
  pool.insertionSort fun left right => right.2 ≤ left.2

/-- Participants with a negative position, with its absolute value. -/
def debtorPool (positions : InsertionDict Uuid Decimal) : List (Uuid × Decimal) :=
  sortedByAmountDesc
    ((positions.filter fun entry => entry.2 < 0).map
      fun entry => (entry.1, -entry.2))

/-- Participants with a positive position. -/
def creditorPool (positions : InsertionDict Uuid Decimal) : List (Uuid × Decimal) :=
  sortedByAmountDesc (positions.filter fun entry => 0 < entry.2)

/-- State of the matching loop: the pools not passed yet and the output. -/
structure MatchState where
  debtors : List (Uuid × Decimal)
  creditors : List (Uuid × Decimal)
  transfers : List NetTransfer
deriving DecidableEq, Repr

/-- The entry under an index after its amount was updated: the index moves on
once the amount is zero. -/
def advance (bankId : Uuid) (remaining : Decimal) (rest : List (Uuid × Decimal)) :
    List (Uuid × Decimal) :=
  if remaining = 0 then rest else (bankId, remaining) :: rest

theorem length_advance_le
    (bankId : Uuid) (remaining : Decimal) (rest : List (Uuid × Decimal)) :
    (advance bankId remaining rest).length ≤ rest.length + 1 := by
  simp only [advance]
  split <;> simp

/-- The `while` loop of `greedy_match`.  Each round zeroes the debtor, the
creditor or both, so that one of the indices moves on. -/
def greedyLoop (state : MatchState) : MatchState :=
  match state with
  | ⟨(debtorId, debtRemaining) :: debtors,
      (creditorId, creditRemaining) :: creditors, transfers⟩ =>
      let amount := min debtRemaining creditRemaining
      greedyLoop
        ⟨advance debtorId (debtRemaining - amount) debtors,
          advance creditorId (creditRemaining - amount) creditors,
          transfers ++ [⟨debtorId, creditorId, amount⟩]⟩
  | finished => finished
termination_by state.debtors.length + state.creditors.length
decreasing_by
  have debtorLe :=
    length_advance_le debtorId
      (debtRemaining - min debtRemaining creditRemaining) debtors
  have creditorLe :=
    length_advance_le creditorId
      (creditRemaining - min debtRemaining creditRemaining) creditors
  simp only [List.length_cons]
  rcases le_total debtRemaining creditRemaining with smaller | smaller
  · simp only [min_eq_left smaller, sub_self, advance, if_true] at creditorLe ⊢
    omega
  · simp only [min_eq_right smaller, sub_self, advance, if_true] at debtorLe ⊢
    omega

/-- State in which `greedy_match` enters its loop. -/
def matchStart (positions : InsertionDict Uuid Decimal) : MatchState :=
  ⟨debtorPool positions, creditorPool positions, []⟩

/-- Greedy matching of debtors with creditors. -/
def greedyMatch (positions : InsertionDict Uuid Decimal) : List NetTransfer :=
  (greedyLoop (matchStart positions)).transfers

/-- Full pipeline: net positions, then greedy matching. -/
def netObligations (obligations : List Obligation) : List NetTransfer :=
  if obligations.isEmpty then []
  else greedyMatch (calculateNetPositions obligations)

/-- Three obligations among three banks need two transfers. -/
example :
    netObligations [⟨1, 2, 150⟩, ⟨2, 1, 200⟩, ⟨1, 3, 100⟩] =
      [⟨1, 3, 50⟩, ⟨2, 3, 50⟩] := by
  decide +kernel

end Klik.Ledger
