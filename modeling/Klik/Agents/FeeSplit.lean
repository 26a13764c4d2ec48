import Klik.Agents.MSCAgreements

/-!
# The split of a gross amount

Both fees are rounded to a cent on their own, and the merchant gets what is
left.  Each rounding adds at most half a cent, so that together they take at
most one cent more than the percentages, which leave at least a part of a
cent: counted in cents the remainder is above minus one, and it is an integer.
-/

namespace Klik.Agents

open Klik.Banks
open Klik.Common
open Klik.Lib

/-- An amount with at most two decimals. -/
def InCents (amount : Decimal) : Prop :=
  ∃ cents : Int, amount * 100 = cents

theorem InCents.sub {first second : Decimal}
    (firstCents : InCents first) (secondCents : InCents second) :
    InCents (first - second) := by
  rcases firstCents with ⟨m, firstEq⟩
  rcases secondCents with ⟨n, secondEq⟩
  refine ⟨m - n, ?_⟩
  rw [sub_mul, firstEq, secondEq]
  push_cast
  rfl

/-- Amounts in cents which differ by less than a cent. -/
theorem le_of_lt_cent {first second : Decimal}
    (firstCents : InCents first) (secondCents : InCents second)
    (less : first < second + 1 / 100) : first ≤ second := by
  rcases firstCents with ⟨m, firstEq⟩
  rcases secondCents with ⟨n, secondEq⟩
  have scaled : (m : Decimal) < n + 1 := by linarith
  have atMost : m ≤ n := by
    have h : m < n + 1 := by exact_mod_cast scaled
    omega
  have cast : (m : Decimal) ≤ n := by exact_mod_cast atMost
  linarith

/-- A column with two decimals holds cents. -/
theorem inCents_of_fits {digits : Nat} {amount : Decimal}
    (fits : fitsDecimalField digits 2 amount = true) : InCents amount := by
  simp only [fitsDecimalField, Bool.and_eq_true, decide_eq_true_eq] at fits
  have whole := (Rat.den_eq_one_iff _).mp fits.1.1
  refine ⟨(amount * 10 ^ 2).num, ?_⟩
  rw [whole]
  norm_num

/-- Cents which are not negative and less than ten thousand millions are taken by
a money column. -/
theorem fits_of_inCents {amount : Decimal} (cents : InCents amount)
    (nonneg : 0 ≤ amount) (small : amount < 10 ^ 10) :
    fitsDecimalField 12 2 amount = true := by
  rcases cents with ⟨m, scaled⟩
  have whole : amount * 10 ^ 2 = (m : Decimal) := by
    rw [← scaled]
    norm_num
  simp only [fitsDecimalField, Bool.and_eq_true, decide_eq_true_eq, whole, Rat.den_intCast,
    true_and]
  exact ⟨lt_of_lt_of_le (by norm_num) nonneg, small⟩

/-- The amount in cents closest to `exact`, the upper one if two are equally
close. -/
structure NearestCent (exact amount : Decimal) : Prop where
  cents : InCents amount
  lower : exact - 1 / 200 < amount
  upper : amount ≤ exact + 1 / 200

/-- There is only one nearest cent. -/
theorem NearestCent.unique {exact first second : Decimal}
    (firstNearest : NearestCent exact first)
    (secondNearest : NearestCent exact second) :
    first = second := by
  rcases firstNearest with ⟨firstCents, firstLower, firstUpper⟩
  rcases secondNearest with ⟨secondCents, secondLower, secondUpper⟩
  apply le_antisymm
  · exact le_of_lt_cent firstCents secondCents (by linarith)
  · exact le_of_lt_cent secondCents firstCents (by linarith)

/-- `_round_money` returns the nearest cent of an amount which is not
negative. -/
theorem roundMoney_nearest {amount : Decimal} (nonneg : 0 ≤ amount) :
    NearestCent amount (roundMoney amount) := by
  have rounded : roundMoney amount = (⌊amount * 100 + 1 / 2⌋ : Int) / 100 := by
    simp only [roundMoney, nonneg, if_true]
  have floorLe : ((⌊amount * 100 + 1 / 2⌋ : Int) : Decimal) ≤ amount * 100 + 1 / 2 :=
    Int.floor_le _
  have ltFloor : amount * 100 + 1 / 2 < ((⌊amount * 100 + 1 / 2⌋ : Int) : Decimal) + 1 :=
    Int.lt_floor_add_one _
  constructor
  · exact ⟨⌊amount * 100 + 1 / 2⌋, by rw [rounded]; ring⟩
  · rw [rounded]
    linarith
  · rw [rounded]
    linarith

theorem roundMoney_nonneg {amount : Decimal} (nonneg : 0 ≤ amount) :
    0 ≤ roundMoney amount := by
  rcases roundMoney_nearest nonneg with ⟨cents, lower, _⟩
  have zero : InCents 0 := ⟨0, by norm_num⟩
  exact le_of_lt_cent zero cents (by linarith)

/-- Two amounts which add up to less than a number of cents are rounded to
amounts which add up to at most that number. -/
theorem roundMoney_add_le {first second gross : Decimal}
    (firstNonneg : 0 ≤ first) (secondNonneg : 0 ≤ second)
    (grossCents : InCents gross) (less : first + second < gross) :
    roundMoney first + roundMoney second ≤ gross := by
  rcases roundMoney_nearest firstNonneg with ⟨firstCents, _, firstUpper⟩
  rcases roundMoney_nearest secondNonneg with ⟨secondCents, _, secondUpper⟩
  -- The roundings together add at most a cent, and the fees are below the gross.
  have atMost : roundMoney first ≤ gross - roundMoney second :=
    le_of_lt_cent firstCents (grossCents.sub secondCents) (by linarith)
  linarith

/-- What the split of a gross amount under an agreement should be. -/
structure ExactSplit (msc : MSCAgreement) (gross : Decimal) (split : Split) : Prop where
  klikNearest : NearestCent (gross * msc.klikFeePerc / 100) split.klikFee
  agentNearest : NearestCent (gross * msc.agentFeePerc / 100) split.agentFee
  netCents : InCents split.merchantNet
  klik_nonneg : 0 ≤ split.klikFee
  agent_nonneg : 0 ≤ split.agentFee
  net_nonneg : 0 ≤ split.merchantNet
  total : split.klikFee + split.agentFee + split.merchantNet = gross
  mscId : split.mscId = msc.id

/-- A fee is a part of the gross amount. -/
theorem fee_nonneg {gross percent : Decimal}
    (positive : 0 < gross) (nonneg : 0 ≤ percent) : 0 ≤ gross * percent / 100 := by
  positivity

/-- The fees take less than the gross amount. -/
theorem MSCAgreement.Rates.fees_lt {msc : MSCAgreement} (rates : msc.Rates)
    {gross : Decimal} (positive : 0 < gross) :
    gross * msc.klikFeePerc / 100 + gross * msc.agentFeePerc / 100 < gross := by
  have product : gross * (msc.klikFeePerc + msc.agentFeePerc) < gross * 100 :=
    mul_lt_mul_of_pos_left rates.sum_lt positive
  linarith

/-- The split under the agreement in force. -/
theorem calculateSplit_of_active
    {agreements : List MSCAgreement} {agent : Agent} {gross : Decimal}
    {now : Instant} {msc : MSCAgreement}
    (active : getActiveMsc agreements agent now = .ok msc) :
    calculateSplit agreements agent gross now = .ok
      { klikFee := roundMoney (gross * msc.klikFeePerc / 100)
        agentFee := roundMoney (gross * msc.agentFeePerc / 100)
        merchantNet := gross - roundMoney (gross * msc.klikFeePerc / 100) -
          roundMoney (gross * msc.agentFeePerc / 100)
        mscId := msc.id } := by
  simp only [calculateSplit, active]

/-- For every positive amount in cents and every agreement in force,
`calculate_split` returns an exact split with no negative part. -/
theorem calculateSplit_exact
    {agreements : List MSCAgreement} {agent : Agent} {gross : Decimal}
    {now : Instant} {msc : MSCAgreement}
    (active : getActiveMsc agreements agent now = .ok msc) (rates : msc.Rates)
    (positive : 0 < gross) (grossCents : InCents gross) :
    ∃ split, calculateSplit agreements agent gross now = .ok split ∧
      ExactSplit msc gross split := by
  have klikNonneg := fee_nonneg positive rates.klik_nonneg
  have agentNonneg := fee_nonneg positive rates.agent_nonneg
  have klikNearest := roundMoney_nearest klikNonneg
  have agentNearest := roundMoney_nearest agentNonneg
  refine ⟨_, calculateSplit_of_active active, ?_⟩
  constructor
  · exact klikNearest
  · exact agentNearest
  · exact (grossCents.sub klikNearest.cents).sub agentNearest.cents
  · exact roundMoney_nonneg klikNonneg
  · exact roundMoney_nonneg agentNonneg
  · show 0 ≤ gross - _ - _
    have atMost := roundMoney_add_le klikNonneg agentNonneg grossCents
      (rates.fees_lt positive)
    linarith
  · show _ + _ + (gross - _ - _) = gross
    ring
  · rfl

/-- Half a percent of a cent is rounded up. -/
theorem calculateSplit_exact_tie :
    ∃ split,
      calculateSplit [exampleAgreement 1 0 none] ⟨1, polishBank 1, .PL⟩ (1 / 2) 5 =
        .ok split ∧
      ExactSplit (exampleAgreement 1 0 none) (1 / 2) split := by
  have active : getActiveMsc [exampleAgreement 1 0 none] ⟨1, polishBank 1, .PL⟩ 5 =
      .ok (exampleAgreement 1 0 none) := by
    decide +kernel
  apply calculateSplit_exact active
  · constructor
    · decide +kernel
    · decide +kernel
    · decide +kernel
    · decide +kernel
    · decide +kernel
  · decide +kernel
  · exact ⟨50, by norm_num⟩

/-! ## Precision of the decimal arithmetic -/

/-- A value which the decimal context, with its 28 digits, represents exactly:
an operation whose result is such a value does not round. -/
def FitsContext (value : Decimal) : Prop :=
  ∃ (coefficient : Int) (places : Nat),
    value * 10 ^ places = coefficient ∧ |coefficient| < 10 ^ 28

theorem fitsContext_of_lt {value : Decimal} {coefficient : Int} {places digits : Nat}
    (scaled : value * 10 ^ places = coefficient)
    (small : |value| < 10 ^ digits) (digitsLe : digits + places ≤ 28) :
    FitsContext value := by
  refine ⟨coefficient, places, scaled, ?_⟩
  have positive : (0 : Decimal) < 10 ^ places := by positivity
  have bounded : |(coefficient : Decimal)| < 10 ^ 28 := by
    calc |(coefficient : Decimal)| = |value| * 10 ^ places := by
          rw [← scaled, abs_mul, abs_of_pos positive]
      _ < 10 ^ digits * 10 ^ places := mul_lt_mul_of_pos_right small positive
      _ = 10 ^ (digits + places) := (pow_add _ _ _).symm
      _ ≤ 10 ^ 28 := pow_le_pow_right₀ (by norm_num) digitsLe
  exact_mod_cast bounded

/-- The product with a percentage, and its hundredth. -/
theorem fitsContext_fee {gross percent : Decimal}
    (grossCents : InCents gross) (percentCents : InCents percent)
    (positive : 0 < gross) (nonneg : 0 ≤ percent)
    (grossLt : gross < 10 ^ 10) (percentLt : percent < 100) :
    FitsContext (gross * percent) ∧ FitsContext (gross * percent / 100) := by
  rcases grossCents with ⟨m, grossEq⟩
  rcases percentCents with ⟨n, percentEq⟩
  have productNonneg : 0 ≤ gross * percent := mul_nonneg positive.le nonneg
  have productLt : gross * percent < 10 ^ 12 := by
    calc gross * percent ≤ gross * 100 := mul_le_mul_of_nonneg_left percentLt.le positive.le
      _ < 10 ^ 10 * 100 := mul_lt_mul_of_pos_right grossLt (by norm_num)
      _ = 10 ^ 12 := by norm_num
  have scaled : gross * percent * 10 ^ 4 = ((m * n : Int) : Decimal) := by
    push_cast
    rw [← grossEq, ← percentEq]
    ring
  constructor
  · have small : |gross * percent| < 10 ^ 12 := by
      rw [abs_of_nonneg productNonneg]
      exact productLt
    exact fitsContext_of_lt scaled small (by norm_num)
  · have small : |gross * percent / 100| < 10 ^ 12 := by
      rw [abs_of_nonneg (by positivity)]
      linarith
    have shifted : gross * percent / 100 * 10 ^ 6 = ((m * n : Int) : Decimal) := by
      rw [← scaled]
      ring
    exact fitsContext_of_lt shifted small (by norm_num)

/-- A part of an amount, in cents. -/
theorem fitsContext_part {part gross : Decimal}
    (partCents : InCents part) (nonneg : 0 ≤ part) (atMost : part ≤ gross)
    (grossLt : gross < 10 ^ 10) : FitsContext part := by
  rcases partCents with ⟨m, partEq⟩
  have scaled : part * 10 ^ 2 = m := by
    rw [← partEq]
    norm_num
  have small : |part| < 10 ^ 10 := by
    rw [abs_of_nonneg nonneg]
    exact lt_of_le_of_lt atMost grossLt
  exact fitsContext_of_lt scaled small (by norm_num)

/-- For an amount of the `amount_gross` column no operation of
`calculate_split` rounds, apart from the two calls of `_round_money`. -/
theorem calculateSplit_fitsContext
    {msc : MSCAgreement} {gross : Decimal} {split : Split}
    (rates : msc.Rates) (positive : 0 < gross)
    (fits : fitsDecimalField 12 2 gross = true) (exact : ExactSplit msc gross split) :
    (∀ percent ∈ [msc.klikFeePerc, msc.agentFeePerc],
      FitsContext (gross * percent) ∧ FitsContext (gross * percent / 100)) ∧
    ∀ part ∈ [split.klikFee, split.agentFee, gross - split.klikFee, split.merchantNet],
      FitsContext part := by
  have grossCents := inCents_of_fits fits
  have grossLt : gross < 10 ^ 10 := by
    simp only [fitsDecimalField, Bool.and_eq_true, decide_eq_true_eq] at fits
    exact fits.2
  have total := exact.total
  have klikNonneg := exact.klik_nonneg
  have agentNonneg := exact.agent_nonneg
  have netNonneg := exact.net_nonneg
  have sumLt := rates.sum_lt
  have klikPercNonneg := rates.klik_nonneg
  have agentPercNonneg := rates.agent_nonneg
  constructor
  · intro percent member
    simp only [List.mem_cons, List.not_mem_nil, or_false] at member
    rcases member with rfl | rfl
    · exact fitsContext_fee grossCents (inCents_of_fits rates.klik_fits) positive
        klikPercNonneg grossLt (by linarith)
    · exact fitsContext_fee grossCents (inCents_of_fits rates.agent_fits) positive
        agentPercNonneg grossLt (by linarith)
  · intro part member
    simp only [List.mem_cons, List.not_mem_nil, or_false] at member
    rcases member with rfl | rfl | rfl | rfl
    · exact fitsContext_part exact.klikNearest.cents klikNonneg (by linarith) grossLt
    · exact fitsContext_part exact.agentNearest.cents agentNonneg (by linarith) grossLt
    · exact fitsContext_part (grossCents.sub exact.klikNearest.cents)
        (by linarith) (by linarith) grossLt
    · exact fitsContext_part exact.netCents netNonneg (by linarith) grossLt

end Klik.Agents
