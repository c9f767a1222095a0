import Mathlib.Topology.Algebra.Order.Field
import Mathlib.Topology.Instances.Real.Lemmas
import RetirementPlanner.Proof.YearTax

/-!
# Retirement tax never confiscates

For one person, the tax of a retirement year is nonnegative, rises with each of its
three amounts, and takes strictly less than a Traditional withdrawal adds
(`retirementTax_not_confiscatory`). The taxable part of a benefit moves continuously
with the income beside it.
-/

namespace RetirementPlanner.Engine

open Schedule

variable {K : Type*} [Field K] [LinearOrder K] [IsStrictOrderedRing K]

/-! ## The benefit -/

/-- A larger benefit has a larger taxable part: it raises the caps and the combined
income. -/
theorem taxableBenefitOf_mono (filingStatus : FilingStatus) (taxYear : ℤ) {b b' y y' : K}
    (hb : b ≤ b') (hy : y ≤ y') :
    taxableBenefitOf filingStatus taxYear b y ≤ taxableBenefitOf filingStatus taxYear b' y' := by
  have hc : y + b * 0.5 ≤ y' + b' * 0.5 := by linarith
  simp only [taxableBenefitOf, taxableBenefit]
  set t1 := frozenThreshold (socialSecurityTiers (K := K) filingStatus).1 taxYear
  set t2 := frozenThreshold (socialSecurityTiers (K := K) filingStatus).2 taxYear
  have h1 := ramp_mono t1 (min_le_min_right t2 hc)
  have h2 := ramp_mono t2 hc
  refine min_le_min (by linarith) (add_le_add (min_le_min ?_ ?_) ?_) <;> linarith

/-- A retirement year's tax rises with all three of its amounts. -/
theorem retirementTax_mono_benefit (household : Household) (state : State) (taxYear : ℤ)
    {x x' b b' q q' : K} (hx : x ≤ x') (hb0 : 0 ≤ b) (hb : b ≤ b') (hq0 : 0 ≤ q) (hq : q ≤ q') :
    retirementTaxOn household state taxYear x b q
      ≤ retirementTaxOn household state taxYear x' b' q' := by
  rw [retirementTaxOn_eq _ _ _ hb0 hq0, retirementTaxOn_eq _ _ _ (hb0.trans hb) (hq0.trans hq)]
  have ho : ordinaryWithBenefit household.filingStatus taxYear x b q
      ≤ ordinaryWithBenefit household.filingStatus taxYear x' b' q' :=
    add_le_add hx (taxableBenefitOf_mono _ _ hb (add_le_add hx hq))
  have hd := deductionFor_antitone household taxYear (add_le_add ho hq)
  have h1 := incomeTax_mono household.filingStatus (sub_le_sub ho hd) hq0 hq
  have h2 := investmentTax_mono household.filingStatus taxYear ho hq
  have h3 := stateSchedule_mono state household.filingStatus (add_le_add hx hq)
  exact add_le_add (add_le_add h1 h2) h3

theorem taxableBenefitOf_continuous [TopologicalSpace K] [OrderTopology K]
    (filingStatus : FilingStatus) (taxYear : ℤ) (benefit : K) :
    Continuous (taxableBenefitOf filingStatus taxYear benefit) := by
  unfold taxableBenefitOf taxableBenefit ramp
  fun_prop

/-! ## The tax -/

/-- For one person of any age, filing status, state and tax year: the tax of a
retirement year is nonnegative and rises with the Traditional withdrawals, the benefit
and the qualified income; a Traditional withdrawal is never taxed in full; and the
taxable part of the benefit lies between nothing and 85% of it, moving continuously
and never down with the other income. -/
theorem retirementTax_not_confiscatory [TopologicalSpace K] [OrderTopology K]
    (filingStatus : FilingStatus) (age : ℕ) (state : State) (taxYear : ℤ) :
    let household := Household.single filingStatus age
    let tax := fun traditional benefit qualified : K =>
      (calculateRetirementTax traditional benefit qualified household state taxYear).totalTax
    let taxable := fun benefit qualified other : K =>
      calculateTaxableSocialSecurity other benefit qualified filingStatus taxYear
    (∀ x b q, 0 ≤ x → 0 ≤ b → 0 ≤ q → 0 ≤ tax x b q) ∧
      (∀ x x' b b' q q', 0 ≤ x → x ≤ x' → 0 ≤ b → b ≤ b' → 0 ≤ q → q ≤ q' →
        tax x b q ≤ tax x' b' q') ∧
      (∀ x d b q, 0 ≤ x → 0 < d → 0 ≤ b → 0 ≤ q → tax (x + d) b q - tax x b q < d) ∧
      ∀ b q, 0 ≤ b → 0 ≤ q →
        (∀ x, 0 ≤ taxable b q x ∧ taxable b q x ≤ 0.85 * b) ∧ Continuous (taxable b q) ∧
          Monotone (taxable b q) := by
  intro household tax taxable
  refine ⟨fun x b q hx hb hq => retirementTax_nonneg household state taxYear hb hx hq,
    fun x x' b b' q q' _ hx hb0 hb hq0 hq =>
      retirementTax_mono_benefit household state taxYear hx hb0 hb hq0 hq,
    fun x d b q _ hd hb hq => ?_, fun b q hb hq => ?_⟩
  · have hslope := retirementTax_slope filingStatus age state taxYear hb
      (le_add_of_nonneg_right hd.le : x ≤ x + d) hq le_rfl
    change retirementTaxOn household state taxYear (x + d) b q
      - retirementTaxOn household state taxYear x b q < d
    linarith
  · have htaxable : taxable b q = fun x => taxableBenefitOf filingStatus taxYear b (x + q) := by
      funext x
      exact calculateTaxableSocialSecurity_eq filingStatus taxYear hb x q
    rw [htaxable]
    refine ⟨fun x => ⟨taxableBenefit_nonneg hb _ _ _, taxableBenefit_le _ _ _ _⟩, ?_, ?_⟩
    · exact (taxableBenefitOf_continuous filingStatus taxYear b).comp (continuous_add_const q)
    · exact fun x x' hx => taxableBenefitOf_mono filingStatus taxYear le_rfl (by linarith)

theorem retirementTax_not_confiscatory_california :
    (0 : ℝ) ≤ (calculateRetirementTax 50000 30000 10000 (.single .single 70) .CA 2025).totalTax ∧
      (calculateRetirementTax (50000 + 1000 : ℝ) 30000 10000 (.single .single 70) .CA
          2025).totalTax
        - (calculateRetirementTax 50000 30000 10000 (.single .single 70) .CA 2025).totalTax
        < 1000 ∧
      Continuous fun other : ℝ =>
        calculateTaxableSocialSecurity other 30000 10000 .single 2025 := by
  obtain ⟨hnonneg, -, hslope, hbenefit⟩ :=
    retirementTax_not_confiscatory (K := ℝ) .single 70 .CA 2025
  exact ⟨hnonneg 50000 30000 10000 (by norm_num) (by norm_num) (by norm_num),
    hslope 50000 1000 30000 10000 (by norm_num) (by norm_num) (by norm_num) (by norm_num),
    (hbenefit 30000 10000 (by norm_num) (by norm_num)).2.1⟩

end RetirementPlanner.Engine
