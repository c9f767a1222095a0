import RetirementPlanner.Lib.Iteration
import RetirementPlanner.Proof.ConversionCeiling

/-!
# Settling the tax of a conversion

A settling pass prices the conversion with the gain of the sale before it and sells
that much (`settling_eq`). The source stops after four passes, so what its tax misses
is what a fifth would add. That is bounded by the tax the conversion has before any sale and
the rate a dollar of the sale is taxed at, and where that is one rate it is known
(`outcomeOf_settled`).
-/

namespace RetirementPlanner.Engine

open Iteration

variable {K : Type*} [Field K] [LinearOrder K]

/-- The tax a conversion adds to its year when `y` dollars of Taxable are sold for it. -/
def taxWithSale (input : RothConversionInput K) (conversion y : K) : K :=
  taxOf conversion (input.qualifiedIncome + y * input.taxableGainRatio) input
    - taxOf 0 input.qualifiedIncome input

/-- The tax of a conversion after some passes: with the gain of the sale before. -/
def settledTax (input : RothConversionInput K) (conversion : K) (passes : ℕ) : K :=
  taxWithSale input conversion
    (sale (taxWithSale input conversion) input.taxableBalance (passes - 1))

/-- The sale of a conversion has settled by the fourth pass: a dollar of it adds at most `rate`
of tax, and the tax before it is small against four such passes, or takes all but little of the
Taxable account at once. -/
def SettlesInTime (input : RothConversionInput K) (conversion : K) : Prop :=
  ∃ rate, 0 ≤ rate ∧ AtMost (taxWithSale input conversion) input.taxableBalance rate ∧
    (rate ^ 4 * taxWithSale input conversion 0 ≤ 10 ∨
      rate * (input.taxableBalance - taxWithSale input conversion 0) ≤ 10)

variable [IsStrictOrderedRing K] {input : RothConversionInput K} {conversion : K}

theorem qualified_nonneg (h : input.Valid) {y : K} (hy : 0 ≤ y) :
    0 ≤ input.qualifiedIncome + y * input.taxableGainRatio :=
  add_nonneg h.qualified_nonneg (mul_nonneg hy h.gainRatio_nonneg)

theorem qualified_mono (h : input.Valid) {y y' : K} (hle : y ≤ y') :
    input.qualifiedIncome + y * input.taxableGainRatio
      ≤ input.qualifiedIncome + y' * input.taxableGainRatio :=
  add_le_add_right (mul_le_mul_of_nonneg_right hle h.gainRatio_nonneg) _

theorem taxWithSale_rises (h : input.Valid) (hc : 0 ≤ conversion) :
    Rises (taxWithSale input conversion) := by
  refine ⟨?_, fun hy hle => ?_⟩
  · rw [taxWithSale, zero_mul, add_zero]
    exact sub_nonneg.mpr (taxOf_mono h hc h.qualified_nonneg le_rfl)
  · exact sub_le_sub_right (taxOf_mono h le_rfl (qualified_nonneg h hy) (qualified_mono h hle)) _

/-- A dollar of the sale adds at most 81 cents of tax for each dollar of gain in it. -/
theorem taxWithSale_atMost (h : input.Valid) (conversion cap : K) :
    AtMost (taxWithSale input conversion) cap (0.81 * input.taxableGainRatio) := by
  intro y y' hy hle _
  obtain ⟨filingStatus, age, hhousehold⟩ := h.household_eq
  have hslope := retirementTax_slope filingStatus age input.state input.taxYear
    h.benefit_nonneg (le_refl (input.traditionalWithdrawals + conversion)) (qualified_nonneg h hy)
    (qualified_mono h hle)
  simp only [retirementTaxOn] at hslope
  simp only [taxWithSale, taxOf, hhousehold]
  linarith

/-- The settling loop, pass by pass: the tax with the last sale, and the sale that pays
it. -/
theorem settling_eq (h : input.Valid) (hc : 0 ≤ conversion) (passes : ℕ) :
    (settlingPass conversion input (taxOf 0 input.qualifiedIncome input))^[passes + 1]
        ⟨input.qualifiedIncome, 0, 0⟩
      = ⟨input.qualifiedIncome
          + sale (taxWithSale input conversion) input.taxableBalance (passes + 1)
            * input.taxableGainRatio,
        settledTax input conversion (passes + 1),
        sale (taxWithSale input conversion) input.taxableBalance (passes + 1)⟩ := by
  have hrises := taxWithSale_rises h hc
  -- Neither floor of the source's loop is ever reached.
  have hpass {s : Settling K} {y : K} (hy : 0 ≤ y)
      (hq : s.qualifiedIncome = input.qualifiedIncome + y * input.taxableGainRatio) :
      settlingPass conversion input (taxOf 0 input.qualifiedIncome input) s
        = ⟨input.qualifiedIncome + min (taxWithSale input conversion y) input.taxableBalance
            * input.taxableGainRatio, taxWithSale input conversion y,
          min (taxWithSale input conversion y) input.taxableBalance⟩ := by
    have htax : max (taxOf conversion s.qualifiedIncome input
        - taxOf 0 input.qualifiedIncome input) 0 = taxWithSale input conversion y := by
      rw [hq]
      exact max_eq_left (hrises.nonneg hy)
    simp only [settlingPass, htax, max_eq_left h.taxable_nonneg]
  induction passes with
  | zero => exact hpass le_rfl (by rw [sale, zero_mul, add_zero])
  | succ passes ih =>
    rw [Function.iterate_succ_apply', ih]
    exact hpass (sale_nonneg hrises h.taxable_nonneg _) rfl

/-- The tax a conversion misses is what a fifth pass would add. -/
theorem outcomeOf_missing (h : input.Valid) (hc : 0 ≤ conversion) :
    let outcome := outcomeOf conversion input (taxOf 0 input.qualifiedIncome input)
    |outcome.tax
        - (taxOf conversion (input.qualifiedIncome + outcome.fromTaxable * input.taxableGainRatio)
            input - taxOf 0 input.qualifiedIncome input)|
      = taxWithSale input conversion (sale (taxWithSale input conversion) input.taxableBalance 4)
        - taxWithSale input conversion
          (sale (taxWithSale input conversion) input.taxableBalance 3) := by
  intro outcome
  have hrises := taxWithSale_rises h hc
  have hloop := settling_eq h hc 3
  have htax : outcome.tax = taxWithSale input conversion
      (sale (taxWithSale input conversion) input.taxableBalance 3) := congrArg Settling.tax hloop
  have hsale : outcome.fromTaxable = sale (taxWithSale input conversion) input.taxableBalance 4 :=
    congrArg Settling.fromTaxable hloop
  have hmono := hrises.mono (sale_nonneg hrises h.taxable_nonneg 3)
    (sale_le_succ hrises h.taxable_nonneg 3)
  rw [htax, hsale, abs_sub_comm]
  exact abs_of_nonneg (sub_nonneg.mpr hmono)

/-- The tax a conversion reports is within ten dollars of the tax it causes, together with the
sale it reports, wherever its sale settles in time: in particular wherever the tax before the
sale, times the fourth power of 81% of the gain ratio, is at most that. Where each dollar of the
sale adds the same tax, it is so exactly when the fourth and the fifth sale of a geometric series
are that close. -/
theorem outcomeOf_settled (h : input.Valid) (hc : 0 ≤ conversion) :
    let outcome := outcomeOf conversion input (taxOf 0 input.qualifiedIncome input)
    let increase :=
      taxOf conversion (input.qualifiedIncome + outcome.fromTaxable * input.taxableGainRatio) input
        - taxOf 0 input.qualifiedIncome input
    let before := taxWithSale input conversion 0
    (SettlesInTime input conversion → |outcome.tax - increase| ≤ 10) ∧
      ((0.81 * input.taxableGainRatio) ^ 4 * before ≤ 10 → SettlesInTime input conversion) ∧
      ∀ rate, 0 ≤ rate → Exactly (taxWithSale input conversion) input.taxableBalance rate →
        (|outcome.tax - increase| ≤ 10 ↔
          rate * (min (before * (1 + rate + rate ^ 2 + rate ^ 3)) input.taxableBalance
            - min (before * (1 + rate + rate ^ 2)) input.taxableBalance) ≤ 10) := by
  intro outcome increase before
  have hrises := taxWithSale_rises h hc
  have hcap := h.taxable_nonneg
  have hmissing : |outcome.tax - increase| = _ := outcomeOf_missing h hc
  refine ⟨?_, fun hsmall => ?_, fun rate hnonneg hrate => ?_⟩
  · rintro ⟨rate, hnonneg, hrate, hsmall⟩
    rw [hmissing]
    rcases hsmall with hsmall | hsmall
    · exact (hrate.growth_le_pow hrises hnonneg hcap 3).trans hsmall
    · refine (hrate.growth_le_cap hrises hnonneg hcap 2).trans ?_
      rw [mul_max_of_nonneg _ _ hnonneg, mul_zero]
      exact max_le hsmall (by norm_num)
  · exact ⟨_, mul_nonneg (by norm_num) h.gainRatio_nonneg,
      taxWithSale_atMost h conversion input.taxableBalance, .inl hsmall⟩
  · rw [hmissing, hrate.growth_eq hrises hcap, hrate.sale_eq hrises hnonneg hcap,
      hrate.sale_eq hrises hnonneg hcap]
    simp only [Finset.sum_range_succ, Finset.sum_range_zero, pow_zero, pow_one, zero_add]
    rfl

/-- In its first year `gapYearPlan` converts 37,501 dollars and reports a tax 90 dollars
below what that costs. -/
theorem not_settled_gapYear :
    gapYearInput.Valid ∧
      let conversion := (rothConversionFor gapYearInput).converted
      let outcome := outcomeOf conversion gapYearInput
        (taxOf 0 gapYearInput.qualifiedIncome gapYearInput)
      ¬|outcome.tax - (taxOf conversion (gapYearInput.qualifiedIncome
          + outcome.fromTaxable * gapYearInput.taxableGainRatio) gapYearInput
        - taxOf 0 gapYearInput.qualifiedIncome gapYearInput)| ≤ 10 :=
  ⟨gapYearInput_valid, by decide +kernel⟩

/-- With a fifth of each sale as gain, the tax of the same conversion settles. -/
theorem outcomeOf_settled_gapYear :
    let input := { gapYearInput with taxableGainRatio := 1 / 5 }
    let outcome := outcomeOf 37501 input (taxOf 0 input.qualifiedIncome input)
    5000 < outcome.tax ∧
      |outcome.tax - (taxOf 37501 (input.qualifiedIncome
          + outcome.fromTaxable * input.taxableGainRatio) input
        - taxOf 0 input.qualifiedIncome input)| ≤ 10 := by
  have hvalid : RothConversionInput.Valid { gapYearInput with taxableGainRatio := 1 / 5 } :=
    { gapYearInput_valid with
      gainRatio_nonneg := by norm_num
      gainRatio_le_one := by norm_num }
  obtain ⟨hsettled, hintime, -⟩ := outcomeOf_settled hvalid (by norm_num : (0 : ℚ) ≤ 37501)
  exact ⟨by decide +kernel, hsettled (hintime (by decide +kernel))⟩

end RetirementPlanner.Engine
