import RetirementPlanner.Engine.RothConversion
import RetirementPlanner.Proof.YearTax

/-!
# What a Roth conversion books

Every dollar of a conversion is accounted for (`rothConversionFor_spec`): it never
exceeds the Traditional balance, the tax it adds is paid in full out of Taxable and
out of the conversion, and neither pays more than it has. The last is where the
slope of the tax counts: a conversion and the gain on the sale that funds it never
cost more than themselves.
-/

namespace RetirementPlanner.Engine

variable {K : Type*} [Field K] [LinearOrder K]

/-- What a conversion may be asked about. -/
structure RothConversionInput.Valid (input : RothConversionInput K) : Prop where
  household_eq : ∃ filingStatus age, input.household = .single filingStatus age
  benefit_nonneg : 0 ≤ input.socialSecurityBenefit
  qualified_nonneg : 0 ≤ input.qualifiedIncome
  gainRatio_nonneg : 0 ≤ input.taxableGainRatio
  gainRatio_le_one : input.taxableGainRatio ≤ 1
  taxable_nonneg : 0 ≤ input.taxableBalance
  traditional_nonneg : 0 ≤ input.traditionalBalance

/-- A conversion that books every dollar. -/
structure RothConversion.Books (input : RothConversionInput K) (c : RothConversion K) : Prop where
  converted_nonneg : 0 ≤ c.converted
  converted_le : c.converted ≤ input.traditionalBalance
  fromTaxable_nonneg : 0 ≤ c.fromTaxable
  fromTaxable_le : c.fromTaxable ≤ input.taxableBalance
  withheld_nonneg : 0 ≤ c.withheld
  withheld_le : c.withheld ≤ c.converted
  tax_eq : c.fromTaxable + c.withheld = c.tax

variable [IsStrictOrderedRing K]

omit [IsStrictOrderedRing K] in
theorem RothConversion.books_default {input : RothConversionInput K} (h : input.Valid) :
    RothConversion.default.Books input :=
  ⟨le_rfl, h.traditional_nonneg, le_rfl, h.taxable_nonneg, le_rfl, le_rfl, add_zero 0⟩

/-! ## The tax of a conversion -/

/-- What a settling pass leaves: the tax at the gain of some affordable sale, and the
sale that pays it. -/
structure Settled (conversion : K) (input : RothConversionInput K) (baseTax : K)
    (s : Settling K) : Prop where
  tax_eq : ∃ sale, 0 ≤ sale ∧ sale ≤ input.taxableBalance ∧
    s.tax = max (taxOf conversion (input.qualifiedIncome + sale * input.taxableGainRatio) input
      - baseTax) 0
  fromTaxable_eq : s.fromTaxable = min s.tax input.taxableBalance
  qualified_eq : s.qualifiedIncome
    = input.qualifiedIncome + s.fromTaxable * input.taxableGainRatio

omit [IsStrictOrderedRing K] in
theorem settlingPass_settled {conversion : K} {input : RothConversionInput K} {baseTax : K}
    (h : input.Valid) {s : Settling K} {sale : K} (h0 : 0 ≤ sale)
    (hle : sale ≤ input.taxableBalance)
    (hq : s.qualifiedIncome = input.qualifiedIncome + sale * input.taxableGainRatio) :
    Settled conversion input baseTax (settlingPass conversion input baseTax s) := by
  refine ⟨⟨sale, h0, hle, by rw [← hq]; rfl⟩, ?_, rfl⟩
  simp only [settlingPass, max_eq_left h.taxable_nonneg]

omit [IsStrictOrderedRing K] in
theorem settling_settled {conversion : K} {input : RothConversionInput K} {baseTax : K}
    (h : input.Valid) (passes : ℕ) :
    Settled conversion input baseTax
      ((settlingPass conversion input baseTax)^[passes + 1] ⟨input.qualifiedIncome, 0, 0⟩) := by
  induction passes with
  | zero =>
    refine settlingPass_settled h le_rfl h.taxable_nonneg ?_
    rw [zero_mul, add_zero]
  | succ passes ih =>
    rw [Function.iterate_succ_apply']
    refine settlingPass_settled h ?_ ?_ ih.qualified_eq
    · rw [ih.fromTaxable_eq]
      obtain ⟨sale, -, -, htax⟩ := ih.tax_eq
      exact le_min (htax ▸ le_max_right _ _) h.taxable_nonneg
    · rw [ih.fromTaxable_eq]
      exact min_le_right _ _

/-- The bill of a conversion is paid: out of Taxable while it lasts, and the rest is
no more than the conversion. -/
theorem outcomeOf_spec {conversion : K} {input : RothConversionInput K} (h : input.Valid)
    (hc : 0 ≤ conversion) :
    let outcome := outcomeOf conversion input (taxOf 0 input.qualifiedIncome input)
    0 ≤ outcome.fromTaxable ∧ outcome.fromTaxable ≤ input.taxableBalance ∧ 0 ≤ outcome.withheld ∧
      outcome.withheld ≤ conversion ∧ outcome.fromTaxable + outcome.withheld = outcome.tax := by
  set s := (settlingPass conversion input (taxOf 0 input.qualifiedIncome input))^[3 + 1]
    ⟨input.qualifiedIncome, 0, 0⟩ with hs
  have hsettled : Settled conversion input (taxOf 0 input.qualifiedIncome input) s :=
    settling_settled h 3
  have houtcome : outcomeOf conversion input (taxOf 0 input.qualifiedIncome input)
      = ⟨s.tax, s.fromTaxable, min conversion (s.tax - s.fromTaxable),
        s.fromTaxable * input.taxableGainRatio⟩ := rfl
  obtain ⟨sale, hsale0, hsale, htax⟩ := hsettled.tax_eq
  have htax0 : 0 ≤ s.tax := htax ▸ le_max_right _ _
  have hfrom := hsettled.fromTaxable_eq
  have hfrom_le : s.fromTaxable ≤ s.tax := hfrom ▸ min_le_left _ _
  have hrest : s.tax - s.fromTaxable ≤ conversion := by
    obtain ⟨filingStatus, age, hhousehold⟩ := h.household_eq
    have hgain : 0 ≤ sale * input.taxableGainRatio := mul_nonneg hsale0 h.gainRatio_nonneg
    have hgain_le : sale * input.taxableGainRatio ≤ sale :=
      mul_le_of_le_one_right hsale0 h.gainRatio_le_one
    have hslope := retirementTax_slope filingStatus age input.state input.taxYear
      h.benefit_nonneg
      (by linarith : input.traditionalWithdrawals + 0 ≤ input.traditionalWithdrawals + conversion)
      h.qualified_nonneg
      (by linarith : input.qualifiedIncome
        ≤ input.qualifiedIncome + sale * input.taxableGainRatio)
    have hbill : s.tax ≤ conversion + sale := by
      rw [htax]
      refine max_le ?_ (by linarith)
      simp only [taxOf, hhousehold]
      simp only [retirementTaxOn] at hslope
      linarith
    rcases le_total s.tax input.taxableBalance with hle | hle
    · rw [hfrom, min_eq_left hle]
      linarith
    · rw [hfrom, min_eq_right hle]
      linarith
  rw [houtcome]
  refine ⟨?_, ?_, le_min hc (sub_nonneg.mpr hfrom_le), min_le_left _ _, ?_⟩
  · exact hfrom ▸ le_min htax0 h.taxable_nonneg
  · exact hfrom ▸ min_le_right _ _
  · simp only [min_eq_right hrest]
    ring

theorem settle_books {input : RothConversionInput K} (h : input.Valid) {converted : K}
    (hle : converted ≤ input.traditionalBalance) :
    (settle converted input (taxOf 0 input.qualifiedIncome input)).Books input := by
  rw [settle]
  split
  · exact RothConversion.books_default h
  · rename_i hpos
    have hc := (not_le.mp hpos).le
    obtain ⟨h1, h2, h3, h4, h5⟩ := outcomeOf_spec h hc
    exact ⟨hc, hle, h1, h2, h3, h4, h5⟩

/-! ## The search -/

theorem federalBracketTop_nonneg (filingStatus : FilingStatus) {rate limit : K}
    (h : federalBracketTop rate filingStatus = some limit) : 0 ≤ limit := by
  obtain ⟨bracket, hfind, hmax⟩ := Option.bind_eq_some_iff.mp h
  have hmem := List.mem_of_find?_eq_some hfind
  have hall : ∀ b ∈ (getFederalBrackets filingStatus : List (TaxBracket K)),
      ∀ m, b.max = some m → 0 ≤ m := by
    cases filingStatus <;>
      simp only [getFederalBrackets, List.forall_mem_cons, List.not_mem_nil, false_imp_iff,
        implies_true, and_true, Option.some.injEq, forall_eq', reduceCtorEq] <;> norm_num
  exact hall bracket hmem limit hmax

theorem ceilingLimit_nonneg {input : RothConversionInput K} {limit : K}
    (h : ceilingLimit input = some limit) : 0 ≤ limit := by
  simp only [ceilingLimit] at h
  split at h
  · cases h
    cases input.household.filingStatus <;> norm_num [irmaaFreeMagiCeiling, irmaaSeparateBounds]
  all_goals exact federalBracketTop_nonneg _ h

/-- The candidate a step of the search measures. -/
def solveCandidate (b : SolveBracket K) (step : ℕ) : K :=
  let guess :=
    if step % 2 = 0 ∧ b.lowGap < b.highGap then
      b.low + (b.high - b.low) * -b.lowGap / (b.highGap - b.lowGap)
    else (b.low + b.high) / 2
  min (max guess (b.low + (b.high - b.low) / 64)) (b.high - (b.high - b.low) / 64)

omit [IsStrictOrderedRing K] in
/-- Everything a step of the search can do: leave a narrow bracket as it is, or cut a
wide one at the candidate, keeping the end that fits below the end that does not. -/
theorem solveStep_cases (gapAt : K → K) (b : SolveBracket K) (step : ℕ) :
    (b.high - b.low ≤ solveTolerance ∧ solveStep gapAt b step = b) ∨
      (solveTolerance < b.high - b.low ∧ gapAt (solveCandidate b step) ≤ 0 ∧
        solveStep gapAt b step
          = { b with low := solveCandidate b step, lowGap := gapAt (solveCandidate b step) }) ∨
      (solveTolerance < b.high - b.low ∧ 0 < gapAt (solveCandidate b step) ∧
        solveStep gapAt b step
          = { b with
              high := solveCandidate b step, highGap := gapAt (solveCandidate b step) }) := by
  by_cases hclosed : b.high - b.low ≤ solveTolerance
  · exact .inl ⟨hclosed, by rw [solveStep, if_pos hclosed]⟩
  have hstep : solveStep gapAt b step =
      if gapAt (solveCandidate b step) ≤ 0 then
        { b with low := solveCandidate b step, lowGap := gapAt (solveCandidate b step) }
      else
        { b with high := solveCandidate b step, highGap := gapAt (solveCandidate b step) } := by
    rw [solveStep, if_neg hclosed]
    rfl
  right
  by_cases hfits : gapAt (solveCandidate b step) ≤ 0
  · exact .inl ⟨not_le.mp hclosed, hfits, by rw [hstep, if_pos hfits]⟩
  · exact .inr ⟨not_le.mp hclosed, not_le.mp hfits, by rw [hstep, if_neg hfits]⟩

theorem solveCandidate_mem {b : SolveBracket K} (h : b.low ≤ b.high) (step : ℕ) :
    b.low ≤ solveCandidate b step ∧ solveCandidate b step ≤ b.high := by
  refine ⟨le_min (le_max_of_le_right ?_) ?_, (min_le_right _ _).trans ?_⟩ <;> linarith

/-- A step of the search stays inside the bracket. -/
theorem solveStep_mem (gapAt : K → K) {b : SolveBracket K} (h : b.low ≤ b.high) (step : ℕ) :
    b.low ≤ (solveStep gapAt b step).low ∧
      (solveStep gapAt b step).low ≤ (solveStep gapAt b step).high ∧
      (solveStep gapAt b step).high ≤ b.high := by
  obtain ⟨hlow, hhigh⟩ := solveCandidate_mem h step
  rcases solveStep_cases gapAt b step with ⟨-, heq⟩ | ⟨-, -, heq⟩ | ⟨-, -, heq⟩ <;> rw [heq]
  · exact ⟨le_rfl, h, le_rfl⟩
  · exact ⟨hlow, hhigh, le_rfl⟩
  · exact ⟨le_rfl, hlow, hhigh⟩

theorem solve_mem (gapAt : K → K) (steps : List ℕ) {b : SolveBracket K} (h0 : 0 ≤ b.low)
    (h : b.low ≤ b.high) :
    0 ≤ (steps.foldl (solveStep gapAt) b).low ∧
      (steps.foldl (solveStep gapAt) b).low ≤ b.high := by
  induction steps generalizing b with
  | nil => exact ⟨h0, h⟩
  | cons step steps ih =>
    obtain ⟨h1, h2, h3⟩ := solveStep_mem gapAt h step
    obtain ⟨h4, h5⟩ := ih (h0.trans h1) h2
    exact ⟨h4, h5.trans h3⟩

/-- A conversion books every dollar. -/
theorem rothConversionFor_spec [FloorRing K] {input : RothConversionInput K} (h : input.Valid) :
    (rothConversionFor input).Books input := by
  rw [rothConversionFor]
  split
  · exact RothConversion.books_default h
  cases hlimit : ceilingLimit input with
  | none => exact RothConversion.books_default h
  | some limit =>
    have hlimit0 := ceilingLimit_nonneg hlimit
    simp only
    split_ifs
    · exact RothConversion.books_default h
    · exact settle_books h le_rfl
    · set high := min input.traditionalBalance (2 * limit + input.socialSecurityBenefit) with hhigh
      have hhigh0 : 0 ≤ high :=
        le_min h.traditional_nonneg (add_nonneg (by linarith) h.benefit_nonneg)
      have hle : high ≤ input.traditionalBalance := min_le_left _ _
      refine settle_books h ((Int.floor_le _).trans (le_trans ?_ hle))
      exact (solve_mem _ _ le_rfl hhigh0).2

end RetirementPlanner.Engine
