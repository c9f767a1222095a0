import RetirementPlanner.Proof.Conversion
import RetirementPlanner.Proof.Path

/-!
# A conversion under its ceiling

A larger conversion settles on a larger bill, sells more to pay it and measures
higher (`conversionGap_mono`). The search therefore only ever raises its low end to
conversions that fit, and so does rounding down: what it converts never breaches the
ceiling (`rothConversionFor_fits`), and neither does the MAGI the projection records
(`rothConversion_never_breaches`).
-/

namespace RetirementPlanner.Engine

variable {K : Type*} [Field K] [LinearOrder K]

/-- How far a conversion, with the sale that pays its tax, measures over a ceiling. -/
def conversionGap (input : RothConversionInput K) (limit conversion : K) : K :=
  measure conversion
    (outcomeOf conversion input (taxOf 0 input.qualifiedIncome input)).fundingGain input - limit

variable [IsStrictOrderedRing K]

/-! ## Settling -/

theorem taxOf_mono {input : RothConversionInput K} (h : input.Valid) {c c' q q' : K}
    (hc : c ≤ c') (hq0 : 0 ≤ q) (hq : q ≤ q') : taxOf c q input ≤ taxOf c' q' input :=
  retirementTax_mono _ _ _ h.benefit_nonneg (add_le_add_right hc _) hq0 hq

/-- One round of settling is behind another. -/
structure Settling.Behind (s s' : Settling K) : Prop where
  qualified_nonneg : 0 ≤ s.qualifiedIncome
  qualified_le : s.qualifiedIncome ≤ s'.qualifiedIncome
  fromTaxable_le : s.fromTaxable ≤ s'.fromTaxable

theorem settlingPass_behind {input : RothConversionInput K} (h : input.Valid) (baseTax : K)
    {c c' : K} (hc : c ≤ c') {s s' : Settling K} (hs : s.Behind s') :
    (settlingPass c input baseTax s).Behind (settlingPass c' input baseTax s') := by
  have htax := taxOf_mono h hc hs.qualified_nonneg hs.qualified_le
  have hfrom : min (max (taxOf c s.qualifiedIncome input - baseTax) 0)
        (max input.taxableBalance 0)
      ≤ min (max (taxOf c' s'.qualifiedIncome input - baseTax) 0) (max input.taxableBalance 0) :=
    min_le_min_right _ (max_le_max_right 0 (sub_le_sub_right htax baseTax))
  have hfrom0 : 0 ≤ min (max (taxOf c s.qualifiedIncome input - baseTax) 0)
      (max input.taxableBalance 0) := le_min (le_max_right _ _) (le_max_right _ _)
  refine ⟨add_nonneg h.qualified_nonneg (mul_nonneg hfrom0 h.gainRatio_nonneg), ?_, hfrom⟩
  exact add_le_add_right (mul_le_mul_of_nonneg_right hfrom h.gainRatio_nonneg) _

theorem settling_behind {input : RothConversionInput K} (h : input.Valid) (baseTax : K)
    {c c' : K} (hc : c ≤ c') (passes : ℕ) :
    ((settlingPass c input baseTax)^[passes] ⟨input.qualifiedIncome, 0, 0⟩).Behind
      ((settlingPass c' input baseTax)^[passes] ⟨input.qualifiedIncome, 0, 0⟩) := by
  induction passes with
  | zero => exact ⟨h.qualified_nonneg, le_rfl, le_rfl⟩
  | succ passes ih =>
    rw [Function.iterate_succ_apply', Function.iterate_succ_apply']
    exact settlingPass_behind h baseTax hc ih

/-- A larger conversion realizes at least the gain of a smaller one to pay its tax. -/
theorem fundingGain_mono {input : RothConversionInput K} (h : input.Valid) (baseTax : K)
    {c c' : K} (hc : c ≤ c') :
    (outcomeOf c input baseTax).fundingGain ≤ (outcomeOf c' input baseTax).fundingGain :=
  mul_le_mul_of_nonneg_right (settling_behind h baseTax hc settlingPasses).fromTaxable_le
    h.gainRatio_nonneg

/-! ## Measuring -/

theorem retirementTaxableIncome_mono (household : Household) (taxYear : ℤ) {b x x' q q' : K}
    (hb : 0 ≤ b) (hx : x ≤ x') (hq : q ≤ q') :
    retirementTaxableIncome x b q household taxYear
      ≤ retirementTaxableIncome x' b q' household taxYear := by
  have ho := ordinaryWithBenefit_mono household.filingStatus taxYear b hx hq
  have hd := deductionFor_antitone household taxYear (add_le_add ho hq)
  simp only [retirementTaxableIncome,
    calculateTaxableSocialSecurity_eq household.filingStatus taxYear hb]
  exact max_le_max_right 0 (sub_le_sub ho hd)

theorem measure_mono {input : RothConversionInput K} (h : input.Valid) {c c' g g' : K}
    (hc : c ≤ c') (hg : g ≤ g') : measure c g input ≤ measure c' g' input := by
  simp only [measure]
  split
  · linarith
  · exact retirementTaxableIncome_mono _ _ h.benefit_nonneg (add_le_add_right hc _)
      (add_le_add_right hg _)

/-- The more is converted, the higher it measures. -/
theorem conversionGap_mono {input : RothConversionInput K} (h : input.Valid) (limit : K)
    {c c' : K} (hc : c ≤ c') : conversionGap input limit c ≤ conversionGap input limit c' :=
  sub_le_sub_right (measure_mono h hc (fundingGain_mono h _ hc)) limit

/-! ## The search -/

omit [IsStrictOrderedRing K] in
/-- The low end of the search fits: it starts so, and only moves to a candidate that
does. -/
theorem solveStep_low_fits {gapAt : K → K} {b : SolveBracket K} (h : gapAt b.low ≤ 0)
    (step : ℕ) : gapAt (solveStep gapAt b step).low ≤ 0 := by
  rcases solveStep_cases gapAt b step with ⟨-, heq⟩ | ⟨-, hfits, heq⟩ | ⟨-, -, heq⟩ <;> rw [heq]
  · exact h
  · exact hfits
  · exact h

omit [IsStrictOrderedRing K] in
theorem solve_low_fits {gapAt : K → K} (steps : List ℕ) {b : SolveBracket K}
    (h : gapAt b.low ≤ 0) : gapAt (steps.foldl (solveStep gapAt) b).low ≤ 0 := by
  induction steps generalizing b with
  | nil => exact h
  | cons step steps ih => exact ih (solveStep_low_fits h step)

/-- What is converted, if anything is, fits under the ceiling together with the sale
that pays its tax. -/
theorem rothConversionFor_fits [FloorRing K] {input : RothConversionInput K} (h : input.Valid)
    (hpos : 0 < (rothConversionFor input).converted) :
    ∃ limit, ceilingLimit input = some limit ∧
      measure (rothConversionFor input).converted
        ((rothConversionFor input).fromTaxable * input.taxableGainRatio) input ≤ limit := by
  have hsettle {limit c : K} (hfits : conversionGap input limit c ≤ 0)
      (hc : 0 < (settle c input (taxOf 0 input.qualifiedIncome input)).converted) :
      measure (settle c input (taxOf 0 input.qualifiedIncome input)).converted
        ((settle c input (taxOf 0 input.qualifiedIncome input)).fromTaxable
          * input.taxableGainRatio) input ≤ limit := by
    by_cases hle : c ≤ 0
    · rw [settle, if_pos hle] at hc
      exact absurd hc (lt_irrefl 0)
    · rw [settle, if_neg hle]
      exact sub_nonpos.mp hfits
  rw [rothConversionFor] at hpos ⊢
  by_cases hoff : input.policy.enabled = false ∨ input.traditionalBalance ≤ 0
  · rw [if_pos hoff] at hpos
    exact absurd hpos (lt_irrefl 0)
  rw [if_neg hoff] at hpos ⊢
  cases hlimit : ceilingLimit input with
  | none =>
    rw [hlimit] at hpos
    exact absurd hpos (lt_irrefl 0)
  | some limit =>
    refine ⟨limit, rfl, ?_⟩
    simp only [hlimit] at hpos ⊢
    split_ifs at hpos ⊢ with hfull hall
    · exact absurd hpos (lt_irrefl 0)
    · exact hsettle hall hpos
    · refine hsettle ?_ hpos
      refine (conversionGap_mono h limit (Int.floor_le _)).trans ?_
      exact solve_low_fits (List.range solveSteps) (not_le.mp hfull).le

/-! ## The recorded MAGI -/

/-- Under the IRMAA ceiling, a conversion measures what the year then records as its
MAGI: the tax withheld counts as a withdrawal and the sale as a taxable one. -/
theorem retiredYear_magi_le [FloorRing K] (log : NaturalLog K) {prepared : PreparedPlan K}
    (h : Prepared prepared)
    (hceiling : prepared.plan.assumptions.rothConversion.ceiling = .irmaaTier) (returns : K × K)
    (year : ℕ) {state : ProjectionState K} (hstate : state.Valid) {rothBasis : RothBasisState K}
    (hledger : rothBasis.Valid) {rmdAmount : K} (hrmd : 0 ≤ rmdAmount)
    (hconverts : 0 < (retiredYear log prepared returns year state rothBasis
      rmdAmount).rothConversion) :
    (yearMagiOf prepared year (retiredYear log prepared returns year state rothBasis
      rmdAmount)).total ≤ irmaaFreeMagiCeiling prepared.plan.profile.filingStatus := by
  have hvalid := retiredConversionInput_valid log returns year h hstate.buckets
    hstate.allowance_nonneg hstate.care_valid hledger hrmd
  obtain ⟨hyes, hno⟩ := retiredYear_conversion log prepared returns year state rothBasis rmdAmount
  set o := retiredYear log prepared returns year state rothBasis rmdAmount with ho
  set committed := retiredCommitted log prepared returns year state rothBasis rmdAmount
    with hcommitted
  set input := retiredConversionInput log prepared returns year state rothBasis rmdAmount
    with hinput
  by_cases hpos :
      0 < (retiredConversion log prepared returns year state rothBasis rmdAmount).converted
  · obtain ⟨hroth, htaxable, htraditional, -⟩ := hyes hpos
    have hconversion : retiredConversion log prepared returns year state rothBasis rmdAmount
        = rothConversionFor input := by
      rw [retiredConversion] at hpos ⊢
      split at hpos
      · rename_i hwhen
        exact if_pos hwhen
      · exact absurd hpos (lt_irrefl 0)
    rw [hconversion] at hpos hroth htaxable htraditional
    obtain ⟨limit, hlimit, hfits⟩ := rothConversionFor_fits hvalid hpos
    have hpolicy : input.policy.ceiling = .irmaaTier := hceiling
    have hincome : o.income = input.socialSecurityBenefit := rfl
    have hratio : input.taxableGainRatio = prepared.plan.assumptions.taxableGainRatio := rfl
    have hdrawn : input.traditionalWithdrawals = committed.result.withdrawalTraditional ∧
        input.taxableWithdrawals = committed.result.withdrawalTaxable := ⟨rfl, rfl⟩
    simp only [ceilingLimit, hpolicy, Option.some.injEq] at hlimit
    simp only [measure, hpolicy, if_true, hdrawn.1, hdrawn.2, hratio] at hfits
    have hstatus : input.household.filingStatus = prepared.plan.profile.filingStatus := rfl
    rw [hstatus] at hlimit
    rw [hlimit, yearMagiOf, htraditional, hroth, htaxable, hincome]
    linarith
  · rw [(hno hpos).1] at hconverts
    exact absurd hconverts (lt_irrefl 0)

/-- A Roth conversion never breaches its ceiling: what is converted, if anything is,
measures at most the ceiling together with the taxable sale that pays its tax; and in
every path of an accepted plan that converts under the IRMAA ceiling, a year that
converts records a MAGI of at most that ceiling. -/
theorem rothConversion_never_breaches [FloorRing K] (log : NaturalLog K) {plan : RetirementPlan K}
    {prepared : PreparedPlan K} (hplan : validatePlan plan = .ok ())
    (hnew : PreparedPlan.new plan = .ok prepared) (uniform : Uniform K) (returns : ℕ → K × K) :
    (∀ input : RothConversionInput K, input.Valid → 0 < (rothConversionFor input).converted →
      ∃ limit, ceilingLimit input = some limit ∧
        measure (rothConversionFor input).converted
          ((rothConversionFor input).fromTaxable * input.taxableGainRatio) input ≤ limit) ∧
    (plan.assumptions.rothConversion.ceiling = .irmaaTier → ∀ year < prepared.totalYears,
      0 < (outcomeAt log prepared uniform returns year).rothConversion →
        ∃ magi, (stateAt log prepared uniform returns prepared.totalYears).magiByYear[year]?
            = some magi ∧
          magi.total ≤ irmaaFreeMagiCeiling plan.profile.filingStatus) := by
  refine ⟨fun input hvalid hpos => rothConversionFor_fits hvalid hpos,
    fun hceiling year hyear hconverts => ?_⟩
  obtain ⟨hprepared, rfl⟩ := prepared_of_new hplan hnew
  have hstate := stateAt_valid log uniform returns hprepared year
  refine ⟨yearMagiOf prepared year (outcomeAt log prepared uniform returns year), ?_, ?_⟩
  · rw [stateAt_magiByYear, List.getElem?_map, List.getElem?_range hyear]
    rfl
  · rw [outcomeAt, yearOutcome] at hconverts ⊢
    split at hconverts
    · rename_i hretired
      rw [if_pos hretired]
      exact retiredYear_magi_le log hprepared hceiling (returns year) year hstate
        (rothBasisAtStart_valid hstate.ledger _ _) (requiredIn_nonneg prepared year hstate)
        hconverts
    · exact absurd hconverts (lt_irrefl 0)

/-- A retiree of 63 whose benefit covers the year's spending, with half a million to
convert under the IRMAA ceiling and a taxable account that just pays the tax. -/
def gapYearPlan : RetirementPlan ℚ where
  schemaVersion := 8
  profile :=
    { birthDate := some (newYear 1962)
      state := .TX
      filingStatus := .single
      retirementAge := 62
      currentSalary := 0
      salaryGrowthRate := 0
      currentSpending := 0
      workingSpendingGrowthRate := 0
      retirementSpending := 61000
      retirementSpendingGrowthRate := 0
      lifeExpectancy := 64
      retirementHealthcare := ⟨0, 0, 0, 0⟩
      longTermCare := ⟨false, 1⟩
      asOfDate := some (newYear 2025) }
  accounts := [⟨.traditional, 500000, ⟨1, 0⟩, false⟩, ⟨.taxable, 10494, ⟨1, 0⟩, false⟩]
  socialSecurity := ⟨true, some 61000, 62, true⟩
  assumptions :=
    { simulationModel := .historical
      randomSeed := 1
      taxableGainRatio := 1
      hsaEligible := false
      useBackdoorRoth := false
      rothConversion := ⟨true, .irmaaTier⟩
      magiAwareWithdrawals := false
      terminalTaxRate := 0 }

/-- `gapYearPlan`, prepared. -/
def gapYearPrepared : PreparedPlan ℚ :=
  PreparedPlan.onDates gapYearPlan (newYear 2025) 1962 63

/-- What the first year of `gapYearPlan` is asked to convert, in a market that pays the
portfolio fee. -/
def gapYearInput : RothConversionInput ℚ :=
  let state := ProjectionState.start gapYearPrepared .zero
  retiredConversionInput NaturalLog.flat gapYearPrepared (1 / 1000, 0) 0 state state.rothBasis 0

theorem gapYearPlan_valid : validatePlan gapYearPlan = .ok () := by decide +kernel

theorem gapYearInput_valid : gapYearInput.Valid := by
  obtain ⟨hprepared, -⟩ := prepared_of_new gapYearPlan_valid
    (rfl : PreparedPlan.new gapYearPlan = .ok gapYearPrepared)
  have hstate := ProjectionState.start_valid hprepared ⟨0, le_rfl, one_pos⟩
  exact retiredConversionInput_valid _ _ _ hprepared hstate.buckets hstate.allowance_nonneg
    hstate.care_valid hstate.ledger le_rfl

theorem rothConversion_never_breaches_gapYear :
    (∃ limit, ceilingLimit gapYearInput = some limit ∧
      measure (rothConversionFor gapYearInput).converted
        ((rothConversionFor gapYearInput).fromTaxable * gapYearInput.taxableGainRatio)
        gapYearInput ≤ limit) ∧
    ∃ magi, (stateAt NaturalLog.flat gapYearPrepared ⟨0, le_rfl, one_pos⟩
        (fun _ => (1 / 1000, 0)) 2).magiByYear[0]? = some magi ∧ magi.total ≤ 109000 := by
  obtain ⟨hfits, hrecorded⟩ := rothConversion_never_breaches NaturalLog.flat gapYearPlan_valid
    (rfl : PreparedPlan.new gapYearPlan = .ok gapYearPrepared) ⟨0, le_rfl, one_pos⟩
    fun _ => (1 / 1000, 0)
  exact ⟨hfits gapYearInput gapYearInput_valid (by decide +kernel),
    hrecorded rfl 0 (by decide) (by decide +kernel)⟩

end RetirementPlanner.Engine
