import RetirementPlanner.Proof.IncomeTax

/-!
# The tax of a year

What the results about the projection need of `tax.rs`:

* `workingTax_mono`: a working year's tax rises with the income it is on, and
  falls with the contributions it deducts;
* `retirementTax_mono`: a retirement year's tax rises with ordinary income and
  with gains;
* `retirementTax_slope`: and a dollar more of either costs less than a dollar of tax;
* `retirementTax_le`: a crude bound, by the top rates.
-/

namespace RetirementPlanner.Engine

open Schedule

variable {K : Type*} [Field K] [LinearOrder K] [IsStrictOrderedRing K]

/-! ## Taxable Social Security -/

/-- The taxable part of a benefit in closed form: half of what lies between the
tiers and 85% of what lies above, each capped. -/
def taxableBenefit (benefit tier1 tier2 combined : K) : K :=
  min (0.85 * benefit)
    (min (0.5 * benefit) (0.5 * ramp tier1 (min combined tier2)) + 0.85 * ramp tier2 combined)

theorem min_add_ramp (t x : K) : min x t + ramp t x = x := by
  rcases le_total x t with h | h
  · rw [min_eq_left h, ramp_of_le h, add_zero]
  · rw [min_eq_right h, ramp_of_ge h, add_sub_cancel]

theorem taxableBenefit_nonneg {benefit : K} (h : 0 ≤ benefit) (tier1 tier2 combined : K) :
    0 ≤ taxableBenefit benefit tier1 tier2 combined := by
  have h1 := ramp_nonneg tier1 (min combined tier2)
  have h2 := ramp_nonneg tier2 combined
  have h3 : 0 ≤ min (0.5 * benefit) (0.5 * ramp tier1 (min combined tier2)) :=
    le_min (by linarith) (by linarith)
  exact le_min (by linarith) (by linarith)

omit [IsStrictOrderedRing K] in
theorem taxableBenefit_le (benefit tier1 tier2 combined : K) :
    taxableBenefit benefit tier1 tier2 combined ≤ 0.85 * benefit :=
  min_le_left _ _

theorem taxableBenefit_mono (benefit tier1 tier2 : K) {c c' : K} (h : c ≤ c') :
    taxableBenefit benefit tier1 tier2 c ≤ taxableBenefit benefit tier1 tier2 c' := by
  have h1 := ramp_mono tier1 (min_le_min_right tier2 h)
  have h2 := ramp_mono tier2 h
  refine min_le_min le_rfl (add_le_add (min_le_min le_rfl ?_) ?_) <;> linarith

/-- A dollar of combined income makes at most 85 cents of the benefit taxable. -/
theorem taxableBenefit_slope (benefit tier1 tier2 : K) {c c' : K} (h : c ≤ c') :
    taxableBenefit benefit tier1 tier2 c' - taxableBenefit benefit tier1 tier2 c
      ≤ 0.85 * (c' - c) := by
  have hmin := min_le_min_right tier2 h
  have h1 := ramp_sub_le tier1 hmin
  have h2 := min_add_ramp tier2 c
  have h2' := min_add_ramp tier2 c'
  set r := ramp tier1 (min c tier2)
  set r' := ramp tier1 (min c' tier2)
  -- The lower tier moves with the income below the upper tier, the upper with the rest.
  have hlow : min (0.5 * benefit) (0.5 * r')
      ≤ min (0.5 * benefit) (0.5 * r) + 0.5 * (min c' tier2 - min c tier2) := by
    rcases min_choice (0.5 * benefit) (0.5 * r) with hr | hr <;> rw [hr]
    · exact (min_le_left _ _).trans (by linarith)
    · exact (min_le_right _ _).trans (by linarith)
  simp only [taxableBenefit]
  rw [sub_le_iff_le_add]
  rcases min_choice (0.85 * benefit)
    (min (0.5 * benefit) (0.5 * r) + 0.85 * ramp tier2 c) with hr | hr <;> rw [hr]
  · exact (min_le_left _ _).trans (by linarith)
  · exact (min_le_right _ _).trans (by linarith)

theorem socialSecurityTiers_le (filingStatus : FilingStatus) :
    (socialSecurityTiers filingStatus).1 ≤ ((socialSecurityTiers filingStatus).2 : K) := by
  cases filingStatus <;> norm_num [socialSecurityTiers]

/-- The benefit's taxable part under the tiers of a filing status and tax year. -/
def taxableBenefitOf (filingStatus : FilingStatus) (taxYear : ℤ) (benefit income : K) : K :=
  taxableBenefit benefit (frozenThreshold (socialSecurityTiers filingStatus).1 taxYear)
    (frozenThreshold (socialSecurityTiers filingStatus).2 taxYear) (income + benefit * 0.5)

theorem calculateTaxableSocialSecurity_eq (filingStatus : FilingStatus) (taxYear : ℤ)
    {benefit : K} (hb : 0 ≤ benefit) (other qualified : K) :
    calculateTaxableSocialSecurity other benefit qualified filingStatus taxYear
      = taxableBenefitOf filingStatus taxYear benefit (other + qualified) := by
  have htiers := frozenThreshold_mono (socialSecurityTiers_le (K := K) filingStatus) taxYear
  simp only [calculateTaxableSocialSecurity, taxableBenefitOf, taxableBenefit]
  set t1 := frozenThreshold (socialSecurityTiers (K := K) filingStatus).1 taxYear
  set t2 := frozenThreshold (socialSecurityTiers (K := K) filingStatus).2 taxYear
  set c := other + qualified + benefit * 0.5
  have hhalf : (0 : K) ≤ 0.5 * benefit := by linarith
  split_ifs with h0 h1 h2
  · have := ramp_nonneg t1 (min c t2)
    have := ramp_nonneg t2 c
    rw [h0, mul_zero, mul_zero, min_eq_left (by linarith : (0 : K) ≤ 0.5 * ramp t1 (min c t2)),
      min_eq_left (by linarith)]
  · rw [min_eq_left (h1.trans htiers), ramp_of_le h1, ramp_of_le (h1.trans htiers), mul_zero,
      min_eq_right hhalf, mul_zero, add_zero, min_eq_right (by linarith)]
  · have hle := min_le_left (0.5 * benefit) (0.5 * (c - t1))
    rw [min_eq_left h2, ramp_of_ge (not_le.mp h1).le, ramp_of_le h2, mul_zero, add_zero,
      mul_comm benefit, mul_comm (c - t1)]
    exact (min_eq_right (by linarith)).symm
  · have hc := (not_le.mp h2).le
    rw [min_eq_right hc, ramp_of_ge htiers, ramp_of_ge hc, mul_comm benefit, mul_comm benefit,
      mul_comm (t2 - t1), mul_comm (c - t2), add_comm]

/-! ## Retirement years -/

/-- Ordinary income with the taxable part of the benefit. -/
def ordinaryWithBenefit (filingStatus : FilingStatus) (taxYear : ℤ)
    (ordinary benefit qualified : K) : K :=
  ordinary + taxableBenefitOf filingStatus taxYear benefit (ordinary + qualified)

theorem ordinaryWithBenefit_mono (filingStatus : FilingStatus) (taxYear : ℤ) (benefit : K)
    {x x' q q' : K} (hx : x ≤ x') (hq : q ≤ q') :
    ordinaryWithBenefit filingStatus taxYear x benefit q
      ≤ ordinaryWithBenefit filingStatus taxYear x' benefit q' :=
  add_le_add hx (taxableBenefit_mono _ _ _ (by linarith))

theorem ordinaryWithBenefit_slope (filingStatus : FilingStatus) (taxYear : ℤ) (benefit : K)
    {x x' q q' : K} (hx : x ≤ x') (hq : q ≤ q') :
    ordinaryWithBenefit filingStatus taxYear x' benefit q'
        - ordinaryWithBenefit filingStatus taxYear x benefit q
      ≤ 1.85 * (x' - x) + 0.85 * (q' - q) := by
  have := taxableBenefit_slope benefit
    (frozenThreshold (socialSecurityTiers filingStatus).1 taxYear)
    (frozenThreshold (socialSecurityTiers filingStatus).2 taxYear)
    (by linarith : x + q + benefit * 0.5 ≤ x' + q' + benefit * 0.5)
  simp only [ordinaryWithBenefit, taxableBenefitOf]
  linarith

/-- A retirement year's tax as a function of its ordinary income and its gains. -/
def retirementTaxOn (household : Household) (state : State) (taxYear : ℤ)
    (ordinary benefit qualified : K) : K :=
  (calculateRetirementTax ordinary benefit qualified household state taxYear).totalTax

theorem retirementTaxOn_eq (household : Household) (state : State) (taxYear : ℤ)
    {x benefit q : K} (hb : 0 ≤ benefit) (hq : 0 ≤ q) :
    retirementTaxOn household state taxYear x benefit q
      = incomeTax household.filingStatus
          (ordinaryWithBenefit household.filingStatus taxYear x benefit q
            - deductionFor household taxYear
              (ordinaryWithBenefit household.filingStatus taxYear x benefit q + q)) q
        + investmentTax household.filingStatus taxYear
          (ordinaryWithBenefit household.filingStatus taxYear x benefit q) q
        + stateSchedule state household.filingStatus (x + q) := by
  have hbase : StateTaxInput.base state ⟨0, x, q, benefit, 0, 0⟩ = x + q := by
    cases state <;> simp [StateTaxInput.base, stateTaxProfile]
  simp only [retirementTaxOn, calculateRetirementTax, ordinaryWithBenefit,
    calculateTaxableSocialSecurity_eq household.filingStatus taxYear hb, federalTaxOn_eq _ _ hq,
    stateTaxOf_eq, hbase]

theorem retirementTax_mono (household : Household) (state : State) (taxYear : ℤ)
    {x x' benefit q q' : K} (hb : 0 ≤ benefit) (hx : x ≤ x') (hq0 : 0 ≤ q) (hq : q ≤ q') :
    retirementTaxOn household state taxYear x benefit q
      ≤ retirementTaxOn household state taxYear x' benefit q' := by
  rw [retirementTaxOn_eq _ _ _ hb hq0, retirementTaxOn_eq _ _ _ hb (hq0.trans hq)]
  have ho := ordinaryWithBenefit_mono household.filingStatus taxYear benefit hx hq
  have hd := deductionFor_antitone household taxYear (add_le_add ho hq)
  have h1 := incomeTax_mono household.filingStatus (sub_le_sub ho hd) hq0 hq
  have h2 := investmentTax_mono household.filingStatus taxYear ho hq
  have h3 := stateSchedule_mono state household.filingStatus (add_le_add hx hq)
  exact add_le_add (add_le_add h1 h2) h3

/-- The room under the top gains threshold at any income where the enhanced
deduction still phases out is worth more than the deduction. -/
theorem obbbaPhaseoutEnd_add_le (filingStatus : FilingStatus)
    (h : filingStatus ≠ .marriedFilingSeparately) :
    obbbaPhaseoutEnd filingStatus + 300000 ≤ (ltcgTopThreshold filingStatus : K) := by
  cases filingStatus
  case marriedFilingSeparately => exact absurd rfl h
  all_goals
    simp only [obbbaPhaseoutEnd, obbbaPhaseoutStart, obbbaPhaseoutStartJoint,
      obbbaPhaseoutStartOther, ltcgTopThreshold, reduceCtorEq, if_true, if_false]
    norm_num

/-- For one person, a dollar of ordinary income costs at most 99 cents of income tax
and a dollar of gains at most 81, even where it also makes benefits taxable and phases
out the senior deduction. -/
theorem retirementTax_slope (filingStatus : FilingStatus) (age : ℕ) (state : State) (taxYear : ℤ)
    {x x' benefit q q' : K} (hb : 0 ≤ benefit) (hx : x ≤ x') (hq0 : 0 ≤ q) (hq : q ≤ q') :
    retirementTaxOn (.single filingStatus age) state taxYear x' benefit q'
        - retirementTaxOn (.single filingStatus age) state taxYear x benefit q
      ≤ 0.99 * (x' - x) + 0.81 * (q' - q) := by
  rw [retirementTaxOn_eq _ _ _ hb hq0, retirementTaxOn_eq _ _ _ hb (hq0.trans hq)]
  have hstatus : (Household.single filingStatus age).filingStatus = filingStatus := rfl
  rw [hstatus]
  set o := ordinaryWithBenefit filingStatus taxYear x benefit q
  set o' := ordinaryWithBenefit filingStatus taxYear x' benefit q'
  have hoo : o ≤ o' := ordinaryWithBenefit_mono filingStatus taxYear benefit hx hq
  have hslope : o' - o ≤ 1.85 * (x' - x) + 0.85 * (q' - q) :=
    ordinaryWithBenefit_slope filingStatus taxYear benefit hx hq
  have hm : o + q ≤ o' + q' := add_le_add hoo hq
  set d := deductionFor (.single filingStatus age) taxYear (o + q)
  set d' := deductionFor (.single filingStatus age) taxYear (o' + q')
  have hd : d' ≤ d := deductionFor_antitone _ _ hm
  have hz : o - d ≤ o' - d' := sub_le_sub hoo hd
  have hinvest := investmentTax_slope filingStatus taxYear hoo hq0 hq
  have hstate := stateSchedule_slope state filingStatus (add_le_add hx hq)
  rcases deductionFor_single_loss filingStatus age taxYear hm with hloss | ⟨hend, hloss⟩
  · have hincome := incomeTax_slope filingStatus hz hq
    linarith
  · have hsix : d - d' ≤ 0.06 * ((o' + q') - (o + q)) := deductionFor_slope _ _ hm
    have hd0 : 0 ≤ d := deductionFor_nonneg _ _ _
    by_cases hseparate : filingStatus = .marriedFilingSeparately
    · -- Separate filers have no enhanced deduction to lose.
      have hne : ¬enhancedApplies (.single filingStatus age) taxYear :=
        fun he => he.2.1 hseparate
      have hdd : d = d' :=
        (deductionFor_of_not_enhanced hne _).trans (deductionFor_of_not_enhanced hne _).symm
      have hincome := incomeTax_slope filingStatus hz hq
      linarith
    have hroom := obbbaPhaseoutEnd_add_le (K := K) filingStatus hseparate
    rcases incomeTax_slope_of_room filingStatus hz hq
      (by linarith : o - d + q + 300000 ≤ ltcgTopThreshold filingStatus) (by norm_num)
      with hincome | hincome
    · linarith
    · linarith

theorem incomeTax_le (filingStatus : FilingStatus) (z : K) {gains : K} (hg : 0 ≤ gains) :
    incomeTax filingStatus z gains ≤ 0.37 * max z 0 + 0.20 * gains := by
  have h1 := value_mono (federalKinks_upward filingStatus) (le_max_left z 0)
  have h2 := slope_le (federalKinks_slopes filingStatus) (le_max_right z 0)
  have h3 := slope_le (ltcgKinks_slopes filingStatus) (by linarith : z ≤ z + gains)
  rw [value_federalKinks_of_nonpos filingStatus le_rfl] at h2
  simp only [incomeTax]
  linarith

/-- A crude bound on a retirement year's tax, by the top rates. -/
theorem retirementTax_le (household : Household) (state : State) (taxYear : ℤ)
    {x benefit q : K} (hb : 0 ≤ benefit) (hx : 0 ≤ x) (hq : 0 ≤ q) :
    retirementTaxOn household state taxYear x benefit q
      ≤ 0.503 * x + 0.371 * q + 0.3145 * benefit := by
  rw [retirementTaxOn_eq _ _ _ hb hq]
  set o := ordinaryWithBenefit household.filingStatus taxYear x benefit q with ho
  have htaxable : o ≤ x + 0.85 * benefit := by
    have := taxableBenefit_le benefit
      (frozenThreshold (socialSecurityTiers household.filingStatus).1 taxYear)
      (frozenThreshold (socialSecurityTiers household.filingStatus).2 taxYear)
      (x + q + benefit * 0.5)
    simp only [ho, ordinaryWithBenefit, taxableBenefitOf]
    linarith
  have hd := deductionFor_nonneg household taxYear (o + q)
  have hmax : max (o - deductionFor household taxYear (o + q)) 0 ≤ x + 0.85 * benefit :=
    max_le (by linarith) (by linarith)
  have h1 := incomeTax_le household.filingStatus (o - deductionFor household taxYear (o + q)) hq
  have h2 := investmentTax_le household.filingStatus taxYear o hq
  have h3 := stateSchedule_slope state household.filingStatus (add_nonneg hx hq)
  rw [stateSchedule_zero] at h3
  linarith

theorem retirementTax_nonneg (household : Household) (state : State) (taxYear : ℤ)
    {x benefit q : K} (hb : 0 ≤ benefit) (hx : 0 ≤ x) (hq : 0 ≤ q) :
    0 ≤ retirementTaxOn household state taxYear x benefit q := by
  rw [retirementTaxOn_eq _ _ _ hb hq]
  have h3 := stateSchedule_mono state household.filingStatus (add_nonneg hx hq)
  rw [stateSchedule_zero] at h3
  exact add_nonneg (add_nonneg (incomeTax_nonneg _ _ hq) (investmentTax_nonneg _ _ _ _)) h3

/-! ## Working years -/

/-- A working year's tax as a function of the contributions it deducts and of the
income beside wages. -/
def workingTaxOn (grossIncome : K) (household : Household) (state : State) (taxYear : ℤ)
    (hsa k401 otherOrdinary qualified : K) : K :=
  let ordinary := grossIncome - hsa - k401 + otherOrdinary
  incomeTax household.filingStatus
      (ordinary - deductionFor household taxYear (ordinary + qualified)) qualified
    + investmentTax household.filingStatus taxYear ordinary qualified
    + stateSchedule state household.filingStatus
      (StateTaxInput.base state ⟨grossIncome, otherOrdinary, qualified, 0, hsa, k401⟩)
    + ficaTaxOn grossIncome household.filingStatus taxYear

theorem calculateTax_totalTax (grossIncome : K) {qualified : K} (hq : 0 ≤ qualified)
    (household : Household) (state : State) (taxYear : ℤ) (requested : PretaxContributionTargets K)
    (otherOrdinary : K) :
    (calculateTax grossIncome qualified household state taxYear requested otherOrdinary).totalTax
      = workingTaxOn grossIncome household state taxYear
        (calculateTax grossIncome qualified household state taxYear requested
          otherOrdinary).hsaContribution
        (calculateTax grossIncome qualified household state taxYear requested
          otherOrdinary).k401Contribution otherOrdinary qualified := by
  simp only [calculateTax, workingTaxOn, federalTaxOn_eq _ _ hq, stateTaxOf_eq]

/-- No state taxes the benefit, so it does not enter. -/
theorem StateTaxInput.base_mono (state : State) {i j : StateTaxInput K} (hw : i.wages = j.wages)
    (ho : i.otherOrdinary ≤ j.otherOrdinary) (hq : i.qualified ≤ j.qualified)
    (hh : j.pretaxHsa ≤ i.pretaxHsa) (ht : j.pretaxTraditional ≤ i.pretaxTraditional) :
    i.base state ≤ j.base state := by
  cases state
  case CA =>
    simp only [StateTaxInput.base, stateTaxProfile, if_true, Bool.false_eq_true, if_false]
    linarith
  all_goals
    simp only [StateTaxInput.base, stateTaxProfile, if_true]
    linarith

/-- A working year's tax rises with the income beside wages and falls with the
contributions it deducts. -/
theorem workingTax_mono (grossIncome : K) (household : Household) (state : State) (taxYear : ℤ)
    {hsa hsa' k401 k401' other other' q q' : K} (hhsa : hsa' ≤ hsa) (hk : k401' ≤ k401)
    (hother : other ≤ other') (hq0 : 0 ≤ q) (hq : q ≤ q') :
    workingTaxOn grossIncome household state taxYear hsa k401 other q
      ≤ workingTaxOn grossIncome household state taxYear hsa' k401' other' q' := by
  have ho : grossIncome - hsa - k401 + other ≤ grossIncome - hsa' - k401' + other' := by linarith
  have hd := deductionFor_antitone household taxYear (add_le_add ho hq)
  have h1 := incomeTax_mono household.filingStatus (sub_le_sub ho hd) hq0 hq
  have h2 := investmentTax_mono household.filingStatus taxYear ho hq
  have h3 := stateSchedule_mono state household.filingStatus
    (StateTaxInput.base_mono state (i := ⟨grossIncome, other, q, 0, hsa, k401⟩)
      (j := ⟨grossIncome, other', q', 0, hsa', k401'⟩) rfl hother hq hhsa hk)
  exact add_le_add_left (add_le_add (add_le_add h1 h2) h3) _

/-- The top rate of a state's schedule. -/
def topStateRate (state : State) : K := if state = .CA then 0.133 else 0

theorem stateSchedule_slope_top (state : State) (filingStatus : FilingStatus) {x y : K}
    (h : x ≤ y) :
    stateSchedule state filingStatus y - stateSchedule state filingStatus x
      ≤ topStateRate state * (y - x) := by
  cases state
  case CA => exact stateSchedule_slope .CA filingStatus h
  all_goals
    simp only [stateSchedule, topStateRate, reduceCtorEq, if_false, zero_mul, sub_self]
    exact le_rfl

/-- The most a dollar beside wages can cost one person in tax: 42 cents of income tax
where it pushes gains up, the investment tax on them, and the state's top rate. From 65
on it can also phase out six cents of deduction. -/
def workingTaxRate (age : ℕ) (state : State) : K :=
  (if age < medicareAge then 0.458 else 0.4832) + topStateRate state

theorem not_enhancedApplies (filingStatus : FilingStatus) {age : ℕ} (hage : age < medicareAge)
    (taxYear : ℤ) : ¬enhancedApplies (.single filingStatus age) taxYear := fun he => by
  refine he.1 ?_
  have hlt : ¬65 ≤ age := not_le.mpr hage
  simp [Household.seniors, Household.single, hlt]

theorem workingTax_slope (grossIncome : K) (filingStatus : FilingStatus) (age : ℕ) (state : State)
    (taxYear : ℤ) {x x' q q' : K} (hx : x ≤ x') (hq0 : 0 ≤ q) (hq : q ≤ q') :
    workingTaxOn grossIncome (.single filingStatus age) state taxYear 0 0 x' q'
        - workingTaxOn grossIncome (.single filingStatus age) state taxYear 0 0 x q
      ≤ workingTaxRate age state * ((x' - x) + (q' - q)) := by
  have hstatus : (Household.single filingStatus age).filingStatus = filingStatus := rfl
  have ho : grossIncome - 0 - 0 + x ≤ grossIncome - 0 - 0 + x' := by linarith
  have hd := deductionFor_antitone (.single filingStatus age) taxYear (add_le_add ho hq)
  have hincome := incomeTax_slope filingStatus (sub_le_sub ho hd) hq
  have hinvest := investmentTax_slope filingStatus taxYear ho hq0 hq
  have hbase (y g : K) : StateTaxInput.base state ⟨grossIncome, y, g, 0, 0, 0⟩
      = grossIncome + y + g := by
    cases state <;> simp [StateTaxInput.base, stateTaxProfile]
  have hstate := stateSchedule_slope_top state filingStatus
    (by linarith : grossIncome + x + q ≤ grossIncome + x' + q')
  simp only [workingTaxOn, workingTaxRate, hstatus, hbase]
  by_cases hage : age < medicareAge
  · have hne := not_enhancedApplies filingStatus hage taxYear
    rw [deductionFor_of_not_enhanced hne, deductionFor_of_not_enhanced hne] at hincome ⊢
    rw [if_pos hage]
    linarith
  · have hloss := deductionFor_slope (.single filingStatus age) taxYear (add_le_add ho hq)
    rw [if_neg hage]
    linarith

end RetirementPlanner.Engine
