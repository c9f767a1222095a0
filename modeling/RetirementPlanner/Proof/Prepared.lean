import RetirementPlanner.Proof.Amounts
import RetirementPlanner.Proof.Evaluation

/-!
# The prepared plan

What `PreparedPlan.new` derives from an accepted plan (`prepared_of_new`): one
solvent bucket for each type held, a first year of positive length, and a horizon
past both ages. The contexts it solves retired years in are valid
(`withdrawalContext_valid`).
-/

namespace RetirementPlanner.Engine

variable {K : Type*} [Field K] [LinearOrder K]

/-! ## The first year's length -/

theorem NaiveDate.dayOfYear_le (d : NaiveDate) :
    d.dayOfYear ≤ if isLeapYear d.year then 366 else 365 := by
  obtain ⟨year, month, day, ⟨hmonth, hmonth'⟩, -, hday⟩ := d
  simp only [NaiveDate.dayOfYear]
  interval_cases month <;> cases hleap : isLeapYear year <;>
    simp [daysInMonth, hleap, List.range'] at hday ⊢ <;> omega

variable [IsStrictOrderedRing K]

/-! ## Buckets -/

omit [IsStrictOrderedRing K] in
theorem toBuckets_types (accounts : List (Account K)) :
    ((toBuckets accounts).map (·.accountType)).Sublist bucketOrder := by
  have hstep (types : List AccountType) : ((types.filterMap fun accountType =>
      let members := accounts.filter (·.accountType = accountType)
      if members = [] then none
      else
        let balance := (members.map (·.balance)).sum
        let stocks :=
          if 0 < balance then (members.map fun a => a.balance * a.assetWeights.stocks).sum / balance
          else (members.map (·.assetWeights.stocks)).sum / members.length
        some
          { accountType
            balance
            assetWeights := ⟨stocks, 1 - stocks⟩
            isSurplusCash := false : Account K }).map (·.accountType)).Sublist types := by
    induction types with
    | nil => exact List.Sublist.slnil
    | cons t types ih =>
      by_cases hmembers : accounts.filter (·.accountType = t) = []
      · rw [List.filterMap_cons_none (by simp [hmembers])]
        exact ih.cons t
      · rw [List.filterMap_cons_some (by simp only [hmembers, if_false]; rfl)]
        exact ih.cons_cons t
  exact hstep bucketOrder

theorem toBuckets_solvent {accounts : List (Account K)} (h : Solvent accounts) :
    Solvent (toBuckets accounts) := by
  intro bucket hbucket
  obtain ⟨t, -, hsome⟩ := List.mem_filterMap.mp hbucket
  simp only at hsome
  split at hsome
  · cases hsome
  · cases hsome
    refine List.sum_nonneg fun v hv => ?_
    obtain ⟨account, haccount, rfl⟩ := List.mem_map.mp hv
    exact h account (List.mem_of_mem_filter haccount)

theorem toBuckets_buckets {accounts : List (Account K)} (h : Solvent accounts) :
    Buckets (toBuckets accounts) :=
  ⟨toBuckets_solvent h, (toBuckets_types accounts).nodup (by decide)⟩

omit [IsStrictOrderedRing K] in
theorem ValidPlan.solvent {plan : RetirementPlan K} (h : ValidPlan plan) :
    Solvent plan.accounts := by
  intro account haccount
  have hvalid := h.accounts_valid account haccount
  simp only [Account.isValid, Bool.and_eq_true, decide_eq_true_eq] at hvalid
  exact hvalid.1.1.1.1

/-! ## What preparing gives -/

/-- What a projection of an accepted plan starts from. -/
structure Prepared (prepared : PreparedPlan K) : Prop where
  plan_valid : ValidPlan prepared.plan
  buckets : Buckets prepared.buckets
  fraction_pos : 0 < prepared.remainingYearFraction
  fraction_le_one : prepared.remainingYearFraction ≤ 1
  totalYears_eq : prepared.totalYears = prepared.plan.profile.lifeExpectancy - prepared.age + 1
  age_lt : prepared.age < prepared.plan.profile.lifeExpectancy

theorem prepared_of_new {plan : RetirementPlan K} {prepared : PreparedPlan K}
    (hplan : validatePlan plan = .ok ()) (h : PreparedPlan.new plan = .ok prepared) :
    Prepared prepared ∧ prepared.plan = plan := by
  have hvalid := validPlan_of_validatePlan hplan
  obtain ⟨asOfDate, age, hasOf, hage, -, -, -, -, hlife⟩ := hvalid.dates
  cases hbirth : birthYearOf plan.profile.birthDate with
  | error e => simp [PreparedPlan.new, hasOf, hbirth] at h
  | ok birthYear =>
    rw [hasOf] at hage
    simp only [PreparedPlan.new, hasOf, hbirth, hage, Except.ok.injEq] at h
    subst h
    have hday : (asOfDate.dayOfYear : K) ≤ if isLeapYear asOfDate.year then 366 else 365 := by
      have := asOfDate.dayOfYear_le
      split at this <;> split <;> first | contradiction | exact_mod_cast this
    set days : K := if isLeapYear asOfDate.year then 366 else 365 with hdays
    have hpos : 0 < days := by rw [hdays]; split <;> norm_num
    refine ⟨⟨hvalid, toBuckets_buckets hvalid.solvent, ?_, min_le_right _ _, rfl, hlife⟩, rfl⟩
    refine lt_min (lt_max_of_lt_left (div_pos ?_ hpos)) zero_lt_one
    linarith

omit [IsStrictOrderedRing K] in
/-- An accepted plan is projected from a year of this age. -/
theorem currentYear_mem {plan : RetirementPlan K} {prepared : PreparedPlan K}
    (hplan : validatePlan plan = .ok ()) (h : PreparedPlan.new plan = .ok prepared) :
    1900 ≤ prepared.currentYear ∧ prepared.currentYear ≤ 2200 := by
  obtain ⟨asOfDate, age, hasOf, hage, hlow, hhigh, -⟩ := (validPlan_of_validatePlan hplan).dates
  cases hbirth : birthYearOf plan.profile.birthDate with
  | error e => simp [PreparedPlan.new, hasOf, hbirth] at h
  | ok birthYear =>
    rw [hasOf] at hage
    simp only [PreparedPlan.new, hasOf, hbirth, hage, Except.ok.injEq] at h
    subst h
    exact ⟨hlow, hhigh⟩

omit [IsStrictOrderedRing K] in
/-- An accepted plan can be prepared. -/
theorem exists_prepared {plan : RetirementPlan K} (hplan : validatePlan plan = .ok ()) :
    ∃ prepared, PreparedPlan.new plan = .ok prepared := by
  obtain ⟨asOfDate, age, hasOf, hage, -⟩ := (validPlan_of_validatePlan hplan).dates
  cases hbirth : plan.profile.birthDate with
  | none => simp [ageOn, hbirth] at hage
  | some birth =>
    refine ⟨PreparedPlan.onDates plan asOfDate birth.year age, ?_⟩
    rw [hasOf, hbirth] at hage
    simp only [PreparedPlan.new, hasOf, hbirth, birthYearOf, hage]

theorem Prepared.periodFraction_pos {prepared : PreparedPlan K} (h : Prepared prepared)
    (year : ℕ) : 0 < prepared.periodFraction year := by
  rw [PreparedPlan.periodFraction]
  split
  · exact h.fraction_pos
  · exact zero_lt_one

theorem socialSecurityBenefitOf_nonneg [FloorRing K] {prepared : PreparedPlan K}
    (h : Prepared prepared) (year : ℕ) : 0 ≤ socialSecurityBenefitOf prepared year := by
  simp only [socialSecurityBenefitOf]
  split
  · refine mul_nonneg ?_ (h.periodFraction_pos year).le
    split
    · exact le_max_right _ _
    · exact calculateSsaBenefit_nonneg _ _ _
  · exact le_rfl

omit [IsStrictOrderedRing K] in
theorem socialSecurityBenefitOf_age [FloorRing K] {prepared : PreparedPlan K}
    (hplan : ValidPlan prepared.plan) {year : ℕ} (hne : socialSecurityBenefitOf prepared year ≠ 0) :
    62 ≤ prepared.currentAge year := by
  simp only [socialSecurityBenefitOf] at hne
  split at hne
  · rename_i hclaim
    exact hplan.claimAge_ge.trans hclaim.2
  · exact absurd rfl hne

/-- The contexts a projection of an accepted plan solves in are valid. -/
theorem withdrawalContext_valid [FloorRing K] {prepared : PreparedPlan K} (h : Prepared prepared)
    (year : ℕ) {rmdAmount allowance : K} (hrmd : 0 ≤ rmdAmount) (hallowance : 0 ≤ allowance) :
    (withdrawalContext prepared year (socialSecurityBenefitOf prepared year) rmdAmount
      allowance).Valid where
  household_eq := ⟨_, rfl⟩
  benefit_nonneg := socialSecurityBenefitOf_nonneg h year
  benefit_age := socialSecurityBenefitOf_age h.plan_valid
  rmd_nonneg := hrmd
  gainRatio_nonneg := h.plan_valid.taxableGainRatio_nonneg
  gainRatio_le_one := h.plan_valid.taxableGainRatio_le_one
  allowance_nonneg := hallowance

/-! ## A plan to evaluate on -/

/-- A logarithm for paths whose care costs stay in the closed buckets, where none is
taken. -/
def NaturalLog.flat : NaturalLog ℚ := ⟨fun _ => 0, rfl, fun _ _ => le_rfl⟩

/-- A retiree of 63 in California with a large benefit, a Traditional and an HSA
balance of a million each, and a year's spending that takes about one of them. -/
def largeBenefitPlan : RetirementPlan ℚ where
  schemaVersion := 8
  profile :=
    { birthDate := some (newYear 1962)
      state := .CA
      filingStatus := .single
      retirementAge := 62
      currentSalary := 0
      salaryGrowthRate := 0
      currentSpending := 0
      workingSpendingGrowthRate := 0
      retirementSpending := 3641000
      retirementSpendingGrowthRate := 0
      lifeExpectancy := 64
      retirementHealthcare := ⟨0, 0, 0, 0⟩
      longTermCare := ⟨false, 1⟩
      asOfDate := some (newYear 2025) }
  accounts := [⟨.traditional, 1000000, ⟨1, 0⟩, false⟩, ⟨.hsa, 1000000, ⟨1, 0⟩, false⟩]
  socialSecurity := ⟨true, some 4000000, 62, true⟩
  assumptions :=
    { simulationModel := .historical
      randomSeed := 1
      taxableGainRatio := 1 / 2
      hsaEligible := false
      useBackdoorRoth := false
      rothConversion := ⟨false, .bracket12⟩
      magiAwareWithdrawals := false
      terminalTaxRate := 0 }

/-- `largeBenefitPlan`, prepared. -/
def largeBenefitPrepared : PreparedPlan ℚ :=
  PreparedPlan.onDates largeBenefitPlan (newYear 2025) 1962 63

theorem largeBenefitPlan_valid : validatePlan largeBenefitPlan = .ok () := by decide +kernel

theorem largeBenefitPlan_prepared :
    PreparedPlan.new largeBenefitPlan = .ok largeBenefitPrepared := rfl

end RetirementPlanner.Engine
