import RetirementPlanner.Proof.Codec
import RetirementPlanner.Web.Wire

/-!
# What the edge admits, the engine reads

The bounds a simulation plan has passed once the edge admits it (`AdmittedPlan`). Such a
plan, forwarded, is read by the service as the plan it is (`deserializePlan_json`) and
passes the service's own checks (`validatePlan_engine`), whichever branch of the schema
admitted it (`simulationPlanSchema_admitted`).
-/

namespace RetirementPlanner.Web

open Schema
open Engine (NaiveDate RetirementHealthcare LongTermCare AssetWeights)

variable {K : Type}

/-! ## Dates -/

/-- A year the schemas admit. -/
def AdmittedDate (date : NaiveDate) : Prop := 1900 ≤ date.year ∧ date.year ≤ 2200

theorem calendarDate_self {date : NaiveDate} (h : AdmittedDate date) :
    calendarDate date.year.toNat date.month date.day = some date := by
  obtain ⟨year, month, day, hmonth, hday⟩ := date
  obtain ⟨hlow, hhigh⟩ := h
  simp only at hlow hhigh
  lift year to ℕ using by omega
  have hrange : ¬(year < 1900 ∨ 2200 < year) := by omega
  simp only [calendarDate, Int.toNat_natCast, if_neg hrange, dif_pos hmonth, dif_pos hday]

theorem isoParts_admitted {date : NaiveDate} (h : AdmittedDate date) :
    isoParts (isoText date) = some (date.year.toNat, date.month, date.day) :=
  isoParts_isoText date (by have := h.1; have := h.2; omega)

theorem isoDateSchema_admitted {value : Option (Json K)} {date : NaiveDate}
    (h : isoDateSchema value = .ok date) : AdmittedDate date := by
  unfold isoDateSchema at h
  split at h
  · split at h
    · cases h
    · split at h
      · rename_i year month day _ _ _ hdate
        cases h
        obtain ⟨hyear, hy, -, -⟩ := calendarDate_eq hdate
        unfold calendarDate at hdate
        split_ifs at hdate with hrange
        exact ⟨by omega, by omega⟩
      · cases h
  · cases h

theorem isoDateSchema_self {date : NaiveDate} (h : AdmittedDate date) :
    isoDateSchema (K := K) (some (.str (isoText date))) = .ok date := by
  simp only [isoDateSchema, isoParts_admitted h, calendarDate_self h]

theorem parseDate_self {date : NaiveDate} (h : AdmittedDate date) :
    parseDate (isoText date) = some date := by
  simp only [parseDate, isoParts_admitted h, Option.bind_some, calendarDate_self h]

/-- The age a browser computes is the one the engine does. -/
theorem engine_ageOn {birthDate asOfDate : NaiveDate} (h : 0 ≤ ageOn birthDate asOfDate) :
    Engine.ageOn (some birthDate) (some asOfDate)
      = .ok (ageOn birthDate asOfDate).toNat := by
  have hsame : decide (birthDate.month < asOfDate.month ∨
      (asOfDate.month = birthDate.month ∧ birthDate.day ≤ asOfDate.day))
      = decide (birthDate.month < asOfDate.month ∨
        (birthDate.month = asOfDate.month ∧ birthDate.day ≤ asOfDate.day)) :=
    decide_eq_decide.mpr (or_congr_right (and_congr_left' eq_comm))
  simp only [ageOn, hsame] at h
  simp only [Engine.ageOn, ageOn, hsame]
  exact if_pos h

/-! ## Bounds -/

variable [Field K] [LinearOrder K]

def AdmittedAmount (high x : K) : Prop := 0 ≤ x ∧ x ≤ high

structure AdmittedHealthcare (healthcare : RetirementHealthcare K) : Prop where
  preMedicarePremium : AdmittedAmount 1000000 healthcare.preMedicarePremium
  medicarePremium : AdmittedAmount 1000000 healthcare.medicarePremium
  outOfPocket : AdmittedAmount 1000000 healthcare.outOfPocket
  realGrowthRate : -0.1 ≤ healthcare.realGrowthRate ∧ healthcare.realGrowthRate ≤ 0.1

def AdmittedCare (care : LongTermCare K) : Prop :=
  0.5 ≤ care.costMultiplier ∧ care.costMultiplier ≤ 3

/-- The bounds every admitted profile has passed, but for the retirement target. -/
structure AdmittedProfile (profile : SimulationProfile K) : Prop where
  birthDate : AdmittedDate profile.birthDate
  asOfDate : AdmittedDate profile.asOfDate
  age : 18 ≤ ageOn profile.birthDate profile.asOfDate ∧
    ageOn profile.birthDate profile.asOfDate ≤ 100
  retirementAge : 45 ≤ profile.retirementAge ∧ profile.retirementAge ≤ 100
  lifeExpectancy : 65 ≤ profile.lifeExpectancy ∧ profile.lifeExpectancy ≤ 120
  horizon : max (ageOn profile.birthDate profile.asOfDate) profile.retirementAge
    < profile.lifeExpectancy
  currentSalary : AdmittedAmount 1000000000 profile.currentSalary
  salaryGrowthRate : -0.1 ≤ profile.salaryGrowthRate ∧ profile.salaryGrowthRate ≤ 0.2
  currentSpending : AdmittedAmount 1000000000 profile.currentSpending
  workingSpendingGrowthRate : -0.1 ≤ profile.workingSpendingGrowthRate ∧
    profile.workingSpendingGrowthRate ≤ 0.1
  retirementSpendingGrowthRate : -0.1 ≤ profile.retirementSpendingGrowthRate ∧
    profile.retirementSpendingGrowthRate ≤ 0.1
  retirementHealthcare : AdmittedHealthcare profile.retirementHealthcare
  longTermCare : AdmittedCare profile.longTermCare

def AdmittedWeights (weights : AssetWeights K) : Prop :=
  (0 ≤ weights.stocks ∧ weights.stocks ≤ 1) ∧ (0 ≤ weights.bonds ∧ weights.bonds ≤ 1) ∧
    |weights.stocks + weights.bonds - 1| < 0.001

structure AdmittedAccount (account : SimulationAccount K) : Prop where
  balance : AdmittedAmount 1000000000000000 account.balance
  assetWeights : AdmittedWeights account.assetWeights

structure AdmittedBenefits (settings : SocialSecuritySettings K) : Prop where
  estimatedBenefit : ∀ benefit ∈ settings.estimatedBenefit, AdmittedAmount 10000000 benefit
  claimAge : 62 ≤ settings.claimAge ∧ settings.claimAge ≤ 70

structure AdmittedSettings (assumptions : AssumptionSettings K) : Prop where
  randomSeed : 0 ≤ assumptions.randomSeed ∧ assumptions.randomSeed ≤ 2 ^ 32 - 1
  taxableGainRatio : AdmittedAmount 1 assumptions.taxableGainRatio
  terminalTaxRate : AdmittedAmount 1 assumptions.terminalTaxRate

/-- The bounds every admitted plan has passed. -/
structure AdmittedPlan (plan : SimulationPlan K) : Prop where
  schemaVersion : 0 ≤ plan.schemaVersion ∧ plan.schemaVersion ≤ 8
  profile : AdmittedProfile plan.profile
  retirementSpending : AdmittedAmount 1000000000 plan.profile.retirementSpending
  accounts : ∀ account ∈ plan.accounts, AdmittedAccount account
  socialSecurity : AdmittedBenefits plan.socialSecurity
  assumptions : AdmittedSettings plan.assumptions

/-! ## What the schemas admit -/

theorem assetWeightsSchema_admitted {value : Option (Json K)} {weights : AssetWeights K}
    (h : assetWeightsSchema value = .ok weights) : AdmittedWeights weights := by
  simp only [assetWeightsSchema, refined_ok, bind_ok, object_ok, field_ok, between_ok,
    decide_eq_true_eq] at h
  obtain ⟨⟨fields, -, stocks, ⟨-, hstocks⟩, bonds, ⟨-, hbonds⟩, heq⟩, hsum⟩ := h
  cases heq
  exact ⟨hstocks, hbonds, hsum⟩

theorem simulationAccountSchema_admitted {value : Option (Json K)} {account : SimulationAccount K}
    (h : simulationAccountSchema value = .ok account) : AdmittedAccount account := by
  simp only [simulationAccountSchema, bind_ok, object_ok, field_ok, between_ok] at h
  obtain ⟨fields, -, type, -, balance, ⟨-, hbalance⟩, weights, hweights, heq⟩ := h
  cases heq
  exact ⟨hbalance, assetWeightsSchema_admitted hweights⟩

theorem retirementHealthcareSchema_admitted {value : Option (Json K)}
    {healthcare : RetirementHealthcare K} (h : retirementHealthcareSchema value = .ok healthcare) :
    AdmittedHealthcare healthcare := by
  simp only [retirementHealthcareSchema, bind_ok, object_ok, field_ok, between_ok] at h
  obtain ⟨fields, -, pre, ⟨-, hpre⟩, medicare, ⟨-, hmedicare⟩, pocket, ⟨-, hpocket⟩, growth,
    ⟨-, hgrowth⟩, heq⟩ := h
  cases heq
  exact ⟨hpre, hmedicare, hpocket, hgrowth⟩

theorem longTermCareSchema_admitted {value : Option (Json K)} {care : LongTermCare K}
    (h : longTermCareSchema value = .ok care) : AdmittedCare care := by
  simp only [longTermCareSchema, bind_ok, object_ok, field_ok, between_ok] at h
  obtain ⟨fields, -, enabled, -, multiplier, ⟨-, hmultiplier⟩, heq⟩ := h
  cases heq
  exact hmultiplier

omit [Field K] [LinearOrder K] in
theorem withProfileRules_ok {α : Type} {birthDate asOfDate : NaiveDate}
    {retirementAge lifeExpectancy : ℤ} {profile profile' : α} :
    withProfileRules birthDate asOfDate retirementAge lifeExpectancy profile = .ok profile' ↔
      (18 ≤ ageOn birthDate asOfDate ∧ ageOn birthDate asOfDate ≤ 100) ∧
        max (ageOn birthDate asOfDate) retirementAge < lifeExpectancy ∧ profile = profile' := by
  simp only [withProfileRules]
  split_ifs with hage hhorizon
  · simp [hage, hhorizon]
  · simp [hage, hhorizon]
  · simp [hage]

variable [FloorRing K] [IsStrictOrderedRing K]

theorem socialSecuritySettingsSchema_admitted {value : Option (Json K)}
    {settings : SocialSecuritySettings K} (h : socialSecuritySettingsSchema value = .ok settings) :
    AdmittedBenefits settings := by
  simp only [socialSecuritySettingsSchema, bind_ok, object_ok, field_ok, integerBetween_ok,
    optional_ok, between_ok] at h
  obtain ⟨fields, -, enabled, -, benefit, hbenefit, age, ⟨-, hage⟩, override, -, heq⟩ := h
  cases heq
  refine ⟨fun x hx => ?_, hage⟩
  rcases hbenefit with ⟨-, rfl⟩ | ⟨json, x', -, ⟨-, hx'⟩, rfl⟩
  · cases hx
  · cases hx
    exact hx'

theorem projectionSettingsSchema_admitted {value : Option (Json K)}
    {assumptions : AssumptionSettings K} (h : projectionSettingsSchema value = .ok assumptions) :
    AdmittedSettings assumptions := by
  simp only [projectionSettingsSchema, bind_ok, object_ok, field_ok, withDefault_ok,
    integerBetween_ok, between_ok] at h
  obtain ⟨fields, -, seed, hseed, model, -, ratio, ⟨-, hratio⟩, hsa, -, backdoor, -, policy, -,
    magi, -, rate, hrate, heq⟩ := h
  cases heq
  refine ⟨?_, hratio, ?_⟩
  · rcases hseed with ⟨-, rfl⟩ | ⟨json, -, -, hseed⟩
    · show (0 : ℤ) ≤ 42 ∧ (42 : ℤ) ≤ 2 ^ 32 - 1
      decide
    · exact hseed
  · rcases hrate with ⟨-, rfl⟩ | ⟨json, -, -, hrate⟩
    · constructor <;> norm_num
    · exact hrate

theorem simulationProfileSchema_admitted {value : Option (Json K)} {profile : SimulationProfile K}
    (h : simulationProfileSchema value = .ok profile) :
    AdmittedProfile profile ∧ AdmittedAmount 1000000000 profile.retirementSpending := by
  simp only [simulationProfileSchema, bind_ok, object_ok, field_ok, integerBetween_ok, between_ok,
    growthRate, withProfileRules_ok] at h
  obtain ⟨fields, -, birthDate, hbirth, state, -, status, -, retirementAge, ⟨-, hretirement⟩,
    salary, ⟨-, hsalary⟩, salaryGrowth, ⟨-, hsalaryGrowth⟩, spending, ⟨-, hspending⟩, growth,
    ⟨-, hgrowth⟩, retirementGrowth, ⟨-, hretirementGrowth⟩, life, ⟨-, hlife⟩, healthcare,
    hhealthcare, care, hcare, asOf, hasOf, target, ⟨-, htarget⟩, hage, hhorizon, heq⟩ := h
  cases heq
  exact ⟨⟨isoDateSchema_admitted hbirth, isoDateSchema_admitted hasOf, hage, hretirement, hlife,
    hhorizon, hsalary, hsalaryGrowth, hspending, hgrowth, hretirementGrowth,
    retirementHealthcareSchema_admitted hhealthcare, longTermCareSchema_admitted hcare⟩, htarget⟩

theorem currentSimulationPlanSchema_admitted {value : Option (Json K)} {plan : SimulationPlan K}
    (h : currentSimulationPlanSchema value = .ok plan) : AdmittedPlan plan := by
  simp only [currentSimulationPlanSchema, bind_ok, object_ok, field_ok, refined_ok,
    decide_eq_true_eq] at h
  obtain ⟨fields, -, version, ⟨-, hversion⟩, profile, hprofile, accounts, haccounts, benefits,
    hbenefits, assumptions, hassumptions, heq⟩ := h
  cases heq
  have hvalid := simulationProfileSchema_admitted hprofile
  refine ⟨?_, hvalid.1, hvalid.2,
    array_forall (fun _ _ => simulationAccountSchema_admitted) haccounts,
    socialSecuritySettingsSchema_admitted hbenefits,
    projectionSettingsSchema_admitted hassumptions⟩
  subst hversion
  show (0 : ℤ) ≤ 8 ∧ (8 : ℤ) ≤ 8
  decide

theorem legacySimulationPlanSchema_admitted {value : Option (Json K)} {plan : SimulationPlan K}
    (h : legacySimulationPlanSchema value = .ok plan) : AdmittedPlan plan := by
  simp only [legacySimulationPlanSchema, legacySimulationProfileSchema,
    legacyProjectionSettingsSchema, bind_ok, object_ok, field_ok, optional_ok,
    integerBetween_ok] at h
  obtain ⟨fields, -, version, hversion, profile, ⟨_, -, _, -, hprofile⟩, accounts, haccounts,
    benefits, hbenefits, assumptions, ⟨_, -, magi, -, settings, hsettings, hmagi⟩, heq⟩ := h
  cases heq
  cases hmagi
  have hvalid := simulationProfileSchema_admitted hprofile
  have hbounds := projectionSettingsSchema_admitted hsettings
  refine ⟨?_, hvalid.1, hvalid.2,
    array_forall (fun _ _ => simulationAccountSchema_admitted) haccounts,
    socialSecuritySettingsSchema_admitted hbenefits,
    ⟨hbounds.randomSeed, hbounds.taxableGainRatio, hbounds.terminalTaxRate⟩⟩
  rcases hversion with ⟨-, rfl⟩ | ⟨json, n, -, ⟨-, hlow, hhigh⟩, rfl⟩
  · show (0 : ℤ) ≤ 0 ∧ (0 : ℤ) ≤ 8
    decide
  · simp only [planSchemaVersion] at hhigh
    exact ⟨hlow, by simp only [Option.getD_some]; omega⟩

/-- Whichever branch admits a plan, it has passed the same bounds, and its accounts are
counted. -/
theorem simulationPlanSchema_admitted {value : Option (Json K)} {plan : SimulationPlan K}
    (h : simulationPlanSchema value = .ok plan) :
    AdmittedPlan plan ∧ plan.accounts.length ≤ maxPlanAccounts := by
  rw [simulationPlanSchema, refined_ok, union_ok, decide_eq_true_iff] at h
  obtain ⟨hcurrent | ⟨-, hlegacy⟩, hcount⟩ := h
  · exact ⟨currentSimulationPlanSchema_admitted hcurrent, hcount⟩
  · exact ⟨legacySimulationPlanSchema_admitted hlegacy, hcount⟩

/-! ## What the service reads -/

theorem u32_num {n : ℤ} (hlow : 0 ≤ n) (hhigh : n ≤ 2 ^ 32 - 1) :
    u32 (some (Json.num (n : K))) = .ok n.toNat := by
  have h : integerBetween (K := K) 0 (2 ^ 32 - 1) none none (some (.num (n : K))) = .ok n :=
    integerBetween_ok.mpr ⟨rfl, hlow, hhigh⟩
  rw [u32, h]
  rfl

theorem usize_num {n : ℤ} (hlow : 0 ≤ n) (hhigh : n ≤ 2 ^ 64 - 1) :
    usize (some (Json.num (n : K))) = .ok n.toNat := by
  have h : integerBetween (K := K) 0 (2 ^ 64 - 1) none none (some (.num (n : K))) = .ok n :=
    integerBetween_ok.mpr ⟨rfl, hlow, hhigh⟩
  rw [usize, h]
  rfl

omit [LinearOrder K] [FloorRing K] [IsStrictOrderedRing K] [Field K] in
theorem deserializeAccount_json (account : SimulationAccount K) :
    deserializeAccount (some (simulationAccountJson account)) = .ok account.engine := by
  simp only [deserializeAccount, bind_ok, object_ok, field_ok]
  refine ⟨_, rfl, account.accountType, ?_, account.balance, rfl, account.assetWeights, ?_, rfl⟩
  · show oneOf accountTypes (some (.str (accountTypeText account.accountType))) = _
    cases account.accountType <;> rfl
  · exact ⟨_, rfl, account.assetWeights.stocks, rfl, account.assetWeights.bonds, rfl, rfl⟩

omit [LinearOrder K] [FloorRing K] [IsStrictOrderedRing K] [Field K] in
theorem deserializeAccounts_json (accounts : List (SimulationAccount K)) :
    array deserializeAccount (some (.arr (accounts.map simulationAccountJson)))
      = .ok (accounts.map SimulationAccount.engine) := by
  have hitems : ∀ index, itemsFrom deserializeAccount index (accounts.map simulationAccountJson)
      = .ok (accounts.map SimulationAccount.engine) := by
    induction accounts with
    | nil => exact fun _ => rfl
    | cons account accounts ih =>
      intro index
      simp only [List.map_cons, itemsFrom, bind_ok, under_ok]
      exact ⟨_, deserializeAccount_json account, _, ih (index + 1), rfl⟩
  exact hitems 0

theorem deserializeProfile_json {profile : SimulationProfile K} (h : AdmittedProfile profile) :
    deserializeProfile (some (.obj (simulationProfileFields profile)))
      = .ok profile.engine := by
  simp only [deserializeProfile, bind_ok, object_ok, field_ok]
  refine ⟨_, rfl, isoText profile.birthDate, rfl, profile.state, ?_, profile.filingStatus, ?_,
    profile.retirementAge.toNat, u32_num (by linarith [h.retirementAge.1])
      (by linarith [h.retirementAge.2]),
    profile.currentSalary, rfl, profile.salaryGrowthRate, rfl, profile.currentSpending, rfl,
    profile.workingSpendingGrowthRate, rfl, profile.retirementSpending, rfl,
    profile.retirementSpendingGrowthRate, rfl,
    profile.lifeExpectancy.toNat, u32_num (by linarith [h.lifeExpectancy.1])
      (by linarith [h.lifeExpectancy.2]),
    profile.retirementHealthcare, rfl, profile.longTermCare, rfl, isoText profile.asOfDate, rfl, ?_⟩
  · show oneOf states (some (.str (stateText profile.state))) = _
    cases profile.state <;> rfl
  · show oneOf filingStatuses (some (.str (filingStatusText profile.filingStatus))) = _
    cases profile.filingStatus <;> rfl
  · rw [parseDate_self h.birthDate, parseDate_self h.asOfDate]
    rfl

theorem deserializeSocialSecurity_json {settings : SocialSecuritySettings K}
    (h : AdmittedBenefits settings) :
    deserializeSocialSecurity (some (.obj (socialSecurityFields settings)))
      = .ok settings.engine := by
  simp only [deserializeSocialSecurity, bind_ok, object_ok, field_ok]
  refine ⟨_, rfl, settings.enabled, rfl, settings.estimatedBenefit, ?_, settings.claimAge.toNat,
    u32_num (by linarith [h.claimAge.1]) (by linarith [h.claimAge.2]), settings.manualOverride,
    rfl, rfl⟩
  cases hbenefit : settings.estimatedBenefit with
  | none =>
    simp only [socialSecurityFields, hbenefit]
    rfl
  | some benefit =>
    simp only [socialSecurityFields, hbenefit]
    rfl

theorem deserializeSettings_json {assumptions : AssumptionSettings K}
    (h : AdmittedSettings assumptions) :
    deserializeSettings (some (.obj (assumptionFields assumptions))) = .ok assumptions.engine := by
  simp only [deserializeSettings, bind_ok, object_ok, field_ok]
  refine ⟨_, rfl, assumptions.simulationModel, ?_, assumptions.randomSeed.toNat,
    u32_num h.randomSeed.1 h.randomSeed.2, assumptions.taxableGainRatio, rfl,
    assumptions.hsaEligible, rfl, assumptions.useBackdoorRoth, rfl, assumptions.rothConversion, ?_,
    assumptions.magiAwareWithdrawals, rfl, assumptions.terminalTaxRate, rfl, rfl⟩
  · show oneOf simulationModels (some (.str (simulationModelText assumptions.simulationModel))) = _
    cases assumptions.simulationModel <;> rfl
  · show deserializeRothConversion (some (.obj
      [("enabled", .bool assumptions.rothConversion.enabled),
        ("ceiling", .str (ceilingText assumptions.rothConversion.ceiling))])) = _
    obtain ⟨enabled, ceiling⟩ := assumptions.rothConversion
    cases ceiling <;> rfl

/-- The service reads a plan as the plan it is, whatever its amounts. -/
theorem deserializePlan_json {plan : SimulationPlan K}
    (hversion : 0 ≤ plan.schemaVersion ∧ plan.schemaVersion ≤ 8)
    (hprofile : AdmittedProfile plan.profile) (hbenefits : AdmittedBenefits plan.socialSecurity)
    (hsettings : AdmittedSettings plan.assumptions) :
    deserializePlan (some (simulationPlanJson plan)) = .ok plan.engine := by
  simp only [deserializePlan, bind_ok, object_ok, field_ok]
  exact ⟨_, rfl, plan.schemaVersion.toNat, u32_num hversion.1 (by linarith [hversion.2]),
    plan.profile.engine, deserializeProfile_json hprofile, _,
    deserializeAccounts_json plan.accounts, plan.socialSecurity.engine,
    deserializeSocialSecurity_json hbenefits, plan.assumptions.engine,
    deserializeSettings_json hsettings, rfl⟩

theorem AdmittedPlan.read {plan : SimulationPlan K} (h : AdmittedPlan plan) :
    deserializePlan (some (simulationPlanJson plan)) = .ok plan.engine :=
  deserializePlan_json h.schemaVersion h.profile h.socialSecurity h.assumptions

/-! ## What the service checks -/

omit [FloorRing K] [IsStrictOrderedRing K] in
theorem isValid_engine {account : SimulationAccount K} (h : AdmittedAccount account) :
    account.engine.isValid = true := by
  obtain ⟨hbalance, hstocks, hbonds, hsum⟩ := h
  have hsum' : |account.assetWeights.stocks + account.assetWeights.bonds - 1| ≤ 0.001 := hsum.le
  simp only [Engine.Account.isValid, Bool.and_eq_true, decide_eq_true_eq]
  exact ⟨⟨⟨hbalance, hstocks⟩, hbonds⟩, hsum'⟩

omit [FloorRing K] [IsStrictOrderedRing K] in
theorem hasValidAmounts_engine {profile : SimulationProfile K} (h : AdmittedProfile profile)
    (htarget : AdmittedAmount 1000000000 profile.retirementSpending) :
    profile.engine.hasValidAmounts = true := by
  simp only [Engine.UserProfile.hasValidAmounts, Bool.and_eq_true, decide_eq_true_eq]
  exact ⟨⟨⟨⟨⟨h.currentSalary, h.currentSpending⟩, htarget⟩, h.salaryGrowthRate⟩,
    h.workingSpendingGrowthRate⟩, h.retirementSpendingGrowthRate⟩

omit [FloorRing K] in
theorem healthcare_engine {healthcare : RetirementHealthcare K}
    (h : AdmittedHealthcare healthcare) : healthcare.isValid = true := by
  have hgrowth : healthcare.realGrowthRate ≤ 0.2 :=
    h.realGrowthRate.2.trans (by norm_num)
  simp only [RetirementHealthcare.isValid, Bool.and_eq_true, decide_eq_true_eq]
  exact ⟨⟨⟨h.preMedicarePremium.1, h.medicarePremium.1⟩, h.outOfPocket.1⟩, h.realGrowthRate.1,
    hgrowth⟩

omit [FloorRing K] in
/-- An admitted plan of at most twenty accounts passes the service's own checks. -/
theorem validPlan_engine {plan : SimulationPlan K} (h : AdmittedPlan plan)
    (hcount : plan.accounts.length ≤ maxPlanAccounts) : Engine.ValidPlan plan.engine := by
  have hversion := h.schemaVersion
  have hage := h.profile.age
  have hretirement := h.profile.retirementAge
  have hlife := h.profile.lifeExpectancy
  have hhorizon := max_lt_iff.mp h.profile.horizon
  have hclaim := h.socialSecurity.claimAge
  exact
    { schemaVersion_le := by
        show plan.schemaVersion.toNat ≤ 8
        omega
      retirementAge_ge := by
        show 45 ≤ plan.profile.retirementAge.toNat
        omega
      retirementAge_le := by
        show plan.profile.retirementAge.toNat ≤ 100
        omega
      dates := by
        refine ⟨plan.profile.asOfDate, _, rfl, engine_ageOn (by omega), h.profile.asOfDate.1,
          h.profile.asOfDate.2, by omega, by omega, ?_⟩
        show _ < plan.profile.lifeExpectancy.toNat
        omega
      lifeExpectancy_gt := by
        show plan.profile.retirementAge.toNat < plan.profile.lifeExpectancy.toNat
        omega
      lifeExpectancy_le := by
        show plan.profile.lifeExpectancy.toNat ≤ 120
        omega
      amounts := hasValidAmounts_engine h.profile h.retirementSpending
      healthcare := healthcare_engine h.profile.retirementHealthcare
      costMultiplier_mem := h.profile.longTermCare
      claimAge_ge := by
        show 62 ≤ plan.socialSecurity.claimAge.toNat
        omega
      claimAge_le := by
        show plan.socialSecurity.claimAge.toNat ≤ 70
        omega
      estimatedBenefit_mem := h.socialSecurity.estimatedBenefit
      accounts_length_le := by
        show (plan.accounts.map SimulationAccount.engine).length ≤ 20
        rw [List.length_map]
        exact hcount
      taxableGainRatio_nonneg := h.assumptions.taxableGainRatio.1
      taxableGainRatio_le_one := h.assumptions.taxableGainRatio.2
      terminalTaxRate_mem := h.assumptions.terminalTaxRate
      accounts_valid := by
        intro account hmem
        obtain ⟨account', hmem', rfl⟩ := List.mem_map.mp hmem
        exact isValid_engine (h.accounts account' hmem') }

/-! ## Configurations -/

structure AdmittedConfig (config : SimulationConfig) : Prop where
  paths : 1 ≤ config.paths ∧ config.paths ≤ 5000
  seed : 0 ≤ config.seed ∧ config.seed ≤ 2 ^ 32 - 1
  blockSize : ∀ n ∈ config.blockSize, 1 ≤ n ∧ n ≤ 10

theorem simulationConfigSchema_admitted {value : Option (Json K)} {config : SimulationConfig}
    (h : simulationConfigSchema value = .ok config) : AdmittedConfig config := by
  simp only [simulationConfigSchema, bind_ok, object_ok, field_ok, integerBetween_ok,
    optional_ok] at h
  obtain ⟨fields, -, paths, ⟨-, hpaths⟩, seed, ⟨-, hseed⟩, bootstrap, -, blockSize, hblock,
    heq⟩ := h
  cases heq
  refine ⟨hpaths, hseed, fun n hn => ?_⟩
  rcases hblock with ⟨-, rfl⟩ | ⟨json, n', -, ⟨-, hn'⟩, rfl⟩
  · cases hn
  · cases hn
    exact hn'

theorem deserializeConfig_json {config : SimulationConfig} (h : AdmittedConfig config) :
    deserializeConfig (some (simulationConfigJson config : Json K)) = .ok config.engine := by
  obtain ⟨paths, seed, bootstrap, blockSize⟩ := config
  have hpaths : u32 (some (Json.num (paths : K))) = .ok paths.toNat :=
    u32_num (by linarith [h.paths.1]) (by linarith [h.paths.2])
  have hseed : u32 (some (Json.num (seed : K))) = .ok seed.toNat := u32_num h.seed.1 h.seed.2
  simp only [deserializeConfig, bind_ok, object_ok, field_ok]
  cases blockSize with
  | none =>
    cases bootstrap <;> exact ⟨_, rfl, _, hpaths, _, hseed, _, rfl, _, rfl, rfl⟩
  | some n =>
    have hn := h.blockSize n rfl
    have hblock : usize (some (Json.num (n : K))) = .ok n.toNat :=
      usize_num (by linarith [hn.1]) (by linarith [hn.2])
    cases bootstrap <;> exact ⟨_, rfl, _, hpaths, _, hseed, _, rfl, _, hblock, rfl⟩

theorem validateConfig_engine {config : SimulationConfig} (h : AdmittedConfig config) :
    Engine.validateConfig config.engine.paths config.engine.blockSize = .ok () := by
  rw [Engine.validateConfig_eq_ok]
  constructor
  · show 1 ≤ config.paths.toNat ∧ config.paths.toNat ≤ 5000
    have hbounds := h.paths
    omega
  · show 1 ≤ (config.blockSize.getD 5).toNat ∧ (config.blockSize.getD 5).toNat ≤ 10
    cases hsize : config.blockSize with
    | none => decide
    | some n =>
      have hn := h.blockSize n hsize
      rw [Option.getD_some]
      omega

/-! ## Single requests -/

/-- The service takes every single request the edge admits, for what it is. -/
theorem admitSimulate_admitted {value : Option (Json K)} {request : MonteCarloRequest K}
    (h : monteCarloRequestSchema value = .ok request) :
    admitSimulate request = .ok ⟨request.plan.engine, request.config.engine⟩ := by
  simp only [monteCarloRequestSchema, bind_ok, object_ok, field_ok] at h
  obtain ⟨fields, -, plan, hplan, config, hconfig, heq⟩ := h
  cases heq
  obtain ⟨hplan, hcount⟩ := simulationPlanSchema_admitted hplan
  have hconfig := simulationConfigSchema_admitted hconfig
  have hread : deserializeRequest (some (monteCarloRequestJson ⟨plan, config⟩))
      = .ok ⟨plan.engine, config.engine⟩ := by
    simp only [deserializeRequest, bind_ok, object_ok, field_ok]
    exact ⟨_, rfl, _, hplan.read, _, deserializeConfig_json hconfig, rfl⟩
  have hchecks : Engine.validateSimulationRequest ⟨plan.engine, config.engine⟩ = .ok () := by
    simp only [Engine.validateSimulationRequest, validateConfig_engine hconfig, bind, Except.bind]
    exact Engine.validatePlan_eq_ok.mpr (validPlan_engine hplan hcount)
  simp only [admitSimulate, hread, readable, bind, Except.bind, hchecks, checked]

end RetirementPlanner.Web
