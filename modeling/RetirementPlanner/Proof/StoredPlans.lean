import RetirementPlanner.Proof.Levers
import RetirementPlanner.Proof.SimulationRequest
import RetirementPlanner.Web.Sensitivity

/-!
# Stored plans and the plans simulated

A stored plan is bounded field by field (`StoredPlan`), and every scenario swept from it is
a plan bounded the same way (`allScenarios_stored`). What the edge and the engine take of
one is decided by the one field that is derived: retirement spending, a multiple of
spending compounded over the working years (`runs_iff`).

* `currentSimulationPlanSchema_self`: a plan within the bounds is accepted as itself;
* `storedPlan_runs_iff`: when a stored plan and all its scenarios can be run.
-/

namespace RetirementPlanner.Web

open Schema
open Engine (NaiveDate RetirementHealthcare LongTermCare AssetWeights)

variable {K : Type} [Field K] [LinearOrder K]

/-! ## Plans within the bounds are accepted -/

theorem retirementHealthcareSchema_self {healthcare : RetirementHealthcare K}
    (h : AdmittedHealthcare healthcare) :
    retirementHealthcareSchema (some (.obj (healthcareFields healthcare))) = .ok healthcare := by
  simp only [retirementHealthcareSchema, bind_ok, object_ok, field_ok, between_ok]
  exact ⟨_, rfl, _, ⟨rfl, h.preMedicarePremium⟩, _, ⟨rfl, h.medicarePremium⟩, _,
    ⟨rfl, h.outOfPocket⟩, _, ⟨rfl, h.realGrowthRate⟩, rfl⟩

theorem longTermCareSchema_self {care : LongTermCare K} (h : AdmittedCare care) :
    longTermCareSchema (some (.obj (careFields care))) = .ok care := by
  simp only [longTermCareSchema, bind_ok, object_ok, field_ok, between_ok]
  exact ⟨_, rfl, care.enabled, rfl, _, ⟨rfl, h⟩, rfl⟩

theorem assetWeightsSchema_self {weights : AssetWeights K} (h : AdmittedWeights weights) :
    assetWeightsSchema (some (assetWeightsJson weights)) = .ok weights := by
  simp only [assetWeightsSchema, refined_ok, bind_ok, object_ok, field_ok, between_ok,
    decide_eq_true_eq]
  exact ⟨⟨_, rfl, _, ⟨rfl, h.1⟩, _, ⟨rfl, h.2.1⟩, rfl⟩, h.2.2⟩

theorem simulationAccountSchema_self {account : SimulationAccount K}
    (h : AdmittedAccount account) :
    simulationAccountSchema (some (simulationAccountJson account)) = .ok account := by
  simp only [simulationAccountSchema, bind_ok, object_ok, field_ok, between_ok]
  refine ⟨_, rfl, account.accountType, ?_, _, ⟨rfl, h.balance⟩, _,
    assetWeightsSchema_self h.assetWeights, rfl⟩
  show oneOf accountTypes (some (.str (accountTypeText account.accountType))) = _
  cases account.accountType <;> rfl

theorem simulationAccounts_self {accounts : List (SimulationAccount K)}
    (h : ∀ account ∈ accounts, AdmittedAccount account) :
    array simulationAccountSchema (some (.arr (accounts.map simulationAccountJson)))
      = .ok accounts := by
  have hitems : ∀ index, itemsFrom simulationAccountSchema index
      (accounts.map simulationAccountJson) = .ok accounts := by
    induction accounts with
    | nil => exact fun _ => rfl
    | cons account accounts ih =>
      obtain ⟨hfirst, hrest⟩ := List.forall_mem_cons.mp h
      intro index
      simp only [List.map_cons, itemsFrom, bind_ok, under_ok]
      exact ⟨_, simulationAccountSchema_self hfirst, _, ih hrest (index + 1), rfl⟩
  exact hitems 0

variable [FloorRing K] [IsStrictOrderedRing K]

theorem socialSecuritySettingsSchema_self {settings : SocialSecuritySettings K}
    (h : AdmittedBenefits settings) :
    socialSecuritySettingsSchema (some (.obj (socialSecurityFields settings)))
      = .ok settings := by
  obtain ⟨enabled, benefit, claimAge, override⟩ := settings
  simp only [socialSecuritySettingsSchema, bind_ok, object_ok, field_ok, integerBetween_ok,
    optional_ok, between_ok]
  refine ⟨_, rfl, enabled, rfl, benefit, ?_, claimAge, ⟨rfl, h.claimAge⟩, override, rfl, rfl⟩
  cases benefit with
  | none => exact .inl ⟨rfl, rfl⟩
  | some benefit => exact .inr ⟨_, benefit, rfl, ⟨rfl, h.estimatedBenefit benefit rfl⟩, rfl⟩

theorem projectionSettingsSchema_self {assumptions : AssumptionSettings K}
    (h : AdmittedSettings assumptions) :
    projectionSettingsSchema (some (.obj (assumptionFields assumptions))) = .ok assumptions := by
  simp only [projectionSettingsSchema, bind_ok, object_ok, field_ok, withDefault_ok,
    integerBetween_ok, between_ok]
  refine ⟨_, rfl, assumptions.randomSeed, .inr ⟨_, rfl, rfl, h.randomSeed⟩,
    assumptions.simulationModel, ?_, assumptions.taxableGainRatio, ⟨rfl, h.taxableGainRatio⟩,
    assumptions.hsaEligible, rfl, assumptions.useBackdoorRoth, rfl, assumptions.rothConversion,
    .inr ⟨_, rfl, ?_⟩, assumptions.magiAwareWithdrawals, .inr ⟨_, rfl, rfl⟩,
    assumptions.terminalTaxRate, .inr ⟨_, rfl, rfl, h.terminalTaxRate⟩, rfl⟩
  · show oneOf simulationModels (some (.str (simulationModelText assumptions.simulationModel))) = _
    cases assumptions.simulationModel <;> rfl
  · show rothConversionPolicySchema (some (.obj
      [("enabled", .bool assumptions.rothConversion.enabled),
        ("ceiling", .str (ceilingText assumptions.rothConversion.ceiling))])) = _
    obtain ⟨enabled, ceiling⟩ := assumptions.rothConversion
    cases ceiling <;> rfl

theorem simulationProfileSchema_self {profile : SimulationProfile K} (h : AdmittedProfile profile)
    (htarget : AdmittedAmount 1000000000 profile.retirementSpending) :
    simulationProfileSchema (some (.obj (simulationProfileFields profile))) = .ok profile := by
  simp only [simulationProfileSchema, bind_ok, object_ok, field_ok, integerBetween_ok, between_ok,
    growthRate, withProfileRules_ok]
  refine ⟨_, rfl, _, isoDateSchema_self h.birthDate, profile.state, ?_, profile.filingStatus, ?_,
    _, ⟨rfl, h.retirementAge⟩, _, ⟨rfl, h.currentSalary⟩, _, ⟨rfl, h.salaryGrowthRate⟩, _,
    ⟨rfl, h.currentSpending⟩, _, ⟨rfl, h.workingSpendingGrowthRate⟩, _,
    ⟨rfl, h.retirementSpendingGrowthRate⟩, _, ⟨rfl, h.lifeExpectancy⟩, _,
    retirementHealthcareSchema_self h.retirementHealthcare, _,
    longTermCareSchema_self h.longTermCare, _, isoDateSchema_self h.asOfDate, _,
    ⟨rfl, htarget⟩, h.age, h.horizon, rfl⟩
  · show oneOf states (some (.str (stateText profile.state))) = _
    cases profile.state <;> rfl
  · show oneOf filingStatuses (some (.str (filingStatusText profile.filingStatus))) = _
    cases profile.filingStatus <;> rfl

/-- A plan of the current version within the bounds is accepted as itself. -/
theorem currentSimulationPlanSchema_self {plan : SimulationPlan K} (h : AdmittedPlan plan)
    (hversion : plan.schemaVersion = planSchemaVersion) :
    currentSimulationPlanSchema (some (simulationPlanJson plan)) = .ok plan := by
  simp only [currentSimulationPlanSchema, bind_ok, object_ok, field_ok, refined_ok, integer_ok,
    decide_eq_true_eq]
  exact ⟨_, rfl, plan.schemaVersion, ⟨rfl, hversion⟩, _,
    simulationProfileSchema_self h.profile h.retirementSpending, _,
    simulationAccounts_self h.accounts, _, socialSecuritySettingsSchema_self h.socialSecurity, _,
    projectionSettingsSchema_self h.assumptions, rfl⟩

/-! ## Stored plans -/

/-- The bounds a stored plan has passed. -/
structure StoredPlan (plan : RetirementPlan K) : Prop where
  profile : AdmittedProfile (buildSimulationPlan plan).profile
  multiplier : AdmittedAmount 10 plan.profile.retirementSpendingMultiplier
  accounts : ∀ account ∈ (buildSimulationPlan plan).accounts, AdmittedAccount account
  socialSecurity : AdmittedBenefits plan.socialSecurity
  assumptions : AdmittedSettings plan.assumptions

omit [FloorRing K] [IsStrictOrderedRing K] in
theorem accountSchema_admitted {value : Option (Json K)} {account : Account K}
    (h : accountSchema value = .ok account) :
    AdmittedAmount 1000000000000000 account.balance ∧ AdmittedWeights account.assetWeights := by
  simp only [accountSchema, bind_ok, object_ok, field_ok, between_ok] at h
  obtain ⟨fields, -, id, -, name, -, institution, -, type, -, balance, ⟨-, hbalance⟩, weights,
    hweights, heq⟩ := h
  cases heq
  exact ⟨hbalance, assetWeightsSchema_admitted hweights⟩

/-- What the plan schema accepts is bounded field by field. -/
theorem retirementPlanSchema_stored {value : Option (Json K)} {plan : RetirementPlan K}
    (h : retirementPlanSchema value = .ok plan) : StoredPlan plan := by
  simp only [retirementPlanSchema, userProfileSchema, bind_ok, object_ok, field_ok,
    integerBetween_ok, between_ok, growthRate, profileRules_eq, withProfileRules_ok] at h
  obtain ⟨fields, -, profile, ⟨_, -, birthDate, hbirth, state, -, status, -, retirementAge,
    ⟨-, hretirement⟩, salary, ⟨-, hsalary⟩, salaryGrowth, ⟨-, hsalaryGrowth⟩, spending,
    ⟨-, hspending⟩, growth, ⟨-, hgrowth⟩, retirementGrowth, ⟨-, hretirementGrowth⟩, life,
    ⟨-, hlife⟩, healthcare, hhealthcare, care, hcare, asOf, hasOf, multiplier, ⟨-, hmultiplier⟩,
    hage, hhorizon, hprofile⟩, accounts, haccounts, benefits, hbenefits, assumptions,
    hassumptions, heq⟩ := h
  cases hprofile
  cases heq
  refine ⟨⟨isoDateSchema_admitted hbirth, isoDateSchema_admitted hasOf, hage, hretirement, hlife,
    hhorizon, hsalary, hsalaryGrowth, hspending, hgrowth, hretirementGrowth,
    retirementHealthcareSchema_admitted hhealthcare, longTermCareSchema_admitted hcare⟩,
    hmultiplier, ?_, socialSecuritySettingsSchema_admitted hbenefits,
    projectionSettingsSchema_admitted hassumptions⟩
  intro account hmem
  obtain ⟨account', hmem', rfl⟩ := List.mem_map.mp hmem
  obtain ⟨hbalance, hweights⟩ :=
    array_forall (fun _ _ => accountSchema_admitted) haccounts account' hmem'
  exact ⟨hbalance, hweights⟩

omit [FloorRing K] in
theorem retirementSpendingOf_nonneg {plan : RetirementPlan K} (h : StoredPlan plan) :
    0 ≤ retirementSpendingOf plan.profile := by
  have hspending : 0 ≤ plan.profile.currentSpending := h.profile.currentSpending.1
  have hgrowth : -0.1 ≤ plan.profile.workingSpendingGrowthRate :=
    h.profile.workingSpendingGrowthRate.1
  have hfactor : 0 ≤ 1 + plan.profile.workingSpendingGrowthRate := by linarith
  have hmultiplier := h.multiplier.1
  simp only [retirementSpendingOf]
  positivity

omit [FloorRing K] in
/-- What is built from a stored plan is within the bounds when its retirement spending is. -/
theorem admittedPlan_iff {plan : RetirementPlan K} (h : StoredPlan plan) :
    AdmittedPlan (buildSimulationPlan plan) ↔ retirementSpendingOf plan.profile ≤ 1000000000 := by
  constructor
  · intro hadmitted
    exact hadmitted.retirementSpending.2
  · intro htarget
    refine ⟨?_, h.profile, ⟨retirementSpendingOf_nonneg h, htarget⟩, h.accounts,
      h.socialSecurity, h.assumptions⟩
    show (0 : ℤ) ≤ 8 ∧ (8 : ℤ) ≤ 8
    decide

/-! ## Running a plan -/

/-- The plan can be simulated: the browser's schema and the edge's accept what is built
from it, and the engine reads it for what it is and accepts it. -/
structure Runnable (plan : RetirementPlan K) : Prop where
  schema : currentSimulationPlanSchema (some (simulationPlanJson (buildSimulationPlan plan)))
    = .ok (buildSimulationPlan plan)
  edge : simulationPlanSchema (some (simulationPlanJson (buildSimulationPlan plan)))
    = .ok (buildSimulationPlan plan)
  reads : deserializePlan (some (simulationPlanJson (buildSimulationPlan plan)))
    = .ok (toSimulationPlan plan)
  engine : Engine.validatePlan (toSimulationPlan plan) = .ok ()

/-- A stored plan of at most twenty accounts runs when its retirement spending, resolved
into dollars, is at most a billion. -/
theorem runs_iff {plan : RetirementPlan K} (h : StoredPlan plan)
    (hcount : plan.accounts.length ≤ maxPlanAccounts) :
    Runnable plan ↔ retirementSpendingOf plan.profile ≤ 1000000000 := by
  constructor
  · intro hruns
    exact (currentSimulationPlanSchema_admitted hruns.schema).retirementSpending.2
  · intro htarget
    have hadmitted := (admittedPlan_iff h).mpr htarget
    have hlength : (buildSimulationPlan plan).accounts.length ≤ maxPlanAccounts := by
      rw [buildSimulationPlan, List.length_map]
      exact hcount
    have hself := currentSimulationPlanSchema_self hadmitted rfl
    refine ⟨hself, ?_, ?_, ?_⟩
    · rw [simulationPlanSchema, refined_ok, union_ok, decide_eq_true_iff]
      exact ⟨.inl hself, hlength⟩
    · rw [← engine_buildSimulationPlan]
      exact hadmitted.read
    · rw [← engine_buildSimulationPlan]
      exact Engine.validatePlan_eq_ok.mpr (validPlan_engine hadmitted hlength)

/-! ## Scenarios -/

section Scenarios

variable {plan : RetirementPlan K} (h : StoredPlan plan)

include h in
theorem claimAge_sweep {claimAge : K}
    (hmem : claimAge ∈ (leverRange .socialSecurityClaimAge plan).sweepValues) :
    62 ≤ ⌊claimAge⌋ ∧ ⌊claimAge⌋ ≤ 70 := by
  have hbounds : (specs .socialSecurityClaimAge).bounds plan = ((62 : K), (70 : K)) := rfl
  have hlow : (62 : K) ≤ (plan.socialSecurity.claimAge : K) := by
    exact_mod_cast h.socialSecurity.claimAge.1
  have hhigh : (plan.socialSecurity.claimAge : K) ≤ (70 : K) := by
    exact_mod_cast h.socialSecurity.claimAge.2
  obtain ⟨hge, hle⟩ := sweepValues_bounds _ plan hbounds ⟨hlow, hhigh⟩ hmem
  obtain ⟨n, rfl⟩ := sweepValues_whole _ _ hmem
  rw [Int.floor_intCast]
  exact ⟨by exact_mod_cast hge, by exact_mod_cast hle⟩

include h in
theorem spending_sweep {annualSpending : K}
    (hmem : annualSpending ∈ (leverRange .spending plan).sweepValues) :
    AdmittedAmount 1000000000 annualSpending := by
  have hbounds : (specs .spending).bounds plan = ((0 : K), (1000000000 : K)) := rfl
  exact sweepValues_bounds _ plan hbounds h.profile.currentSpending hmem

include h in
theorem retirementAge_sweep {retirementAge : K}
    (hmem : retirementAge ∈ (leverRange .retirementAge plan).sweepValues) :
    45 ≤ ⌊retirementAge⌋ ∧ ⌊retirementAge⌋ ≤ 100 ∧
      ⌊retirementAge⌋ < plan.profile.lifeExpectancy := by
  have hbounds : (specs .retirementAge).bounds plan
      = (((45 : ℤ) : K), min 100 ((plan.profile.lifeExpectancy : K) - 1)) := rfl
  have hretirement : 45 ≤ plan.profile.retirementAge ∧ plan.profile.retirementAge ≤ 100 :=
    h.profile.retirementAge
  have hhorizon : plan.profile.retirementAge < plan.profile.lifeExpectancy :=
    (le_max_right _ _).trans_lt h.profile.horizon
  have hlow : ((45 : ℤ) : K) ≤ (plan.profile.retirementAge : K) := by
    exact_mod_cast hretirement.1
  have hhigh : (plan.profile.retirementAge : K)
      ≤ min 100 ((plan.profile.lifeExpectancy : K) - 1) := by
    refine le_min (by exact_mod_cast hretirement.2) ?_
    rw [le_sub_iff_add_le]
    exact_mod_cast hhorizon
  obtain ⟨hge, hle⟩ := sweepValues_bounds _ plan hbounds ⟨hlow, hhigh⟩ hmem
  obtain ⟨n, rfl⟩ := sweepValues_whole _ _ hmem
  obtain ⟨hle, hlife⟩ := le_min_iff.mp hle
  rw [le_sub_iff_add_le] at hlife
  rw [Int.floor_intCast]
  exact ⟨by exact_mod_cast hge, by exact_mod_cast hle, by exact_mod_cast hlife⟩

/-- What a lever's value makes of a plan. -/
inductive Swept (plan : RetirementPlan K) : RetirementPlan K → Prop
  | claimAge (claimAge : ℤ) (h : 62 ≤ claimAge ∧ claimAge ≤ 70) :
    Swept plan { plan with socialSecurity := { plan.socialSecurity with claimAge } }
  | spending (annualSpending : K) (h : annualSpending ∈ (leverRange .spending plan).sweepValues) :
    Swept plan { plan with profile := { plan.profile with currentSpending := annualSpending } }
  | retirementAge (age : K) (h : age ∈ (leverRange .retirementAge plan).sweepValues) :
    Swept plan { plan with profile := { plan.profile with retirementAge := ⌊age⌋ } }
  | rothConversion (policy : Engine.RothConversionPolicy) :
    Swept plan { plan with assumptions := { plan.assumptions with rothConversion := policy } }

include h in
theorem swept_of_mem {seed : ℤ} {scenario : Scenario K}
    (hmem : scenario ∈ allScenarios plan seed) : Swept plan scenario.plan := by
  simp only [allScenarios, List.mem_append, List.mem_map] at hmem
  obtain ((⟨entry, hentry, rfl⟩ | ⟨entry, hentry, rfl⟩) | ⟨entry, hentry, rfl⟩)
    | ⟨entry, hentry, rfl⟩ := hmem
  · obtain ⟨claimAge, hage, rfl⟩ := List.mem_map.mp hentry
    refine .claimAge ⌊claimAge⌋ ?_
    split at hage
    · exact claimAge_sweep h hage
    · cases List.mem_singleton.mp hage
      rw [Int.floor_intCast]
      exact h.socialSecurity.claimAge
  · obtain ⟨annualSpending, hspending, rfl⟩ := List.mem_map.mp hentry
    exact .spending annualSpending hspending
  · obtain ⟨age, hage, rfl⟩ := List.mem_map.mp hentry
    exact .retirementAge age hage
  · obtain ⟨step, -, rfl⟩ := List.mem_map.mp hentry
    exact .rothConversion _

include h in
/-- A swept plan is bounded like the plan it is swept from. -/
theorem Swept.stored {swept : RetirementPlan K} (hswept : Swept plan swept) :
    StoredPlan swept := by
  cases hswept with
  | claimAge claimAge hage =>
    exact ⟨h.profile, h.multiplier, h.accounts, ⟨h.socialSecurity.estimatedBenefit, hage⟩,
      h.assumptions⟩
  | spending annualSpending hmem =>
    exact ⟨⟨h.profile.birthDate, h.profile.asOfDate, h.profile.age, h.profile.retirementAge,
      h.profile.lifeExpectancy, h.profile.horizon, h.profile.currentSalary,
      h.profile.salaryGrowthRate, spending_sweep h hmem, h.profile.workingSpendingGrowthRate,
      h.profile.retirementSpendingGrowthRate, h.profile.retirementHealthcare,
      h.profile.longTermCare⟩, h.multiplier, h.accounts, h.socialSecurity, h.assumptions⟩
  | retirementAge age hmem =>
    obtain ⟨hge, hle, hlife⟩ := retirementAge_sweep h hmem
    have hage : ageOn plan.profile.birthDate plan.profile.asOfDate < plan.profile.lifeExpectancy :=
      (le_max_left _ _).trans_lt h.profile.horizon
    exact ⟨⟨h.profile.birthDate, h.profile.asOfDate, h.profile.age, ⟨hge, hle⟩,
      h.profile.lifeExpectancy, max_lt hage hlife, h.profile.currentSalary,
      h.profile.salaryGrowthRate, h.profile.currentSpending, h.profile.workingSpendingGrowthRate,
      h.profile.retirementSpendingGrowthRate, h.profile.retirementHealthcare,
      h.profile.longTermCare⟩, h.multiplier, h.accounts, h.socialSecurity, h.assumptions⟩
  | rothConversion policy =>
    exact ⟨h.profile, h.multiplier, h.accounts, h.socialSecurity,
      ⟨h.assumptions.randomSeed, h.assumptions.taxableGainRatio, h.assumptions.terminalTaxRate⟩⟩

end Scenarios

/-! ## When everything runs -/

/-- Spending from one's retirement on, in real dollars: `spending`, compounded until the
year before `retirementAge`, times the household's multiplier. -/
def spendingAtRetirement (plan : RetirementPlan K) (spending : K) (retirementAge : ℤ) : K :=
  spending
    * (1 + plan.profile.workingSpendingGrowthRate)
      ^ (retirementAge - ageOn plan.profile.birthDate plan.profile.asOfDate - 1).toNat
    * plan.profile.retirementSpendingMultiplier

/-- Spending at retirement is at most a billion dollars for the plan as it is, at every
level of its spending lever and at every age of its retirement lever. -/
structure WithinBillion (plan : RetirementPlan K) : Prop where
  own : spendingAtRetirement plan plan.profile.currentSpending plan.profile.retirementAge
    ≤ 1000000000
  levels : ∀ annualSpending ∈ (leverRange .spending plan).sweepValues,
    spendingAtRetirement plan annualSpending plan.profile.retirementAge ≤ 1000000000
  ages : ∀ age ∈ (leverRange .retirementAge plan).sweepValues,
    spendingAtRetirement plan plan.profile.currentSpending ⌊age⌋ ≤ 1000000000

omit [FloorRing K] [IsStrictOrderedRing K] [LinearOrder K] in
theorem retirementSpendingOf_compounded (plan : RetirementPlan K) :
    retirementSpendingOf plan.profile
      = spendingAtRetirement plan plan.profile.currentSpending plan.profile.retirementAge := by
  have hyears : (max 0 (max 0 (plan.profile.retirementAge
        - ageOn plan.profile.birthDate plan.profile.asOfDate) - 1)).toNat
      = (plan.profile.retirementAge
        - ageOn plan.profile.birthDate plan.profile.asOfDate - 1).toNat := by omega
  rw [retirementSpendingOf, spendingAtRetirement, hyears]

section Scenarios

variable {plan : RetirementPlan K} (h : StoredPlan plan)
  (hcount : plan.accounts.length ≤ maxPlanAccounts)

include h hcount in
theorem Swept.runs_iff {swept : RetirementPlan K} (hswept : Swept plan swept) :
    Runnable swept ↔ spendingAtRetirement plan swept.profile.currentSpending
      swept.profile.retirementAge ≤ 1000000000 := by
  have hstored := hswept.stored h
  have hlength : swept.accounts.length ≤ maxPlanAccounts := by
    cases hswept <;> exact hcount
  have hsame : spendingAtRetirement swept = spendingAtRetirement plan := by
    cases hswept <;> rfl
  rw [Web.runs_iff hstored hlength, retirementSpendingOf_compounded, hsame]

include h hcount in
/-- Within a billion, every swept plan runs. -/
theorem Swept.runs {swept : RetirementPlan K} (hswept : Swept plan swept)
    (hbound : WithinBillion plan) : Runnable swept := by
  rw [hswept.runs_iff h hcount]
  cases hswept with
  | claimAge claimAge hage => exact hbound.own
  | spending annualSpending hmem => exact hbound.levels annualSpending hmem
  | retirementAge age hmem => exact hbound.ages age hmem
  | rothConversion policy => exact hbound.own

omit [IsStrictOrderedRing K] in
theorem spendingScenario_mem (seed : ℤ) {annualSpending : K}
    (hmem : annualSpending ∈ (leverRange .spending plan).sweepValues) :
    spendingScenario plan seed annualSpending ∈ allScenarios plan seed :=
  List.mem_append_left _ (List.mem_append_left _ (List.mem_append_right _
    (List.mem_map.mpr ⟨_, List.mem_map_of_mem hmem, rfl⟩)))

omit [IsStrictOrderedRing K] in
theorem retirementAgeScenario_mem (seed : ℤ) {age : K}
    (hmem : age ∈ (leverRange .retirementAge plan).sweepValues) :
    retirementAgeScenario plan seed age ∈ allScenarios plan seed :=
  List.mem_append_left _ (List.mem_append_right _
    (List.mem_map.mpr ⟨_, List.mem_map_of_mem hmem, rfl⟩))

end Scenarios

/-- A stored plan of at most twenty accounts runs, and so does every scenario of its four
levers, exactly when spending at retirement stays within a billion dollars. -/
theorem storedPlan_runs_iff {value : Option (Json K)} {plan : RetirementPlan K}
    (hstored : retirementPlanSchema value = .ok plan)
    (hcount : plan.accounts.length ≤ maxPlanAccounts) :
    (∀ derived ∈ plan :: (allScenarios plan (baseSeed plan)).map (·.plan), Runnable derived) ↔
      WithinBillion plan := by
  have h := retirementPlanSchema_stored hstored
  constructor
  · intro hall
    obtain ⟨hown, hscenarios⟩ := List.forall_mem_cons.mp hall
    refine ⟨?_, fun annualSpending hmem => ?_, fun age hmem => ?_⟩
    · rw [← retirementSpendingOf_compounded]
      exact (runs_iff h hcount).mp hown
    · exact ((Swept.spending annualSpending hmem).runs_iff h hcount).mp
        (hscenarios _ (List.mem_map_of_mem (spendingScenario_mem _ hmem)))
    · exact ((Swept.retirementAge age hmem).runs_iff h hcount).mp
        (hscenarios _ (List.mem_map_of_mem (retirementAgeScenario_mem _ hmem)))
  · intro hbound
    refine List.forall_mem_cons.mpr ⟨?_, fun derived hderived => ?_⟩
    · rw [runs_iff h hcount, retirementSpendingOf_compounded]
      exact hbound.own
    · obtain ⟨scenario, hmem, rfl⟩ := List.mem_map.mp hderived
      exact (swept_of_mem h hmem).runs h hcount hbound

/-! ## A plan the schema stores and the engine refuses -/

/-- A household of sixty that retires in five years. -/
def householdSpending (currentSpending retirementSpendingMultiplier : ℚ) : RetirementPlan ℚ where
  profile :=
    { birthDate := Engine.newYear 1965, state := .TX, filingStatus := .single,
      retirementAge := 65, currentSalary := 50000, salaryGrowthRate := 0, currentSpending,
      workingSpendingGrowthRate := 0, retirementSpendingMultiplier,
      retirementSpendingGrowthRate := 0, lifeExpectancy := 85, retirementHealthcare := ⟨0, 0, 0, 0⟩,
      longTermCare := ⟨false, 1⟩, asOfDate := Engine.newYear 2025 }
  accounts := []
  socialSecurity := ⟨true, none, 67, false⟩
  assumptions := ⟨42, .historical, 0, false, false, ⟨false, .bracket24⟩, false, 0⟩

theorem modestHousehold_stored :
    retirementPlanSchema (some (planJson (householdSpending 30000 1)))
      = .ok (householdSpending 30000 1) :=
  stored_of_test (by decide +kernel)

/-- Tenfold spending after retirement takes the plan past what can be simulated. -/
theorem tenfoldSpending_refused :
    retirementPlanSchema (some (planJson (householdSpending 120000000 10)))
        = .ok (householdSpending 120000000 10) ∧
      (∀ simulation, currentSimulationPlanSchema (some (simulationPlanJson
        (buildSimulationPlan (householdSpending 120000000 10)))) ≠ .ok simulation) ∧
      Engine.validatePlan (toSimulationPlan (householdSpending 120000000 10))
        = .error "profile amounts and rates must be finite and nonnegative where applicable" := by
  refine ⟨?_, ?_, by decide +kernel⟩
  · exact stored_of_test (by decide +kernel)
  · intro simulation hok
    have hrefused : (currentSimulationPlanSchema (some (simulationPlanJson
        (buildSimulationPlan (householdSpending 120000000 10))))).isOk = false := by
      decide +kernel
    rw [hok] at hrefused
    cases hrefused

theorem storedPlan_runs_iff_modest :
    retirementPlanSchema (some (planJson (householdSpending 30000 1)))
        = .ok (householdSpending 30000 1) ∧
      ∀ derived ∈ householdSpending 30000 1
        :: (allScenarios (householdSpending 30000 1) 42).map (·.plan), Runnable derived := by
  refine ⟨modestHousehold_stored,
    (storedPlan_runs_iff modestHousehold_stored (by decide)).mpr ⟨?_, ?_, ?_⟩⟩
  · decide +kernel
  · decide +kernel
  · decide +kernel

end RetirementPlanner.Web
