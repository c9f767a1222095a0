import RetirementPlanner.Web.Schemas

/-!
# Hydrating a stored plan

`hydratePlan` of `state/usePlan.ts`, which builds a valid plan from whatever a store
hands back; `retirementSpendingOf` of `domain/age.ts`; and `toSimulationPlan` of
`services/simulation.ts`, which resolves a plan into what the engine runs on.

The numeric legacy keys are read as the numbers their declared types say they are: a
value of another type is taken as absent, where JavaScript would coerce it.
-/

namespace RetirementPlanner.Web

open Schema
open Engine (NaiveDate)

variable {K : Type} [Field K] [LinearOrder K]

/-! ## Defaults -/

/-- What the browser's clock says while the application loads. -/
structure Clock where
  /-- `new Date().getFullYear()` -/
  fullYear : ℤ
  /-- The date part of `new Date().toISOString()`. -/
  isoDate : String

/-- A browser opened on the first day of 2025. -/
def newYear : Clock := ⟨2025, "2025-01-01"⟩

def starterWeights : Json K := .obj [("stocks", .num 0.9), ("bonds", .num 0.1)]

def starterAccount (id name accountType : String) (balance : K) : Json K :=
  .obj [("id", .str id), ("name", .str name), ("institution", .str ""),
    ("type", .str accountType), ("balance", .num balance), ("assetWeights", starterWeights)]

/-- A scaffold to edit, not a model household. -/
def starterAccounts : List (Json K) :=
  [starterAccount "starter-401k" "401(k)" "Traditional" 75000,
    starterAccount "starter-roth-ira" "Roth IRA" "Roth" 25000,
    starterAccount "starter-brokerage" "Brokerage" "Taxable" 50000]

/-- `DEFAULT_RETIREMENT_HEALTHCARE` -/
def defaultRetirementHealthcare : Fields K :=
  [("preMedicarePremium", .num 15900), ("medicarePremium", .num 4650), ("outOfPocket", .num 3000),
    ("realGrowthRate", .num 0.02)]

/-- The profile of `defaultPlan`. -/
def defaultProfile (clock : Clock) : Fields K :=
  [("birthDate", .str (toString (clock.fullYear - 30) ++ "-01-01")), ("state", .str "CA"),
    ("filingStatus", .str "Single"), ("retirementAge", .num 65), ("currentSalary", .num 100000),
    ("salaryGrowthRate", .num 0.02), ("currentSpending", .num 60000),
    ("workingSpendingGrowthRate", .num 0), ("retirementSpendingMultiplier", .num 1),
    ("retirementSpendingGrowthRate", .num 0), ("lifeExpectancy", .num 90),
    ("retirementHealthcare", .obj defaultRetirementHealthcare),
    ("longTermCare", defaultLongTermCare), ("asOfDate", .str clock.isoDate)]

/-- The Social Security settings of `defaultPlan`. -/
def defaultSocialSecurity : Fields K :=
  [("enabled", .bool true), ("claimAge", .num 67), ("manualOverride", .bool false)]

/-- The assumptions of `defaultPlan`. -/
def defaultAssumptions : Fields K :=
  [("simulationModel", .str "historical"), ("randomSeed", .num 42),
    ("taxableGainRatio", .num 0.5), ("hsaEligible", .bool false),
    ("useBackdoorRoth", .bool true),
    ("rothConversion", .obj [("enabled", .bool false), ("ceiling", .str "bracket24")]),
    ("magiAwareWithdrawals", .bool true), ("terminalTaxRate", .num 0.30)]

/-! ## Hydration -/

/-- The ratio a retirement target stored in dollars implied against working spending. A
plan with no working-year spending has no ratio to recover. -/
def legacyRetirementMultiplier (profile : Fields K) : Option K :=
  match numberOf (coalesce (profile.get "retirementSpending") (profile.get "desiredSpending")),
    numberOf (coalesce (profile.get "currentSpending") (profile.get "desiredSpending")) with
  | some target, some working => if 0 < working then some (target / working) else none
  | _, _ => none

/-- `{ ...defaults, ...(value ?? {}) }` for a nested object. -/
def mergeDefaults (defaults : Fields K) (value : Option (Json K)) : Json K :=
  .obj (defaults.spread (fieldsOf (nonNull value)))

variable [FloorRing K]

/-- The stored birth date, or the one that reproduces the stored age exactly. The text
of the as-of date is sliced, so one that is no text throws. -/
def hydrateBirthDate (profile : Fields K) (asOfDate : Option (Json K)) : Except Issue (Json K) :=
  match nonNull (profile.get "birthDate"), asOfDate with
  | some birthDate, _ => .ok birthDate
  | none, some (.str asOf) =>
    .ok (.str (birthDateFromLegacyAge ((numberOf (nonNull (profile.get "age"))).getD 35)
      (numberOf (nonNull (profile.get "birthYear"))) asOf))
  | none, _ => fail none

/-- The profile `hydratePlan` hands to the plan schema. -/
def hydrateProfile (clock : Clock) (profile : Fields K) : Except Issue (Fields K) := do
  let defaults : Fields K := defaultProfile clock
  let asOfDate := coalesce (profile.get "asOfDate") (defaults.get "asOfDate")
  let birthDate ← hydrateBirthDate profile asOfDate
  let currentSpending :=
    coalesce (coalesce (profile.get "currentSpending") (profile.get "desiredSpending"))
      (defaults.get "currentSpending")
  let working := coalesce (profile.get "workingSpendingGrowthRate")
    (defaults.get "workingSpendingGrowthRate")
  let multiplier := coalesce (profile.get "retirementSpendingMultiplier")
    (((legacyRetirementMultiplier profile).map .num).or
      (defaults.get "retirementSpendingMultiplier"))
  let growth := coalesce
    (coalesce (profile.get "retirementSpendingGrowthRate") (profile.get "spendingGrowthRate"))
    (defaults.get "retirementSpendingGrowthRate")
  .ok ((defaults.spread profile).spread
    [("currentSpending", currentSpending.getD .null),
      ("workingSpendingGrowthRate", working.getD .null),
      ("retirementSpendingMultiplier", multiplier.getD .null),
      ("retirementSpendingGrowthRate", growth.getD .null),
      ("retirementHealthcare",
        mergeDefaults (fieldsOf (defaults.get "retirementHealthcare"))
          (profile.get "retirementHealthcare")),
      ("longTermCare",
        mergeDefaults (fieldsOf (defaults.get "longTermCare")) (profile.get "longTermCare")),
      ("birthDate", birthDate)])

/-- A positive legacy contribution target: evidence the household had that kind of
space to fill. -/
def legacyContributes (contributions : Fields K) (key : String) : Bool :=
  decide (0 < (numberOf (contributions.get key)).getD 0)

/-- A value a condition takes for true. -/
def truthy : Option (Json K) → Bool
  | none | some .null | some (.bool false) | some (.str "") => false
  | some (.num x) => decide (x ≠ 0)
  | _ => true

/-- The assumptions `hydratePlan` hands to the plan schema. -/
def hydrateAssumptions (assumptions : Fields K) : Fields K :=
  let legacyContributions : Option (Fields K) :=
    if truthy (assumptions.get "contributions") then
      some (fieldsOf (assumptions.get "contributions"))
    else none
  let hsaEligible := (nonNull (assumptions.get "hsaEligible")).getD
    (.bool (legacyContributions.elim false (legacyContributes · "hsa")))
  let useBackdoorRoth := (nonNull (assumptions.get "useBackdoorRoth")).getD
    (.bool (legacyContributions.elim true (legacyContributes · "roth")))
  (Fields.spread defaultAssumptions assumptions).spread
    [("hsaEligible", hsaEligible), ("useBackdoorRoth", useBackdoorRoth)]

/-- Build a valid plan from whatever a store hands back, which may have been written by
any older version of the application. -/
def hydratePlan (clock : Clock) (profileSource socialSecuritySource assumptionsSource
    accountsSource : Option (Json K)) : Except Issue (RetirementPlan K) := do
  let profile ← hydrateProfile clock (fieldsOf profileSource)
  let accounts := match accountsSource with
    | some (.arr items) => items
    | _ => starterAccounts
  retirementPlanSchema (some (.obj
    [("profile", .obj profile),
      ("socialSecurity",
        .obj (Fields.spread defaultSocialSecurity (fieldsOf socialSecuritySource))),
      ("assumptions", .obj (hydrateAssumptions (fieldsOf assumptionsSource))),
      ("accounts", .arr accounts)]))

/-! ## Resolution -/

omit [LinearOrder K] [FloorRing K] in
/-- The first modeled retirement year's spending, in real dollars: a share of the last
working year's, so the exponent is one short of the working years. -/
def retirementSpendingOf (profile : UserProfile K) : K :=
  let workingYears := max 0 (profile.retirementAge - ageOn profile.birthDate profile.asOfDate)
  profile.currentSpending
    * (1 + profile.workingSpendingGrowthRate) ^ (max 0 (workingYears - 1)).toNat
    * profile.retirementSpendingMultiplier

/-- The plan the engine receives: the multiplier resolved into dollars, and accounts
without their identities. -/
def toSimulationPlan (plan : RetirementPlan K) : Engine.RetirementPlan K where
  schemaVersion := planSchemaVersion
  profile :=
    { birthDate := some plan.profile.birthDate
      state := plan.profile.state
      filingStatus := plan.profile.filingStatus
      retirementAge := plan.profile.retirementAge.toNat
      currentSalary := plan.profile.currentSalary
      salaryGrowthRate := plan.profile.salaryGrowthRate
      currentSpending := plan.profile.currentSpending
      workingSpendingGrowthRate := plan.profile.workingSpendingGrowthRate
      retirementSpending := retirementSpendingOf plan.profile
      retirementSpendingGrowthRate := plan.profile.retirementSpendingGrowthRate
      lifeExpectancy := plan.profile.lifeExpectancy.toNat
      retirementHealthcare := plan.profile.retirementHealthcare
      longTermCare := plan.profile.longTermCare
      asOfDate := some plan.profile.asOfDate }
  accounts := plan.accounts.map fun account =>
    { accountType := account.accountType
      balance := account.balance
      assetWeights := account.assetWeights
      isSurplusCash := false }
  socialSecurity :=
    { enabled := plan.socialSecurity.enabled
      estimatedBenefit := plan.socialSecurity.estimatedBenefit
      claimAge := plan.socialSecurity.claimAge.toNat
      manualOverride := plan.socialSecurity.manualOverride }
  assumptions :=
    { simulationModel := plan.assumptions.simulationModel
      randomSeed := plan.assumptions.randomSeed.toNat
      taxableGainRatio := plan.assumptions.taxableGainRatio
      hsaEligible := plan.assumptions.hsaEligible
      useBackdoorRoth := plan.assumptions.useBackdoorRoth
      rothConversion := plan.assumptions.rothConversion
      magiAwareWithdrawals := plan.assumptions.magiAwareWithdrawals
      terminalTaxRate := plan.assumptions.terminalTaxRate }

end RetirementPlanner.Web
