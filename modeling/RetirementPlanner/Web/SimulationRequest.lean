import RetirementPlanner.Web.Codec
import RetirementPlanner.Web.Plan

/-!
# Simulation requests

The engine-facing half of `domain/schemas.ts` and `lib/simulation-request.ts`: the plan a
simulation request carries, the legacy branch that rewrites an older bundle's payload, and
the limits of a single and of a batch request.

The `id` of a batched simulation is kept as the UTF-16 code units JavaScript measures it
in; every other text of a request is one of a table or a date.
-/

namespace RetirementPlanner.Web

open Schema
open Engine (NaiveDate AccountType FilingStatus State AssetWeights RetirementHealthcare
  LongTermCare)

variable {K : Type} [Field K] [LinearOrder K]

/-! ## Simulation plans -/

/-- What the engines receive: the multiplier already resolved into dollars. -/
structure SimulationProfile (K : Type) where
  birthDate : NaiveDate
  state : State
  filingStatus : FilingStatus
  retirementAge : ℤ
  currentSalary : K
  salaryGrowthRate : K
  currentSpending : K
  workingSpendingGrowthRate : K
  retirementSpending : K
  retirementSpendingGrowthRate : K
  lifeExpectancy : ℤ
  retirementHealthcare : RetirementHealthcare K
  longTermCare : LongTermCare K
  asOfDate : NaiveDate
  deriving DecidableEq

structure SimulationAccount (K : Type) where
  accountType : AccountType
  balance : K
  assetWeights : AssetWeights K
  deriving DecidableEq, Repr

structure SimulationPlan (K : Type) where
  schemaVersion : ℤ
  profile : SimulationProfile K
  accounts : List (SimulationAccount K)
  socialSecurity : SocialSecuritySettings K
  assumptions : AssumptionSettings K
  deriving DecidableEq

/-! ## As JSON -/

section Codec

omit [LinearOrder K]

def simulationProfileFields (profile : SimulationProfile K) : Fields K :=
  [("birthDate", .str (isoText profile.birthDate)), ("state", .str (stateText profile.state)),
    ("filingStatus", .str (filingStatusText profile.filingStatus)),
    ("retirementAge", .num profile.retirementAge), ("currentSalary", .num profile.currentSalary),
    ("salaryGrowthRate", .num profile.salaryGrowthRate),
    ("currentSpending", .num profile.currentSpending),
    ("workingSpendingGrowthRate", .num profile.workingSpendingGrowthRate),
    ("retirementSpendingGrowthRate", .num profile.retirementSpendingGrowthRate),
    ("lifeExpectancy", .num profile.lifeExpectancy),
    ("retirementHealthcare", .obj (healthcareFields profile.retirementHealthcare)),
    ("longTermCare", .obj (careFields profile.longTermCare)),
    ("asOfDate", .str (isoText profile.asOfDate)),
    ("retirementSpending", .num profile.retirementSpending)]

omit [Field K] in
def simulationAccountJson (account : SimulationAccount K) : Json K :=
  .obj [("type", .str (accountTypeText account.accountType)), ("balance", .num account.balance),
    ("assetWeights", assetWeightsJson account.assetWeights)]

def simulationPlanJson (plan : SimulationPlan K) : Json K :=
  .obj [("schemaVersion", .num plan.schemaVersion),
    ("profile", .obj (simulationProfileFields plan.profile)),
    ("accounts", .arr (plan.accounts.map simulationAccountJson)),
    ("socialSecurity", .obj (socialSecurityFields plan.socialSecurity)),
    ("assumptions", .obj (assumptionFields plan.assumptions))]

end Codec

/-! ## Schemas -/

def simulationAccountSchema : Parser K (SimulationAccount K) := fun value => do
  let fields ← object value
  let accountType ← field "type" (oneOf accountTypes) fields
  let balance ←
    field "balance" (between 0 1000000000000000 (some "Balance must be non-negative") none) fields
  let assetWeights ← field "assetWeights" assetWeightsSchema fields
  .ok { accountType, balance, assetWeights }

/-- Age and horizon rules, shared by the stored and engine-facing profiles. -/
def withProfileRules {α : Type} (birthDate asOfDate : NaiveDate)
    (retirementAge lifeExpectancy : ℤ) (profile : α) : Except Issue α :=
  let age := ageOn birthDate asOfDate
  if ¬(18 ≤ age ∧ age ≤ 100) then
    .error ⟨["birthDate"], some "Age at the as-of date must be between 18 and 100"⟩
  else if ¬max age retirementAge < lifeExpectancy then
    .error ⟨["lifeExpectancy"],
      some "Life expectancy must be greater than current and retirement ages"⟩
  else .ok profile

omit [Field K] [LinearOrder K] in
/-- The rules of a stored profile are the shared ones. -/
theorem profileRules_eq (profile : UserProfile K) :
    profileRules profile = withProfileRules profile.birthDate profile.asOfDate
      profile.retirementAge profile.lifeExpectancy profile := rfl

variable [FloorRing K]

def simulationProfileSchema : Parser K (SimulationProfile K) := fun value => do
  let fields ← object value
  let birthDate ← field "birthDate" isoDateSchema fields
  let state ← field "state" (oneOf states) fields
  let filingStatus ← field "filingStatus" (oneOf filingStatuses) fields
  let retirementAge ← field "retirementAge"
    (integerBetween minRetirementAge 100 (some "Retirement age must be at least 45")
      (some "Retirement age must be reasonable")) fields
  let currentSalary ← field "currentSalary"
    (between 0 maxPlanDollars (some "Salary must be non-negative") none) fields
  let salaryGrowthRate ← field "salaryGrowthRate"
    (growthRate (-0.1) 0.2 "Salary growth rate must be reasonable") fields
  let currentSpending ← field "currentSpending"
    (between 0 maxPlanDollars (some "Current spending must be non-negative") none) fields
  let workingSpendingGrowthRate ← field "workingSpendingGrowthRate"
    (growthRate (-0.1) 0.1 "Working spending growth rate must be reasonable") fields
  let retirementSpendingGrowthRate ← field "retirementSpendingGrowthRate"
    (growthRate (-0.1) 0.1 "Retirement spending growth rate must be reasonable") fields
  let lifeExpectancy ← field "lifeExpectancy"
    (integerBetween 65 120 (some "Life expectancy must be at least 65")
      (some "Life expectancy must be reasonable")) fields
  let retirementHealthcare ← field "retirementHealthcare" retirementHealthcareSchema fields
  let longTermCare ← field "longTermCare" longTermCareSchema fields
  let asOfDate ← field "asOfDate" isoDateSchema fields
  let retirementSpending ← field "retirementSpending" (between 0 1000000000 none none) fields
  withProfileRules birthDate asOfDate retirementAge lifeExpectancy
    { birthDate, state, filingStatus, retirementAge, currentSalary, salaryGrowthRate,
      currentSpending, workingSpendingGrowthRate, retirementSpending,
      retirementSpendingGrowthRate, lifeExpectancy, retirementHealthcare, longTermCare, asOfDate }

/-- The plan of the current schema version. -/
def currentSimulationPlanSchema : Parser K (SimulationPlan K) := fun value => do
  let fields ← object value
  let schemaVersion ← field "schemaVersion"
    (refined integer (fun n => n = planSchemaVersion) none) fields
  let profile ← field "profile" simulationProfileSchema fields
  let accounts ← field "accounts" (array simulationAccountSchema) fields
  let socialSecurity ← field "socialSecurity" socialSecuritySettingsSchema fields
  let assumptions ← field "assumptions" projectionSettingsSchema fields
  .ok { schemaVersion, profile, accounts, socialSecurity, assumptions }

/-! ## Legacy plans -/

/-- The transform of `legacySimulationProfileSchema`: the same normalization as a stored
profile's, where the retirement target stays a dollar figure. -/
def legacySimulationTransform (fields : Fields K) (legacy : LegacyFields K) : Fields K :=
  let rest := fields.without legacyKeys
  let birthDate := legacy.birthDate.getD
    (birthDateFromLegacyAge (legacy.age.getD 35) legacy.birthYear legacy.asOfDate)
  let growth := (coalesce (rest.get "retirementSpendingGrowthRate")
    (legacy.spendingGrowthRate.map .num)).getD (.num 0)
  let working := (nonNull (rest.get "workingSpendingGrowthRate")).getD (.num 0)
  let healthcare := (nonNull (rest.get "retirementHealthcare")).getD zeroHealthcare
  let care := (nonNull (rest.get "longTermCare")).getD defaultLongTermCare
  let retirementSpending := ((legacy.retirementSpending.or legacy.desiredSpending).or
    legacy.currentSpending).getD 0
  rest.spread
    [("currentSpending", .num ((legacy.currentSpending.or legacy.desiredSpending).getD 0)),
      ("workingSpendingGrowthRate", working), ("retirementSpendingGrowthRate", growth),
      ("birthDate", .str birthDate), ("retirementSpending", .num retirementSpending),
      ("retirementHealthcare", healthcare), ("longTermCare", care)]

def legacySimulationProfileSchema : Parser K (SimulationProfile K) := fun value => do
  let fields ← object value
  let legacy ← legacyFields fields
  simulationProfileSchema (some (.obj (legacySimulationTransform fields legacy)))

/-- `projectionSettingsSchema.extend`: an older bundle sends no MAGI-aware flag, and
defaulting it on would hand that bundle behavior it was not built against. -/
def legacyProjectionSettingsSchema : Parser K (AssumptionSettings K) := fun value => do
  let fields ← object value
  let magiAwareWithdrawals ← field "magiAwareWithdrawals" (withDefault false boolean) fields
  let assumptions ← projectionSettingsSchema value
  .ok { assumptions with magiAwareWithdrawals }

/-- Every version below the current one is accepted and forwarded unchanged. -/
def legacySimulationPlanSchema : Parser K (SimulationPlan K) := fun value => do
  let fields ← object value
  let schemaVersion ← field "schemaVersion"
    (Schema.optional (integerBetween 0 (planSchemaVersion - 1) none none)) fields
  let profile ← field "profile" legacySimulationProfileSchema fields
  let accounts ← field "accounts" (array simulationAccountSchema) fields
  let socialSecurity ← field "socialSecurity" socialSecuritySettingsSchema fields
  let assumptions ← field "assumptions" legacyProjectionSettingsSchema fields
  .ok { schemaVersion := schemaVersion.getD 0, profile, accounts, socialSecurity, assumptions }

/-- Plan validation for simulation requests. -/
def simulationPlanSchema : Parser K (SimulationPlan K) :=
  refined (union currentSimulationPlanSchema legacySimulationPlanSchema)
    (fun plan => plan.accounts.length ≤ maxPlanAccounts)
    (some s!"Too many accounts (max {maxPlanAccounts})")

/-! ## Requests -/

/-- Hard ceiling on paths per simulation. -/
def maxPaths : ℤ := 5000
def maxBatchSimulations : ℕ := 40
/-- Max total paths across a batch request. -/
def maxBatchTotalPaths : ℤ := 40000

structure SimulationConfig where
  paths : ℤ
  seed : ℤ
  useHistoricalBootstrap : Option Bool
  blockSize : Option ℤ
  deriving DecidableEq, Repr

def simulationConfigSchema : Parser K SimulationConfig := fun value => do
  let fields ← object value
  let paths ← field "paths" (integerBetween 1 maxPaths none none) fields
  let seed ← field "seed" (integerBetween 0 (2 ^ 32 - 1) none none) fields
  let useHistoricalBootstrap ←
    field "useHistoricalBootstrap" (Schema.optional boolean) fields
  let blockSize ← field "blockSize" (Schema.optional (integerBetween 1 10 none none)) fields
  .ok { paths, seed, useHistoricalBootstrap, blockSize }

structure MonteCarloRequest (K : Type) where
  plan : SimulationPlan K
  config : SimulationConfig

def monteCarloRequestSchema : Parser K (MonteCarloRequest K) := fun value => do
  let fields ← object value
  let plan ← field "plan" simulationPlanSchema fields
  let config ← field "config" simulationConfigSchema fields
  .ok { plan, config }

inductive BatchResponseMode
  | full
  | summary
  deriving DecidableEq, Repr

/-- A text as JavaScript has it: its UTF-16 code units, paired or not. -/
abbrev JsString := List UInt16

/-- One simulation of a batch body. An `id` that is absent or no text is `none`. -/
structure BatchSimulationBody (K : Type) where
  id : Option JsString
  plan : Option (Json K)
  config : Option (Json K)

/-- A batch body. A `simulations` that is absent or no array is `none`. -/
structure BatchBody (K : Type) where
  responseMode : Option (Json K)
  simulations : Option (List (BatchSimulationBody K))

structure BatchSimulation (K : Type) where
  id : JsString
  plan : SimulationPlan K
  config : SimulationConfig

structure BatchRequest (K : Type) where
  responseMode : BatchResponseMode
  simulations : List (BatchSimulation K)

/-- `z.string().min(1).max(64)`, which counts code units. -/
def batchId : Option JsString → Except Issue JsString
  | some id => if 1 ≤ id.length ∧ id.length ≤ 64 then .ok id else fail none
  | none => fail none

def batchSimulationSchema (body : BatchSimulationBody K) : Except Issue (BatchSimulation K) := do
  let id ← under "id" (batchId body.id)
  let plan ← under "plan" (simulationPlanSchema body.plan)
  let config ← under "config" (simulationConfigSchema body.config)
  .ok { id, plan, config }

def batchSimulationsFrom (index : ℕ) :
    List (BatchSimulationBody K) → Except Issue (List (BatchSimulation K))
  | [] => .ok []
  | body :: bodies => do
    let simulation ← under (toString index) (batchSimulationSchema body)
    let rest ← batchSimulationsFrom (index + 1) bodies
    .ok (simulation :: rest)

def batchResponseModes : List (String × BatchResponseMode) :=
  [("full", .full), ("summary", .summary)]

def batchRequestSchema (body : BatchBody K) : Except Issue (BatchRequest K) := do
  let responseMode ←
    under "responseMode" (withDefault .full (oneOf batchResponseModes) body.responseMode)
  let bodies ← under "simulations" (body.simulations.elim (fail none) .ok)
  let simulations ← under "simulations" (batchSimulationsFrom 0 bodies)
  if ¬(1 ≤ simulations.length ∧ simulations.length ≤ maxBatchSimulations) then
    .error ⟨["simulations"], none⟩
  else if ¬(simulations.map (·.config.paths)).sum ≤ maxBatchTotalPaths then
    fail (some s!"Total paths across a batch may not exceed {maxBatchTotalPaths}")
  else .ok { responseMode, simulations }

/-! ## Building the plan of a request -/

omit [FloorRing K] [LinearOrder K] in
/-- `toSimulationPlan` of `services/simulation.ts`, before its result crosses the wire. -/
def buildSimulationPlan (plan : RetirementPlan K) : SimulationPlan K where
  schemaVersion := planSchemaVersion
  profile :=
    { birthDate := plan.profile.birthDate
      state := plan.profile.state
      filingStatus := plan.profile.filingStatus
      retirementAge := plan.profile.retirementAge
      currentSalary := plan.profile.currentSalary
      salaryGrowthRate := plan.profile.salaryGrowthRate
      currentSpending := plan.profile.currentSpending
      workingSpendingGrowthRate := plan.profile.workingSpendingGrowthRate
      retirementSpending := retirementSpendingOf plan.profile
      retirementSpendingGrowthRate := plan.profile.retirementSpendingGrowthRate
      lifeExpectancy := plan.profile.lifeExpectancy
      retirementHealthcare := plan.profile.retirementHealthcare
      longTermCare := plan.profile.longTermCare
      asOfDate := plan.profile.asOfDate }
  accounts := plan.accounts.map fun account =>
    { accountType := account.accountType
      balance := account.balance
      assetWeights := account.assetWeights }
  socialSecurity := plan.socialSecurity
  assumptions := plan.assumptions

end RetirementPlanner.Web
