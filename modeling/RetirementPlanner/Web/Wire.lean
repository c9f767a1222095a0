import RetirementPlanner.Engine.Server
import RetirementPlanner.Engine.Validation
import RetirementPlanner.Web.SimulationRequest

/-!
# The wire to the engine

What the edge forwards of an admitted request, and what the service makes of it: the
derived deserializers of `types.rs`, with their names, aliases and defaults, and the
checks its handlers make before anything runs.

A JSON number with a whole value prints without a point, which is what an unsigned field
reads. Of the spellings of a date the service reads, those the edge admits are kept.
-/

namespace RetirementPlanner.Web

open Schema
open Engine (NaiveDate RetirementHealthcare LongTermCare RothConversionPolicy MCConfig)

variable {K : Type} [Field K]

/-! ## The engine's reading -/

def SimulationProfile.engine (profile : SimulationProfile K) : Engine.UserProfile K where
  birthDate := some profile.birthDate
  state := profile.state
  filingStatus := profile.filingStatus
  retirementAge := profile.retirementAge.toNat
  currentSalary := profile.currentSalary
  salaryGrowthRate := profile.salaryGrowthRate
  currentSpending := profile.currentSpending
  workingSpendingGrowthRate := profile.workingSpendingGrowthRate
  retirementSpending := profile.retirementSpending
  retirementSpendingGrowthRate := profile.retirementSpendingGrowthRate
  lifeExpectancy := profile.lifeExpectancy.toNat
  retirementHealthcare := profile.retirementHealthcare
  longTermCare := profile.longTermCare
  asOfDate := some profile.asOfDate

def SimulationAccount.engine (account : SimulationAccount K) : Engine.Account K where
  accountType := account.accountType
  balance := account.balance
  assetWeights := account.assetWeights
  isSurplusCash := false

def SocialSecuritySettings.engine (settings : SocialSecuritySettings K) :
    Engine.SocialSecuritySettings K where
  enabled := settings.enabled
  estimatedBenefit := settings.estimatedBenefit
  claimAge := settings.claimAge.toNat
  manualOverride := settings.manualOverride

def AssumptionSettings.engine (assumptions : AssumptionSettings K) :
    Engine.ProjectionSettings K where
  simulationModel := assumptions.simulationModel
  randomSeed := assumptions.randomSeed.toNat
  taxableGainRatio := assumptions.taxableGainRatio
  hsaEligible := assumptions.hsaEligible
  useBackdoorRoth := assumptions.useBackdoorRoth
  rothConversion := assumptions.rothConversion
  magiAwareWithdrawals := assumptions.magiAwareWithdrawals
  terminalTaxRate := assumptions.terminalTaxRate

/-- A simulation plan as the engine holds it. -/
def SimulationPlan.engine (plan : SimulationPlan K) : Engine.RetirementPlan K where
  schemaVersion := plan.schemaVersion.toNat
  profile := plan.profile.engine
  accounts := plan.accounts.map SimulationAccount.engine
  socialSecurity := plan.socialSecurity.engine
  assumptions := plan.assumptions.engine

def SimulationConfig.engine (config : SimulationConfig) : MCConfig where
  paths := config.paths.toNat
  seed := config.seed.toNat
  useHistoricalBootstrap := config.useHistoricalBootstrap.getD true
  blockSize := (config.blockSize.getD 5).toNat

/-- The plan a simulation of a stored plan runs on is the one built for the wire. -/
theorem engine_buildSimulationPlan (plan : RetirementPlan K) :
    (buildSimulationPlan plan).engine = toSimulationPlan plan := by
  simp only [SimulationPlan.engine, buildSimulationPlan, List.map_map]
  rfl

/-! ## What the edge forwards -/

def simulationConfigJson (config : SimulationConfig) : Json K :=
  .obj ([("paths", .num config.paths), ("seed", .num config.seed)]
    ++ (config.useHistoricalBootstrap.map fun b => ("useHistoricalBootstrap", .bool b)).toList
    ++ (config.blockSize.map fun n : ℤ => ("blockSize", .num (n : K))).toList)

def monteCarloRequestJson (request : MonteCarloRequest K) : Json K :=
  .obj [("plan", simulationPlanJson request.plan), ("config", simulationConfigJson request.config)]

/-! ## Texts -/

def isHighSurrogate (unit : UInt16) : Bool := 0xD800 ≤ unit && unit < 0xDC00

def isLowSurrogate (unit : UInt16) : Bool := 0xDC00 ≤ unit && unit < 0xE000

/-- The characters of a text. An unpaired surrogate stands for none. -/
def decodeUtf16 : JsString → Option (List Char)
  | [] => some []
  | unit :: rest =>
    if isHighSurrogate unit then
      match rest with
      | low :: rest =>
        if isLowSurrogate low then
          (decodeUtf16 rest).map
            (Char.ofNat (0x10000 + (unit.toNat - 0xD800) * 0x400 + (low.toNat - 0xDC00)) :: ·)
        else none
      | [] => none
    else if isLowSurrogate unit then none
    else (decodeUtf16 rest).map (Char.ofNat unit.toNat :: ·)

/-- A Rust `String`, which has no unpaired surrogates. -/
def deserializeId (id : JsString) : Except Issue String :=
  match decodeUtf16 id with
  | some chars => .ok (String.ofList chars)
  | none => fail (some "lone surrogate in hex escape")

/-! ## Deserializers -/

section Serde

variable [LinearOrder K] [FloorRing K]

def u32 : Parser K ℕ := fun value =>
  (integerBetween 0 (2 ^ 32 - 1) none none value).map Int.toNat

def usize : Parser K ℕ := fun value =>
  (integerBetween 0 (2 ^ 64 - 1) none none value).map Int.toNat

omit [Field K] [LinearOrder K] [FloorRing K] in
/-- A key with an alias, which may not stand beside it. -/
def aliased {α : Type} (key other : String) (p : Parser K α) (fields : Fields K) :
    Except Issue α :=
  match fields.get key, fields.get other with
  | some _, some _ => .error ⟨[key], some "duplicate field"⟩
  | none, some value => under other (p (some value))
  | value, none => under key (p value)

omit [Field K] [LinearOrder K] [FloorRing K] in
/-- `Option<f64>`: absent and null are the same. -/
def nullableNumber : Parser K (Option K)
  | none | some .null => .ok none
  | value => (number value).map some

/-- What the engine makes of a date's text. -/
def parseDate (text : String) : Option NaiveDate :=
  (isoParts text).bind fun (year, month, day) => calendarDate year month day

def deserializeAccount : Parser K (Engine.Account K) := fun value => do
  let fields ← object value
  let accountType ← field "type" (oneOf accountTypes) fields
  let balance ← field "balance" number fields
  let assetWeights ← field "assetWeights" (fun value => do
    let fields ← object value
    let stocks ← field "stocks" number fields
    let bonds ← field "bonds" number fields
    .ok { stocks, bonds : Engine.AssetWeights K }) fields
  .ok { accountType, balance, assetWeights, isSurplusCash := false }

def deserializeHealthcare : Parser K (RetirementHealthcare K) := fun value => do
  let fields ← object value
  let preMedicarePremium ← field "preMedicarePremium" (withDefault 0 number) fields
  let medicarePremium ← field "medicarePremium" (withDefault 0 number) fields
  let outOfPocket ← field "outOfPocket" (withDefault 0 number) fields
  let realGrowthRate ← field "realGrowthRate" (withDefault 0 number) fields
  .ok { preMedicarePremium, medicarePremium, outOfPocket, realGrowthRate }

/-- Unlike the healthcare fields, an absent value is not a no-op: the model is on. -/
def deserializeLongTermCare : Parser K (LongTermCare K) := fun value => do
  let fields ← object value
  let enabled ← field "enabled" (withDefault true boolean) fields
  let costMultiplier ← field "costMultiplier" (withDefault 1 number) fields
  .ok { enabled, costMultiplier }

def deserializeProfile : Parser K (Engine.UserProfile K) := fun value => do
  let fields ← object value
  let birthDate ← field "birthDate" string fields
  let state ← field "state" (oneOf states) fields
  let filingStatus ← field "filingStatus" (oneOf filingStatuses) fields
  let retirementAge ← field "retirementAge" u32 fields
  let currentSalary ← field "currentSalary" number fields
  let salaryGrowthRate ← field "salaryGrowthRate" number fields
  let currentSpending ← field "currentSpending" number fields
  let workingSpendingGrowthRate ←
    field "workingSpendingGrowthRate" (withDefault 0 number) fields
  let retirementSpending ← aliased "retirementSpending" "desiredSpending" number fields
  let retirementSpendingGrowthRate ←
    aliased "retirementSpendingGrowthRate" "spendingGrowthRate" number fields
  let lifeExpectancy ← field "lifeExpectancy" u32 fields
  let retirementHealthcare ←
    field "retirementHealthcare" (withDefault ⟨0, 0, 0, 0⟩ deserializeHealthcare) fields
  let longTermCare ← field "longTermCare" (withDefault ⟨true, 1⟩ deserializeLongTermCare) fields
  let asOfDate ← field "asOfDate" string fields
  .ok
    { birthDate := parseDate birthDate, state, filingStatus, retirementAge, currentSalary,
      salaryGrowthRate, currentSpending, workingSpendingGrowthRate, retirementSpending,
      retirementSpendingGrowthRate, lifeExpectancy, retirementHealthcare, longTermCare,
      asOfDate := parseDate asOfDate }

def deserializeSocialSecurity : Parser K (Engine.SocialSecuritySettings K) := fun value => do
  let fields ← object value
  let enabled ← field "enabled" boolean fields
  let estimatedBenefit ← field "estimatedBenefit" nullableNumber fields
  let claimAge ← field "claimAge" u32 fields
  let manualOverride ← field "manualOverride" boolean fields
  .ok { enabled, estimatedBenefit, claimAge, manualOverride }

omit [Field K] [LinearOrder K] [FloorRing K] in
def deserializeRothConversion : Parser K RothConversionPolicy := fun value => do
  let fields ← object value
  let enabled ← field "enabled" (withDefault false boolean) fields
  let ceiling ← field "ceiling" (withDefault .bracket24 (oneOf rothConversionCeilings)) fields
  .ok { enabled, ceiling }

def deserializeSettings : Parser K (Engine.ProjectionSettings K) := fun value => do
  let fields ← object value
  let simulationModel ← field "simulationModel" (oneOf simulationModels) fields
  let randomSeed ← field "randomSeed" (withDefault 42 u32) fields
  let taxableGainRatio ← field "taxableGainRatio" number fields
  let hsaEligible ← field "hsaEligible" (withDefault false boolean) fields
  let useBackdoorRoth ← field "useBackdoorRoth" (withDefault false boolean) fields
  let rothConversion ←
    field "rothConversion" (withDefault ⟨false, .bracket24⟩ deserializeRothConversion) fields
  let magiAwareWithdrawals ← field "magiAwareWithdrawals" (withDefault false boolean) fields
  let terminalTaxRate ← field "terminalTaxRate" (withDefault 0.30 number) fields
  .ok { simulationModel, randomSeed, taxableGainRatio, hsaEligible, useBackdoorRoth,
        rothConversion, magiAwareWithdrawals, terminalTaxRate }

def deserializePlan : Parser K (Engine.RetirementPlan K) := fun value => do
  let fields ← object value
  let schemaVersion ← field "schemaVersion" (withDefault 0 u32) fields
  let profile ← field "profile" deserializeProfile fields
  let accounts ← field "accounts" (array deserializeAccount) fields
  let socialSecurity ← field "socialSecurity" deserializeSocialSecurity fields
  let assumptions ← field "assumptions" deserializeSettings fields
  .ok { schemaVersion, profile, accounts, socialSecurity, assumptions }

def deserializeConfig : Parser K MCConfig := fun value => do
  let fields ← object value
  let paths ← field "paths" u32 fields
  let seed ← field "seed" u32 fields
  let useHistoricalBootstrap ← field "useHistoricalBootstrap" (withDefault true boolean) fields
  let blockSize ← field "blockSize" (withDefault 5 usize) fields
  .ok { paths, seed, useHistoricalBootstrap, blockSize }

def deserializeRequest : Parser K (Engine.SimulationRequest K) := fun value => do
  let fields ← object value
  let plan ← field "plan" deserializePlan fields
  let config ← field "config" deserializeConfig fields
  .ok { plan, config }

/-- One simulation of a forwarded batch, read. -/
def deserializeBatchSimulation (simulation : BatchSimulation K) :
    Except Issue (Engine.BatchSimulationRequest K) := do
  let id ← under "id" (deserializeId simulation.id)
  let plan ← under "plan" (deserializePlan (some (simulationPlanJson simulation.plan)))
  let config ← under "config"
    (deserializeConfig (some (simulationConfigJson simulation.config : Json K)))
  .ok { id, plan, config }

def deserializeBatch : List (BatchSimulation K) →
    Except Issue (List (Engine.BatchSimulationRequest K))
  | [] => .ok []
  | simulation :: simulations => do
    let request ← deserializeBatchSimulation simulation
    let rest ← deserializeBatch simulations
    .ok (request :: rest)

def responseModeText : BatchResponseMode → String
  | .full => "full"
  | .summary => "summary"

def deserializeResponseMode : Parser K Engine.BatchResponseMode :=
  oneOf [("full", .full), ("summary", .summary)]

/-! ## What the service admits -/

/-- Why the service refuses a request: serde cannot read it, or a check fails. -/
inductive Refusal
  | unreadable (issue : Issue)
  | badRequest (message : String)
  deriving DecidableEq, Repr

def readable {α : Type} : Except Issue α → Except Refusal α
  | .ok a => .ok a
  | .error issue => .error (.unreadable issue)

def checked {α : Type} : Except String α → Except Refusal α
  | .ok a => .ok a
  | .error message => .error (.badRequest message)

/-- The checks of `handle_simulate`. -/
def admitSimulate (request : MonteCarloRequest K) :
    Except Refusal (Engine.SimulationRequest K) := do
  let request ← readable (deserializeRequest (some (monteCarloRequestJson request)))
  let _ ← checked (Engine.validateSimulationRequest request)
  .ok request

/-- The checks of `handle_batch`. -/
def admitBatch (request : BatchRequest K) : Except Refusal (Engine.ServiceRequest K) := do
  let responseMode ← readable (under "responseMode"
    (deserializeResponseMode (K := K) (some (.str (responseModeText request.responseMode)))))
  let simulations ← readable (deserializeBatch request.simulations)
  let _ ← checked (Engine.validateBatchSimulations simulations)
  .ok (.batch simulations responseMode)

end Serde

end RetirementPlanner.Web
