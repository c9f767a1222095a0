import RetirementPlanner.Engine.Server
import RetirementPlanner.Lib.Codec
import RetirementPlanner.Web.CashFlowData
import RetirementPlanner.Web.Sensitivity
import RetirementPlanner.Web.Wire

/-!
# The main run

What a result is on its way from the engine to the browser (`types.rs` writes it,
`simulationResultSchema` reads it, with no key too many or too few), and `runMainSimulation` of
`services/simulation.ts`: the native service first where it is asked, and the browser's own
engine behind it. What is shown can be exported, as the plan simulated and the result.
-/

namespace RetirementPlanner.Web.MainRun

open Schema

variable {K : Type}

structure PathProjection (K : Type) where
  year : K
  age : K
  portfolioValue : K
  income : K
  spending : K
  taxes : K
  savings : K
  socialSecurityBenefit : K
  isRetired : Bool
  withdrawalTaxable : K
  withdrawalTraditional : K
  withdrawalRoth : K
  rmdAmount : K
  rothConversion : K
  depositTaxable : K
  depositTraditional : K
  depositRoth : K
  depositHSA : K
  withdrawalHSA : K
  healthcareCost : K
  longTermCareCost : K
  insufficientFunds : Bool
  deriving DecidableEq, Repr

structure YearlyProjection (K : Type) extends PathProjection K where
  p5 : K
  p10 : K
  p15 : K
  p25 : K
  p50 : K
  p75 : K
  p90 : K
  deriving DecidableEq, Repr

structure OutcomeBucket (K : Type) where
  centerPercentile : K
  lowerPercentile : K
  upperPercentile : K
  successProbability : K
  projections : List (OutcomeCashFlowRow K)
  deriving DecidableEq, Repr

structure SimulationResult (K : Type) where
  successProbability : K
  medianTerminalWealth : K
  medianAfterTaxTerminalWealth : K
  percentile5TerminalWealth : K
  percentile10TerminalWealth : K
  percentile90TerminalWealth : K
  yearlyProjections : List (YearlyProjection K)
  outcomeBuckets : List (OutcomeBucket K)
  riskOfRuin : K
  deriving DecidableEq, Repr

/-! ## What the engine writes -/

section Serialize

variable [IntCast K] [NatCast K]

/-- `PathProjection`, whose fields stand in `YearlyProjection` as they are. -/
def pathProjectionFields (row : Engine.PathProjection K) : Fields K :=
  [("year", .num row.year), ("age", .num row.age), ("portfolioValue", .num row.portfolioValue),
    ("income", .num row.income), ("spending", .num row.spending), ("taxes", .num row.taxes),
    ("savings", .num row.savings), ("socialSecurityBenefit", .num row.socialSecurityBenefit),
    ("isRetired", .bool row.isRetired), ("withdrawalTaxable", .num row.withdrawalTaxable),
    ("withdrawalTraditional", .num row.withdrawalTraditional),
    ("withdrawalRoth", .num row.withdrawalRoth), ("rmdAmount", .num row.rmdAmount),
    ("rothConversion", .num row.rothConversion), ("depositTaxable", .num row.depositTaxable),
    ("depositTraditional", .num row.depositTraditional), ("depositRoth", .num row.depositRoth),
    ("depositHSA", .num row.depositHsa), ("withdrawalHSA", .num row.withdrawalHsa),
    ("healthcareCost", .num row.healthcareCost),
    ("longTermCareCost", .num row.longTermCareCost),
    ("insufficientFunds", .bool row.insufficientFunds)]

def yearlyProjectionJson (row : Engine.YearlyProjection K) : Json K :=
  .obj (pathProjectionFields row.base ++
    [("p5", .num row.p5), ("p10", .num row.p10), ("p15", .num row.p15), ("p25", .num row.p25),
      ("p50", .num row.p50), ("p75", .num row.p75), ("p90", .num row.p90)])

def outcomeCashFlowRowJson (row : Engine.OutcomeCashFlowRow K) : Json K :=
  .obj [("age", .num row.age), ("isRetired", .bool row.isRetired), ("income", .num row.income),
    ("spending", .num row.spending), ("taxes", .num row.taxes), ("savings", .num row.savings),
    ("socialSecurityBenefit", .num row.socialSecurityBenefit),
    ("withdrawalTaxable", .num row.withdrawalTaxable),
    ("withdrawalTraditional", .num row.withdrawalTraditional),
    ("withdrawalRoth", .num row.withdrawalRoth), ("withdrawalHSA", .num row.withdrawalHsa),
    ("healthcareCost", .num row.healthcareCost), ("longTermCareCost", .num row.longTermCareCost)]

def outcomeBucketJson (bucket : Engine.OutcomeBucket K) : Json K :=
  .obj [("centerPercentile", .num bucket.centerPercentile),
    ("lowerPercentile", .num bucket.lowerPercentile),
    ("upperPercentile", .num bucket.upperPercentile),
    ("successProbability", .num bucket.successProbability),
    ("projections", encodeArray outcomeCashFlowRowJson bucket.projections)]

/-- A result without cohorts leaves their key out. -/
def simulationResultJson (result : Engine.SimulationResult K) : Json K :=
  .obj ([("successProbability", .num result.successProbability),
    ("medianAfterTaxTerminalWealth", .num result.medianAfterTaxTerminalWealth),
    ("medianTerminalWealth", .num result.medianTerminalWealth),
    ("percentile5TerminalWealth", .num result.percentile5TerminalWealth),
    ("percentile10TerminalWealth", .num result.percentile10TerminalWealth),
    ("percentile90TerminalWealth", .num result.percentile90TerminalWealth),
    ("yearlyProjections", encodeArray yearlyProjectionJson result.yearlyProjections),
    ("riskOfRuin", .num result.riskOfRuin)]
    ++ if result.outcomeBuckets.isEmpty then []
      else [("outcomeBuckets", encodeArray outcomeBucketJson result.outcomeBuckets)])

end Serialize

/-! ## What the browser reads -/

section Parse

variable [Zero K]

def pathProjectionKeys : List String :=
  ["year", "age", "portfolioValue", "income", "spending", "taxes", "savings",
    "socialSecurityBenefit", "isRetired", "withdrawalTaxable", "withdrawalTraditional",
    "withdrawalRoth", "rmdAmount", "rothConversion", "depositTaxable", "depositTraditional",
    "depositRoth", "depositHSA", "withdrawalHSA", "healthcareCost", "longTermCareCost",
    "insufficientFunds"]

/-- The shape of `pathProjectionSchema`. -/
def pathProjectionOf (fields : Fields K) : Except Issue (PathProjection K) := do
  let year ← field "year" number fields
  let age ← field "age" number fields
  let portfolioValue ← field "portfolioValue" number fields
  let income ← field "income" number fields
  let spending ← field "spending" number fields
  let taxes ← field "taxes" number fields
  let savings ← field "savings" number fields
  let socialSecurityBenefit ← field "socialSecurityBenefit" number fields
  let isRetired ← field "isRetired" boolean fields
  let withdrawalTaxable ← field "withdrawalTaxable" number fields
  let withdrawalTraditional ← field "withdrawalTraditional" number fields
  let withdrawalRoth ← field "withdrawalRoth" number fields
  let rmdAmount ← field "rmdAmount" number fields
  let rothConversion ← field "rothConversion" number fields
  let depositTaxable ← field "depositTaxable" number fields
  let depositTraditional ← field "depositTraditional" number fields
  let depositRoth ← field "depositRoth" number fields
  let depositHSA ← field "depositHSA" number fields
  let withdrawalHSA ← field "withdrawalHSA" number fields
  let healthcareCost ← field "healthcareCost" number fields
  let longTermCareCost ← field "longTermCareCost" (withDefault 0 number) fields
  let insufficientFunds ← field "insufficientFunds" boolean fields
  .ok
    { year, age, portfolioValue, income, spending, taxes, savings, socialSecurityBenefit,
      isRetired, withdrawalTaxable, withdrawalTraditional, withdrawalRoth, rmdAmount,
      rothConversion, depositTaxable, depositTraditional, depositRoth, depositHSA,
      withdrawalHSA, healthcareCost, longTermCareCost, insufficientFunds }

/-- `pathProjectionSchema.extend({...}).strict()` -/
def yearlyProjectionSchema : Parser K (YearlyProjection K) := fun value => do
  let fields ←
    strict (pathProjectionKeys ++ ["p5", "p10", "p15", "p25", "p50", "p75", "p90"]) value
  let base ← pathProjectionOf fields
  let p5 ← field "p5" number fields
  let p10 ← field "p10" number fields
  let p15 ← field "p15" number fields
  let p25 ← field "p25" number fields
  let p50 ← field "p50" number fields
  let p75 ← field "p75" number fields
  let p90 ← field "p90" number fields
  .ok { base with p5, p10, p15, p25, p50, p75, p90 }

def outcomeCashFlowRowSchema : Parser K (OutcomeCashFlowRow K) := fun value => do
  let fields ← strict
    ["age", "isRetired", "income", "spending", "taxes", "savings", "socialSecurityBenefit",
      "withdrawalTaxable", "withdrawalTraditional", "withdrawalRoth", "withdrawalHSA",
      "healthcareCost", "longTermCareCost"] value
  let age ← field "age" number fields
  let isRetired ← field "isRetired" boolean fields
  let income ← field "income" number fields
  let spending ← field "spending" number fields
  let taxes ← field "taxes" number fields
  let savings ← field "savings" number fields
  let socialSecurityBenefit ← field "socialSecurityBenefit" number fields
  let withdrawalTaxable ← field "withdrawalTaxable" number fields
  let withdrawalTraditional ← field "withdrawalTraditional" number fields
  let withdrawalRoth ← field "withdrawalRoth" number fields
  let withdrawalHSA ← field "withdrawalHSA" number fields
  let healthcareCost ← field "healthcareCost" number fields
  let longTermCareCost ← field "longTermCareCost" (withDefault 0 number) fields
  .ok
    { age, isRetired, income, spending, taxes, savings, socialSecurityBenefit, withdrawalTaxable,
      withdrawalTraditional, withdrawalRoth, withdrawalHSA, healthcareCost := some healthcareCost,
      longTermCareCost := some longTermCareCost }

def outcomeBucketSchema : Parser K (OutcomeBucket K) := fun value => do
  let fields ← strict
    ["centerPercentile", "lowerPercentile", "upperPercentile", "successProbability",
      "projections"] value
  let centerPercentile ← field "centerPercentile" number fields
  let lowerPercentile ← field "lowerPercentile" number fields
  let upperPercentile ← field "upperPercentile" number fields
  let successProbability ← field "successProbability" number fields
  let projections ← field "projections" (array outcomeCashFlowRowSchema) fields
  .ok { centerPercentile, lowerPercentile, upperPercentile, successProbability, projections }

/-- Runtime contract enforced for results from both Rust execution adapters. -/
def simulationResultSchema : Parser K (SimulationResult K) := fun value => do
  let fields ← strict
    ["successProbability", "medianTerminalWealth", "medianAfterTaxTerminalWealth",
      "percentile5TerminalWealth", "percentile10TerminalWealth", "percentile90TerminalWealth",
      "yearlyProjections", "outcomeBuckets", "riskOfRuin"] value
  let successProbability ← field "successProbability" number fields
  let medianTerminalWealth ← field "medianTerminalWealth" number fields
  let medianAfterTaxTerminalWealth ← field "medianAfterTaxTerminalWealth" number fields
  let percentile5TerminalWealth ← field "percentile5TerminalWealth" number fields
  let percentile10TerminalWealth ← field "percentile10TerminalWealth" number fields
  let percentile90TerminalWealth ← field "percentile90TerminalWealth" number fields
  let yearlyProjections ← field "yearlyProjections" (array yearlyProjectionSchema) fields
  let outcomeBuckets ← field "outcomeBuckets" (array outcomeBucketSchema) fields
  let riskOfRuin ← field "riskOfRuin" number fields
  .ok
    { successProbability, medianTerminalWealth, medianAfterTaxTerminalWealth,
      percentile5TerminalWealth, percentile10TerminalWealth, percentile90TerminalWealth,
      yearlyProjections, outcomeBuckets, riskOfRuin }

end Parse

/-! ## The main run -/

section Run

variable [Field K] [LinearOrder K] [FloorRing K] (log : Engine.NaturalLog K)
  (source : Engine.RandomSource K)

def mainPaths : ℤ := 5000

/-- The configuration of the main run. -/
def mainConfig (plan : RetirementPlan K) : SimulationConfig where
  paths := mainPaths
  seed := baseSeed plan
  useHistoricalBootstrap := some (historicalBootstrapFor plan)
  blockSize := some monteCarloBlockSize

/-- The body of the request, which the browser's worker is sent as well. -/
def mainRequest (plan : RetirementPlan K) : MonteCarloRequest K :=
  ⟨buildSimulationPlan plan, mainConfig plan⟩

/-- What reaches the native service of a body: the edge checks it and forwards what it parsed. -/
def forwarded (body : Json K) : Except Issue (Engine.SimulationRequest K) := do
  let request ← monteCarloRequestSchema (some body)
  deserializeRequest (some (monteCarloRequestJson request))

/-- How an attempt at the native service goes. -/
inductive MainCall (K : Type)
  /-- No answer, or one of the edge's own. -/
  | unanswered
  | answered (reply : Engine.Reply K)
  /-- By an engine deployed behind this build, without cohorts. -/
  | outdated (result : Engine.SimulationResult K)

/-- The body of an answer that is `ok`. The edge turns the service's errors into its own. -/
def MainCall.body : MainCall K → Option (Json K)
  | .unanswered => none
  | .answered (.simulation result) => some (simulationResultJson result)
  | .answered _ => none
  | .outdated result => some (simulationResultJson { result with outcomeBuckets := [] })

inductive ResultSource
  | server
  | client
  deriving DecidableEq, Repr

/-- A displayed result: what the engine found, and which engine it was. -/
structure MainResult (K : Type) extends SimulationResult K where
  source : ResultSource
  engineVersion : Option String
  sourceRevision : Option String

/-- The versions of the bundled engine. -/
structure WasmBuild where
  engineVersion : String
  sourceRevision : String

def runMainOnServer (call : MainCall K) : Option (MainResult K) := do
  let json ← call.body
  let result ← (simulationResultSchema (some json)).toOption
  if result.outcomeBuckets.isEmpty then none
  else some { result with source := .server, engineVersion := none, sourceRevision := none }

/-- `run_simulation` of `wasm.rs`, and the worker's check of what it returns. -/
def runRustSimulation (request : Json K) : Option (SimulationResult K) := do
  let request ← (deserializeRequest (some request)).toOption
  let _ ← (Engine.validateSimulationRequest request).toOption
  let result ← (Engine.runSimulation log source request.plan request.config).toOption
  (simulationResultSchema (some (simulationResultJson result))).toOption

def runMonteCarloSimulation (build : WasmBuild) (plan : RetirementPlan K) :
    Except String (MainResult K) :=
  match runRustSimulation log source (monteCarloRequestJson (mainRequest plan)) with
  | none => .error "Simulation failed. Please check your inputs and try again."
  | some result =>
    .ok
      { result with
        source := .client
        engineVersion := some build.engineVersion
        sourceRevision := some build.sourceRevision }

/-- `server` is `none` where the native service is not asked. -/
def runMainSimulation (build : WasmBuild) (plan : RetirementPlan K)
    (server : Option (MainCall K)) : Except String (MainResult K) :=
  match server.bind runMainOnServer with
  | some result => .ok result
  | none => runMonteCarloSimulation log source build plan

end Run

/-! ## Exports -/

section Export

variable [Field K]

def PathProjection.fields (row : PathProjection K) : Fields K :=
  [("year", .num row.year), ("age", .num row.age), ("portfolioValue", .num row.portfolioValue),
    ("income", .num row.income), ("spending", .num row.spending), ("taxes", .num row.taxes),
    ("savings", .num row.savings), ("socialSecurityBenefit", .num row.socialSecurityBenefit),
    ("isRetired", .bool row.isRetired), ("withdrawalTaxable", .num row.withdrawalTaxable),
    ("withdrawalTraditional", .num row.withdrawalTraditional),
    ("withdrawalRoth", .num row.withdrawalRoth), ("rmdAmount", .num row.rmdAmount),
    ("rothConversion", .num row.rothConversion), ("depositTaxable", .num row.depositTaxable),
    ("depositTraditional", .num row.depositTraditional), ("depositRoth", .num row.depositRoth),
    ("depositHSA", .num row.depositHSA), ("withdrawalHSA", .num row.withdrawalHSA),
    ("healthcareCost", .num row.healthcareCost),
    ("longTermCareCost", .num row.longTermCareCost),
    ("insufficientFunds", .bool row.insufficientFunds)]

def YearlyProjection.value (row : YearlyProjection K) : Json K :=
  .obj (row.toPathProjection.fields ++
    [("p5", .num row.p5), ("p10", .num row.p10), ("p15", .num row.p15), ("p25", .num row.p25),
      ("p50", .num row.p50), ("p75", .num row.p75), ("p90", .num row.p90)])

/-- A cost that a row does not have is a key it does not have. -/
def cashFlowRowValue (row : OutcomeCashFlowRow K) : Json K :=
  .obj ([("age", .num row.age), ("isRetired", .bool row.isRetired), ("income", .num row.income),
    ("spending", .num row.spending), ("taxes", .num row.taxes), ("savings", .num row.savings),
    ("socialSecurityBenefit", .num row.socialSecurityBenefit),
    ("withdrawalTaxable", .num row.withdrawalTaxable),
    ("withdrawalTraditional", .num row.withdrawalTraditional),
    ("withdrawalRoth", .num row.withdrawalRoth), ("withdrawalHSA", .num row.withdrawalHSA)]
    ++ (row.healthcareCost.map fun cost => ("healthcareCost", .num cost)).toList
    ++ (row.longTermCareCost.map fun cost => ("longTermCareCost", .num cost)).toList)

def OutcomeBucket.value (bucket : OutcomeBucket K) : Json K :=
  .obj [("centerPercentile", .num bucket.centerPercentile),
    ("lowerPercentile", .num bucket.lowerPercentile),
    ("upperPercentile", .num bucket.upperPercentile),
    ("successProbability", .num bucket.successProbability),
    ("projections", encodeArray cashFlowRowValue bucket.projections)]

/-- The object that an export checks, without the engine's name. -/
def SimulationResult.value (result : SimulationResult K) : Json K :=
  .obj [("successProbability", .num result.successProbability),
    ("medianTerminalWealth", .num result.medianTerminalWealth),
    ("medianAfterTaxTerminalWealth", .num result.medianAfterTaxTerminalWealth),
    ("percentile5TerminalWealth", .num result.percentile5TerminalWealth),
    ("percentile10TerminalWealth", .num result.percentile10TerminalWealth),
    ("percentile90TerminalWealth", .num result.percentile90TerminalWealth),
    ("yearlyProjections", encodeArray YearlyProjection.value result.yearlyProjections),
    ("outcomeBuckets", encodeArray OutcomeBucket.value result.outcomeBuckets),
    ("riskOfRuin", .num result.riskOfRuin)]

/-- A compact simulation record without account identity fields. Its time is left out. -/
structure SimulationExport (K : Type) where
  version : ℤ
  paths : ℤ
  input : SimulationPlan K
  output : SimulationResult K

variable [LinearOrder K] [FloorRing K]

def simulationExportVersion : ℤ := 1

def simulationExportSchema : Parser K (SimulationExport K) := fun value => do
  let fields ← strict ["version", "paths", "input", "output"] value
  let version ← field "version" (refined integer (fun n => n = simulationExportVersion) none) fields
  let paths ← field "paths" (refined integer (fun n => 0 < n) none) fields
  let input ← field "input" currentSimulationPlanSchema fields
  let output ← field "output" simulationResultSchema fields
  .ok { version, paths, input, output }

def buildSimulationExport (plan : RetirementPlan K) (result : SimulationResult K) :
    Except Issue (SimulationExport K) := do
  let output ← simulationResultSchema (some result.value)
  simulationExportSchema (some (.obj
    [("version", .num simulationExportVersion), ("paths", .num mainPaths),
      ("input", simulationPlanJson (buildSimulationPlan plan)), ("output", output.value)]))

end Export

end RetirementPlanner.Web.MainRun
