import RetirementPlanner.Web.Levers
import RetirementPlanner.Web.SimulationRequest
import RetirementPlanner.Web.Sweep

/-!
# Sensitivity curves

`services/simulation.ts`: the scenarios each lever sweeps, the scenarios that would compute
the same answer dispatched once, and the answers paired with the points of four curves.

A call to the native service that is not answered, for whatever reason, falls back to the
browser's engine. A scenario is told from another by what `JSON.stringify` would print of
it, kept as the JSON value itself. Labels and other texts of a page are left out.
-/

namespace RetirementPlanner.Web

open Schema Keyed
open Engine (NaturalLog RandomSource MCConfig BatchSimulationRequest WorkSplit
  BatchSimulationSummaryResponse runSweep validateBatchSimulations EngineError)

variable {K : Type} [Field K] [LinearOrder K]

/-! ## Scenarios -/

/-- Paths of a sensitivity scenario. -/
def sweepPaths : ℕ := 1000

/-- `MONTE_CARLO_BLOCK_SIZE` -/
def monteCarloBlockSize : ℕ := 5

structure Scenario (K : Type) where
  id : String
  plan : RetirementPlan K
  paths : ℕ
  seed : ℤ

omit [Field K] [LinearOrder K] in
def baseSeed (plan : RetirementPlan K) : ℤ := plan.assumptions.randomSeed

omit [Field K] [LinearOrder K] in
def historicalBootstrapFor (plan : RetirementPlan K) : Bool :=
  decide (plan.assumptions.simulationModel ≠ .parametric)

section Builders

variable [FloorRing K]

/-- A whole number in a template. -/
def levelText (level : K) : String := toString ⌊level⌋

def ssScenario (plan : RetirementPlan K) (seed : ℤ) (claimAge : K) : Scenario K where
  id := "ss-" ++ levelText claimAge
  plan := { plan with socialSecurity := { plan.socialSecurity with claimAge := ⌊claimAge⌋ } }
  paths := sweepPaths
  seed := seed

def ssScenarios (plan : RetirementPlan K) (seed : ℤ) : List (K × Scenario K) :=
  -- A manual household benefit is authoritative only at its selected claim age.
  let ages :=
    if plan.socialSecurity.enabled ∧ ¬plan.socialSecurity.manualOverride then
      (leverRange .socialSecurityClaimAge plan).sweepValues
    else [(plan.socialSecurity.claimAge : K)]
  ages.map fun claimAge => (claimAge, ssScenario plan seed claimAge)

def spendingScenario (plan : RetirementPlan K) (seed : ℤ) (annualSpending : K) : Scenario K where
  id := "spending-" ++ levelText annualSpending
  plan := { plan with profile := { plan.profile with currentSpending := annualSpending } }
  paths := sweepPaths
  seed := seed

def spendingScenarios (plan : RetirementPlan K) (seed : ℤ) : List (K × Scenario K) :=
  (leverRange .spending plan).sweepValues.map fun annualSpending =>
    (annualSpending, spendingScenario plan seed annualSpending)

def retirementAgeScenario (plan : RetirementPlan K) (seed : ℤ) (retirementAge : K) :
    Scenario K where
  id := "retirementAge-" ++ levelText retirementAge
  plan := { plan with profile := { plan.profile with retirementAge := ⌊retirementAge⌋ } }
  paths := sweepPaths
  seed := seed

def retirementAgeScenarios (plan : RetirementPlan K) (seed : ℤ) : List (K × Scenario K) :=
  (leverRange .retirementAge plan).sweepValues.map fun retirementAge =>
    (retirementAge, retirementAgeScenario plan seed retirementAge)

def rothConversionScenario (plan : RetirementPlan K) (seed : ℤ) (step : K) : Scenario K where
  id := "rothConversion-" ++ levelText step
  plan := { plan with
    assumptions := { plan.assumptions with
      rothConversion := conversionSteps.getD ⌊step⌋.toNat ⟨false, .bracket24⟩ } }
  paths := sweepPaths
  seed := seed

def rothConversionScenarios (plan : RetirementPlan K) (seed : ℤ) : List (K × Scenario K) :=
  (leverRange .rothConversion plan).sweepValues.map fun step =>
    (step, rothConversionScenario plan seed step)

/-- The scenarios of every lever. -/
def allScenarios (plan : RetirementPlan K) (seed : ℤ) : List (Scenario K) :=
  (ssScenarios plan seed).map (·.2) ++ (spendingScenarios plan seed).map (·.2)
    ++ (retirementAgeScenarios plan seed).map (·.2) ++ (rothConversionScenarios plan seed).map (·.2)

end Builders

/-! ## Distinct scenarios -/

omit [LinearOrder K] in
/-- What the engine reads of a scenario. -/
def Scenario.key (scenario : Scenario K) : Json K :=
  .arr [simulationPlanJson (buildSimulationPlan scenario.plan), .num (scenario.paths : K),
    .num (scenario.seed : K)]

/-- Scenarios that would compute the same answer, keyed by what the engine reads. -/
def distinctScenarios (scenarios : List (Scenario K)) : List (List (Scenario K)) :=
  group Scenario.key scenarios

/-! ## Running them -/

section Running

variable [FloorRing K] (log : NaturalLog K) (source : RandomSource K)

/-- The configuration a scenario is sent with. -/
def scenarioConfig (plan : RetirementPlan K) (paths : ℕ) (seed : ℤ) : MCConfig where
  paths := paths
  seed := seed.toNat
  useHistoricalBootstrap := historicalBootstrapFor plan
  blockSize := monteCarloBlockSize

/-- How an attempt at the native service goes: it is not answered, or the service runs the
batch, its pool splitting the paths in some way. -/
inductive ServerCall
  | unanswered
  | answered (split : WorkSplit)

/-- The results of a batch, by id. -/
abbrev Summaries (K : Type) := List (String × K)

def summaryEntries (results : List (BatchSimulationSummaryResponse K)) : Summaries K :=
  results.map fun result => (result.id, result.successProbability)

def runOnServer (scenarios : List (Scenario K)) (plan : RetirementPlan K) :
    ServerCall → Except String (Summaries K)
  | .unanswered => .error "Batch simulation failed"
  | .answered split => do
    let simulations := scenarios.map fun scenario =>
      ⟨⟨toSimulationPlan scenario.plan, scenarioConfig plan scenario.paths scenario.seed⟩,
        scenario.id⟩
    let _ ← validateBatchSimulations simulations
    let results ← (runSweep log source simulations split).mapError EngineError.message
    .ok (summaryEntries results)

def runOnClient (scenarios : List (Scenario K)) (hardwareConcurrency : Option K) :
    Except String (Summaries K) :=
  match scenarios with
  | [] => .ok []
  | first :: _ =>
    if scenarios.any fun scenario =>
        decide (scenario.paths ≠ first.paths ∨ scenario.seed ≠ first.seed) then
      .error "Sensitivity scenarios must share one path count and root seed"
    else do
      let summaries ← runMonteCarloSummaries log source hardwareConcurrency
        (scenarios.map fun scenario => ⟨scenario.id, toSimulationPlan scenario.plan⟩)
        (scenarioConfig first.plan first.paths first.seed)
      .ok (summaryEntries summaries)

/-- The requested adapter, with the browser's engine behind it. `server` is `none` where
the native service is not asked. -/
def runDistinctScenarios (scenarios : List (Scenario K)) (plan : RetirementPlan K)
    (server : Option ServerCall) (hardwareConcurrency : Option K) :
    Except String (Summaries K) :=
  match server with
  | none => runOnClient log source scenarios hardwareConcurrency
  | some call =>
    match runOnServer log source scenarios plan call with
    | .ok summaries => .ok summaries
    | .error _ => runOnClient log source scenarios hardwareConcurrency

omit [FloorRing K] [LinearOrder K] [Field K] in
/-- Copy the answer of each group's first scenario to every id of the group. -/
def copyAnswers (computed : Summaries K) :
    List (List (Scenario K)) → Except String (Summaries K)
  | [] => .ok []
  | group :: groups =>
    match group with
    | [] => copyAnswers computed groups
    | first :: _ =>
      match mapGet computed first.id with
      | none => .error s!"Missing result for scenario '{first.id}'"
      | some summary => do
        let rest ← copyAnswers computed groups
        .ok (group.map (fun scenario => (scenario.id, summary)) ++ rest)

def runScenarios (scenarios : List (Scenario K)) (plan : RetirementPlan K)
    (server : Option ServerCall) (hardwareConcurrency : Option K) :
    Except String (Summaries K) := do
  let groups := distinctScenarios scenarios
  let computed ← runDistinctScenarios log source (groups.filterMap (·.head?)) plan server
    hardwareConcurrency
  copyAnswers computed groups

/-- The points of a curve: each value with the answer under its scenario's id. -/
def curvePoints (what : String) (results : Summaries K) :
    List (K × Scenario K) → Except String (List (K × K))
  | [] => .ok []
  | entry :: entries =>
    match mapGet results entry.2.id with
    | none => .error s!"Missing result for {what} {levelText entry.1}"
    | some result => do
      let rest ← curvePoints what results entries
      .ok ((entry.1, result) :: rest)

structure SensitivityAnalysisResults (K : Type) where
  socialSecurity : List (K × K)
  spending : List (K × K)
  retirementAge : List (K × K)
  rothConversion : List (K × K)

/-- Run every sensitivity curve in one bounded server batch. -/
def runSensitivityAnalyses (plan : RetirementPlan K) (server : Option ServerCall)
    (hardwareConcurrency : Option K) : Except String (SensitivityAnalysisResults K) := do
  let seed := baseSeed plan
  let results ← runScenarios log source (allScenarios plan seed) plan server hardwareConcurrency
  let socialSecurity ← curvePoints "SS age" results (ssScenarios plan seed)
  let spending ← curvePoints "spending level" results (spendingScenarios plan seed)
  let retirementAge ← curvePoints "retirement age" results (retirementAgeScenarios plan seed)
  let rothConversion ← curvePoints "conversion step" results (rothConversionScenarios plan seed)
  .ok { socialSecurity, spending, retirementAge, rothConversion }

end Running

end RetirementPlanner.Web
