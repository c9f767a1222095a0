import RetirementPlanner.Engine.Projection
import RetirementPlanner.Engine.Validation

/-!
# Monte Carlo runs

`monte_carlo.rs`, the market returns of `projection.rs` and the sampling of
`historical_data.rs`: a path seeded by its index, the summary of a path, the
aggregation of a run's summaries, and the success counts of a sweep, in one range or
folded and reduced in parallel.

The generator behind a seed is a parameter (`RandomSource`): its stream of 64-bit words
and the distributions drawn from it are a library's. Cancellation is left out. An index
the source reads is in range where the results say so; out of range, where the source
panics, the model reads a default.
-/

namespace RetirementPlanner.Engine

variable {K : Type*} [Field K] [LinearOrder K]

/-! ## Random numbers -/

/-- What a seeded generator supplies. -/
structure RandomSource (K : Type*) [Field K] [LinearOrder K] where
  Rng : Type
  /-- `seed_from_u64` -/
  seedFromU64 : ℕ → Rng
  /-- `gen_range(0..HISTORICAL_RETURNS.len())` -/
  genRange : Rng → Fin historicalReturns.length × Rng
  /-- The first `gen::<f64>()`. -/
  gen : Rng → Uniform K
  /-- `generate_parametric_returns`, `none` where it fails. -/
  parametricReturns : Rng → Option (K × K) × Rng

/-- Salt for the long-term care stream. -/
def ltcStreamSalt : ℕ := 0x9E3779B97F4A7C15

structure ProjectionConfig where
  seed : ℕ
  useHistoricalBootstrap : Bool
  blockSize : ℕ
  deriving DecidableEq, Repr

/-- What a path is projected with: `seed.wrapping_add(path_index)`. -/
def MCConfig.forPath (config : MCConfig) (pathIndex : ℕ) : ProjectionConfig where
  seed := (config.seed + pathIndex) % 2 ^ 64
  useHistoricalBootstrap := config.useHistoricalBootstrap
  blockSize := config.blockSize

/-! ## Market returns -/

def AnnualMarketReturn.sample (entry : AnnualMarketReturn) : K × K :=
  ((entry.realReturns.1 : K), (entry.realReturns.2 : K))

section Returns

variable (source : RandomSource K)

def sampleHistoricalReturns (rng : source.Rng) : (K × K) × source.Rng :=
  let (index, rng) := source.genRange rng
  ((historicalReturns.get index).sample, rng)

/-- A block of consecutive years, wrapping around the end of the table. -/
def sampleBlock (rng : source.Rng) (blockSize : ℕ) : List (K × K) × source.Rng :=
  let (startIndex, rng) := source.genRange rng
  let size := min blockSize historicalReturns.length
  ((List.range size).filterMap fun offset =>
    (historicalReturns[(startIndex + offset) % historicalReturns.length]?).map
      AnnualMarketReturn.sample, rng)

inductive MarketReturnsGenerator (source : RandomSource K)
  | singleBootstrap (rng : source.Rng)
  | blockBootstrap (rng : source.Rng) (blockSize : ℕ) (currentBlock : List (K × K))
      (blockIndex : ℕ)
  | parametric (rng : source.Rng)

def MarketReturnsGenerator.next :
    MarketReturnsGenerator source → (K × K) × MarketReturnsGenerator source
  | .singleBootstrap rng =>
    let (returns, rng) := sampleHistoricalReturns source rng
    (returns, .singleBootstrap rng)
  | .blockBootstrap rng blockSize currentBlock blockIndex =>
    if currentBlock.length ≤ blockIndex then
      let (block, rng) := sampleBlock source rng blockSize
      (block.getD 0 (0, 0), .blockBootstrap rng blockSize block 1)
    else
      (currentBlock.getD blockIndex (0, 0),
        .blockBootstrap rng blockSize currentBlock (blockIndex + 1))
  | .parametric rng =>
    let (returns, rng) := source.parametricReturns rng
    (returns.getD (0.07, 0.03), .parametric rng)

/-- `BlockBootstrapGenerator::new`: the first block is sampled at once. -/
def MarketReturnsGenerator.newBlockBootstrap (seed blockSize : ℕ) :
    MarketReturnsGenerator source :=
  let (block, rng) := sampleBlock source (source.seedFromU64 seed) blockSize
  .blockBootstrap rng blockSize block 0

def createMarketReturnsGenerator (plan : RetirementPlan K) (config : ProjectionConfig) :
    MarketReturnsGenerator source :=
  let rng := source.seedFromU64 config.seed
  match plan.assumptions.simulationModel with
  | .parametric => .parametric rng
  | .historical =>
    if config.useHistoricalBootstrap then
      let (block, rng) := sampleBlock source rng config.blockSize
      .blockBootstrap rng config.blockSize block 0
    else .singleBootstrap rng

/-- The generator once the years before `year` have drawn. -/
def generatorAt (plan : RetirementPlan K) (config : ProjectionConfig) :
    ℕ → MarketReturnsGenerator source
  | 0 => createMarketReturnsGenerator source plan config
  | year + 1 => ((generatorAt plan config year).next source).2

/-- The returns of each year of a path. -/
def marketReturns (plan : RetirementPlan K) (config : ProjectionConfig) (year : ℕ) : K × K :=
  ((generatorAt source plan config year).next source).1

/-- The care draw of a path. -/
def careUniform (config : ProjectionConfig) : Uniform K :=
  source.gen (source.seedFromU64 (config.seed ^^^ ltcStreamSalt))

end Returns

/-! ## Paths -/

section Paths

variable [FloorRing K] (log : NaturalLog K) (source : RandomSource K)

/-- One round of the loop over the years. -/
def Path.stepRecording (prepared : PreparedPlan K) (returns : ℕ → K × K)
    (recordProjections : Bool) (path : Path K) (year : ℕ) : Path K :=
  let o := yearOutcome log prepared (returns year) year path.state
  { state := path.state.after prepared year o
    projections :=
      if recordProjections then path.projections ++ [projectionRow prepared year o]
      else path.projections }

def projectScenarioInternalPrepared (prepared : PreparedPlan K) (config : ProjectionConfig)
    (recordProjections : Bool) : PathResult K :=
  let path := (List.range prepared.totalYears).foldl
    (Path.stepRecording log prepared (marketReturns source prepared.plan config)
      recordProjections)
    ⟨ProjectionState.start prepared (careUniform source config), []⟩
  { terminalWealth := path.state.portfolioValue
    afterTaxTerminalWealth := afterTaxWealthOf path.state.accounts
      prepared.plan.assumptions.terminalTaxRate
    projections := path.projections
    success := path.state.success }

/-- Run the exact projection loop without retaining yearly cash-flow rows. -/
def projectScenarioSummaryPrepared (prepared : PreparedPlan K) (config : ProjectionConfig) :
    K × Bool :=
  let result := projectScenarioInternalPrepared log source prepared config false
  (result.terminalWealth, result.success)

/-- The columns of a cash-flow row. -/
structure OutcomeCashFlowRow (K : Type*) where
  age : ℕ
  isRetired : Bool
  income : K
  spending : K
  taxes : K
  savings : K
  socialSecurityBenefit : K
  withdrawalTaxable : K
  withdrawalTraditional : K
  withdrawalRoth : K
  withdrawalHsa : K
  healthcareCost : K
  longTermCareCost : K
  deriving DecidableEq, Repr

def PathProjection.cashFlow (projection : PathProjection K) : OutcomeCashFlowRow K where
  age := projection.age
  isRetired := projection.isRetired
  income := projection.income
  spending := projection.spending
  taxes := projection.taxes
  savings := projection.savings
  socialSecurityBenefit := projection.socialSecurityBenefit
  withdrawalTaxable := projection.withdrawalTaxable
  withdrawalTraditional := projection.withdrawalTraditional
  withdrawalRoth := projection.withdrawalRoth
  withdrawalHsa := projection.withdrawalHsa
  healthcareCost := projection.healthcareCost
  longTermCareCost := projection.longTermCareCost

/-- What the aggregation keeps of a path. -/
structure PathSummary (K : Type*) where
  terminalWealth : K
  afterTaxTerminalWealth : K
  portfolioValues : List K
  cashFlows : List (OutcomeCashFlowRow K)
  success : Bool
  /-- Both have an entry for each modeled year. -/
  lengths_eq : cashFlows.length = portfolioValues.length

def runSinglePath (prepared : PreparedPlan K) (config : MCConfig) (pathIndex : ℕ) :
    PathResult K :=
  projectScenarioInternalPrepared log source prepared (config.forPath pathIndex) true

def PathResult.summary (result : PathResult K) : PathSummary K where
  terminalWealth := result.terminalWealth
  afterTaxTerminalWealth := result.afterTaxTerminalWealth
  portfolioValues := result.projections.map (·.portfolioValue)
  cashFlows := result.projections.map PathProjection.cashFlow
  success := result.success
  lengths_eq := by rw [List.length_map, List.length_map]

def summarizePath (prepared : PreparedPlan K) (config : MCConfig) (pathIndex : ℕ) :
    PathSummary K :=
  (runSinglePath log source prepared config pathIndex).summary

end Paths

/-! ## Aggregation -/

inductive EngineError
  | date (error : DateError)
  | noPaths
  | inconsistentLengths
  | pathRange
  deriving DecidableEq, Repr

def EngineError.message : EngineError → String
  | .date error => error.message
  | .noPaths => "No simulation paths provided"
  | .inconsistentLengths => "Simulation paths produced inconsistent projection lengths"
  | .pathRange => "Sweep path range is outside a scenario's path count"

def PreparedPlan.newOrError (plan : RetirementPlan K) : Except EngineError (PreparedPlan K) :=
  (PreparedPlan.new plan).mapError .date

/-- The row an outcome percentile reports for a year. -/
structure YearlyProjection (K : Type*) where
  base : PathProjection K
  p5 : K
  p10 : K
  p15 : K
  p25 : K
  p50 : K
  p75 : K
  p90 : K

structure OutcomeBucket (K : Type*) where
  centerPercentile : ℕ
  lowerPercentile : ℕ
  upperPercentile : ℕ
  successProbability : K
  projections : List (OutcomeCashFlowRow K)

structure SimulationResult (K : Type*) where
  successProbability : K
  medianTerminalWealth : K
  medianAfterTaxTerminalWealth : K
  percentile5TerminalWealth : K
  percentile10TerminalWealth : K
  percentile90TerminalWealth : K
  yearlyProjections : List (YearlyProjection K)
  riskOfRuin : K
  outcomeBuckets : List (OutcomeBucket K)

def outcomeCenters : List ℕ := [10, 20, 30, 40, 50, 60, 70, 80, 90]

/-- Where a quantile falls among `pathCount` sorted values. -/
def percentileIndex [FloorRing K] (pathCount : ℕ) (quantile : K) : ℕ :=
  min ⌊(pathCount : K) * quantile⌋.toNat (pathCount - 1)

/-- A path's place in the terminal-wealth ranking. -/
structure TerminalOutcome (K : Type*) where
  terminalWealth : K
  pathIndex : ℕ
  afterTaxTerminalWealth : K
  deriving DecidableEq, Repr

/-- By terminal wealth, then by path. -/
def TerminalOutcome.precedes (a b : TerminalOutcome K) : Bool :=
  decide (a.terminalWealth < b.terminalWealth ∨
    (a.terminalWealth = b.terminalWealth ∧ a.pathIndex ≤ b.pathIndex))

def terminalOutcomes (summaries : List (PathSummary K)) : List (TerminalOutcome K) :=
  (summaries.zipIdx.map fun entry =>
    { terminalWealth := entry.1.terminalWealth
      pathIndex := entry.2
      afterTaxTerminalWealth := entry.1.afterTaxTerminalWealth }).mergeSort
    TerminalOutcome.precedes

/-- A year's portfolio values over the paths, in order. -/
def sortedPortfolioValues (summaries : List (PathSummary K)) (yearIndex : ℕ) : List K :=
  (summaries.map fun summary => summary.portfolioValues.getD yearIndex 0).mergeSort
    fun a b => decide (a ≤ b)

def yearlyProjection [FloorRing K] (summaries : List (PathSummary K)) (yearIndex : ℕ)
    (representative : PathProjection K) : YearlyProjection K :=
  let portfolioValues := sortedPortfolioValues summaries yearIndex
  let at_ (quantile : K) : K :=
    portfolioValues.getD (percentileIndex summaries.length quantile) 0
  { base := { representative with portfolioValue := at_ 0.50 }
    p5 := at_ 0.05
    p10 := at_ 0.10
    p15 := at_ 0.15
    p25 := at_ 0.25
    p50 := at_ 0.50
    p75 := at_ 0.75
    p90 := at_ 0.90 }

/-- The ranks of a cohort: from `start` up to `end`. -/
def cohortBounds (pathCount centerPercentile : ℕ) : ℕ × ℕ :=
  let start := min (pathCount * (centerPercentile - 5) / 100) (pathCount - 1)
  (start, min (max (pathCount * (centerPercentile + 5) / 100) (start + 1)) pathCount)

/-- The mean of a cohort's rows, field by field; age and status are the first row's. -/
def meanRow (first : OutcomeCashFlowRow K) (rows : List (OutcomeCashFlowRow K)) (count : K) :
    OutcomeCashFlowRow K where
  age := first.age
  isRetired := first.isRetired
  income := (rows.map (·.income)).sum / count
  spending := (rows.map (·.spending)).sum / count
  taxes := (rows.map (·.taxes)).sum / count
  savings := (rows.map (·.savings)).sum / count
  socialSecurityBenefit := (rows.map (·.socialSecurityBenefit)).sum / count
  withdrawalTaxable := (rows.map (·.withdrawalTaxable)).sum / count
  withdrawalTraditional := (rows.map (·.withdrawalTraditional)).sum / count
  withdrawalRoth := (rows.map (·.withdrawalRoth)).sum / count
  withdrawalHsa := (rows.map (·.withdrawalHsa)).sum / count
  healthcareCost := (rows.map (·.healthcareCost)).sum / count
  longTermCareCost := (rows.map (·.longTermCareCost)).sum / count

/-- A year's rows of a cohort, found through the path each rank holds. -/
def cohortRows (summaries : List (PathSummary K)) (cohort : List (TerminalOutcome K))
    (yearIndex : ℕ) : List (OutcomeCashFlowRow K) :=
  cohort.filterMap fun outcome =>
    summaries[outcome.pathIndex]?.bind fun summary => summary.cashFlows[yearIndex]?

def outcomeBucket (summaries : List (PathSummary K)) (yearCount centerPercentile : ℕ) :
    OutcomeBucket K :=
  let bounds := cohortBounds summaries.length centerPercentile
  let cohort := ((terminalOutcomes summaries).take bounds.2).drop bounds.1
  let count : K := cohort.length
  let bucketSuccesses := cohort.countP fun outcome =>
    summaries[outcome.pathIndex]?.any (·.success)
  { centerPercentile
    lowerPercentile := centerPercentile - 5
    upperPercentile := centerPercentile + 5
    successProbability := bucketSuccesses / count
    projections := (List.range yearCount).filterMap fun yearIndex =>
      let rows := cohortRows summaries cohort yearIndex
      rows.head?.map fun first => meanRow first rows count }

section Aggregate

variable [FloorRing K] (log : NaturalLog K) (source : RandomSource K)

/-- Percentile bands by year, the median path's cash flows, and the outcome cohorts. -/
def aggregateResults (plan : RetirementPlan K) (config : MCConfig)
    (summaries : List (PathSummary K)) : Except EngineError (SimulationResult K) :=
  if summaries.isEmpty then .error .noPaths
  else do
    let successProbability : K := (summaries.countP (·.success) : K) / summaries.length
    let outcomeAt (quantile : K) : TerminalOutcome K :=
      (terminalOutcomes summaries).getD (percentileIndex summaries.length quantile) ⟨0, 0, 0⟩
    let prepared ← PreparedPlan.newOrError plan
    let representative := runSinglePath log source prepared config (outcomeAt 0.50).pathIndex
    let yearCount := representative.projections.length
    if summaries.any fun summary => decide (summary.portfolioValues.length ≠ yearCount) then
      .error .inconsistentLengths
    else
      .ok
        { successProbability
          medianTerminalWealth := (outcomeAt 0.50).terminalWealth
          medianAfterTaxTerminalWealth := (outcomeAt 0.50).afterTaxTerminalWealth
          percentile5TerminalWealth := (outcomeAt 0.05).terminalWealth
          percentile10TerminalWealth := (outcomeAt 0.10).terminalWealth
          percentile90TerminalWealth := (outcomeAt 0.90).terminalWealth
          yearlyProjections := representative.projections.zipIdx.map fun entry =>
            yearlyProjection summaries entry.2 entry.1
          riskOfRuin := 1 - successProbability
          outcomeBuckets := outcomeCenters.map (outcomeBucket summaries yearCount) }

/-- `run_simulation_cancellable`: its paths are independent, so the pool that runs them
in parallel collects what one loop would. -/
def runSimulation (plan : RetirementPlan K) (config : MCConfig) :
    Except EngineError (SimulationResult K) := do
  let prepared ← PreparedPlan.newOrError plan
  aggregateResults log source plan config
    ((List.range config.paths).map (summarizePath log source prepared config))

end Aggregate

end RetirementPlanner.Engine
