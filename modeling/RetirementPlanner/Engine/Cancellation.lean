import RetirementPlanner.Engine.Sweep
import RetirementPlanner.Lib.Polling

/-!
# Cancellable runs

`run_simulation_cancellable` and `run_sweep_cancellable` of `monte_carlo.rs`, with the points at
which they look at their token. The pool runs paths side by side, so the polls of different
paths come in any order; what a run comes to does not depend on it, since a path that finds the
token set ends the run with the same error.
-/

namespace RetirementPlanner.Engine

open Polling

variable {K : Type} [Field K] [LinearOrder K]

inductive RunError
  | engine (error : EngineError)
  /-- `ensure_active` -/
  | canceled
  deriving DecidableEq, Repr

def RunError.message : RunError → String
  | .engine error => error.message
  | .canceled => "Simulation canceled"

abbrev Run (α : Type) := Cancellable RunError α

def active : Run PUnit := ensureActive .canceled

def orFail {α : Type} (result : Except EngineError α) : Run α :=
  liftExcept (result.mapError RunError.engine)

section Run

variable [FloorRing K] (log : NaturalLog K) (source : RandomSource K)

/-- `aggregate_results` -/
def aggregateResultsCancellable (plan : RetirementPlan K) (config : MCConfig)
    (summaries : List (PathSummary K)) : Run (SimulationResult K) := do
  active
  if summaries.isEmpty then throw (.engine .noPaths)
  else
    let successProbability : K := (summaries.countP (·.success) : K) / summaries.length
    let outcomeAt (quantile : K) : TerminalOutcome K :=
      (terminalOutcomes summaries).getD (percentileIndex summaries.length quantile) ⟨0, 0, 0⟩
    active
    let prepared ← orFail (PreparedPlan.newOrError plan)
    let representative := runSinglePath log source prepared config (outcomeAt 0.50).pathIndex
    let yearCount := representative.projections.length
    if summaries.any fun summary => decide (summary.portfolioValues.length ≠ yearCount) then
      throw (.engine .inconsistentLengths)
    else
      let yearlyProjections ← representative.projections.zipIdx.mapM fun entry => do
        active
        pure (yearlyProjection summaries entry.2 entry.1)
      let outcomeBuckets ← outcomeCenters.mapM fun centerPercentile => do
        active
        pure (outcomeBucket summaries yearCount centerPercentile)
      pure
        { successProbability
          medianTerminalWealth := (outcomeAt 0.50).terminalWealth
          medianAfterTaxTerminalWealth := (outcomeAt 0.50).afterTaxTerminalWealth
          percentile5TerminalWealth := (outcomeAt 0.05).terminalWealth
          percentile10TerminalWealth := (outcomeAt 0.10).terminalWealth
          percentile90TerminalWealth := (outcomeAt 0.90).terminalWealth
          yearlyProjections
          riskOfRuin := 1 - successProbability
          outcomeBuckets }

def runSimulationCancellable (plan : RetirementPlan K) (config : MCConfig) :
    Run (SimulationResult K) := do
  let prepared ← orFail (PreparedPlan.newOrError plan)
  let pathSummaries ← (List.range config.paths).mapM fun pathIndex => do
    active
    pure (summarizePath log source prepared config pathIndex)
  active
  aggregateResultsCancellable log source plan config pathSummaries

/-- One path of a sweep. -/
def sweepPathCancellable (scenarios : List (PreparedPlan K × BatchSimulationRequest K))
    (counts : List ℕ) (pathIndex : ℕ) : Run (List ℕ) := do
  active
  (scenarios.zip counts).mapM fun entry => do
    active
    pure <|
      if entry.1.2.config.paths ≤ pathIndex then entry.2
      else if succeeds log source entry.1 pathIndex then entry.2 + 1
      else entry.2

/-- The counts a split of the paths from `start` up to `finish` reduces to. -/
def countsCancellable (scenarios : List (PreparedPlan K × BatchSimulationRequest K)) :
    WorkSplit → (start finish : ℕ) → Run (List ℕ)
  | .fold, start, finish =>
    (List.range' start (finish - start)).foldlM (sweepPathCancellable log source scenarios)
      (List.replicate scenarios.length 0)
  | .cut middle left right, start, finish => do
    let middle := min (max middle start) finish
    let counts ← countsCancellable scenarios left start middle
    let counts' ← countsCancellable scenarios right middle finish
    pure (List.zipWith (· + ·) counts counts')

def runSweepCancellable (simulations : List (BatchSimulationRequest K)) (split : WorkSplit) :
    Run (List (BatchSimulationSummaryResponse K)) :=
  if simulations.isEmpty then pure []
  else do
    let maxPaths := (simulations.map (·.config.paths)).foldl max 0
    let prepared ← orFail (prepareAll simulations)
    let successCounts ← countsCancellable log source (prepared.zip simulations) split 0 maxPaths
    active
    pure (sweepSummaries simulations successCounts)

end Run

end RetirementPlanner.Engine
