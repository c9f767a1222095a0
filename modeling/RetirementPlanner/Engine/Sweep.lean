import RetirementPlanner.Engine.MonteCarlo

/-!
# Sweeps

The batch half of `monte_carlo.rs`: the success counts of every scenario of a batch,
over one range of paths (`countSweepShardSequential`) and folded and reduced in parallel
(`runSweep`). How the pool splits the paths among its tasks is its own choice, so it is
an argument (`WorkSplit`).
-/

namespace RetirementPlanner.Engine

variable {K : Type} [Field K] [LinearOrder K]

structure BatchSimulationSummaryResponse (K : Type) where
  id : String
  successProbability : K
  deriving DecidableEq, Repr

/-- The plans of a batch, prepared once; the first that cannot be prepared refuses it. -/
def prepareAll : List (BatchSimulationRequest K) → Except EngineError (List (PreparedPlan K))
  | [] => .ok []
  | simulation :: simulations => do
    let prepared ← PreparedPlan.newOrError simulation.plan
    let rest ← prepareAll simulations
    .ok (prepared :: rest)

section Sweep

variable [FloorRing K] (log : NaturalLog K) (source : RandomSource K)

/-- Whether a path of a scenario funds every modeled year. -/
def succeeds (scenario : PreparedPlan K × BatchSimulationRequest K) (pathIndex : ℕ) : Bool :=
  (projectScenarioSummaryPrepared log source scenario.1
    (scenario.2.config.forPath pathIndex)).2

/-- One path of a shard, in every scenario. -/
def shardPath (scenarios : List (PreparedPlan K × BatchSimulationRequest K)) (counts : List ℕ)
    (pathIndex : ℕ) : List ℕ :=
  List.zipWith (fun scenario count =>
    if succeeds log source scenario pathIndex then count + 1 else count) scenarios counts

/-- Count successes for one absolute path range. -/
def countSweepShardSequential (simulations : List (BatchSimulationRequest K))
    (startPath endPath : ℕ) : Except EngineError (List ℕ) :=
  if simulations.isEmpty then .ok []
  else if endPath ≤ startPath ∨
      simulations.any (fun simulation => decide (simulation.config.paths < endPath)) then
    .error .pathRange
  else do
    let prepared ← prepareAll simulations
    .ok ((List.range' startPath (endPath - startPath)).foldl
      (shardPath log source (prepared.zip simulations)) (List.replicate simulations.length 0))

/-- One path of a parallel sweep, in every scenario that has it. -/
def sweepPath (scenarios : List (PreparedPlan K × BatchSimulationRequest K)) (counts : List ℕ)
    (pathIndex : ℕ) : List ℕ :=
  List.zipWith (fun scenario count =>
    if scenario.2.config.paths ≤ pathIndex then count
    else if succeeds log source scenario pathIndex then count + 1
    else count) scenarios counts

/-- How a pool splits a range of paths: a task folds all of it, or it is cut in two,
whose counts are reduced. An empty half yields the identity of the reduction. -/
inductive WorkSplit
  | fold
  | cut (middle : ℕ) (left right : WorkSplit)

/-- The counts a split of the paths from `start` up to `finish` reduces to. -/
def WorkSplit.counts (scenarios : List (PreparedPlan K × BatchSimulationRequest K)) :
    WorkSplit → (start finish : ℕ) → List ℕ
  | .fold, start, finish =>
    (List.range' start (finish - start)).foldl (sweepPath log source scenarios)
      (List.replicate scenarios.length 0)
  | .cut middle left right, start, finish =>
    let middle := min (max middle start) finish
    List.zipWith (· + ·) (left.counts scenarios start middle)
      (right.counts scenarios middle finish)

/-- The success counts behind a parallel sweep. -/
def sweepCounts (simulations : List (BatchSimulationRequest K)) (split : WorkSplit) :
    Except EngineError (List ℕ) := do
  let maxPaths := (simulations.map (·.config.paths)).foldl max 0
  let prepared ← prepareAll simulations
  .ok (split.counts log source (prepared.zip simulations) 0 maxPaths)

def sweepSummaries (simulations : List (BatchSimulationRequest K)) (successCounts : List ℕ) :
    List (BatchSimulationSummaryResponse K) :=
  List.zipWith (fun simulation (successCount : ℕ) =>
    { id := simulation.id
      successProbability := (successCount : K) / simulation.config.paths }) simulations
    successCounts

/-- `run_sweep_cancellable` -/
def runSweep (simulations : List (BatchSimulationRequest K)) (split : WorkSplit) :
    Except EngineError (List (BatchSimulationSummaryResponse K)) :=
  if simulations.isEmpty then .ok []
  else do
    let successCounts ← sweepCounts log source simulations split
    .ok (sweepSummaries simulations successCounts)

end Sweep

end RetirementPlanner.Engine
