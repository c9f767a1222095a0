import RetirementPlanner.Engine.Sweep
import RetirementPlanner.Lib.Keyed

/-!
# The browser's sweep

`engine/mc.ts`, `workers/mc.worker.ts` and `wasm.rs`: the path range cut into shards, each
counted by a worker, and the counts added up, scenario by scenario. A worker's request
crosses the wire form of the engine unchanged. Aborting is left out.
-/

namespace RetirementPlanner.Web

open Keyed
open Engine (NaturalLog RandomSource MCConfig EngineError BatchSimulationRequest
  BatchSimulationSummaryResponse countSweepShardSequential validateBatchSimulations)

variable {K : Type} [Field K] [LinearOrder K]

/-- `Number.MAX_SAFE_INTEGER` -/
def maxSafeInteger : ℕ := 2 ^ 53 - 1

/-- The loop of `Array.from`: each shard starts where the one before it ends. -/
def shardLoop (basePathsPerWorker workersWithExtraPath : ℕ) :
    (workers workerIndex startPath : ℕ) → List (ℕ × ℕ)
  | 0, _, _ => []
  | workers + 1, workerIndex, startPath =>
    let shardSize := basePathsPerWorker + if workerIndex < workersWithExtraPath then 1 else 0
    (startPath, startPath + shardSize)
      :: shardLoop basePathsPerWorker workersWithExtraPath workers (workerIndex + 1)
        (startPath + shardSize)

/-- The workers a browser gives a sweep. A concurrency of `none` is not finite. -/
def availableWorkers [FloorRing K] (hardwareConcurrency : Option K) : ℕ :=
  hardwareConcurrency.elim 1 fun concurrency => (max (⌊concurrency⌋ - 1) 1).toNat

/-- The shards of a sweep, `none` where the source throws a `RangeError`. -/
def sweepPathShards [FloorRing K] (paths : ℤ) (hardwareConcurrency : Option K) :
    Option (List (ℕ × ℕ)) :=
  if (maxSafeInteger : ℤ) < paths ∨ paths < 1 then none
  else
    let paths := paths.toNat
    let workerCount := min (min (availableWorkers hardwareConcurrency) 8) paths
    some (shardLoop (paths / workerCount) (paths % workerCount) workerCount 0 0)

/-- Add the counts of the shards, scenario by scenario. -/
def addShards (scenarioCount : ℕ) (shardCounts : List (List ℕ)) : List ℕ :=
  shardCounts.foldl (List.zipWith (· + ·)) (List.replicate scenarioCount 0)

variable [FloorRing K] (log : NaturalLog K) (source : RandomSource K)

/-- The counts of each range, one after the other; the first range refused refuses the
sweep. -/
def countShards (simulations : List (BatchSimulationRequest K)) :
    List (ℕ × ℕ) → Except EngineError (List (List ℕ))
  | [] => .ok []
  | range :: ranges => do
    let counts ← countSweepShardSequential log source simulations range.1 range.2
    let rest ← countShards simulations ranges
    .ok (counts :: rest)

/-- The success counts of a sweep cut into ranges. -/
def shardedCounts (simulations : List (BatchSimulationRequest K)) (ranges : List (ℕ × ℕ)) :
    Except EngineError (List ℕ) :=
  (countShards log source simulations ranges).map (addShards simulations.length)

/-! ## Workers -/

structure WorkerSweepScenario (K : Type) where
  id : String
  plan : Engine.RetirementPlan K

/-- `run_sweep_shard` of the engine's browser build. -/
def runRustSweepShard (simulations : List (BatchSimulationRequest K)) (startPath endPath : ℕ) :
    Except String (List (String × ℕ)) := do
  let _ ← validateBatchSimulations simulations
  let counts ← (countSweepShardSequential log source simulations startPath endPath).mapError
    EngineError.message
  .ok (List.zipWith (fun simulation count => (simulation.id, count)) simulations counts)

/-- A worker's counts, read back by id in the order of the scenarios. -/
def readCounts (results : List (String × ℕ)) :
    List (WorkerSweepScenario K) → Except String (List ℕ)
  | [] => .ok []
  | scenario :: scenarios =>
    match mapGet results scenario.id with
    | none => .error s!"Rust sweep omitted scenario '{scenario.id}'"
    | some count => do
      let rest ← readCounts results scenarios
      .ok (count :: rest)

/-- One worker: the scenarios over one range of paths. -/
def runSweepShard (scenarios : List (WorkerSweepScenario K)) (config : MCConfig)
    (startPath endPath : ℕ) : Except String (List ℕ) := do
  let results ← runRustSweepShard log source
    (scenarios.map fun scenario => ⟨⟨scenario.plan, config⟩, scenario.id⟩) startPath endPath
  readCounts results scenarios

/-- The counts of every worker. -/
def runWorkers (scenarios : List (WorkerSweepScenario K)) (config : MCConfig) :
    List (ℕ × ℕ) → Except String (List (List ℕ))
  | [] => .ok []
  | shard :: shards => do
    let counts ← runSweepShard log source scenarios config shard.1 shard.2
    let rest ← runWorkers scenarios config shards
    .ok (counts :: rest)

def runMonteCarloSummaries (hardwareConcurrency : Option K)
    (scenarios : List (WorkerSweepScenario K)) (config : MCConfig) :
    Except String (List (BatchSimulationSummaryResponse K)) :=
  if scenarios.isEmpty then .ok []
  else
    match sweepPathShards (config.paths : ℤ) hardwareConcurrency with
    | none => .error "Path count must be a positive safe integer"
    | some shards => do
      let shardCounts ← runWorkers log source scenarios config shards
      .ok (List.zipWith (fun scenario (count : ℕ) =>
          { id := scenario.id
            successProbability := (count : K) / (config.paths : K) })
        scenarios (addShards scenarios.length shardCounts))

end RetirementPlanner.Web
