import RetirementPlanner.Lib.Tally
import RetirementPlanner.Proof.Aggregation
import RetirementPlanner.Web.Sweep

/-!
# A batch, cut and headlined

A batch counts the successful paths of each scenario (`scenarioCounts`). The native
sweep does so however its pool splits the paths (`sweepCounts_eq`), the browser however
it cuts them into ranges (`shardedCounts_eq`), and a full run of a scenario
reports the same count (`headlineCount`).

* `foldl_shardPath`, `WorkSplit.counts_eq`: what a range of paths counts to;
* `forall₂_headlineCount`: each count is that of a full run;
* `sweepPathShards_eq`: the shards a browser makes;
* `sweeps_agree`: the three implementations agree.
-/

namespace RetirementPlanner.Engine

open Ranges Tally

variable {K : Type} [Field K] [LinearOrder K]

/-! ## Preparing a batch -/

/-- A batch is prepared when each of its plans is. -/
theorem prepareAll_ok {simulations : List (BatchSimulationRequest K)}
    {prepared : List (PreparedPlan K)} (h : prepareAll simulations = .ok prepared) :
    List.Forall₂ (fun simulation prepared =>
      PreparedPlan.newOrError simulation.plan = .ok prepared) simulations prepared := by
  induction simulations generalizing prepared with
  | nil =>
    cases h
    exact .nil
  | cons simulation simulations ih =>
    rw [prepareAll] at h
    cases hfirst : PreparedPlan.newOrError simulation.plan with
    | error e =>
      rw [hfirst] at h
      cases h
    | ok first =>
      cases hrest : prepareAll simulations with
      | error e =>
        rw [hfirst, hrest] at h
        cases h
      | ok rest =>
        rw [hfirst, hrest] at h
        cases h
        exact .cons hfirst (ih hrest)

/-! ## What a range of paths counts to -/

section Counts

variable [FloorRing K] (log : NaturalLog K) (source : RandomSource K)
  (scenarios : List (PreparedPlan K × BatchSimulationRequest K))

/-- The successful paths of each scenario. -/
def scenarioCounts (paths : List ℕ) : List ℕ := tally (succeeds log source) scenarios paths

theorem foldl_shardPath (paths : List ℕ) :
    paths.foldl (shardPath log source scenarios) (List.replicate scenarios.length 0)
      = scenarioCounts log source scenarios paths :=
  foldl_step (succeeds log source) scenarios paths

/-- Whether a parallel sweep counts a path of a scenario. -/
def sweepCounted (scenario : PreparedPlan K × BatchSimulationRequest K) (pathIndex : ℕ) : Bool :=
  decide (pathIndex < scenario.2.config.paths) && succeeds log source scenario pathIndex

theorem sweepPath_eq (counts : List ℕ) (pathIndex : ℕ) :
    sweepPath log source scenarios counts pathIndex
      = step (sweepCounted log source) scenarios counts pathIndex := by
  rw [sweepPath, step]
  congr 1
  funext scenario count
  by_cases hpath : pathIndex < scenario.2.config.paths
  · rw [if_neg (Nat.not_le.mpr hpath), sweepCounted, decide_eq_true hpath, Bool.true_and]
  · rw [if_pos (Nat.not_lt.mp hpath), sweepCounted, decide_eq_false hpath, Bool.false_and,
      if_neg Bool.false_ne_true]

theorem foldl_sweepPath (paths : List ℕ) :
    paths.foldl (sweepPath log source scenarios) (List.replicate scenarios.length 0)
      = tally (sweepCounted log source) scenarios paths := by
  have hstep : sweepPath log source scenarios = step (sweepCounted log source) scenarios := by
    funext counts pathIndex
    exact sweepPath_eq log source scenarios counts pathIndex
  rw [hstep, foldl_step]

/-- Whatever the split, the counts of the pieces reduce to those of the range. -/
theorem WorkSplit.counts_eq (split : WorkSplit) {start finish : ℕ} (h : start ≤ finish) :
    split.counts log source scenarios start finish
      = tally (sweepCounted log source) scenarios (List.range' start (finish - start)) := by
  induction split generalizing start finish with
  | fold => exact foldl_sweepPath log source scenarios _
  | cut middle left right ihLeft ihRight =>
    have hstart : start ≤ min (max middle start) finish := by omega
    have hfinish : min (max middle start) finish ≤ finish := by omega
    have hlength : finish - start = min (max middle start) finish - start
        + (finish - min (max middle start) finish) := by omega
    have hjoin : start + (min (max middle start) finish - start)
        = min (max middle start) finish := by omega
    rw [WorkSplit.counts, ihLeft hstart, ihRight hfinish, hlength, ← List.range'_append_1, hjoin]
    exact add_tally _ _ _ _

/-- A shard counts what its paths do. -/
theorem countSweepShardSequential_eq {simulations : List (BatchSimulationRequest K)}
    (hne : simulations ≠ []) {startPath endPath : ℕ} (hrange : startPath < endPath)
    (hpaths : ∀ simulation ∈ simulations, endPath ≤ simulation.config.paths) :
    countSweepShardSequential log source simulations startPath endPath
      = (prepareAll simulations).map fun prepared => scenarioCounts log source
          (prepared.zip simulations) (List.range' startPath (endPath - startPath)) := by
  have hwithin : ¬(endPath ≤ startPath ∨ (simulations.any fun simulation =>
      decide (simulation.config.paths < endPath)) = true) := by
    rintro (hle | hany)
    · omega
    · obtain ⟨simulation, hmem, hlt⟩ := List.any_eq_true.mp hany
      exact Nat.not_lt.mpr (hpaths simulation hmem) (of_decide_eq_true hlt)
  rw [countSweepShardSequential, List.isEmpty_eq_false_iff.mpr hne, if_neg Bool.false_ne_true,
    if_neg hwithin]
  cases hprepared : prepareAll simulations with
  | error e => rfl
  | ok prepared =>
    have hlength : (prepared.zip simulations).length = simulations.length := by
      rw [List.length_zip, (prepareAll_ok hprepared).length_eq, Nat.min_self]
    simp only [bind, Except.bind, Except.map, ← hlength, foldl_shardPath]

/-! ## A batch of one configuration -/

variable {simulations : List (BatchSimulationRequest K)} (hne : simulations ≠ [])
  {config : MCConfig} (hconfig : ∀ simulation ∈ simulations, simulation.config = config)

include hne hconfig in
omit [Field K] [LinearOrder K] [FloorRing K] in
theorem maxPaths_eq : (simulations.map (·.config.paths)).foldl max 0 = config.paths := by
  have hmap : simulations.map (·.config.paths)
      = List.replicate simulations.length config.paths := by
    rw [← List.map_const']
    exact List.map_congr_left fun simulation hmem => congrArg _ (hconfig simulation hmem)
  obtain ⟨n, hn⟩ := Nat.exists_eq_succ_of_ne_zero (by simpa using hne : simulations.length ≠ 0)
  have hfold : ∀ n, (List.replicate n config.paths).foldl max config.paths = config.paths := by
    intro n
    induction n with
    | zero => rfl
    | succ n ih => rw [List.replicate_succ, List.foldl_cons, max_self, ih]
  rw [hmap, hn, List.replicate_succ, List.foldl_cons, Nat.zero_max, hfold]

include hne hconfig in
/-- The native sweep counts the successful paths of each scenario, whatever the split. -/
theorem sweepCounts_eq (split : WorkSplit) :
    sweepCounts log source simulations split
      = (prepareAll simulations).map fun prepared => scenarioCounts log source
          (prepared.zip simulations) (List.range config.paths) := by
  simp only [sweepCounts, maxPaths_eq hne hconfig]
  cases hprepared : prepareAll simulations with
  | error e => rfl
  | ok prepared =>
    simp only [bind, Except.bind, Except.map]
    rw [WorkSplit.counts_eq log source _ split (Nat.zero_le _), Nat.sub_zero,
      ← List.range_eq_range', scenarioCounts]
    refine congrArg _ (tally_congr _ fun scenario hscenario pathIndex hpath => ?_)
    rw [sweepCounted, hconfig _ (List.of_mem_zip hscenario).2,
      decide_eq_true (List.mem_range.mp hpath), Bool.true_and]

/-! ## The headline -/

/-- A path succeeds in a sweep when its summary in a full run does. -/
theorem succeeds_eq (prepared : PreparedPlan K) (simulation : BatchSimulationRequest K)
    (pathIndex : ℕ) :
    succeeds log source (prepared, simulation) pathIndex
      = (summarizePath log source prepared simulation.config pathIndex).success := by
  rw [succeeds, projectScenarioSummaryPrepared_eq]
  rfl

/-- A full run of a scenario succeeds on as many of its paths as were counted. -/
structure HeadlineCount (simulation : BatchSimulationRequest K) (count : ℕ) : Prop where
  paths : ∃ prepared, PreparedPlan.newOrError simulation.plan = .ok prepared ∧
    count = ((List.range simulation.config.paths).map
      (summarizePath log source prepared simulation.config)).countP (·.success)
  result : ∃ result, runSimulation log source simulation.plan simulation.config = .ok result ∧
    result.successProbability = (count : K) / (simulation.config.paths : K)

variable [IsStrictOrderedRing K]

theorem headlineCount {simulation : BatchSimulationRequest K} {prepared : PreparedPlan K}
    (hnew : PreparedPlan.newOrError simulation.plan = .ok prepared)
    (hpaths : simulation.config.paths ≠ 0) :
    HeadlineCount log source simulation ((List.range simulation.config.paths).countP
      (succeeds log source (prepared, simulation))) := by
  have hcount : (List.range simulation.config.paths).countP (succeeds log source
      (prepared, simulation)) = ((List.range simulation.config.paths).map
        (summarizePath log source prepared simulation.config)).countP (·.success) := by
    rw [List.countP_map]
    exact List.countP_congr fun pathIndex _ => by rw [succeeds_eq]; rfl
  refine ⟨⟨prepared, hnew, hcount⟩, ?_⟩
  have hok : PreparedPlan.new simulation.plan = .ok prepared := by
    rw [PreparedPlan.newOrError] at hnew
    cases hcase : PreparedPlan.new simulation.plan with
    | error e =>
      rw [hcase] at hnew
      cases hnew
    | ok prepared' =>
      rw [hcase] at hnew
      cases hnew
      rfl
  have hnonempty : (List.range simulation.config.paths).map
      (summarizePath log source prepared simulation.config) ≠ [] := by
    simpa using hpaths
  obtain ⟨result, hresult, hfaithful⟩ := aggregateResults_ok log source hok simulation.config
    hnonempty fun summary hmem => by
      obtain ⟨pathIndex, -, rfl⟩ := List.mem_map.mp hmem
      exact (List.length_map _).trans (length_runSinglePath log source prepared _ pathIndex)
  refine ⟨result, ?_, ?_⟩
  · rw [runSimulation, hnew]
    exact hresult
  · rw [hfaithful.success, hcount, List.length_map, List.length_range]

/-- Every count of a batch is the headline of its scenario. -/
theorem forall₂_headlineCount {simulations : List (BatchSimulationRequest K)}
    {prepared : List (PreparedPlan K)} {paths : ℕ} (hpos : paths ≠ 0)
    (hpaths : ∀ simulation ∈ simulations, simulation.config.paths = paths)
    (h : List.Forall₂ (fun simulation prepared =>
      PreparedPlan.newOrError simulation.plan = .ok prepared) simulations prepared) :
    List.Forall₂ (HeadlineCount log source) simulations
      (scenarioCounts log source (prepared.zip simulations) (List.range paths)) := by
  induction h with
  | nil => exact .nil
  | @cons simulation first simulations prepared hfirst hrest ih =>
    have hcount := hpaths simulation List.mem_cons_self
    have hhead := headlineCount log source hfirst (hcount ▸ hpos)
    rw [hcount] at hhead
    exact .cons hhead (ih fun simulation hmem => hpaths simulation (List.mem_cons_of_mem _ hmem))

end Counts

end RetirementPlanner.Engine

namespace RetirementPlanner.Web

open Ranges Tally
open Engine (NaturalLog RandomSource MCConfig BatchSimulationRequest WorkSplit prepareAll
  prepareAll_ok scenarioCounts countSweepShardSequential_eq sweepCounts sweepCounts_eq
  HeadlineCount forall₂_headlineCount validateConfig)

variable {K : Type} [Field K] [LinearOrder K]

/-! ## The shards of a browser -/

/-- From any worker on, the shards follow one another, the first ones a path longer. -/
theorem shardLoop_tiles {base : ℕ} (hbase : 1 ≤ base) (extra workers index start : ℕ) :
    Tiles start (start + workers * base + (min (index + workers) extra - min index extra))
      (shardLoop base extra workers index start) := by
  induction workers generalizing index start with
  | zero => simp [shardLoop, Tiles]
  | succ workers ih =>
    rw [shardLoop]
    refine ⟨rfl, by omega, ?_⟩
    have hrest := ih (index + 1) (start + (base + if index < extra then 1 else 0))
    have hend : start + (base + if index < extra then 1 else 0) + workers * base
          + (min (index + 1 + workers) extra - min (index + 1) extra)
        = start + (workers + 1) * base
          + (min (index + (workers + 1)) extra - min index extra) := by
      rw [Nat.succ_mul]
      split <;> omega
    rwa [hend] at hrest

theorem shardLoop_sizes {base extra workers index start : ℕ} {range : ℕ × ℕ}
    (h : range ∈ shardLoop base extra workers index start) :
    base ≤ range.2 - range.1 ∧ range.2 - range.1 ≤ base + 1 := by
  induction workers generalizing index start with
  | zero => cases h
  | succ workers ih =>
    rw [shardLoop] at h
    rcases List.mem_cons.mp h with rfl | h
    · simp only
      split <;> omega
    · exact ih h

theorem length_shardLoop (base extra workers index start : ℕ) :
    (shardLoop base extra workers index start).length = workers := by
  induction workers generalizing index start with
  | zero => rfl
  | succ workers ih => rw [shardLoop, List.length_cons, ih]

/-- Whatever a browser says of its processors, a sweep has at most eight shards, which
follow one another from the first path to the last and are of one size, or nearly. -/
structure ShardsOf (paths : ℕ) (shards : List (ℕ × ℕ)) : Prop where
  length_le : shards.length ≤ 8
  tiles : Tiles 0 paths shards
  sizes : ∀ shard ∈ shards, ∀ shard' ∈ shards, shard.2 - shard.1 ≤ shard'.2 - shard'.1 + 1

variable [FloorRing K]

theorem one_le_availableWorkers (hardwareConcurrency : Option K) :
    1 ≤ availableWorkers hardwareConcurrency := by
  cases hardwareConcurrency with
  | none => exact le_rfl
  | some concurrency =>
    have hone : (1 : ℤ) ≤ max (⌊concurrency⌋ - 1) 1 := le_max_right _ _
    simp only [availableWorkers, Option.elim_some]
    omega

theorem sweepPathShards_eq {paths : ℕ} (hpos : 1 ≤ paths) (hsafe : paths ≤ maxSafeInteger)
    (hardwareConcurrency : Option K) :
    ∃ shards, sweepPathShards (paths : ℤ) hardwareConcurrency = some shards ∧
      ShardsOf paths shards := by
  have hworkers := one_le_availableWorkers hardwareConcurrency
  have hrange : ¬((maxSafeInteger : ℤ) < (paths : ℤ) ∨ (paths : ℤ) < 1) := by omega
  rw [sweepPathShards, if_neg hrange, Int.toNat_natCast]
  set workers := min (min (availableWorkers hardwareConcurrency) 8) paths with hcount
  have hworkersPos : 0 < workers := by omega
  have hbase : 1 ≤ paths / workers := (Nat.one_le_div_iff hworkersPos).mpr (by omega)
  have hextra : paths % workers < workers := Nat.mod_lt _ hworkersPos
  have hdivide : workers * (paths / workers) + paths % workers = paths := Nat.div_add_mod _ _
  refine ⟨_, rfl, ?_, ?_, ?_⟩
  · rw [length_shardLoop]
    omega
  · have htiles := shardLoop_tiles hbase (paths % workers) workers 0 0
    rwa [Nat.zero_add, Nat.zero_add, Nat.min_eq_right hextra.le, Nat.zero_min, Nat.sub_zero,
      hdivide] at htiles
  · intro shard hshard shard' hshard'
    have hsize := shardLoop_sizes hshard
    have hsize' := shardLoop_sizes hshard'
    omega

/-! ## Adding up the shards -/

section Counts

variable (log : NaturalLog K) (source : RandomSource K)
  {simulations : List (BatchSimulationRequest K)} (hne : simulations ≠ [])
  {paths : ℕ} (hpaths : ∀ simulation ∈ simulations, simulation.config.paths = paths)

include hne hpaths in
/-- Ranges within the paths of a batch are counted, or its plans are refused. -/
theorem countShards_eq {prepared : List (Engine.PreparedPlan K)}
    (hprepared : prepareAll simulations = .ok prepared) {ranges : List (ℕ × ℕ)}
    (hranges : ∀ range ∈ ranges, range.1 < range.2 ∧ range.2 ≤ paths) :
    countShards log source simulations ranges = .ok (ranges.map fun range =>
      scenarioCounts log source (prepared.zip simulations)
        (List.range' range.1 (range.2 - range.1))) := by
  induction ranges with
  | nil => rfl
  | cons range ranges ih =>
    obtain ⟨hlt, hle⟩ := hranges range List.mem_cons_self
    rw [countShards, countSweepShardSequential_eq log source hne hlt fun simulation hmem =>
      hle.trans (hpaths simulation hmem).ge, hprepared,
      ih fun range' hmem => hranges range' (List.mem_cons_of_mem _ hmem)]
    rfl

include hne hpaths in
/-- However the paths are cut, the counts of the pieces add up to those of all paths. -/
theorem shardedCounts_eq {cuts : List (ℕ × ℕ)} (hpos : 1 ≤ paths) (hcuts : Tiles 0 paths cuts) :
    shardedCounts log source simulations cuts
      = (prepareAll simulations).map fun prepared => scenarioCounts log source
          (prepared.zip simulations) (List.range paths) := by
  have hranges : ∀ range ∈ cuts, range.1 < range.2 ∧ range.2 ≤ paths := fun range hmem =>
    (hcuts.mem_bounds hmem).2
  cases hprepared : prepareAll simulations with
  | error e =>
    cases cuts with
    | nil =>
      cases hcuts
      omega
    | cons range ranges =>
      obtain ⟨hlt, hle⟩ := hranges range List.mem_cons_self
      rw [shardedCounts, countShards, countSweepShardSequential_eq log source hne hlt
        fun simulation hmem => hle.trans (hpaths simulation hmem).ge, hprepared]
      rfl
  | ok prepared =>
    have hlength : simulations.length = (prepared.zip simulations).length := by
      rw [List.length_zip, (prepareAll_ok hprepared).length_eq, Nat.min_self]
    have hsum := foldl_tally_ranges (prepared.zip simulations) (Engine.succeeds log source) hcuts
    rw [shardedCounts, countShards_eq log source hne hpaths hprepared hranges]
    simp only [Except.map, addShards, hlength]
    rw [Nat.sub_zero, ← List.range_eq_range'] at hsum
    exact congrArg _ hsum

end Counts

/-! ## Agreement -/

section Agreement

variable [IsStrictOrderedRing K] (log : NaturalLog K) (source : RandomSource K)

/-- For a batch that shares one accepted configuration: however its paths are cut into
ranges and however the native pool splits them, the counts of the ranges add up to those
of the native sweep; each count is the number of successful paths, and the reported
probability, of a full run of its scenario; and the shards a browser makes of any number
of paths are at most eight, consecutive, and of one size, or nearly. -/
theorem sweeps_agree {simulations : List (BatchSimulationRequest K)} (hne : simulations ≠ [])
    {config : MCConfig} (hconfig : ∀ simulation ∈ simulations, simulation.config = config)
    (hvalid : validateConfig config.paths config.blockSize = .ok ()) :
    (∀ (cuts : List (ℕ × ℕ)) (split : WorkSplit), Tiles 0 config.paths cuts →
      shardedCounts log source simulations cuts = sweepCounts log source simulations split) ∧
    (∀ (split : WorkSplit) (counts : List ℕ),
      sweepCounts log source simulations split = .ok counts →
        List.Forall₂ (HeadlineCount log source) simulations counts) ∧
    (∀ paths : ℕ, 1 ≤ paths → paths ≤ maxSafeInteger → ∀ hardwareConcurrency : Option K,
      ∃ shards, sweepPathShards (paths : ℤ) hardwareConcurrency = some shards ∧
        ShardsOf paths shards) := by
  have hpos : 1 ≤ config.paths := by
    rw [validateConfig] at hvalid
    split at hvalid
    · cases hvalid
    · omega
  have hpaths : ∀ simulation ∈ simulations, simulation.config.paths = config.paths :=
    fun simulation hmem => by rw [hconfig simulation hmem]
  refine ⟨fun cuts split hcuts => ?_, fun split counts hcounts => ?_, fun paths hpaths hsafe hc =>
    sweepPathShards_eq hpaths hsafe hc⟩
  · rw [shardedCounts_eq log source hne hpaths hpos hcuts,
      sweepCounts_eq log source hne hconfig split]
  · rw [sweepCounts_eq log source hne hconfig split] at hcounts
    cases hprepared : prepareAll simulations with
    | error e =>
      rw [hprepared] at hcounts
      cases hcounts
    | ok prepared =>
      rw [hprepared] at hcounts
      cases hcounts
      exact forall₂_headlineCount log source (Nat.one_le_iff_ne_zero.mp hpos) hpaths
        (prepareAll_ok hprepared)

/-- A household's plan as it is, and with benefits claimed at 70, over three paths. -/
def twoScenarios : List (BatchSimulationRequest ℚ) :=
  [⟨⟨Engine.largeBenefitPlan, ⟨3, 42, true, 5⟩⟩, "ss-63"⟩,
    ⟨⟨{ Engine.largeBenefitPlan with
        socialSecurity := { Engine.largeBenefitPlan.socialSecurity with claimAge := 70 } },
      ⟨3, 42, true, 5⟩⟩, "ss-70"⟩]

theorem sweeps_agree_twoScenarios :
    shardedCounts Engine.NaturalLog.flat Engine.countingSource twoScenarios [(0, 2), (2, 3)]
      = sweepCounts Engine.NaturalLog.flat Engine.countingSource twoScenarios
        (.cut 1 .fold .fold) :=
  (sweeps_agree Engine.NaturalLog.flat Engine.countingSource
    (by simp [twoScenarios] : twoScenarios ≠ [])
    (by simp [twoScenarios] : ∀ simulation ∈ twoScenarios, simulation.config = ⟨3, 42, true, 5⟩)
    (by decide)).1 _ _ (by decide)

end Agreement

end RetirementPlanner.Web
