import Mathlib
import RetirementPlanner.Proof.Server
import RetirementPlanner.Proof.StoredPlans

/-!
# The sensitivity batch

The scenarios of a stored plan's four levers fit one batch (`withinContract`), and each
point of the four curves is the success rate of its own plan, whichever adapter ran the
batch (`sensitivityCurves_own`).

* `Labelled`: a lever's ids are its label and a whole number of at most ten digits;
* `runOnServer_own`, `runOnClient_own`: an adapter answers each scenario under its id;
* `successRate_of_key`: scenarios merged into one have one success rate;
* `exists_curves`: the native service gives the curves of a plan whose scenarios are valid.
-/

namespace RetirementPlanner.Web

open Schema Keyed Ranges
open Engine (NaturalLog RandomSource MCConfig BatchSimulationRequest WorkSplit HeadlineCount
  runSimulation runSweep sweepCounts sweepCounts_eq sweepSummaries prepareAll prepareAll_ok
  scenarioCounts countSweepShardSequential countSweepShardSequential_eq forall₂_headlineCount
  validateBatchSimulations)

variable {K : Type} [Field K] [LinearOrder K] [FloorRing K]

/-! ## Ids -/

theorem levelText_inj {x y : K} (hx : (⌊x⌋ : K) = x) (hy : (⌊y⌋ : K) = y)
    (h : levelText x = levelText y) : x = y := by
  have hfloor : ⌊x⌋ = ⌊y⌋ := Int.repr_inj.mp h
  rw [← hx, ← hy, hfloor]

/-- The letters the ids of different levers differ in. -/
def initials (id : String) : List Char := id.toList.take 2

theorem initials_append {label : String} (h : 2 ≤ label.toList.length) (text : String) :
    initials (label ++ text) = initials label := by
  rw [initials, String.toList_append, List.take_append_of_le_length h, initials]

/-- Scenarios of whole levels of at most a billion, each level once, under ids made of a
label and the level. -/
structure Labelled (label : String) (levels : List K) (entries : List (K × Scenario K)) :
    Prop where
  label_length : 2 ≤ label.toList.length ∧ label.length ≤ 15
  levels_nodup : levels.Nodup
  levels_whole : ∀ level ∈ levels, (⌊level⌋ : K) = level
  levels_amount : ∀ level ∈ levels, AdmittedAmount 1000000000 level
  ids : entries.map (·.2.id) = levels.map fun level => label ++ levelText level

namespace Labelled

variable {label : String} {levels : List K} {entries : List (K × Scenario K)}
  (h : Labelled label levels entries)

include h in
theorem nodup : (entries.map (·.2.id)).Nodup := by
  rw [h.ids]
  refine h.levels_nodup.map_on fun x hx y hy heq => ?_
  exact levelText_inj (h.levels_whole x hx) (h.levels_whole y hy)
    ((String.append_right_inj label).mp heq)

include h in
theorem initials_eq {id : String} (hid : id ∈ entries.map (·.2.id)) :
    initials id = initials label := by
  rw [h.ids] at hid
  obtain ⟨level, -, rfl⟩ := List.mem_map.mp hid
  exact initials_append h.label_length.1 _

include h in
theorem disjoint {label' : String} {levels' : List K} {entries' : List (K × Scenario K)}
    (h' : Labelled label' levels' entries') (hne : initials label ≠ initials label') :
    (entries.map (·.2.id)).Disjoint (entries'.map (·.2.id)) := fun _ hid hid' =>
  hne ((h.initials_eq hid).symm.trans (h'.initials_eq hid'))

include h in
theorem length_eq : entries.length = levels.length := by
  have hlengths := congrArg List.length h.ids
  rwa [List.length_map, List.length_map] at hlengths

end Labelled

variable [IsStrictOrderedRing K]

theorem length_levelText_le {x : K} (h : AdmittedAmount 1000000000 x) :
    (levelText x).length ≤ 10 := by
  have hlow : 0 ≤ ⌊x⌋ := Int.floor_nonneg.mpr h.1
  have hhigh : ⌊x⌋ ≤ 1000000000 := by
    have hfloor : (⌊x⌋ : K) ≤ ((1000000000 : ℤ) : K) := by
      refine (Int.floor_le x).trans (h.2.trans_eq ?_)
      norm_num
    exact_mod_cast hfloor
  obtain ⟨n, hn⟩ := Int.eq_ofNat_of_zero_le hlow
  have htext : levelText x = n.repr := by
    rw [levelText, hn]
    rfl
  rw [htext, Nat.length_repr_le_iff (by decide)]
  omega

theorem Labelled.id_length_le {label : String} {levels : List K} {entries : List (K × Scenario K)}
    (h : Labelled label levels entries) {id : String} (hid : id ∈ entries.map (·.2.id)) :
    id.length ≤ 64 := by
  rw [h.ids] at hid
  obtain ⟨level, hlevel, rfl⟩ := List.mem_map.mp hid
  have hlabel := h.label_length.2
  have hdigits := length_levelText_le (h.levels_amount level hlevel)
  rw [String.length_append]
  omega

section Levers

variable {plan : RetirementPlan K} (h : StoredPlan plan)

omit [Field K] [LinearOrder K] [FloorRing K] [IsStrictOrderedRing K] in
theorem conversionStepOf_le (plan : RetirementPlan K) : conversionStepOf plan ≤ 5 := by
  rw [conversionStepOf]
  obtain ⟨enabled, ceiling⟩ := plan.assumptions.rothConversion
  cases enabled <;> cases ceiling <;> decide

include h in
/-- No lever sweeps a level below zero or past a billion. -/
theorem sweepValue_amount (key : LeverKey) {level : K}
    (hmem : level ∈ (leverRange key plan).sweepValues) : AdmittedAmount 1000000000 level := by
  cases key with
  | retirementAge =>
    obtain ⟨hge, hle, -⟩ := retirementAge_sweep h hmem
    rw [AdmittedAmount, ← floor_sweepValue _ _ hmem]
    constructor
    · exact_mod_cast (by omega : (0 : ℤ) ≤ ⌊level⌋)
    · exact_mod_cast (by omega : ⌊level⌋ ≤ (1000000000 : ℤ))
  | spending => exact spending_sweep h hmem
  | socialSecurityClaimAge =>
    obtain ⟨hge, hle⟩ := claimAge_sweep h hmem
    rw [AdmittedAmount, ← floor_sweepValue _ _ hmem]
    constructor
    · exact_mod_cast (by omega : (0 : ℤ) ≤ ⌊level⌋)
    · exact_mod_cast (by omega : ⌊level⌋ ≤ (1000000000 : ℤ))
  | rothConversion =>
    have hbounds : (specs .rothConversion).bounds plan
        = ((0 : K), (conversionSteps.length : K) - 1) := rfl
    have hstep : (conversionStepOf plan : K) ≤ 5 := by exact_mod_cast conversionStepOf_le plan
    have hlast : (conversionSteps.length : K) - 1 = 5 := by norm_num [conversionSteps]
    obtain ⟨hlow, hhigh⟩ := sweepValues_bounds _ plan hbounds
      ⟨Nat.cast_nonneg _, hstep.trans_eq hlast.symm⟩ hmem
    exact ⟨hlow, by linarith⟩

include h in
theorem labelled_sweep (key : LeverKey) {label : String} {entries : List (K × Scenario K)}
    (hlabel : 2 ≤ label.toList.length ∧ label.length ≤ 15)
    (hids : entries.map (·.2.id)
      = (leverRange key plan).sweepValues.map fun level => label ++ levelText level) :
    Labelled label (leverRange key plan).sweepValues entries :=
  ⟨hlabel, nodup_sweepValues key plan, fun _ hmem => floor_sweepValue key plan hmem,
    fun _ hmem => sweepValue_amount h key hmem, hids⟩

variable (seed : ℤ)

include h in
theorem ssScenarios_labelled : ∃ levels : List K, levels.length ≤ 8 ∧
    Labelled "ss-" levels (ssScenarios plan seed) := by
  have hids : ∀ levels : List K, (levels.map fun claimAge =>
      (claimAge, ssScenario plan seed claimAge)).map (·.2.id)
      = levels.map fun level => "ss-" ++ levelText level := fun levels => List.map_map
  have hcount := length_sweepValues_le .socialSecurityClaimAge plan
  rw [ssScenarios]
  split
  · exact ⟨_, hcount, labelled_sweep h .socialSecurityClaimAge (by decide) (hids _)⟩
  · refine ⟨[(plan.socialSecurity.claimAge : K)], Nat.succ_le_succ (Nat.zero_le 7), by decide,
      List.nodup_singleton _, ?_, ?_, hids _⟩
    · exact List.forall_mem_singleton.mpr (by rw [Int.floor_intCast])
    · rw [List.forall_mem_singleton]
      have hage := h.socialSecurity.claimAge
      constructor
      · exact_mod_cast (by omega : 0 ≤ plan.socialSecurity.claimAge)
      · exact_mod_cast (by omega : plan.socialSecurity.claimAge ≤ 1000000000)

include h in
theorem spendingScenarios_labelled : Labelled "spending-"
    (leverRange .spending plan).sweepValues (spendingScenarios plan seed) :=
  labelled_sweep h .spending (by decide) List.map_map

include h in
theorem retirementAgeScenarios_labelled : Labelled "retirementAge-"
    (leverRange .retirementAge plan).sweepValues (retirementAgeScenarios plan seed) :=
  labelled_sweep h .retirementAge (by decide) List.map_map

include h in
theorem rothConversionScenarios_labelled : Labelled "rothConversion-"
    (leverRange .rothConversion plan).sweepValues (rothConversionScenarios plan seed) :=
  labelled_sweep h .rothConversion (by decide) List.map_map

end Levers

/-! ## The batch contract -/

/-- What one batch may hold. -/
structure WithinContract (scenarios : List (Scenario K)) : Prop where
  ids_nodup : (scenarios.map (·.id)).Nodup
  id_length_le : ∀ scenario ∈ scenarios, scenario.id.length ≤ 64
  count_le : scenarios.length ≤ Engine.maxBatchSimulations
  paths_le : (scenarios.map (·.paths)).sum ≤ Engine.maxBatchPaths

omit [IsStrictOrderedRing K] in
theorem allScenarios_shared {plan : RetirementPlan K} {seed : ℤ} {scenario : Scenario K}
    (hmem : scenario ∈ allScenarios plan seed) :
    scenario.paths = sweepPaths ∧ scenario.seed = seed := by
  simp only [allScenarios, List.mem_append, List.mem_map] at hmem
  obtain ((⟨entry, hentry, rfl⟩ | ⟨entry, hentry, rfl⟩) | ⟨entry, hentry, rfl⟩)
    | ⟨entry, hentry, rfl⟩ := hmem
  all_goals
    obtain ⟨level, -, rfl⟩ := List.mem_map.mp hentry
    exact ⟨rfl, rfl⟩

/-- A stored plan's scenarios fit one batch. -/
theorem withinContract {plan : RetirementPlan K} (h : StoredPlan plan) (seed : ℤ) :
    WithinContract (allScenarios plan seed) := by
  obtain ⟨ages, hages, hss⟩ := ssScenarios_labelled h seed
  have hspending := spendingScenarios_labelled h seed
  have hretirement := retirementAgeScenarios_labelled h seed
  have hroth := rothConversionScenarios_labelled h seed
  have hids : (allScenarios plan seed).map (·.id)
      = (ssScenarios plan seed).map (·.2.id) ++ (spendingScenarios plan seed).map (·.2.id)
        ++ (retirementAgeScenarios plan seed).map (·.2.id)
        ++ (rothConversionScenarios plan seed).map (·.2.id) := by
    simp only [allScenarios, List.map_append, List.map_map]
    rfl
  have hcount : (allScenarios plan seed).length ≤ 38 := by
    have hspendingCount : (spendingScenarios plan seed).length ≤ 14 :=
      hspending.length_eq.trans_le (length_sweepValues_le .spending plan)
    have hretirementCount : (retirementAgeScenarios plan seed).length ≤ 9 :=
      hretirement.length_eq.trans_le (length_sweepValues_le .retirementAge plan)
    have hrothCount : (rothConversionScenarios plan seed).length ≤ 7 :=
      hroth.length_eq.trans_le (length_sweepValues_le .rothConversion plan)
    have hssCount : (ssScenarios plan seed).length ≤ 8 := hss.length_eq.trans_le hages
    simp only [allScenarios, List.length_append, List.length_map]
    omega
  refine ⟨?_, ?_, hcount.trans (by decide), ?_⟩
  · -- Ids of one lever differ in their levels, ids of two in their first letters.
    rw [hids, List.nodup_append', List.nodup_append', List.nodup_append',
      List.disjoint_append_left, List.disjoint_append_left, List.disjoint_append_left]
    exact ⟨⟨⟨hss.nodup, hspending.nodup, hss.disjoint hspending (by decide)⟩, hretirement.nodup,
        hss.disjoint hretirement (by decide), hspending.disjoint hretirement (by decide)⟩,
      hroth.nodup,
      ⟨hss.disjoint hroth (by decide), hspending.disjoint hroth (by decide)⟩,
      hretirement.disjoint hroth (by decide)⟩
  · intro scenario hmem
    have hid := List.mem_map_of_mem (f := (·.id)) hmem
    rw [hids, List.mem_append, List.mem_append, List.mem_append] at hid
    rcases hid with ((hid | hid) | hid) | hid
    · exact hss.id_length_le hid
    · exact hspending.id_length_le hid
    · exact hretirement.id_length_le hid
    · exact hroth.id_length_le hid
  · have hpaths : (allScenarios plan seed).map (·.paths)
        = List.replicate (allScenarios plan seed).length sweepPaths := by
      rw [← List.map_const']
      exact List.map_congr_left fun scenario hmem => (allScenarios_shared hmem).1
    rw [hpaths, List.sum_replicate, smul_eq_mul]
    simp only [sweepPaths, Engine.maxBatchPaths]
    omega

/-! ## What a scenario answers -/

section Running

variable (log : NaturalLog K) (source : RandomSource K)

/-- The success rate of a full run of a scenario's own plan. -/
def SuccessRate (plan : RetirementPlan K) (scenario : Scenario K) (rate : K) : Prop :=
  ∃ run, runSimulation log source (toSimulationPlan scenario.plan)
      (scenarioConfig plan scenario.paths scenario.seed) = .ok run ∧
    run.successProbability = rate

/-- Each scenario's success rate, under its id. -/
def OwnSummaries (plan : RetirementPlan K) (scenarios : List (Scenario K))
    (summaries : Summaries K) : Prop :=
  List.Forall₂ (fun scenario entry => entry.1 = scenario.id ∧
    SuccessRate log source plan scenario entry.2) scenarios summaries

variable (plan : RetirementPlan K)

/-- The batch a list of scenarios stands for. -/
def batchOf (scenarios : List (Scenario K)) : List (BatchSimulationRequest K) :=
  scenarios.map fun scenario =>
    ⟨⟨toSimulationPlan scenario.plan, scenarioConfig plan scenario.paths scenario.seed⟩,
      scenario.id⟩

omit [IsStrictOrderedRing K] in
/-- Headline counts, divided by the paths, are success rates. -/
theorem ownSummaries_of_counts {scenarios : List (Scenario K)} {divisor : Scenario K → ℕ}
    (hdivisor : ∀ scenario ∈ scenarios, divisor scenario = scenario.paths) {counts : List ℕ}
    (h : List.Forall₂ (HeadlineCount log source) (batchOf plan scenarios) counts) :
    OwnSummaries log source plan scenarios
      (List.zipWith
        (fun scenario (count : ℕ) => (scenario.id, (count : K) / (divisor scenario : K)))
        scenarios counts) := by
  induction scenarios generalizing counts with
  | nil => exact .nil
  | cons scenario scenarios ih =>
    obtain ⟨hfirst, hrest⟩ := List.forall_mem_cons.mp hdivisor
    cases h with
    | cons hcount hcounts =>
      obtain ⟨result, hresult, hrate⟩ := hcount.result
      refine .cons ⟨rfl, result, hresult, ?_⟩ (ih hrest hcounts)
      simp only [hfirst]
      exact hrate

variable {scenarios : List (Scenario K)} {paths : ℕ} {seed : ℤ}
  (hshared : ∀ scenario ∈ scenarios, scenario.paths = paths ∧ scenario.seed = seed)
  (hpos : 1 ≤ paths)

include hshared in
omit [IsStrictOrderedRing K] [LinearOrder K] [FloorRing K] in
theorem batchOf_config : ∀ simulation ∈ batchOf plan scenarios,
    simulation.config = scenarioConfig plan paths seed := by
  intro simulation hmem
  obtain ⟨scenario, hscenario, rfl⟩ := List.mem_map.mp hmem
  obtain ⟨hpaths, hseed⟩ := hshared scenario hscenario
  subst hpaths hseed
  rfl

include hshared hpos in
/-- The counts of a batch's paths are the headlines of its scenarios. -/
theorem batchOf_headlines {prepared : List (Engine.PreparedPlan K)}
    (hprepared : prepareAll (batchOf plan scenarios) = .ok prepared) :
    List.Forall₂ (HeadlineCount log source) (batchOf plan scenarios)
      (scenarioCounts log source (prepared.zip (batchOf plan scenarios)) (List.range paths)) := by
  refine forall₂_headlineCount log source (by omega) (fun simulation hmem => ?_)
    (prepareAll_ok hprepared)
  exact congrArg (·.paths) (batchOf_config plan hshared simulation hmem)

/-! ## The native service -/

include hshared hpos in
theorem runOnServer_own {call : ServerCall} {summaries : Summaries K}
    (h : runOnServer log source scenarios plan call = .ok summaries) :
    OwnSummaries log source plan scenarios summaries := by
  cases call with
  | unanswered => cases h
  | answered split =>
    simp only [runOnServer, bind_ok, mapError_ok] at h
    obtain ⟨total, -, results, hrun, heq⟩ := h
    cases heq
    change runSweep log source (batchOf plan scenarios) split = .ok results at hrun
    rw [runSweep] at hrun
    split at hrun
    · rename_i hempty
      cases hrun
      rw [batchOf, List.isEmpty_map, List.isEmpty_iff] at hempty
      subst hempty
      exact .nil
    · rename_i hne
      rw [List.isEmpty_iff] at hne
      simp only [bind_ok, sweepCounts_eq log source hne (batchOf_config plan hshared), map_ok]
        at hrun
      obtain ⟨counts, ⟨prepared, hprepared, rfl⟩, heq⟩ := hrun
      cases heq
      have hheadlines := batchOf_headlines log source plan hshared hpos hprepared
      have hown := ownSummaries_of_counts log source plan
        (fun scenario (_ : scenario ∈ scenarios) => (rfl : scenario.paths = scenario.paths))
        hheadlines
      rw [summaryEntries, sweepSummaries, List.map_zipWith, batchOf, List.zipWith_map_left]
      exact hown

/-! ## The browser's engine -/

section Workers

variable {workers : List (WorkerSweepScenario K)} {config : MCConfig}

/-- The batch a worker is sent. -/
def workerBatch (config : MCConfig) (workers : List (WorkerSweepScenario K)) :
    List (BatchSimulationRequest K) :=
  workers.map fun scenario => ⟨⟨scenario.plan, config⟩, scenario.id⟩

omit [Field K] [LinearOrder K] [FloorRing K] [IsStrictOrderedRing K] in
theorem readCounts_eq {results : List (String × ℕ)} {counts : List ℕ}
    (h : List.Forall₂ (fun scenario count => mapGet results scenario.id = some count)
      workers counts) :
    readCounts results workers = .ok counts := by
  induction h with
  | nil => rfl
  | cons hfirst _ ih =>
    rw [readCounts, hfirst, ih]
    rfl

variable (hne : workers ≠ []) (hnodup : (workers.map (·.id)).Nodup)

include hne hnodup in
omit [IsStrictOrderedRing K] in
/-- A worker reads back the counts of its shard. -/
theorem runSweepShard_ok {startPath endPath : ℕ} {counts : List ℕ} (hrange : startPath < endPath)
    (hpaths : endPath ≤ config.paths)
    (h : runSweepShard log source workers config startPath endPath = .ok counts) :
    countSweepShardSequential log source (workerBatch config workers) startPath endPath
      = .ok counts := by
  simp only [runSweepShard, runRustSweepShard, bind_ok, mapError_ok] at h
  obtain ⟨results, ⟨total, -, counted, hcounted, heq⟩, hread⟩ := h
  cases heq
  change countSweepShardSequential log source (workerBatch config workers) startPath endPath
    = .ok counted at hcounted
  have hlength : workers.length = counted.length := by
    have hbatch : workerBatch config workers ≠ [] := by simpa [workerBatch] using hne
    rw [countSweepShardSequential_eq log source hbatch hrange (fun simulation hmem => by
      obtain ⟨scenario, -, rfl⟩ := List.mem_map.mp hmem
      exact hpaths), map_ok] at hcounted
    obtain ⟨prepared, hprepared, rfl⟩ := hcounted
    rw [scenarioCounts, Tally.length_tally, List.length_zip,
      (prepareAll_ok hprepared).length_eq.symm, Nat.min_self, workerBatch, List.length_map]
  rw [List.zipWith_map_left, readCounts_eq (forall₂_mapGet hlength hnodup)] at hread
  cases hread
  exact hcounted

include hne hnodup in
omit [IsStrictOrderedRing K] in
theorem runWorkers_ok {shards : List (ℕ × ℕ)} {shardCounts : List (List ℕ)}
    (hshards : ∀ shard ∈ shards, shard.1 < shard.2 ∧ shard.2 ≤ config.paths)
    (h : runWorkers log source workers config shards = .ok shardCounts) :
    countShards log source (workerBatch config workers) shards = .ok shardCounts := by
  induction shards generalizing shardCounts with
  | nil =>
    cases h
    rfl
  | cons shard shards ih =>
    obtain ⟨⟨hrange, hpaths⟩, hrest⟩ := List.forall_mem_cons.mp hshards
    simp only [runWorkers, bind_ok] at h
    obtain ⟨counts, hcounts, rest, hworkers, heq⟩ := h
    cases heq
    simp only [countShards, bind_ok]
    exact ⟨counts, runSweepShard_ok log source hne hnodup hrange hpaths hcounts, rest,
      ih hrest hworkers, rfl⟩

include hne hnodup in
omit [IsStrictOrderedRing K] in
/-- However many workers a browser has, they count every path of the batch once. -/
theorem runMonteCarloSummaries_ok {hardwareConcurrency : Option K}
    {responses : List (Engine.BatchSimulationSummaryResponse K)} (hpos : 1 ≤ config.paths)
    (hsafe : config.paths ≤ maxSafeInteger)
    (h : runMonteCarloSummaries log source hardwareConcurrency workers config = .ok responses) :
    ∃ prepared, prepareAll (workerBatch config workers) = .ok prepared ∧
      responses = List.zipWith (fun scenario (count : ℕ) =>
          { id := scenario.id, successProbability := (count : K) / (config.paths : K) }) workers
        (scenarioCounts log source (prepared.zip (workerBatch config workers))
          (List.range config.paths)) := by
  obtain ⟨shards, hshards, hof⟩ := sweepPathShards_eq hpos hsafe hardwareConcurrency
  have hbatch : workerBatch config workers ≠ [] := by simpa [workerBatch] using hne
  have hpaths : ∀ simulation ∈ workerBatch config workers,
      simulation.config.paths = config.paths := by
    intro simulation hmem
    obtain ⟨scenario, -, rfl⟩ := List.mem_map.mp hmem
    rfl
  rw [runMonteCarloSummaries, List.isEmpty_eq_false_iff.mpr hne, if_neg Bool.false_ne_true,
    hshards] at h
  simp only [bind_ok] at h
  obtain ⟨shardCounts, hworkers, heq⟩ := h
  cases heq
  have hcounted := runWorkers_ok log source hne hnodup
    (fun shard hmem => (hof.tiles.mem_bounds hmem).2) hworkers
  have hsum := shardedCounts_eq log source hbatch hpaths hpos hof.tiles
  rw [shardedCounts, hcounted] at hsum
  obtain ⟨prepared, hprepared, hcounts⟩ := map_ok.mp hsum.symm
  refine ⟨prepared, hprepared, ?_⟩
  rw [hcounts, workerBatch, List.length_map]

end Workers

variable (hnodup : (scenarios.map (·.id)).Nodup) (hsafe : paths ≤ maxSafeInteger)
  {hardwareConcurrency : Option K}

include hshared hpos hnodup hsafe in
theorem runMonteCarloSummaries_own (hne : scenarios ≠ [])
    {responses : List (Engine.BatchSimulationSummaryResponse K)}
    (h : runMonteCarloSummaries log source hardwareConcurrency
      (scenarios.map fun scenario => ⟨scenario.id, toSimulationPlan scenario.plan⟩)
      (scenarioConfig plan paths seed) = .ok responses) :
    OwnSummaries log source plan scenarios (summaryEntries responses) := by
  have hworkers : (scenarios.map fun scenario => (⟨scenario.id,
      toSimulationPlan scenario.plan⟩ : WorkerSweepScenario K)) ≠ [] := by simpa using hne
  have hids : ((scenarios.map fun scenario => (⟨scenario.id,
      toSimulationPlan scenario.plan⟩ : WorkerSweepScenario K)).map (·.id)).Nodup := by
    rw [List.map_map]
    exact hnodup
  have hbatch : workerBatch (scenarioConfig plan paths seed)
      (scenarios.map fun scenario => ⟨scenario.id, toSimulationPlan scenario.plan⟩)
      = batchOf plan scenarios := by
    rw [workerBatch, List.map_map]
    refine List.map_congr_left fun scenario hmem => ?_
    obtain ⟨hpaths, hseed⟩ := hshared scenario hmem
    subst hpaths hseed
    rfl
  obtain ⟨prepared, hprepared, rfl⟩ := runMonteCarloSummaries_ok log source hworkers hids
    hpos hsafe h
  rw [hbatch] at hprepared ⊢
  have hown := ownSummaries_of_counts log source plan
    (fun scenario hmem => (hshared scenario hmem).1.symm)
    (batchOf_headlines log source plan hshared hpos hprepared)
  rw [summaryEntries, List.map_zipWith, List.zipWith_map_left]
  exact hown

include hshared hpos hnodup hsafe in
/-- The browser's engine takes its configuration from the first scenario's plan. -/
theorem runOnClient_own {summaries : Summaries K}
    (hmodel : ∀ scenario ∈ scenarios,
      historicalBootstrapFor scenario.plan = historicalBootstrapFor plan)
    (h : runOnClient log source scenarios hardwareConcurrency = .ok summaries) :
    OwnSummaries log source plan scenarios summaries := by
  cases scenarios with
  | nil =>
    cases h
    exact .nil
  | cons first rest =>
    obtain ⟨hpaths, hseed⟩ := hshared first List.mem_cons_self
    have hconfig : scenarioConfig first.plan first.paths first.seed
        = scenarioConfig plan paths seed := by
      simp only [scenarioConfig, hmodel first List.mem_cons_self, hpaths, hseed]
    rw [runOnClient] at h
    split at h
    · cases h
    · simp only [bind_ok, hconfig] at h
      obtain ⟨responses, hrun, heq⟩ := h
      cases heq
      exact runMonteCarloSummaries_own log source plan hshared hpos hnodup hsafe
        (List.cons_ne_nil _ _) hrun

include hshared hpos hnodup hsafe in
/-- Whichever adapter answers a batch, each scenario gets its own success rate. -/
theorem runDistinctScenarios_own {summaries : Summaries K} {server : Option ServerCall}
    (hmodel : ∀ scenario ∈ scenarios,
      historicalBootstrapFor scenario.plan = historicalBootstrapFor plan)
    (h : runDistinctScenarios log source scenarios plan server hardwareConcurrency
      = .ok summaries) :
    OwnSummaries log source plan scenarios summaries := by
  cases server with
  | none => exact runOnClient_own log source plan hshared hpos hnodup hsafe hmodel h
  | some call =>
    rw [runDistinctScenarios] at h
    cases hserver : runOnServer log source scenarios plan call with
    | ok answered =>
      simp only [hserver] at h
      cases h
      exact runOnServer_own log source plan hshared hpos hserver
    | error message =>
      simp only [hserver] at h
      exact runOnClient_own log source plan hshared hpos hnodup hsafe hmodel h

/-! ## Merged scenarios -/

/-- Plans of one key are one plan to the engine. -/
theorem toSimulationPlan_of_json {plan plan' : RetirementPlan K} (h : StoredPlan plan)
    (h' : StoredPlan plan')
    (heq : simulationPlanJson (buildSimulationPlan plan)
      = simulationPlanJson (buildSimulationPlan plan')) :
    toSimulationPlan plan = toSimulationPlan plan' := by
  have hversion : (0 : ℤ) ≤ 8 ∧ (8 : ℤ) ≤ 8 := by decide
  have hread := deserializePlan_json hversion h.profile h.socialSecurity h.assumptions
  have hread' := deserializePlan_json hversion h'.profile h'.socialSecurity h'.assumptions
  rw [heq, hread'] at hread
  have hengine : (buildSimulationPlan plan').engine = (buildSimulationPlan plan).engine :=
    Except.ok.inj hread
  rw [← engine_buildSimulationPlan, ← engine_buildSimulationPlan, hengine]

/-- Scenarios merged into one have one success rate. -/
theorem successRate_of_key {scenario scenario' : Scenario K} (h : StoredPlan scenario.plan)
    (h' : StoredPlan scenario'.plan) (hkey : scenario'.key = scenario.key) {rate : K}
    (hrate : SuccessRate log source plan scenario rate) :
    SuccessRate log source plan scenario' rate := by
  simp only [Scenario.key, Json.arr.injEq, List.cons.injEq, Json.num.injEq, Nat.cast_inj,
    Int.cast_inj, and_true] at hkey
  obtain ⟨hplan, hpaths, hseed⟩ := hkey
  obtain ⟨run, hrun, hsuccess⟩ := hrate
  refine ⟨run, ?_, hsuccess⟩
  rw [toSimulationPlan_of_json h' h hplan, hpaths, hseed]
  exact hrun

omit [Field K] [LinearOrder K] [FloorRing K] [IsStrictOrderedRing K] in
/-- Each scenario of a group is given what holds of all of it. -/
theorem copyAnswers_ok {holds : Scenario K → K → Prop} {computed results : Summaries K}
    {groups : List (List (Scenario K))}
    (hgroups : ∀ group ∈ groups, ∀ first rest, group = first :: rest →
      ∃ value, mapGet computed first.id = some value ∧ ∀ scenario ∈ group, holds scenario value)
    (h : copyAnswers computed groups = .ok results) :
    List.Forall₂ (fun scenario entry => entry.1 = scenario.id ∧ holds scenario entry.2)
      groups.flatten results := by
  induction groups generalizing results with
  | nil =>
    cases h
    exact .nil
  | cons group groups ih =>
    obtain ⟨hgroup, hrest⟩ := List.forall_mem_cons.mp hgroups
    cases group with
    | nil => exact ih hrest h
    | cons first rest =>
      obtain ⟨value, hvalue, hholds⟩ := hgroup first rest rfl
      simp only [copyAnswers, hvalue, bind_ok] at h
      obtain ⟨copied, hcopied, heq⟩ := h
      cases heq
      have hfirst : List.Forall₂ (fun scenario entry => entry.1 = scenario.id ∧
          holds scenario entry.2) (first :: rest)
          ((first :: rest).map fun scenario => (scenario.id, value)) := by
        rw [List.forall₂_map_right_iff, List.forall₂_same]
        exact fun scenario hmem => ⟨rfl, hholds scenario hmem⟩
      exact List.rel_append hfirst (ih hrest hcopied)

/-- The scenarios that are sent: the first of each group. -/
def sentScenarios (scenarios : List (Scenario K)) : List (Scenario K) :=
  (distinctScenarios scenarios).filterMap (·.head?)

omit [IsStrictOrderedRing K] [FloorRing K] in
theorem distinctScenarios_perm : (distinctScenarios scenarios).flatten.Perm scenarios :=
  group_perm _ _

omit [IsStrictOrderedRing K] [FloorRing K] in
theorem mem_of_sent {scenario : Scenario K} (h : scenario ∈ sentScenarios scenarios) :
    scenario ∈ scenarios :=
  distinctScenarios_perm.mem_iff.mp ((heads_sublist _).mem h)

omit [IsStrictOrderedRing K] [FloorRing K] in
include hnodup in
theorem sent_nodup : ((sentScenarios scenarios).map (·.id)).Nodup :=
  ((distinctScenarios_perm.map (·.id)).nodup_iff.mpr hnodup).sublist ((heads_sublist _).map _)

variable (hstored : ∀ scenario ∈ scenarios, StoredPlan scenario.plan)

include hnodup hstored in
/-- The answer to a group's first scenario is that of each scenario of the group. -/
theorem groups_answered {computed : Summaries K}
    (hown : OwnSummaries log source plan (sentScenarios scenarios) computed) :
    ∀ group ∈ distinctScenarios scenarios, ∀ first rest, group = first :: rest →
      ∃ value, mapGet computed first.id = some value ∧
        ∀ scenario ∈ group, SuccessRate log source plan scenario value := by
  intro group hgroup first rest hcons
  have hfirst : first ∈ sentScenarios scenarios :=
    List.mem_filterMap.mpr ⟨group, hgroup, by rw [hcons]; rfl⟩
  obtain ⟨rate, hrate, hsuccess⟩ := mapGet_of_forall₂ hown (sent_nodup hnodup) first hfirst
  refine ⟨rate, hrate, fun scenario hscenario => ?_⟩
  obtain ⟨first', rest', hcons', hsame⟩ := group_uniform _ _ group hgroup
  cases hcons.symm.trans hcons'
  have hmem : scenario ∈ scenarios :=
    distinctScenarios_perm.mem_iff.mp (List.mem_flatten.mpr ⟨group, hgroup, hscenario⟩)
  exact successRate_of_key log source plan (hstored first (mem_of_sent hfirst))
    (hstored scenario hmem) (hsame scenario hscenario) hsuccess

include hshared hpos hnodup hsafe hstored in
/-- Whatever is merged on the way, each id is answered with its own success rate. -/
theorem runScenarios_own {results : Summaries K} {server : Option ServerCall}
    (hmodel : ∀ scenario ∈ scenarios,
      historicalBootstrapFor scenario.plan = historicalBootstrapFor plan)
    (h : runScenarios log source scenarios plan server hardwareConcurrency = .ok results) :
    ∀ scenario ∈ scenarios, ∃ rate, mapGet results scenario.id = some rate ∧
      SuccessRate log source plan scenario rate := by
  simp only [runScenarios, bind_ok] at h
  obtain ⟨computed, hcomputed, hcopied⟩ := h
  have hown := runDistinctScenarios_own log source plan
    (fun scenario hmem => hshared scenario (mem_of_sent hmem)) hpos (sent_nodup hnodup) hsafe
    (fun scenario hmem => hmodel scenario (mem_of_sent hmem)) hcomputed
  have hcopies := copyAnswers_ok (groups_answered log source plan hnodup hstored hown) hcopied
  have hflatten : ((distinctScenarios scenarios).flatten.map (·.id)).Nodup :=
    (distinctScenarios_perm.map (·.id)).nodup_iff.mpr hnodup
  intro scenario hmem
  exact mapGet_of_forall₂ hcopies hflatten scenario (distinctScenarios_perm.mem_iff.mpr hmem)

/-! ## Curves -/

/-- Each point of a curve has its own value and its own success rate. -/
def OwnRates (entries : List (K × Scenario K)) (points : List (K × K)) : Prop :=
  List.Forall₂ (fun entry point => point.1 = entry.1 ∧
    SuccessRate log source plan entry.2 point.2) entries points

omit [IsStrictOrderedRing K] in
theorem curvePoints_own {what : String} {results : Summaries K}
    {entries : List (K × Scenario K)} {points : List (K × K)}
    (hresults : ∀ entry ∈ entries, ∃ rate, mapGet results entry.2.id = some rate ∧
      SuccessRate log source plan entry.2 rate)
    (h : curvePoints what results entries = .ok points) :
    OwnRates log source plan entries points := by
  induction entries generalizing points with
  | nil =>
    cases h
    exact .nil
  | cons entry entries ih =>
    obtain ⟨⟨rate, hrate, hown⟩, hrest⟩ := List.forall_mem_cons.mp hresults
    simp only [curvePoints, hrate, bind_ok] at h
    obtain ⟨rest, hpoints, heq⟩ := h
    cases heq
    exact .cons ⟨rfl, hown⟩ (ih hrest hpoints)

omit [IsStrictOrderedRing K] in
theorem Swept.historicalBootstrapFor_eq {swept : RetirementPlan K} (h : Swept plan swept) :
    historicalBootstrapFor swept = historicalBootstrapFor plan := by
  cases h <;> rfl

/-- The four curves of a plan, each point with its own rate. -/
structure OwnCurves (curves : SensitivityAnalysisResults K) : Prop where
  socialSecurity : OwnRates log source plan (ssScenarios plan (baseSeed plan))
    curves.socialSecurity
  spending : OwnRates log source plan (spendingScenarios plan (baseSeed plan)) curves.spending
  retirementAge : OwnRates log source plan (retirementAgeScenarios plan (baseSeed plan))
    curves.retirementAge
  rothConversion : OwnRates log source plan (rothConversionScenarios plan (baseSeed plan))
    curves.rothConversion

/-- The scenarios of each lever. -/
def leverScenarios (plan : RetirementPlan K) (seed : ℤ) : List (List (K × Scenario K)) :=
  [ssScenarios plan seed, spendingScenarios plan seed, retirementAgeScenarios plan seed,
    rothConversionScenarios plan seed]

omit [IsStrictOrderedRing K] in
theorem allScenarios_eq (plan : RetirementPlan K) (seed : ℤ) :
    allScenarios plan seed = (leverScenarios plan seed).flatten.map (·.2) := by
  simp [allScenarios, leverScenarios]

/-- The results of a stored plan hold each lever's own rates. -/
theorem results_own {plan : RetirementPlan K} (h : StoredPlan plan) {results : Summaries K}
    {server : Option ServerCall} {hardwareConcurrency : Option K}
    (hresults : runScenarios log source (allScenarios plan (baseSeed plan)) plan server
      hardwareConcurrency = .ok results) :
    ∀ entries ∈ leverScenarios plan (baseSeed plan), ∀ entry ∈ entries, ∃ rate,
      mapGet results entry.2.id = some rate ∧ SuccessRate log source plan entry.2 rate := by
  intro entries hentries entry hmem
  refine runScenarios_own log source plan (fun scenario hmem => allScenarios_shared hmem)
    (by decide) (withinContract h (baseSeed plan)).ids_nodup (by decide)
    (fun scenario hmem => (swept_of_mem h hmem).stored h)
    (fun scenario hmem => (swept_of_mem h hmem).historicalBootstrapFor_eq plan) hresults _ ?_
  rw [allScenarios_eq]
  exact List.mem_map_of_mem (List.mem_flatten_of_mem hentries hmem)

/-- A stored plan's scenarios fit one batch, and whichever adapter answers it, each point
of each curve returned has the success rate of its own plan. -/
theorem sensitivityCurves_own {value : Option (Json K)} {plan : RetirementPlan K}
    (hstored : retirementPlanSchema value = .ok plan) :
    WithinContract (allScenarios plan (baseSeed plan)) ∧
      ∀ (server : Option ServerCall) (hardwareConcurrency : Option K)
        (curves : SensitivityAnalysisResults K),
        runSensitivityAnalyses log source plan server hardwareConcurrency = .ok curves →
          OwnCurves log source plan curves := by
  have h := retirementPlanSchema_stored hstored
  refine ⟨withinContract h (baseSeed plan), fun server hardwareConcurrency curves hcurves => ?_⟩
  simp only [runSensitivityAnalyses, bind_ok] at hcurves
  obtain ⟨results, hresults, ss, hss, spending, hspending, retirement, hretirement, roth, hroth,
    heq⟩ := hcurves
  cases heq
  have hlever := results_own log source h hresults
  exact ⟨curvePoints_own log source plan (hlever _ (.head _)) hss,
    curvePoints_own log source plan (hlever _ (.tail _ (.head _))) hspending,
    curvePoints_own log source plan (hlever _ (.tail _ (.tail _ (.head _)))) hretirement,
    curvePoints_own log source plan (hlever _ (.tail _ (.tail _ (.tail _ (.head _))))) hroth⟩

/-! ## Curves that are returned -/

omit [Field K] [LinearOrder K] [FloorRing K] [IsStrictOrderedRing K] in
theorem exists_copyAnswers {computed : Summaries K} {groups : List (List (Scenario K))}
    (h : ∀ group ∈ groups, ∀ first rest, group = first :: rest →
      ∃ value, mapGet computed first.id = some value) :
    ∃ results, copyAnswers computed groups = .ok results := by
  induction groups with
  | nil => exact ⟨[], rfl⟩
  | cons group groups ih =>
    obtain ⟨hgroup, hrest⟩ := List.forall_mem_cons.mp h
    obtain ⟨results, hresults⟩ := ih hrest
    cases group with
    | nil => exact ⟨results, hresults⟩
    | cons first rest =>
      obtain ⟨value, hvalue⟩ := hgroup first rest rfl
      simp only [copyAnswers, hvalue, hresults]
      exact ⟨_, rfl⟩

omit [IsStrictOrderedRing K] in
theorem exists_curvePoints {what : String} {results : Summaries K}
    {entries : List (K × Scenario K)}
    (h : ∀ entry ∈ entries, ∃ rate, mapGet results entry.2.id = some rate) :
    ∃ points, curvePoints what results entries = .ok points := by
  induction entries with
  | nil => exact ⟨[], rfl⟩
  | cons entry entries ih =>
    obtain ⟨⟨rate, hrate⟩, hrest⟩ := List.forall_mem_cons.mp h
    obtain ⟨points, hpoints⟩ := ih hrest
    simp only [curvePoints, hrate, hpoints]
    exact ⟨_, rfl⟩

/-- The service runs a batch within its limits whose simulations are all valid. -/
theorem exists_runOnServer (split : WorkSplit) (hne : scenarios ≠ [])
    (hcount : scenarios.length ≤ Engine.maxBatchSimulations)
    (hpaths : (scenarios.map (·.paths)).sum ≤ Engine.maxBatchPaths)
    (hvalid : ∀ simulation ∈ batchOf plan scenarios, Engine.ValidSimulation simulation) :
    ∃ summaries, runOnServer log source scenarios plan (.answered split) = .ok summaries := by
  have hbatch : batchOf plan scenarios ≠ [] := by simpa [batchOf] using hne
  obtain ⟨total, htotal⟩ := (Engine.validateBatchSimulations_ok hbatch
    (by simpa [batchOf] using hcount)
    (by simpa [batchOf, scenarioConfig, Function.comp_def] using hpaths)).mpr hvalid
  obtain ⟨results, hresults, -⟩ := Engine.exists_runSweep log source hbatch hvalid split
  refine ⟨summaryEntries results, ?_⟩
  change (do
    let _ ← validateBatchSimulations (batchOf plan scenarios)
    let results ← (runSweep log source (batchOf plan scenarios) split).mapError
      Engine.EngineError.message
    .ok (summaryEntries results)) = Except.ok (summaryEntries results)
  rw [htotal, hresults]
  rfl

include hshared hpos hnodup hsafe hstored in
theorem exists_runScenarios {split : WorkSplit}
    (hmodel : ∀ scenario ∈ scenarios,
      historicalBootstrapFor scenario.plan = historicalBootstrapFor plan)
    (hcount : scenarios.length ≤ Engine.maxBatchSimulations)
    (hpaths : (scenarios.map (·.paths)).sum ≤ Engine.maxBatchPaths)
    (hvalid : ∀ simulation ∈ batchOf plan scenarios, Engine.ValidSimulation simulation) :
    ∃ results, runScenarios log source scenarios plan (some (.answered split)) hardwareConcurrency
      = .ok results := by
  have hsent : (sentScenarios scenarios).Sublist (distinctScenarios scenarios).flatten :=
    heads_sublist _
  obtain ⟨computed, hcomputed⟩ : ∃ computed, runDistinctScenarios log source
      (sentScenarios scenarios) plan (some (.answered split)) hardwareConcurrency
        = .ok computed := by
    by_cases hne : sentScenarios scenarios = []
    · rw [hne]
      exact ⟨[], rfl⟩
    · obtain ⟨summaries, hsummaries⟩ := exists_runOnServer log source plan split hne
        (hsent.length_le.trans (distinctScenarios_perm.length_eq.trans_le hcount))
        (((hsent.map (·.paths)).sum_le_sum fun _ _ => Nat.zero_le _).trans
          ((distinctScenarios_perm.map (·.paths)).sum_eq.trans_le hpaths))
        fun simulation hmem => hvalid simulation (List.map_subset _ (fun _ => mem_of_sent) hmem)
      rw [runDistinctScenarios, hsummaries]
      exact ⟨summaries, rfl⟩
  have hown := runDistinctScenarios_own log source plan
    (fun scenario hmem => hshared scenario (mem_of_sent hmem)) hpos (sent_nodup hnodup) hsafe
    (fun scenario hmem => hmodel scenario (mem_of_sent hmem)) hcomputed
  obtain ⟨results, hresults⟩ := exists_copyAnswers fun group hgroup first rest hcons => by
    obtain ⟨value, hvalue, -⟩ :=
      groups_answered log source plan hnodup hstored hown group hgroup first rest hcons
    exact ⟨value, hvalue⟩
  refine ⟨results, ?_⟩
  simp only [runScenarios, bind_ok]
  exact ⟨computed, hcomputed, hresults⟩

/-- A stored plan whose scenarios are all valid is given its curves by the native service. -/
theorem exists_curves (h : StoredPlan plan) (split : WorkSplit) (hardwareConcurrency : Option K)
    (hvalid : ∀ simulation ∈ batchOf plan (allScenarios plan (baseSeed plan)),
      Engine.ValidSimulation simulation) :
    ∃ curves, runSensitivityAnalyses log source plan (some (.answered split)) hardwareConcurrency
      = .ok curves := by
  have hcontract := withinContract h (baseSeed plan)
  obtain ⟨results, hresults⟩ : ∃ results, runScenarios log source (allScenarios plan
      (baseSeed plan)) plan (some (.answered split)) hardwareConcurrency = .ok results :=
    exists_runScenarios log source plan (fun scenario hmem => allScenarios_shared hmem)
      (by decide) hcontract.ids_nodup (by decide)
      (fun scenario hmem => (swept_of_mem h hmem).stored h)
      (fun scenario hmem => (swept_of_mem h hmem).historicalBootstrapFor_eq plan)
      hcontract.count_le hcontract.paths_le hvalid
  have hpoints : ∀ what, ∀ entries ∈ leverScenarios plan (baseSeed plan),
      ∃ points, curvePoints what results entries = .ok points := by
    intro what entries hentries
    refine exists_curvePoints fun entry hmem => ?_
    obtain ⟨rate, hrate, -⟩ := results_own log source h hresults entries hentries entry hmem
    exact ⟨rate, hrate⟩
  obtain ⟨ss, hss⟩ := hpoints "SS age" _ (.head _)
  obtain ⟨spending, hspending⟩ := hpoints "spending level" _ (.tail _ (.head _))
  obtain ⟨retirement, hretirement⟩ := hpoints "retirement age" _ (.tail _ (.tail _ (.head _)))
  obtain ⟨roth, hroth⟩ := hpoints "conversion step" _ (.tail _ (.tail _ (.tail _ (.head _))))
  refine ⟨⟨ss, spending, retirement, roth⟩, ?_⟩
  simp only [runSensitivityAnalyses, bind_ok]
  exact ⟨results, hresults, ss, hss, spending, hspending, retirement, hretirement, roth, hroth, rfl⟩

/-- The native service runs the batch of a modest household, in two parts. -/
theorem sensitivityCurves_own_modest :
    WithinContract (allScenarios (householdSpending 30000 1) 42) ∧
      ∃ curves, runSensitivityAnalyses Engine.NaturalLog.flat Engine.countingSource
          (householdSpending 30000 1) (some (.answered (.cut 400 .fold .fold))) none = .ok curves ∧
        OwnCurves Engine.NaturalLog.flat Engine.countingSource (householdSpending 30000 1)
          curves := by
  have hvalid : ∀ simulation ∈ batchOf (householdSpending 30000 1)
      (allScenarios (householdSpending 30000 1) 42), Engine.ValidSimulation simulation := by
    have hchecked : ∀ scenario ∈ allScenarios (householdSpending 30000 1) 42,
        (scenario.id.utf8ByteSize ≠ 0 ∧ scenario.id.utf8ByteSize ≤ 64) ∧
          Engine.validateConfig scenario.paths monteCarloBlockSize = .ok () ∧
          Engine.validatePlan (toSimulationPlan scenario.plan) = .ok () := by decide +kernel
    refine List.forall_mem_map.mpr fun scenario hmem => ?_
    obtain ⟨hid, hconfig, hplan⟩ := hchecked scenario hmem
    exact ⟨hid, hconfig, hplan⟩
  obtain ⟨hcontract, hown⟩ := sensitivityCurves_own Engine.NaturalLog.flat Engine.countingSource
    modestHousehold_stored
  obtain ⟨curves, hcurves⟩ := exists_curves Engine.NaturalLog.flat Engine.countingSource _
    (retirementPlanSchema_stored modestHousehold_stored) _ none hvalid
  exact ⟨hcontract, curves, hcurves, hown _ _ _ hcurves⟩

end Running

end RetirementPlanner.Web
