import RetirementPlanner.Engine.ParametricReturns
import RetirementPlanner.Proof.Operations

/-!
# A run cannot panic

No partial operation of a run fails when the validator has accepted its plan and its
configuration (`runSimulation_safe`): the years of a path are safe in the states the path is
in (`yearOperations_safe`), and the aggregation reads the paths where they have values
(`aggregateResultsOperations_safe`).
-/

namespace RetirementPlanner.Engine

open Operations

variable {K : Type*} [Field K] [LinearOrder K] [IsStrictOrderedRing K]

/-! ## Paths -/

omit [IsStrictOrderedRing K] in
theorem rmdStartAge_of_new {plan : RetirementPlan K} {prepared : PreparedPlan K}
    (h : PreparedPlan.new plan = .ok prepared) :
    prepared.rmdStartAge = getRmdStartAge prepared.birthYear := by
  rw [PreparedPlan.new] at h
  split at h <;> cases h
  rfl

theorem start_povertyLevel_pos {plan : RetirementPlan K} {uniform : Uniform K}
    {baseYear birthYear : ℤ} {startAge : ℕ} :
    ∀ draw ∈ LongTermCareDraw.start plan uniform baseYear birthYear startAge,
      0 < draw.povertyLevel := by
  intro draw hdraw
  simp only [LongTermCareDraw.start, Option.mem_def] at hdraw
  split_ifs at hdraw <;> cases hdraw <;> exact federalPovertyLevel_pos

omit [IsStrictOrderedRing K] in
theorem observe_povertyLevel (draw : LongTermCareDraw K) (currentAge : ℕ)
    (portfolioValue annualIncome : K) :
    (draw.observe currentAge portfolioValue annualIncome).povertyLevel = draw.povertyLevel := by
  rw [LongTermCareDraw.observe]
  split <;> rfl

section Run

variable [FloorRing K] (log : NaturalLog K) {prepared : PreparedPlan K} (uniform : Uniform K)
  (returns : ℕ → K × K)

variable (prepared) in
/-- The care draw of a path keeps the poverty level it started with. -/
theorem stateAt_povertyLevel_pos (year : ℕ) :
    ∀ draw ∈ (stateAt log prepared uniform returns year).longTermCare,
      0 < draw.povertyLevel := by
  induction year with
  | zero => exact start_povertyLevel_pos
  | succ year ih =>
    intro draw hdraw
    rw [stateAt_succ] at hdraw
    obtain ⟨before, hbefore, rfl⟩ := Option.map_eq_some_iff.mp hdraw
    rw [observe_povertyLevel]
    exact ih before hbefore

omit [IsStrictOrderedRing K] [FloorRing K] in
theorem recordOperations_safe (h : Prepared prepared) (year : ℕ) {state : ProjectionState K}
    (hcare : ∀ draw ∈ state.longTermCare, 0 < draw.povertyLevel) (o : YearOutcome K) :
    Safe (recordOperations prepared year state o) := by
  refine safe_append.mpr ⟨safe_elim.mpr fun draw hdraw => safe_append.mpr ⟨?_, ?_⟩, ?_⟩
  · exact safe_ite.mpr ⟨fun _ => safe_cons.mpr ⟨h.fraction_pos.ne', safe_nil⟩, fun _ => safe_nil⟩
  · exact observeOperations_safe (hcare draw hdraw) _
  · exact safe_ite.mpr ⟨fun hcost => safe_cons.mpr ⟨hcost.ne', safe_nil⟩, fun _ => safe_nil⟩

variable (source : RandomSource K)

theorem yearOperations_safe (h : Prepared prepared)
    (hrmd : prepared.rmdStartAge = getRmdStartAge prepared.birthYear)
    {generator : MarketReturnsGenerator source} (hgenerator : generator.Valid) (year : ℕ)
    {state : ProjectionState K} (hcare : ∀ draw ∈ state.longTermCare, 0 < draw.povertyLevel) :
    Safe (yearOperations log source prepared generator year state) := by
  simp only [yearOperations, safe_append, safe_ite]
  refine ⟨⟨⟨⟨rothBasisAtStartOperations_safe _ _ _, ?_⟩, nextOperations_safe hgenerator⟩, ?_⟩,
    recordOperations_safe h year hcare _⟩
  · rw [hrmd]
    exact requiredDistributionOperations_safe _ _
  · refine ⟨fun hretired => ?_, fun _ => ?_⟩
    · exact retiredYearOperations_safe log h _ hretired state _ _
    · exact workingYearOperations_safe h _ year _ _

theorem projectScenarioOperations_safe (h : Prepared prepared)
    (hrmd : prepared.rmdStartAge = getRmdStartAge prepared.birthYear) {config : ProjectionConfig}
    (hblock : 1 ≤ config.blockSize) :
    Safe (projectScenarioOperations log source prepared config) := by
  refine safe_append.mpr ⟨safe_append.mpr ⟨createOperations_safe source _ _,
    startOperations_safe h.plan_valid _ _ _⟩, safe_flatMap.mpr fun year _ => ?_⟩
  exact yearOperations_safe log source h hrmd (generatorAt_valid source _ hblock year) year
    (stateAt_povertyLevel_pos log prepared _ _ year)

end Run

/-! ## Aggregation -/

section Aggregate

variable {summaries : List (PathSummary K)} {yearCount : ℕ}
  (hlength : ∀ summary ∈ summaries, summary.portfolioValues.length = yearCount)

include hlength in
omit [IsStrictOrderedRing K] in
theorem yearlyProjectionOperations_safe [FloorRing K] (hne : summaries.length ≠ 0)
    {yearIndex : ℕ} (hyear : yearIndex < yearCount) :
    Safe (yearlyProjectionOperations summaries yearIndex) := by
  have hvalues : (sortedPortfolioValues summaries yearIndex).length = summaries.length := by
    rw [sortedPortfolioValues, List.length_mergeSort, List.length_map]
  simp only [yearlyProjectionOperations, safe_append, safe_map]
  refine ⟨⟨fun summary hmem => ?_, safe_comparisons _⟩, fun quantile _ => ?_⟩
  · show yearIndex < summary.portfolioValues.length
    rw [hlength summary hmem]
    exact hyear
  · show percentileIndex summaries.length quantile < _
    rw [hvalues]
    exact percentileIndex_lt hne quantile

omit [Field K] [IsStrictOrderedRing K] in
/-- A rank of a cohort holds one of the run's paths. -/
theorem pathIndex_lt {centerPercentile : ℕ} {outcome : TerminalOutcome K}
    (h : outcome ∈ cohortOf summaries centerPercentile) : outcome.pathIndex < summaries.length := by
  obtain ⟨summary, hsummary, -⟩ := (terminalOutcomes_ranking summaries).wealth outcome
    (mem_of_mem_cohortOf centerPercentile h)
  exact (List.getElem?_eq_some_iff.mp hsummary).1

include hlength in
omit [IsStrictOrderedRing K] in
theorem cohortRowsOperations_safe {centerPercentile : ℕ}
    (hcohort : 0 < (cohortOf summaries centerPercentile).length) {yearIndex : ℕ}
    (hyear : yearIndex < yearCount) :
    Safe (cohortRowsOperations summaries (cohortOf summaries centerPercentile) yearIndex) := by
  simp only [cohortRowsOperations, safe_cons, safe_flatMap, safe_elim, safe_nil, and_true]
  refine ⟨hcohort, fun outcome houtcome => ⟨pathIndex_lt houtcome, fun summary hsummary => ?_⟩⟩
  show yearIndex < summary.cashFlows.length
  rw [summary.lengths_eq, hlength summary (List.mem_of_getElem? hsummary)]
  exact hyear

include hlength in
theorem outcomeBucketOperations_safe (hne : summaries ≠ []) {centerPercentile : ℕ}
    (hcenter : 5 ≤ centerPercentile) :
    Safe (outcomeBucketOperations summaries yearCount centerPercentile) := by
  have hcount : summaries.length ≠ 0 := by simpa using hne
  have hslice := cohortBounds_slice hcount centerPercentile
  have hcohort : 0 < (cohortOf summaries centerPercentile).length := by
    rw [length_cohortOf centerPercentile hne]
    exact Nat.sub_pos_of_lt hslice.1
  simp only [outcomeBucketOperations, safe_append, safe_cons, safe_nil, and_true, safe_flatMap,
    safe_map]
  refine ⟨⟨⟨⟨hcenter, Nat.one_le_iff_ne_zero.mpr hcount, hslice.1.le, ?_⟩, fun year hyear => ?_⟩,
    fun outcome houtcome => pathIndex_lt houtcome⟩, Nat.cast_ne_zero.mpr hcohort.ne'⟩
  · rw [length_terminalOutcomes]
    exact hslice.2
  · exact cohortRowsOperations_safe hlength hcohort (List.mem_range.mp hyear)

end Aggregate

section Result

variable [FloorRing K] (log : NaturalLog K) (source : RandomSource K)

theorem aggregateResultsOperations_safe {prepared : PreparedPlan K}
    (hplan : validatePlan prepared.plan = .ok ()) (h : Prepared prepared)
    (hrmd : prepared.rmdStartAge = getRmdStartAge prepared.birthYear) {config : MCConfig}
    (hblock : 1 ≤ config.blockSize) (summaries : List (PathSummary K)) :
    Safe (aggregateResultsOperations log source prepared config summaries) := by
  refine safe_ite.mpr ⟨fun _ => safe_nil, fun hempty => ?_⟩
  have hne : summaries ≠ [] := fun hnil => hempty (by rw [hnil]; rfl)
  have hcount : summaries.length ≠ 0 := by simpa using hne
  simp only [percentileIndexOperations, safe_append, safe_cons, safe_nil, and_true, safe_map]
  refine ⟨⟨⟨⟨⟨⟨Nat.one_le_iff_ne_zero.mpr hcount, Nat.cast_ne_zero.mpr hcount⟩,
    safe_comparisons _⟩, fun quantile _ => ?_⟩, newOperations_safe hplan⟩,
    projectScenarioOperations_safe log source h hrmd hblock⟩, ?_⟩
  · show percentileIndex summaries.length quantile < _
    rw [length_terminalOutcomes]
    exact percentileIndex_lt hcount quantile
  · refine safe_ite.mpr ⟨fun _ => safe_nil, fun hsame => ?_⟩
    simp only [List.any_eq_true, decide_eq_true_eq, not_exists, not_and, not_not] at hsame
    refine safe_append.mpr ⟨safe_flatMap.mpr fun year hyear => ?_,
      safe_flatMap.mpr fun center hcenter => ?_⟩
    · exact yearlyProjectionOperations_safe hsame hcount (List.mem_range.mp hyear)
    · have hcenters : ∀ center ∈ outcomeCenters, 5 ≤ center := by decide
      exact outcomeBucketOperations_safe hsame hne (hcenters center hcenter)

/-- A run of at least one path of a plan that can be prepared returns a result. -/
theorem exists_runSimulation {plan : RetirementPlan K} {prepared : PreparedPlan K}
    (hnew : PreparedPlan.new plan = .ok prepared) {config : MCConfig} (hpaths : 1 ≤ config.paths) :
    ∃ result, runSimulation log source plan config = .ok result := by
  have hne : (List.range config.paths).map (summarizePath log source prepared config) ≠ [] := by
    rw [Ne, List.map_eq_nil_iff, List.range_eq_nil]
    exact (Nat.one_le_iff_ne_zero.mp hpaths)
  have hlength : ∀ summary ∈ (List.range config.paths).map
      (summarizePath log source prepared config),
      summary.portfolioValues.length = prepared.totalYears := by
    intro summary hmem
    obtain ⟨pathIndex, -, rfl⟩ := List.mem_map.mp hmem
    exact (List.length_map _).trans (length_runSinglePath log source prepared config pathIndex)
  obtain ⟨result, hresult, -⟩ := aggregateResults_ok log source hnew config hne hlength
  refine ⟨result, ?_⟩
  rw [runSimulation, newOrError_ok hnew]
  exact hresult

/-- The engine cannot panic on a plan and a configuration that the validator accepts: the run
returns a result, and no partial operation of preparing the plan, of projecting the paths or
of aggregating them fails, nor one of deriving and drawing parametric returns. -/
theorem runSimulation_safe {plan : RetirementPlan K} (hplan : validatePlan plan = .ok ())
    {config : MCConfig} (hconfig : validateConfig config.paths config.blockSize = .ok ()) :
    (∃ result, runSimulation log source plan config = .ok result) ∧
      Safe (runSimulationOperations log source plan config) ∧
      Safe statsOperations ∧ Safe generateParametricReturnsOperations := by
  obtain ⟨prepared, hnew⟩ := exists_prepared hplan
  obtain ⟨hpaths, hblock, -⟩ := validateConfig_eq_ok.mp hconfig
  refine ⟨exists_runSimulation log source hnew hpaths.1,
    safe_append.mpr ⟨newOperations_safe hplan, ?_⟩, statsOperations_safe,
    generateParametricReturnsOperations_safe⟩
  rw [hnew]
  obtain ⟨h, rfl⟩ := prepared_of_new hplan hnew
  have hrmd := rmdStartAge_of_new hnew
  refine safe_append.mpr ⟨safe_flatMap.mpr fun pathIndex _ => ?_, ?_⟩
  · exact projectScenarioOperations_safe log source h hrmd hblock
  · exact aggregateResultsOperations_safe log source hplan h hrmd hblock _

end Result

theorem runSimulation_safe_largeBenefit :
    Safe (runSimulationOperations NaturalLog.flat countingSource largeBenefitPlan
      ⟨3, 42, true, 5⟩) :=
  (runSimulation_safe NaturalLog.flat countingSource largeBenefitPlan_valid (by decide)).2.1

end RetirementPlanner.Engine
