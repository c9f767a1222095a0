import Mathlib.Data.List.GetD
import RetirementPlanner.Engine.MonteCarlo
import RetirementPlanner.Lib.Ranges
import RetirementPlanner.Lib.Sample
import RetirementPlanner.Proof.Path

/-!
# Aggregating the paths of a run

What `aggregateResults` reports of a run's path summaries (`Faithful`): the share of
successful paths, the order statistics of each year's portfolio values, and cohorts
that are slices of the terminal-wealth ranking, averaged field by field.

* `projectScenarioInternalPrepared_true`: a recorded path is `projectScenarioPrepared`;
* `terminalOutcomes_ranking`: the ranking holds each path once, by terminal wealth;
* `cohortBounds_tiles`: from ten paths on the cohorts are consecutive;
* `meanRow_le`: a mean row keeps every linear bound of the rows it averages.
-/

namespace RetirementPlanner.Engine

open Sample Ranges

variable {K : Type*} [Field K] [LinearOrder K]

/-! ## Recorded paths -/

section Record

variable [FloorRing K] (log : NaturalLog K) (source : RandomSource K) (prepared : PreparedPlan K)

/-- A recorded path is the path of its market returns and care draw. -/
theorem projectScenarioInternalPrepared_true (config : ProjectionConfig) :
    projectScenarioInternalPrepared log source prepared config true
      = projectScenarioPrepared log prepared (careUniform source config)
        (marketReturns source prepared.plan config) := rfl

/-- Whether rows are recorded or not, the loop's variables are the same. -/
theorem foldl_stepRecording_state (returns : ℕ → K × K) (recordProjections : Bool)
    (years : List ℕ) (path path' : Path K) (h : path.state = path'.state) :
    (years.foldl (Path.stepRecording log prepared returns recordProjections) path).state
      = (years.foldl (Path.stepRecording log prepared returns true) path').state := by
  induction years generalizing path path' with
  | nil => exact h
  | cons year years ih =>
    rw [List.foldl_cons, List.foldl_cons]
    refine ih _ _ ?_
    simp only [Path.stepRecording, h]

/-- A summary-only projection reaches the verdict and the wealth of a recorded one. -/
theorem projectScenarioSummaryPrepared_eq (config : ProjectionConfig) :
    projectScenarioSummaryPrepared log source prepared config
      = ((projectScenarioInternalPrepared log source prepared config true).terminalWealth,
        (projectScenarioInternalPrepared log source prepared config true).success) := by
  simp only [projectScenarioSummaryPrepared, projectScenarioInternalPrepared,
    foldl_stepRecording_state log prepared _ false (List.range prepared.totalYears) _ _ rfl]

theorem length_runSinglePath (config : MCConfig) (pathIndex : ℕ) :
    (runSinglePath log source prepared config pathIndex).projections.length
      = prepared.totalYears := by
  rw [runSinglePath, projectScenarioInternalPrepared_true]
  simp only [projectScenarioPrepared, Path.upTo_projections, List.length_map, List.length_range]

end Record

/-! ## The ranking -/

/-- The paths of a run, each once, in the order of their terminal wealth. -/
structure IsRanking (summaries : List (PathSummary K)) (ranking : List (TerminalOutcome K)) :
    Prop where
  paths : (ranking.map (·.pathIndex)).Perm (List.range summaries.length)
  sorted : ranking.Pairwise fun a b => a.terminalWealth ≤ b.terminalWealth
  wealth : ∀ outcome ∈ ranking, ∃ summary, summaries[outcome.pathIndex]? = some summary ∧
    outcome.terminalWealth = summary.terminalWealth ∧
    outcome.afterTaxTerminalWealth = summary.afterTaxTerminalWealth

omit [Field K] in
theorem precedes_total (a b : TerminalOutcome K) : (a.precedes b || b.precedes a) = true := by
  simp only [TerminalOutcome.precedes, Bool.or_eq_true, decide_eq_true_iff]
  rcases lt_trichotomy a.terminalWealth b.terminalWealth with h | h | h
  · exact .inl (.inl h)
  · rcases Nat.le_total a.pathIndex b.pathIndex with hi | hi
    · exact .inl (.inr ⟨h, hi⟩)
    · exact .inr (.inr ⟨h.symm, hi⟩)
  · exact .inr (.inl h)

omit [Field K] in
theorem precedes_trans (a b c : TerminalOutcome K) (hab : a.precedes b = true)
    (hbc : b.precedes c = true) : a.precedes c = true := by
  simp only [TerminalOutcome.precedes, decide_eq_true_iff] at hab hbc ⊢
  rcases hab with hab | ⟨hab, hi⟩ <;> rcases hbc with hbc | ⟨hbc, hj⟩
  · exact .inl (hab.trans hbc)
  · exact .inl (hbc ▸ hab)
  · exact .inl (hab ▸ hbc)
  · exact .inr ⟨hab.trans hbc, hi.trans hj⟩

omit [Field K] in
theorem terminalOutcomes_ranking (summaries : List (PathSummary K)) :
    IsRanking summaries (terminalOutcomes summaries) where
  paths := by
    refine ((List.mergeSort_perm _ _).map _).trans ?_
    rw [List.map_map, List.range_eq_range', ← List.zipIdx_map_snd 0 summaries]
    exact List.Perm.refl _
  sorted := by
    refine (List.pairwise_mergeSort precedes_trans precedes_total _).imp fun {a b} h => ?_
    rw [TerminalOutcome.precedes, decide_eq_true_iff] at h
    exact h.elim le_of_lt fun h => h.1.le
  wealth := by
    intro outcome houtcome
    have hmem := (List.mergeSort_perm _ _).mem_iff.mp houtcome
    obtain ⟨⟨summary, index⟩, hentry, rfl⟩ := List.mem_map.mp hmem
    exact ⟨summary, List.mk_mem_zipIdx_iff_getElem?.mp hentry, rfl, rfl⟩

omit [Field K] in
theorem length_terminalOutcomes (summaries : List (PathSummary K)) :
    (terminalOutcomes summaries).length = summaries.length := by
  rw [terminalOutcomes, List.length_mergeSort, List.length_map, List.length_zipIdx]

variable [IsStrictOrderedRing K]

/-! ## Percentile bands -/

section Bands

variable [FloorRing K]

omit [IsStrictOrderedRing K] in
theorem percentileIndex_lt {pathCount : ℕ} (h : pathCount ≠ 0) (quantile : K) :
    percentileIndex pathCount quantile < pathCount :=
  (min_le_right _ _).trans_lt (Nat.sub_one_lt h)

theorem percentileIndex_mono (pathCount : ℕ) {q q' : K} (h : q ≤ q') :
    percentileIndex pathCount q ≤ percentileIndex pathCount q' :=
  min_le_min (Int.toNat_le_toNat
    (Int.floor_le_floor (mul_le_mul_of_nonneg_left h (Nat.cast_nonneg _)))) le_rfl

/-- The portfolio values of a year over the paths. -/
def yearValues (summaries : List (PathSummary K)) (yearIndex : ℕ) : List K :=
  summaries.map fun summary => summary.portfolioValues.getD yearIndex 0

/-- A year's bands are its values' order statistics, from the lowest to the highest. -/
structure BandsOf (values : List K) (row : YearlyProjection K) : Prop where
  p5 : IsOrderStatistic values (percentileIndex values.length (0.05 : K)) row.p5
  p10 : IsOrderStatistic values (percentileIndex values.length (0.10 : K)) row.p10
  p15 : IsOrderStatistic values (percentileIndex values.length (0.15 : K)) row.p15
  p25 : IsOrderStatistic values (percentileIndex values.length (0.25 : K)) row.p25
  p50 : IsOrderStatistic values (percentileIndex values.length (0.50 : K)) row.p50
  p75 : IsOrderStatistic values (percentileIndex values.length (0.75 : K)) row.p75
  p90 : IsOrderStatistic values (percentileIndex values.length (0.90 : K)) row.p90
  ordered : row.p5 ≤ row.p10 ∧ row.p10 ≤ row.p15 ∧ row.p15 ≤ row.p25 ∧ row.p25 ≤ row.p50 ∧
    row.p50 ≤ row.p75 ∧ row.p75 ≤ row.p90

theorem yearlyProjection_bands {summaries : List (PathSummary K)} (hne : summaries ≠ [])
    (yearIndex : ℕ) (representative : PathProjection K) :
    BandsOf (yearValues summaries yearIndex)
      (yearlyProjection summaries yearIndex representative) := by
  have hsorted : (sortedPortfolioValues summaries yearIndex).Pairwise (· ≤ ·) := by
    refine (List.pairwise_mergeSort (fun a b c hab hbc => ?_) (fun a b => ?_) _).imp
      fun {a b} h => of_decide_eq_true h
    · exact decide_eq_true ((of_decide_eq_true hab).trans (of_decide_eq_true hbc))
    · rw [Bool.or_eq_true, decide_eq_true_iff, decide_eq_true_iff]
      exact le_total a b
  have hperm : (sortedPortfolioValues summaries yearIndex).Perm (yearValues summaries yearIndex) :=
    List.mergeSort_perm _ _
  have hlength : (sortedPortfolioValues summaries yearIndex).length = summaries.length := by
    rw [hperm.length_eq, yearValues, List.length_map]
  have hlt (q : K) : percentileIndex summaries.length q
      < (sortedPortfolioValues summaries yearIndex).length :=
    hlength.symm ▸ percentileIndex_lt (by simpa using hne) q
  have hstatistic (q : K) : IsOrderStatistic (yearValues summaries yearIndex)
      (percentileIndex (yearValues summaries yearIndex).length q)
      ((sortedPortfolioValues summaries yearIndex).getD
        (percentileIndex summaries.length q) 0) := by
    rw [List.getD_eq_getElem _ _ (hlt q), yearValues, List.length_map]
    exact (isOrderStatistic_of_sorted hsorted (hlt q)).of_perm hperm
  have hmono {q q' : K} (h : q ≤ q') : (sortedPortfolioValues summaries yearIndex).getD
      (percentileIndex summaries.length q) 0 ≤ (sortedPortfolioValues summaries yearIndex).getD
      (percentileIndex summaries.length q') 0 := by
    rw [List.getD_eq_getElem _ _ (hlt q), List.getD_eq_getElem _ _ (hlt q')]
    rcases (percentileIndex_mono summaries.length h).eq_or_lt with heq | hrank
    · simp only [heq, le_refl]
    · exact List.pairwise_iff_getElem.mp hsorted _ _ _ _ hrank
  exact ⟨hstatistic _, hstatistic _, hstatistic _, hstatistic _, hstatistic _, hstatistic _,
    hstatistic _, hmono (by norm_num), hmono (by norm_num), hmono (by norm_num),
    hmono (by norm_num), hmono (by norm_num), hmono (by norm_num)⟩

end Bands

/-! ## Cohorts -/

/-- Every cohort is a non-empty slice of the ranking. -/
theorem cohortBounds_slice {pathCount : ℕ} (h : pathCount ≠ 0) (centerPercentile : ℕ) :
    (cohortBounds pathCount centerPercentile).1 < (cohortBounds pathCount centerPercentile).2 ∧
      (cohortBounds pathCount centerPercentile).2 ≤ pathCount := by
  simp only [cohortBounds]
  omega

/-- From ten paths on the cohorts are consecutive, from the 5th percentile to the 95th. -/
theorem cohortBounds_tiles {pathCount : ℕ} (h : 10 ≤ pathCount) :
    Tiles (5 * pathCount / 100) (95 * pathCount / 100)
      (outcomeCenters.map (cohortBounds pathCount)) := by
  simp only [outcomeCenters, List.map_cons, List.map_nil, Tiles, cohortBounds]
  omega

/-- The amounts of a cash-flow row. -/
inductive CashFlowField
  | income
  | spending
  | taxes
  | savings
  | socialSecurityBenefit
  | withdrawalTaxable
  | withdrawalTraditional
  | withdrawalRoth
  | withdrawalHsa
  | healthcareCost
  | longTermCareCost
  deriving DecidableEq

instance : Fintype CashFlowField where
  elems := {.income, .spending, .taxes, .savings, .socialSecurityBenefit, .withdrawalTaxable,
    .withdrawalTraditional, .withdrawalRoth, .withdrawalHsa, .healthcareCost, .longTermCareCost}
  complete field := by cases field <;> decide

def OutcomeCashFlowRow.amount : CashFlowField → OutcomeCashFlowRow K → K
  | .income, row => row.income
  | .spending, row => row.spending
  | .taxes, row => row.taxes
  | .savings, row => row.savings
  | .socialSecurityBenefit, row => row.socialSecurityBenefit
  | .withdrawalTaxable, row => row.withdrawalTaxable
  | .withdrawalTraditional, row => row.withdrawalTraditional
  | .withdrawalRoth, row => row.withdrawalRoth
  | .withdrawalHsa, row => row.withdrawalHsa
  | .healthcareCost, row => row.healthcareCost
  | .longTermCareCost, row => row.longTermCareCost

/-- A linear combination of a row's amounts. -/
def OutcomeCashFlowRow.combine (weight : CashFlowField → K) (row : OutcomeCashFlowRow K) : K :=
  ∑ field, weight field * row.amount field

omit [LinearOrder K] [IsStrictOrderedRing K] in
/-- The mean row is the mean in every field, so in every linear combination of them. -/
theorem meanRow_combine (first : OutcomeCashFlowRow K) (rows : List (OutcomeCashFlowRow K))
    (weight : CashFlowField → K) :
    (meanRow first rows rows.length).combine weight
      = Sample.mean (rows.map (·.combine weight)) := by
  have hfield (field : CashFlowField) : (meanRow first rows rows.length).amount field
      = Sample.mean (rows.map (·.amount field)) := by
    rw [Sample.mean, List.length_map]
    cases field <;> rfl
  simp only [OutcomeCashFlowRow.combine, hfield]
  exact sum_mul_mean rows (fun field row => row.amount field) weight

/-- The rows of the paths that hold some ranks, in a year. -/
def memberRows (summaries : List (PathSummary K)) (ranking : List (TerminalOutcome K))
    (bounds : ℕ × ℕ) (yearIndex : ℕ) : Set (OutcomeCashFlowRow K) :=
  { row | ∃ rank outcome summary, bounds.1 ≤ rank ∧ rank < bounds.2 ∧
    ranking[rank]? = some outcome ∧ summaries[outcome.pathIndex]? = some summary ∧
    summary.cashFlows[yearIndex]? = some row }

/-- A cohort reports the paths of a slice of the ranking: their share of successes, and
for every year a row that keeps the linear relations of theirs. -/
structure CohortOf (summaries : List (PathSummary K)) (ranking : List (TerminalOutcome K))
    (yearCount : ℕ) (bounds : ℕ × ℕ) (bucket : OutcomeBucket K) : Prop where
  nonempty : bounds.1 < bounds.2
  within : bounds.2 ≤ ranking.length
  success : bucket.successProbability
    = ((((ranking.take bounds.2).drop bounds.1).countP fun outcome =>
        summaries[outcome.pathIndex]?.any (·.success) : ℕ) : K) / ((bounds.2 - bounds.1 : ℕ) : K)
  years : bucket.projections.length = yearCount
  keeps_le : ∀ (yearIndex : ℕ) (row : OutcomeCashFlowRow K),
    bucket.projections[yearIndex]? = some row → ∀ (weight : CashFlowField → K) (bound : K),
      (∀ member ∈ memberRows summaries ranking bounds yearIndex, member.combine weight ≤ bound) →
        row.combine weight ≤ bound
  keeps_eq : ∀ (yearIndex : ℕ) (row : OutcomeCashFlowRow K),
    bucket.projections[yearIndex]? = some row → ∀ (weight : CashFlowField → K) (value : K),
      (∀ member ∈ memberRows summaries ranking bounds yearIndex, member.combine weight = value) →
        row.combine weight = value

omit [Field K] [IsStrictOrderedRing K] in
/-- Every path of a ranking has its row in every modeled year. -/
theorem exists_cohortRow {summaries : List (PathSummary K)} {ranking : List (TerminalOutcome K)}
    (hranking : IsRanking summaries ranking) {yearCount : ℕ}
    (hlength : ∀ summary ∈ summaries, summary.portfolioValues.length = yearCount)
    {yearIndex : ℕ} (hyear : yearIndex < yearCount) {outcome : TerminalOutcome K}
    (houtcome : outcome ∈ ranking) : ∃ row,
      (summaries[outcome.pathIndex]?.bind fun summary => summary.cashFlows[yearIndex]?)
        = some row := by
  obtain ⟨summary, hsummary, -⟩ := hranking.wealth outcome houtcome
  have hmem := List.mem_of_getElem? hsummary
  have hlt : yearIndex < summary.cashFlows.length := by
    rw [summary.lengths_eq, hlength summary hmem]
    exact hyear
  exact ⟨summary.cashFlows[yearIndex], by
    rw [hsummary, Option.bind_some, List.getElem?_eq_getElem hlt]⟩

/-- A `filterMap` that drops nothing keeps every position. -/
theorem filterMap_getElem? {α β : Type*} {f : α → Option β} {l : List α}
    (h : ∀ x ∈ l, ∃ y, f x = some y) (i : ℕ) : (l.filterMap f)[i]? = l[i]?.bind f := by
  induction l generalizing i with
  | nil => rfl
  | cons x l ih =>
    obtain ⟨y, hy⟩ := h x List.mem_cons_self
    rw [List.filterMap_cons_some hy]
    cases i with
    | zero => exact hy.symm
    | succ i => exact ih (fun z hz => h z (List.mem_cons_of_mem _ hz)) i

theorem filterMap_length {α β : Type*} {f : α → Option β} {l : List α}
    (h : ∀ x ∈ l, ∃ y, f x = some y) : (l.filterMap f).length = l.length := by
  induction l with
  | nil => rfl
  | cons x l ih =>
    obtain ⟨y, hy⟩ := h x List.mem_cons_self
    rw [List.filterMap_cons_some hy, List.length_cons, List.length_cons,
      ih fun z hz => h z (List.mem_cons_of_mem _ hz)]

section Bucket

variable {summaries : List (PathSummary K)} {yearCount : ℕ}
  (hlength : ∀ summary ∈ summaries, summary.portfolioValues.length = yearCount)
  (centerPercentile : ℕ)

/-- The slice of the ranking a cohort is made of. -/
def cohortOf (summaries : List (PathSummary K)) (centerPercentile : ℕ) :
    List (TerminalOutcome K) :=
  ((terminalOutcomes summaries).take (cohortBounds summaries.length centerPercentile).2).drop
    (cohortBounds summaries.length centerPercentile).1

omit [Field K] [IsStrictOrderedRing K] in
theorem length_cohortOf (hne : summaries ≠ []) :
    (cohortOf summaries centerPercentile).length
      = (cohortBounds summaries.length centerPercentile).2
        - (cohortBounds summaries.length centerPercentile).1 := by
  have hslice := cohortBounds_slice (by simpa using hne : summaries.length ≠ 0) centerPercentile
  rw [cohortOf, List.length_drop, List.length_take, length_terminalOutcomes,
    min_eq_left hslice.2]

omit [Field K] [IsStrictOrderedRing K] in
theorem mem_of_mem_cohortOf {outcome : TerminalOutcome K}
    (h : outcome ∈ cohortOf summaries centerPercentile) : outcome ∈ terminalOutcomes summaries :=
  List.mem_of_mem_take (List.mem_of_mem_drop h)

include hlength in
omit [Field K] [IsStrictOrderedRing K] in
theorem length_cohortRows {yearIndex : ℕ} (hyear : yearIndex < yearCount) :
    (cohortRows summaries (cohortOf summaries centerPercentile) yearIndex).length
      = (cohortOf summaries centerPercentile).length :=
  filterMap_length fun _ houtcome => exists_cohortRow (terminalOutcomes_ranking summaries) hlength
    hyear (mem_of_mem_cohortOf centerPercentile houtcome)

omit [Field K] [IsStrictOrderedRing K] in
/-- A cohort's rows are rows of the paths that hold its ranks. -/
theorem memberRows_of_mem {yearIndex : ℕ} {row : OutcomeCashFlowRow K}
    (h : row ∈ cohortRows summaries (cohortOf summaries centerPercentile) yearIndex) :
    row ∈ memberRows summaries (terminalOutcomes summaries)
      (cohortBounds summaries.length centerPercentile) yearIndex := by
  obtain ⟨outcome, houtcome, hrow⟩ := List.mem_filterMap.mp h
  obtain ⟨summary, hsummary, hcell⟩ := Option.bind_eq_some_iff.mp hrow
  obtain ⟨i, hi, rfl⟩ := List.getElem_of_mem houtcome
  rw [cohortOf, List.length_drop, List.length_take] at hi
  refine ⟨(cohortBounds summaries.length centerPercentile).1 + i, _, summary,
    Nat.le_add_right _ _, by omega, ?_, hsummary, hcell⟩
  simp only [cohortOf, List.getElem_drop, List.getElem_take]
  exact List.getElem?_eq_getElem _

include hlength in
omit [Field K] [IsStrictOrderedRing K] in
theorem cohortRows_ne_nil (hne : summaries ≠ []) {yearIndex : ℕ} (hyear : yearIndex < yearCount) :
    cohortRows summaries (cohortOf summaries centerPercentile) yearIndex ≠ [] := by
  have hslice := cohortBounds_slice (by simpa using hne : summaries.length ≠ 0) centerPercentile
  rw [← List.length_pos_iff, length_cohortRows hlength centerPercentile hyear,
    length_cohortOf centerPercentile hne]
  omega

/-- What a cohort reports for a year. -/
def cohortMean (summaries : List (PathSummary K)) (centerPercentile year : ℕ) :
    Option (OutcomeCashFlowRow K) :=
  let rows := cohortRows summaries (cohortOf summaries centerPercentile) year
  rows.head?.map fun first => meanRow first rows (cohortOf summaries centerPercentile).length

include hlength in
omit [IsStrictOrderedRing K] in
theorem exists_cohortMean (hne : summaries ≠ []) {year : ℕ} (hyear : year < yearCount) :
    ∃ row, cohortMean summaries centerPercentile year = some row := by
  obtain ⟨first, rest, hrows⟩ := List.exists_cons_of_ne_nil
    (cohortRows_ne_nil hlength centerPercentile hne hyear)
  exact ⟨_, by rw [cohortMean, hrows]; rfl⟩

include hlength in
omit [IsStrictOrderedRing K] in
theorem outcomeBucket_row_mean (hne : summaries ≠ []) {yearIndex : ℕ} {row : OutcomeCashFlowRow K}
    (h : (outcomeBucket summaries yearCount centerPercentile).projections[yearIndex]? = some row) :
    ∃ first rows, rows = cohortRows summaries (cohortOf summaries centerPercentile) yearIndex ∧
      rows ≠ [] ∧ row = meanRow first rows rows.length := by
  have hrows := filterMap_getElem? (fun year hyear => exists_cohortMean hlength centerPercentile hne
    (List.mem_range.mp hyear)) yearIndex
  obtain ⟨year, hyear, hrow⟩ := Option.bind_eq_some_iff.mp (hrows.symm.trans h)
  obtain ⟨first, -, rfl⟩ := Option.map_eq_some_iff.mp hrow
  obtain ⟨hlt, rfl⟩ := List.getElem?_eq_some_iff.mp hyear
  rw [List.length_range] at hlt
  simp only [List.getElem_range]
  exact ⟨first, _, rfl, cohortRows_ne_nil hlength centerPercentile hne hlt,
    by rw [length_cohortRows hlength centerPercentile hlt]⟩

include hlength in
/-- Every outcome bucket is a cohort of the ranking. -/
theorem outcomeBucket_cohort (hne : summaries ≠ []) :
    CohortOf summaries (terminalOutcomes summaries) yearCount
      (cohortBounds summaries.length centerPercentile)
      (outcomeBucket summaries yearCount centerPercentile) := by
  have hslice := cohortBounds_slice (by simpa using hne : summaries.length ≠ 0) centerPercentile
  refine ⟨hslice.1, (length_terminalOutcomes summaries).symm ▸ hslice.2, ?_, ?_, ?_, ?_⟩
  · rw [← length_cohortOf centerPercentile hne]
    rfl
  · exact (filterMap_length fun year hyear => exists_cohortMean hlength centerPercentile hne
      (List.mem_range.mp hyear)).trans List.length_range
  · intro yearIndex row hrow weight bound hbound
    obtain ⟨first, rows, hrows, hnonempty, rfl⟩ :=
      outcomeBucket_row_mean hlength centerPercentile hne hrow
    rw [meanRow_combine]
    refine mean_le (by simpa using hnonempty) fun x hx => ?_
    obtain ⟨member, hmember, rfl⟩ := List.mem_map.mp hx
    exact hbound member (memberRows_of_mem centerPercentile (hrows ▸ hmember))
  · intro yearIndex row hrow weight value hvalue
    obtain ⟨first, rows, hrows, hnonempty, rfl⟩ :=
      outcomeBucket_row_mean hlength centerPercentile hne hrow
    rw [meanRow_combine]
    refine mean_eq (by simpa using hnonempty) fun x hx => ?_
    obtain ⟨member, hmember, rfl⟩ := List.mem_map.mp hx
    exact hvalue member (memberRows_of_mem centerPercentile (hrows ▸ hmember))

end Bucket

/-! ## The whole result -/

section Result

variable [FloorRing K] (log : NaturalLog K) (source : RandomSource K)

/-- What a result says of the summaries it was aggregated from. -/
structure Faithful (summaries : List (PathSummary K)) (yearCount : ℕ)
    (result : SimulationResult K) : Prop where
  success : result.successProbability
    = (summaries.countP (·.success) : K) / (summaries.length : K)
  years : result.yearlyProjections.length = yearCount
  bands : ∀ (yearIndex : ℕ) (row : YearlyProjection K),
    result.yearlyProjections[yearIndex]? = some row → BandsOf (yearValues summaries yearIndex) row
  cohorts : ∃ ranking, IsRanking summaries ranking ∧
    List.Forall₂ (CohortOf summaries ranking yearCount)
      (outcomeCenters.map (cohortBounds summaries.length)) result.outcomeBuckets
  consecutive : 10 ≤ summaries.length →
    Tiles (5 * summaries.length / 100) (95 * summaries.length / 100)
      (outcomeCenters.map (cohortBounds summaries.length))

section Aggregate

variable {plan : RetirementPlan K} {prepared : PreparedPlan K}
  (hnew : PreparedPlan.new plan = .ok prepared) (config : MCConfig)
  {summaries : List (PathSummary K)} (hne : summaries ≠ [])

include hnew in
omit [IsStrictOrderedRing K] [FloorRing K] in
theorem newOrError_ok : PreparedPlan.newOrError plan = .ok prepared := by
  rw [PreparedPlan.newOrError, hnew]
  rfl

include hnew hne in
/-- Under a plan of the summaries' horizon the result is faithful. -/
theorem aggregateResults_ok
    (hlength : ∀ summary ∈ summaries, summary.portfolioValues.length = prepared.totalYears) :
    ∃ result, aggregateResults log source plan config summaries = .ok result ∧
      Faithful summaries prepared.totalYears result := by
  have hsame : (summaries.any fun summary =>
      decide (summary.portfolioValues.length ≠ prepared.totalYears)) = false :=
    List.any_eq_false.mpr fun summary hmem => by simpa using hlength summary hmem
  rw [aggregateResults, List.isEmpty_eq_false_iff.mpr hne, if_neg Bool.false_ne_true]
  simp only [newOrError_ok hnew, bind, Except.bind, length_runSinglePath]
  rw [hsame, if_neg Bool.false_ne_true]
  refine ⟨_, rfl, rfl, ?_, ?_, ⟨_, terminalOutcomes_ranking summaries, ?_⟩, cohortBounds_tiles⟩
  · rw [List.length_map, List.length_zipIdx, length_runSinglePath]
  · intro yearIndex row hrow
    rw [List.getElem?_map, Option.map_eq_some_iff] at hrow
    obtain ⟨⟨representative, index⟩, hentry, rfl⟩ := hrow
    rw [List.getElem?_zipIdx] at hentry
    obtain ⟨_, -, heq⟩ := Option.map_eq_some_iff.mp hentry
    cases heq
    rw [zero_add]
    exact yearlyProjection_bands hne yearIndex representative
  · rw [List.forall₂_map_left_iff, List.forall₂_map_right_iff]
    exact List.forall₂_same.mpr fun center _ => outcomeBucket_cohort hlength center hne

include hnew hne in
omit [IsStrictOrderedRing K] in
/-- Under a plan of another horizon the summaries are refused. -/
theorem aggregateResults_refused
    (hlength : ∀ summary ∈ summaries, summary.portfolioValues.length ≠ prepared.totalYears) :
    aggregateResults log source plan config summaries = .error .inconsistentLengths := by
  obtain ⟨summary, hmem⟩ := List.exists_mem_of_ne_nil summaries hne
  have hany : (summaries.any fun summary =>
      decide (summary.portfolioValues.length ≠ prepared.totalYears)) = true :=
    List.any_eq_true.mpr ⟨summary, hmem, decide_eq_true (hlength summary hmem)⟩
  rw [aggregateResults, List.isEmpty_eq_false_iff.mpr hne, if_neg Bool.false_ne_true]
  simp only [newOrError_ok hnew, bind, Except.bind, length_runSinglePath]
  rw [hany, if_pos rfl]

end Aggregate

/-- For every non-empty list of summaries of one length, an aggregation under a plan
whose horizon has that length returns a faithful result; under a plan of another horizon
it is refused. -/
theorem aggregateResults_faithful {plan : RetirementPlan K} {prepared : PreparedPlan K}
    (hnew : PreparedPlan.new plan = .ok prepared) (config : MCConfig)
    {summaries : List (PathSummary K)} (hne : summaries ≠ []) {yearCount : ℕ}
    (hlength : ∀ summary ∈ summaries, summary.portfolioValues.length = yearCount) :
    (yearCount = prepared.totalYears →
      ∃ result, aggregateResults log source plan config summaries = .ok result ∧
        Faithful summaries yearCount result) ∧
    (yearCount ≠ prepared.totalYears →
      aggregateResults log source plan config summaries = .error .inconsistentLengths) := by
  constructor
  · rintro rfl
    exact aggregateResults_ok log source hnew config hne hlength
  · intro hother
    exact aggregateResults_refused log source hnew config hne fun summary hmem =>
      (hlength summary hmem).trans_ne hother

end Result

/-! ## A run to evaluate on -/

/-- A generator that counts: each draw is the next year of the table. -/
def countingSource : RandomSource ℚ where
  Rng := ℕ
  seedFromU64 := id
  genRange n := (⟨n % historicalReturns.length, Nat.mod_lt _ (by decide)⟩, n + 1)
  gen _ := .zero
  parametricReturns n := (none, n + 1)

def quietRow : OutcomeCashFlowRow ℚ := ⟨63, true, 0, 0, 0, 0, 0, 0, 0, 0, 0, 0, 0⟩

/-- A path that ends two years with the given wealth. -/
def quietSummary (wealth : ℚ) : PathSummary ℚ :=
  ⟨wealth, wealth, [wealth, wealth], [quietRow, quietRow], true, rfl⟩

theorem aggregateResults_faithful_threePaths :
    ∃ result, aggregateResults NaturalLog.flat countingSource largeBenefitPlan ⟨3, 42, true, 5⟩
        [quietSummary 2, quietSummary 3, quietSummary 1] = .ok result ∧
      Faithful [quietSummary 2, quietSummary 3, quietSummary 1] 2 result :=
  (aggregateResults_faithful NaturalLog.flat countingSource largeBenefitPlan_prepared
    ⟨3, 42, true, 5⟩ (by simp) (by simp [quietSummary])).1 (by decide)

end RetirementPlanner.Engine
