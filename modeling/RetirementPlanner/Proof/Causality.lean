import Mathlib
import RetirementPlanner.Proof.Aggregation
import RetirementPlanner.Proof.Safety

/-!
# What a year of a path depends on

A year reads the returns drawn so far and the settings that apply to it, so the years before
settings apply are the same whatever they are.

* `upTo_withLater`: two paths are one up to the first year that tells them apart;
* `longerHorizon_extends`: without a care draw, a longer horizon adds years to every path and
  changes none, so that the success probability can only fall;
* `settings_begin`: the settings of retirement and the returns to come change no year before
  they apply;
* `benefitsOff_irrelevant`: Social Security that is off makes no difference at all.
-/

namespace RetirementPlanner.Engine

variable {K : Type*} [Field K] [LinearOrder K]

/-- The settings that a path reads in its retired years only, and where it ends. -/
structure LaterSettings (K : Type*) where
  retirementSpending : K
  retirementSpendingGrowthRate : K
  socialSecurity : SocialSecuritySettings K
  lifeExpectancy : ℕ

def RetirementPlan.later (plan : RetirementPlan K) : LaterSettings K where
  retirementSpending := plan.profile.retirementSpending
  retirementSpendingGrowthRate := plan.profile.retirementSpendingGrowthRate
  socialSecurity := plan.socialSecurity
  lifeExpectancy := plan.profile.lifeExpectancy

def RetirementPlan.withLater (plan : RetirementPlan K) (settings : LaterSettings K) :
    RetirementPlan K :=
  { plan with
    profile :=
      { plan.profile with
        retirementSpending := settings.retirementSpending
        retirementSpendingGrowthRate := settings.retirementSpendingGrowthRate
        lifeExpectancy := settings.lifeExpectancy }
    socialSecurity := settings.socialSecurity }

def PreparedPlan.withLater (prepared : PreparedPlan K) (settings : LaterSettings K) :
    PreparedPlan K :=
  { prepared with
    plan := prepared.plan.withLater settings
    totalYears := settings.lifeExpectancy - prepared.age + 1 }

theorem new_withLater {plan : RetirementPlan K} {prepared : PreparedPlan K}
    (h : PreparedPlan.new plan = .ok prepared) (settings : LaterSettings K) :
    PreparedPlan.new (plan.withLater settings) = .ok (prepared.withLater settings) := by
  rw [PreparedPlan.new] at h
  split at h
  · cases h
  · cases h
  · cases h
  · rename_i asOfDate birthYear age hasOf hbirth hage
    cases h
    have hasOf' : (plan.withLater settings).profile.asOfDate = some asOfDate := hasOf
    have hbirth' : birthYearOf (plan.withLater settings).profile.birthDate = .ok birthYear := hbirth
    have hage' : ageOn (plan.withLater settings).profile.birthDate
        (plan.withLater settings).profile.asOfDate = .ok age := hage
    rw [hasOf'] at hage'
    simp only [PreparedPlan.new, hasOf', hbirth', hage']
    rfl

theorem plan_of_new {plan : RetirementPlan K} {prepared : PreparedPlan K}
    (h : PreparedPlan.new plan = .ok prepared) : prepared.plan = plan := by
  rw [PreparedPlan.new] at h
  split at h <;> cases h
  rfl

theorem totalYears_of_new {plan : RetirementPlan K} {prepared : PreparedPlan K}
    (h : PreparedPlan.new plan = .ok prepared) :
    prepared.totalYears = plan.profile.lifeExpectancy - prepared.age + 1 := by
  rw [PreparedPlan.new] at h
  split at h <;> cases h
  rfl

/-! ## One year -/

/-- A retired year reads the same spending and benefit under other settings. -/
structure Unaffected [FloorRing K] (prepared : PreparedPlan K) (settings : LaterSettings K)
    (year : ℕ) : Prop where
  spending : baseSpendingOf (prepared.withLater settings) year = baseSpendingOf prepared year
  benefit : socialSecurityBenefitOf (prepared.withLater settings) year =
    socialSecurityBenefitOf prepared year

section Year

variable [FloorRing K] (log : NaturalLog K) {prepared : PreparedPlan K}
  {settings : LaterSettings K} {year : ℕ}

theorem incomeTestOf_withLater (h : Unaffected prepared settings year)
    (magiByYear : List (YearMagi K)) (accounts : List (Account K))
    (longTermCareCost socialSecurityBenefit : K) :
    incomeTestOf (prepared.withLater settings) year magiByYear accounts longTermCareCost
      socialSecurityBenefit =
        incomeTestOf prepared year magiByYear accounts longTermCareCost socialSecurityBenefit := by
  unfold incomeTestOf
  rw [h.spending]
  rfl

theorem retiredYear_withLater (h : Unaffected prepared settings year) (returns : K × K)
    {state : ProjectionState K} (rothBasis : RothBasisState K) (rmdAmount : K)
    (hcare : state.longTermCare = none ∨
      (prepared.withLater settings).totalYears = prepared.totalYears) :
    retiredYear log (prepared.withLater settings) returns year state rothBasis rmdAmount =
      retiredYear log prepared returns year state rothBasis rmdAmount := by
  have hcost : (state.longTermCare.elim 0
      (·.costForYear log year (prepared.withLater settings).totalYears)) =
        state.longTermCare.elim 0 (·.costForYear log year prepared.totalYears) := by
    rcases hcare with hnone | hyears
    · rw [hnone]
      rfl
    · rw [hyears]
  unfold retiredYear
  simp only [hcost, h.benefit, h.spending, incomeTestOf_withLater h]
  rfl

theorem yearOutcome_withLater (h : prepared.isRetired year = true →
      Unaffected prepared settings year) (returns : K × K) {state : ProjectionState K}
    (hcare : state.longTermCare = none ∨
      (prepared.withLater settings).totalYears = prepared.totalYears) :
    yearOutcome log (prepared.withLater settings) returns year state =
      yearOutcome log prepared returns year state := by
  unfold yearOutcome
  change (if prepared.isRetired year then _ else _) = _
  split
  · rename_i hretired
    exact retiredYear_withLater log (h hretired) returns _ _ hcare
  · rfl

end Year

/-! ## The years before -/

/-- The care draw is off, or the horizon that it is placed in is the same. -/
def CareApart (prepared : PreparedPlan K) (settings : LaterSettings K) : Prop :=
  prepared.plan.schemaVersion < ltcModelSchemaVersion ∨
    prepared.plan.profile.longTermCare.enabled = false ∨
      (settings.lifeExpectancy = prepared.plan.profile.lifeExpectancy ∧
        (prepared.withLater settings).totalYears = prepared.totalYears)

section Run

variable [FloorRing K] (log : NaturalLog K) {prepared : PreparedPlan K}
  {settings : LaterSettings K} (uniform : Uniform K)

omit [FloorRing K] in
theorem start_withLater (h : CareApart prepared settings) :
    ProjectionState.start (prepared.withLater settings) uniform =
      ProjectionState.start prepared uniform := by
  have hdraw : LongTermCareDraw.start (prepared.plan.withLater settings) uniform
      prepared.currentYear prepared.birthYear prepared.age =
        LongTermCareDraw.start prepared.plan uniform prepared.currentYear prepared.birthYear
          prepared.age := by
    unfold LongTermCareDraw.start
    rcases h with hschema | hoff | ⟨hlife, -⟩
    · simp only [RetirementPlan.withLater, hschema, true_or, if_true]
    · simp only [RetirementPlan.withLater, hoff, or_true, if_true]
    · simp only [RetirementPlan.withLater, hlife]
  unfold ProjectionState.start
  exact congrArg (fun draw => ({ ProjectionState.start prepared uniform with
    longTermCare := draw } : ProjectionState K)) hdraw

variable (returns : ℕ → K × K)

/-- A path without a care draw has none in any year. -/
theorem stateAt_longTermCare_none
    (h : (ProjectionState.start prepared uniform).longTermCare = none) (year : ℕ) :
    (stateAt log prepared uniform returns year).longTermCare = none := by
  induction year with
  | zero => exact h
  | succ year ih =>
    rw [stateAt_succ]
    exact congrArg (Option.map _) ih

theorem stateAt_careApart (h : CareApart prepared settings) (year : ℕ) :
    (stateAt log prepared uniform returns year).longTermCare = none ∨
      (prepared.withLater settings).totalYears = prepared.totalYears := by
  rcases h with hschema | hoff | ⟨-, hyears⟩
  · left
    refine stateAt_longTermCare_none log uniform returns ?_ year
    simp only [ProjectionState.start, LongTermCareDraw.start, hschema, true_or, if_true]
  · left
    refine stateAt_longTermCare_none log uniform returns ?_ year
    simp only [ProjectionState.start, LongTermCareDraw.start, hoff, or_true, if_true]
  · exact .inr hyears

variable {returns} {returns' : ℕ → K × K} {years : ℕ}

/-- Up to the first year that tells them apart, two paths are one. -/
theorem upTo_withLater (hcare : CareApart prepared settings)
    (hsame : ∀ year < years, prepared.isRetired year = true → Unaffected prepared settings year)
    (hreturns : ∀ year < years, returns' year = returns year) :
    Path.upTo log (prepared.withLater settings) uniform returns' years =
      Path.upTo log prepared uniform returns years := by
  induction years with
  | zero => exact congrArg (Path.mk · []) (start_withLater uniform hcare)
  | succ years ih =>
    have hyear := yearOutcome_withLater log (hsame years (Nat.lt_succ_self years))
      (returns years) (stateAt_careApart log uniform returns hcare years)
    rw [Path.upTo_succ, Path.upTo_succ, ih (fun year hlt => hsame year (by omega))
      (fun year hlt => hreturns year (by omega))]
    unfold Path.step
    rw [hreturns years (Nat.lt_succ_self years)]
    unfold stateAt at hyear
    rw [hyear]
    rfl

/-- The first rows of a path are the rows of its first years. -/
theorem take_projections (hyears : years ≤ prepared.totalYears) :
    (projectScenarioPrepared log prepared uniform returns).projections.take years =
      (Path.upTo log prepared uniform returns years).projections := by
  simp only [projectScenarioPrepared, Path.upTo_projections]
  rw [← List.map_take, List.take_range, Nat.min_eq_left hyears]

/-- A path that has failed stays failed. -/
theorem success_of_le {more : ℕ} (hle : years ≤ more)
    (h : (stateAt log prepared uniform returns more).success = true) :
    (stateAt log prepared uniform returns years).success = true := by
  induction more, hle using Nat.le_induction with
  | base => exact h
  | succ more hle ih =>
    rw [stateAt_succ] at h
    exact ih (Bool.and_eq_true_iff.mp h).1

end Run

/-! ## What a run makes of its paths -/

section Result

variable [FloorRing K] (log : NaturalLog K) (source : RandomSource K)

theorem runSinglePath_eq (prepared : PreparedPlan K) (config : MCConfig) (pathIndex : ℕ) :
    runSinglePath log source prepared config pathIndex =
      projectScenarioPrepared log prepared (careUniform source (config.forPath pathIndex))
        (marketReturns source prepared.plan (config.forPath pathIndex)) := rfl

omit [FloorRing K] in
theorem generatorAt_withLater (plan : RetirementPlan K) (settings : LaterSettings K)
    (config : ProjectionConfig) (year : ℕ) :
    generatorAt source (plan.withLater settings) config year =
      generatorAt source plan config year := by
  induction year with
  | zero => rfl
  | succ year ih => exact congrArg (fun generator => (generator.next source).2) ih

omit [FloorRing K] in
/-- The settings of retirement leave the market as it is. -/
theorem marketReturns_withLater (plan : RetirementPlan K) (settings : LaterSettings K)
    (config : ProjectionConfig) :
    marketReturns source (plan.withLater settings) config = marketReturns source plan config := by
  funext year
  exact congrArg (fun generator => (generator.next source).1)
    (generatorAt_withLater source plan settings config year)

/-- The percentile bands of a year. -/
def YearlyProjection.bands (row : YearlyProjection K) : List K :=
  [row.p5, row.p10, row.p15, row.p25, row.p50, row.p75, row.p90]

/-- The bands that the values of a year come to. -/
def bandsAt (summaries : List (PathSummary K)) (yearIndex : ℕ) : List K :=
  ([0.05, 0.10, 0.15, 0.25, 0.50, 0.75, 0.90] : List K).map fun quantile =>
    (sortedPortfolioValues summaries yearIndex).getD (percentileIndex summaries.length quantile) 0

theorem yearlyProjection_bandsAt (summaries : List (PathSummary K)) (yearIndex : ℕ)
    (representative : PathProjection K) :
    (yearlyProjection summaries yearIndex representative).bands = bandsAt summaries yearIndex := rfl

def pathSummaries (prepared : PreparedPlan K) (config : MCConfig) : List (PathSummary K) :=
  (List.range config.paths).map (summarizePath log source prepared config)

variable {log source} {plan : RetirementPlan K} {prepared : PreparedPlan K} {config : MCConfig}
  {result : SimulationResult K}

theorem of_runSimulation (hnew : PreparedPlan.new plan = .ok prepared)
    (h : runSimulation log source plan config = .ok result) :
    result.successProbability =
        ((pathSummaries log source prepared config).countP (·.success) : K) / (config.paths : K) ∧
      ∃ pathIndex, result.yearlyProjections =
        (runSinglePath log source prepared config pathIndex).projections.zipIdx.map fun entry =>
          yearlyProjection (pathSummaries log source prepared config) entry.2 entry.1 := by
  have hlength : (pathSummaries log source prepared config).length = config.paths := by
    rw [pathSummaries, List.length_map, List.length_range]
  rw [runSimulation, newOrError_ok hnew] at h
  change aggregateResults log source plan config (pathSummaries log source prepared config) = _ at h
  unfold aggregateResults at h
  split at h
  · cases h
  · rw [newOrError_ok hnew] at h
    simp only [bind, Except.bind] at h
    split at h
    · cases h
    · cases h
      exact ⟨by rw [← hlength], _, rfl⟩

/-- The bands of a result are those of its years, in order. -/
theorem bands_of_runSimulation (hnew : PreparedPlan.new plan = .ok prepared)
    (h : runSimulation log source plan config = .ok result) :
    result.yearlyProjections.map YearlyProjection.bands = (List.range prepared.totalYears).map
      (bandsAt (pathSummaries log source prepared config)) := by
  obtain ⟨-, pathIndex, hrows⟩ := of_runSimulation hnew h
  have hindices := List.zipIdx_map_snd 0
    (runSinglePath log source prepared config pathIndex).projections
  rw [length_runSinglePath] at hindices
  rw [hrows, List.map_map, List.range_eq_range', ← hindices, List.map_map]
  exact List.map_congr_left fun entry _ => yearlyProjection_bandsAt _ entry.2 entry.1

end Result

/-! ## A longer horizon -/

section Horizon

variable [FloorRing K] {log : NaturalLog K} {source : RandomSource K} {plan : RetirementPlan K}
  {prepared : PreparedPlan K} {longer : ℕ}

/-- The plan with another horizon. -/
def RetirementPlan.livingTo (plan : RetirementPlan K) (lifeExpectancy : ℕ) : RetirementPlan K :=
  plan.withLater { plan.later with lifeExpectancy }

def PreparedPlan.livingTo (prepared : PreparedPlan K) (lifeExpectancy : ℕ) : PreparedPlan K :=
  prepared.withLater { prepared.plan.later with lifeExpectancy }

/-- Without a care draw, a path under a longer horizon goes on from where it ended. -/
theorem upTo_livingTo (hcare : prepared.plan.schemaVersion < ltcModelSchemaVersion ∨
      prepared.plan.profile.longTermCare.enabled = false) (uniform : Uniform K)
    (returns : ℕ → K × K) (years : ℕ) :
    Path.upTo log (prepared.livingTo longer) uniform returns years =
      Path.upTo log prepared uniform returns years :=
  upTo_withLater log uniform (hcare.imp_right .inl) (fun _ _ _ => ⟨rfl, rfl⟩) fun _ _ => rfl

variable {config : MCConfig} {result result' : SimulationResult K}

theorem runSinglePath_livingTo (hcare : prepared.plan.schemaVersion < ltcModelSchemaVersion ∨
      prepared.plan.profile.longTermCare.enabled = false)
    (hyears : prepared.totalYears ≤ (prepared.livingTo longer).totalYears) (pathIndex : ℕ) :
    (runSinglePath log source (prepared.livingTo longer) config pathIndex).projections.take
        prepared.totalYears = (runSinglePath log source prepared config pathIndex).projections ∧
      ((runSinglePath log source (prepared.livingTo longer) config pathIndex).success = true →
        (runSinglePath log source prepared config pathIndex).success = true) := by
  have hpath : ∀ years, Path.upTo log (prepared.livingTo longer)
        (careUniform source (config.forPath pathIndex))
        (marketReturns source prepared.plan (config.forPath pathIndex)) years =
      Path.upTo log prepared (careUniform source (config.forPath pathIndex))
        (marketReturns source prepared.plan (config.forPath pathIndex)) years :=
    upTo_livingTo hcare _ _
  constructor
  · rw [runSinglePath_eq, runSinglePath_eq, take_projections log _ hyears,
      PreparedPlan.livingTo, PreparedPlan.withLater, marketReturns_withLater]
    exact congrArg Path.projections (hpath prepared.totalYears)
  · intro hsuccess
    have hstate := success_of_le log (careUniform source (config.forPath pathIndex)) hyears hsuccess
    unfold stateAt at hstate
    rw [PreparedPlan.livingTo, PreparedPlan.withLater, marketReturns_withLater] at hstate
    exact (congrArg (fun path => path.state.success) (hpath prepared.totalYears)).symm.trans hstate

theorem bandsAt_livingTo (hcare : prepared.plan.schemaVersion < ltcModelSchemaVersion ∨
      prepared.plan.profile.longTermCare.enabled = false)
    (hyears : prepared.totalYears ≤ (prepared.livingTo longer).totalYears) {yearIndex : ℕ}
    (hyear : yearIndex < prepared.totalYears) :
    bandsAt (pathSummaries log source (prepared.livingTo longer) config) yearIndex =
      bandsAt (pathSummaries log source prepared config) yearIndex := by
  have hvalues : sortedPortfolioValues (pathSummaries log source (prepared.livingTo longer) config)
      yearIndex = sortedPortfolioValues (pathSummaries log source prepared config) yearIndex := by
    unfold sortedPortfolioValues pathSummaries
    rw [List.map_map, List.map_map]
    refine congrArg (List.mergeSort · _) (List.map_congr_left fun pathIndex _ => ?_)
    have hrows : (runSinglePath log source (prepared.livingTo longer) config
        pathIndex).projections.take prepared.totalYears =
          (runSinglePath log source prepared config pathIndex).projections :=
      (runSinglePath_livingTo hcare hyears pathIndex).1
    simp only [Function.comp_apply, summarizePath, PathResult.summary, ← hrows, List.map_take]
    rw [List.getD_eq_getElem?_getD, List.getD_eq_getElem?_getD, List.getElem?_take_of_lt hyear]
  unfold bandsAt
  rw [hvalues]
  simp only [pathSummaries, List.length_map, List.length_range]

/-- Without a care draw, a longer horizon adds years to every path and changes none: the bands of
the years modeled before are what they were, and the success probability can only fall. -/
theorem longerHorizon_extends [IsStrictOrderedRing K]
    (hcare : plan.schemaVersion < ltcModelSchemaVersion ∨
      plan.profile.longTermCare.enabled = false)
    (hlonger : plan.profile.lifeExpectancy ≤ longer)
    (h : runSimulation log source plan config = .ok result)
    (h' : runSimulation log source (plan.livingTo longer) config = .ok result') :
    result'.successProbability ≤ result.successProbability ∧
      (result'.yearlyProjections.map YearlyProjection.bands).take
        result.yearlyProjections.length = result.yearlyProjections.map YearlyProjection.bands := by
  cases hnew : PreparedPlan.new plan with
  | error error =>
    rw [runSimulation, PreparedPlan.newOrError, hnew] at h
    cases h
  | ok prepared =>
    have hplan : prepared.plan = plan := plan_of_new hnew
    have htotal : prepared.totalYears ≤ (prepared.livingTo longer).totalYears := by
      rw [totalYears_of_new hnew]
      exact Nat.add_le_add_right (Nat.sub_le_sub_right hlonger _) 1
    have hnew' : PreparedPlan.new (plan.livingTo longer) = .ok (prepared.livingTo longer) := by
      rw [← hplan] at hnew ⊢
      exact new_withLater hnew _
    rw [← hplan] at hcare
    obtain ⟨hsuccess, -⟩ := of_runSimulation hnew h
    obtain ⟨hsuccess', -⟩ := of_runSimulation hnew' h'
    constructor
    · rw [hsuccess, hsuccess']
      refine div_le_div_of_nonneg_right (Nat.cast_le.mpr ?_) (Nat.cast_nonneg _)
      rw [pathSummaries, pathSummaries, List.countP_map, List.countP_map]
      exact List.countP_mono_left fun pathIndex _ hpath =>
        (runSinglePath_livingTo hcare htotal pathIndex).2 hpath
    · have hbands := bands_of_runSimulation hnew h
      have hlength := congrArg List.length hbands
      rw [List.length_map, List.length_map, List.length_range] at hlength
      rw [bands_of_runSimulation hnew' h', hbands, hlength, ← List.map_take, List.take_range,
        Nat.min_eq_left htotal]
      exact List.map_congr_left fun yearIndex hyear =>
        bandsAt_livingTo hcare htotal (List.mem_range.mp hyear)

end Horizon

/-- A household whose money lasts a year, to 64 and to 100. -/
theorem longerHorizon_extends_largeBenefit : ∃ result result' : SimulationResult ℚ,
    runSimulation NaturalLog.flat countingSource largeBenefitPlan ⟨3, 42, true, 5⟩ = .ok result ∧
      runSimulation NaturalLog.flat countingSource (largeBenefitPlan.livingTo 100)
        ⟨3, 42, true, 5⟩ = .ok result' ∧
      result'.successProbability ≤ result.successProbability := by
  obtain ⟨result, h⟩ := exists_runSimulation NaturalLog.flat countingSource
    largeBenefitPlan_prepared (by decide : 1 ≤ (⟨3, 42, true, 5⟩ : MCConfig).paths)
  obtain ⟨result', h'⟩ := exists_runSimulation NaturalLog.flat countingSource
    (new_withLater largeBenefitPlan_prepared { largeBenefitPlan.later with lifeExpectancy := 100 })
    (by decide : 1 ≤ (⟨3, 42, true, 5⟩ : MCConfig).paths)
  exact ⟨result, result', h, h', (longerHorizon_extends (.inr rfl) (by decide) h h').1⟩

/-! ## Settings of retirement -/

section Later

variable [FloorRing K] (log : NaturalLog K) {plan : RetirementPlan K} {prepared : PreparedPlan K}
  {settings : LaterSettings K}

/-- At an age, benefits have been claimed. -/
def SocialSecuritySettings.Pays (settings : SocialSecuritySettings K) (age : ℕ) : Prop :=
  settings.enabled = true ∧ settings.claimAge ≤ age

/-- A plan and other settings that come to the same at an age. -/
structure RetirementPlan.AgreesAt (plan : RetirementPlan K) (settings : LaterSettings K)
    (age : ℕ) : Prop where
  spending : settings.retirementSpending = plan.profile.retirementSpending
  growth : settings.retirementSpendingGrowthRate = plan.profile.retirementSpendingGrowthRate
  benefit : settings.socialSecurity = plan.socialSecurity ∨
    (¬settings.socialSecurity.Pays age ∧ ¬plan.socialSecurity.Pays age)

theorem socialSecurityBenefitOf_eq_zero {year : ℕ}
    (h : ¬prepared.plan.socialSecurity.Pays (prepared.currentAge year)) :
    socialSecurityBenefitOf prepared year = 0 := if_neg h

theorem unaffected_of_agreesAt {year : ℕ}
    (h : prepared.plan.AgreesAt settings (prepared.currentAge year)) :
    Unaffected prepared settings year where
  spending := by
    simp only [baseSpendingOf, PreparedPlan.withLater, RetirementPlan.withLater, h.spending,
      h.growth]
    rfl
  benefit := by
    rcases h.benefit with hsame | ⟨hother, hthis⟩
    · simp only [socialSecurityBenefitOf, PreparedPlan.withLater, RetirementPlan.withLater, hsame]
      rfl
    · rw [socialSecurityBenefitOf_eq_zero hthis]
      exact socialSecurityBenefitOf_eq_zero hother

omit [FloorRing K] in
theorem careApart_of_new (hnew : PreparedPlan.new plan = .ok prepared)
    (h : plan.schemaVersion < ltcModelSchemaVersion ∨
      plan.profile.longTermCare.enabled = false ∨
        settings.lifeExpectancy = plan.profile.lifeExpectancy) : CareApart prepared settings := by
  have htotal := totalYears_of_new hnew
  obtain rfl := plan_of_new hnew
  refine h.imp_right (Or.imp_right fun hlife => ⟨hlife, ?_⟩)
  rw [htotal, ← hlife]
  rfl

/-- A year of a path depends neither on returns after it nor on settings that do not apply yet:
what a retirement will spend, before it starts, and Social Security before either plan
collects it. -/
theorem settings_begin (hnew : PreparedPlan.new plan = .ok prepared)
    (hcare : plan.schemaVersion < ltcModelSchemaVersion ∨
      plan.profile.longTermCare.enabled = false ∨
        settings.lifeExpectancy = plan.profile.lifeExpectancy)
    {years : ℕ} (hyears : years ≤ plan.profile.lifeExpectancy - prepared.age + 1)
    (hyears' : years ≤ settings.lifeExpectancy - prepared.age + 1)
    (hsame : ∀ year < years, plan.profile.retirementAge ≤ prepared.age + year →
      plan.AgreesAt settings (prepared.age + year))
    {uniform : Uniform K} {returns returns' : ℕ → K × K}
    (hreturns : ∀ year < years, returns' year = returns year) {result result' : PathResult K}
    (h : projectScenario log plan uniform returns = .ok result)
    (h' : projectScenario log (plan.withLater settings) uniform returns' = .ok result') :
    result'.projections.take years = result.projections.take years := by
  rw [projectScenario, hnew] at h
  rw [projectScenario, new_withLater hnew] at h'
  cases h
  cases h'
  have hcare' := careApart_of_new hnew hcare
  rw [← totalYears_of_new hnew] at hyears
  rw [take_projections log uniform hyears, take_projections log uniform hyears']
  refine congrArg Path.projections
    (upTo_withLater log uniform hcare' (fun year hyear hretired => ?_) hreturns)
  obtain rfl := plan_of_new hnew
  exact unaffected_of_agreesAt (hsame year hyear (of_decide_eq_true hretired))

end Later

/-- The first year under another horizon, and under other returns from the second year on. -/
theorem settings_begin_largeBenefit :
    ((projectScenarioPrepared NaturalLog.flat (largeBenefitPrepared.livingTo 100)
        ⟨0, le_rfl, one_pos⟩ fun year => (year, 0)).projections.take 1) =
      (projectScenarioPrepared NaturalLog.flat largeBenefitPrepared ⟨0, le_rfl, one_pos⟩
        fun _ => (0, 0)).projections.take 1 := by
  refine settings_begin NaturalLog.flat largeBenefitPlan_prepared (.inr (.inl rfl)) (by decide)
    (by decide) (fun year _ _ => ⟨rfl, rfl, .inl rfl⟩) (fun year hyear => ?_) rfl rfl
  obtain rfl := Nat.lt_one_iff.mp hyear
  simp only [Nat.cast_zero]

/-! ## Benefits that are off -/

section Off

variable [FloorRing K] {log : NaturalLog K} {source : RandomSource K}
  {plan plan' : RetirementPlan K} {prepared prepared' : PreparedPlan K} {config : MCConfig}

/-- Plans of the same paths have the same results. -/
theorem runSimulation_congr (hnew : PreparedPlan.new plan = .ok prepared)
    (hnew' : PreparedPlan.new plan' = .ok prepared')
    (hpaths : runSinglePath log source prepared' config
      = runSinglePath log source prepared config) :
    runSimulation log source plan' config = runSimulation log source plan config := by
  have hsummaries : summarizePath log source prepared' config =
      summarizePath log source prepared config := by
    funext pathIndex
    exact congrArg PathResult.summary (congrFun hpaths pathIndex)
  rw [runSimulation, runSimulation, newOrError_ok hnew, newOrError_ok hnew']
  simp only [bind, Except.bind, aggregateResults, newOrError_ok hnew, newOrError_ok hnew',
    hpaths, hsummaries]

/-- Where settings come to the same in every year, so do the paths. -/
theorem runSinglePath_withLater {settings : LaterSettings K}
    (hlife : settings.lifeExpectancy = prepared.plan.profile.lifeExpectancy)
    (hyears : (prepared.withLater settings).totalYears = prepared.totalYears)
    (hsame : ∀ year, prepared.plan.AgreesAt settings (prepared.currentAge year)) :
    runSinglePath log source (prepared.withLater settings) config =
      runSinglePath log source prepared config := by
  funext pathIndex
  have hpath : Path.upTo log (prepared.withLater settings)
      (careUniform source (config.forPath pathIndex))
      (marketReturns source prepared.plan (config.forPath pathIndex)) prepared.totalYears =
        Path.upTo log prepared (careUniform source (config.forPath pathIndex))
          (marketReturns source prepared.plan (config.forPath pathIndex)) prepared.totalYears :=
    upTo_withLater log _ (.inr (.inr ⟨hlife, hyears⟩))
      (fun year _ _ => unaffected_of_agreesAt (hsame year)) fun _ _ => rfl
  rw [runSinglePath_eq, runSinglePath_eq]
  unfold projectScenarioPrepared
  rw [hyears, PreparedPlan.withLater, marketReturns_withLater]
  rw [PreparedPlan.withLater] at hpath
  rw [hpath]
  rfl

def RetirementPlan.claiming (plan : RetirementPlan K)
    (socialSecurity : SocialSecuritySettings K) : RetirementPlan K :=
  plan.withLater { plan.later with socialSecurity }

/-- Where Social Security is off, its settings make no difference to any result. -/
theorem benefitsOff_irrelevant {settings settings' : SocialSecuritySettings K}
    (hplan : validatePlan plan = .ok ()) (hoff : settings.enabled = false)
    (hoff' : settings'.enabled = false) :
    runSimulation log source (plan.claiming settings) config =
      runSimulation log source (plan.claiming settings') config := by
  obtain ⟨prepared, hnew⟩ := exists_prepared hplan
  obtain rfl := plan_of_new hnew
  have hpaths : runSinglePath log source ((prepared.withLater
      { prepared.plan.later with socialSecurity := settings' }).withLater
        { prepared.plan.later with socialSecurity := settings }) config =
      runSinglePath log source (prepared.withLater
        { prepared.plan.later with socialSecurity := settings' }) config := by
    refine runSinglePath_withLater rfl rfl fun year => ⟨rfl, rfl, .inr ⟨fun hpays => ?_,
      fun hpays => ?_⟩⟩
    · exact Bool.false_ne_true (hoff.symm.trans hpays.1)
    · exact Bool.false_ne_true (hoff'.symm.trans hpays.1)
  exact runSimulation_congr (new_withLater hnew _) (new_withLater hnew _) hpaths

end Off

theorem benefitsOff_irrelevant_largeBenefit :
    runSimulation NaturalLog.flat countingSource
        (largeBenefitPlan.claiming ⟨false, some 4000000, 62, true⟩) ⟨3, 42, true, 5⟩ =
      runSimulation NaturalLog.flat countingSource
        (largeBenefitPlan.claiming ⟨false, none, 70, false⟩) ⟨3, 42, true, 5⟩ :=
  benefitsOff_irrelevant largeBenefitPlan_valid rfl rfl

end RetirementPlanner.Engine
