import RetirementPlanner.Lib.Schedule
import RetirementPlanner.Proof.Path

/-!
# What a projection charges for care

The care draw of a path is unobserved up to the first year at or past 65
(`careAt_before`) and holds one quintile from then on (`careAt_after`). The installment
of a year is the unit step of a ramp that starts with the episode
(`LongTermCareDraw.costForYear_eq`), so the installments of consecutive years add up
like the ramp does, and the retired years of a plan pay for the part of the episode
that lies in them (`careCost_sum`).
-/

namespace RetirementPlanner.Engine

open Schedule

variable {K : Type*} [Field K] [LinearOrder K]

/-! ## The observation -/

/-- The modeled year whose end the income is observed at. -/
def PreparedPlan.observationYear (prepared : PreparedPlan K) : ℕ :=
  ltcObservationAge - prepared.age

/-- The first retired year. -/
def PreparedPlan.retirementYear (prepared : PreparedPlan K) : ℕ :=
  prepared.plan.profile.retirementAge - prepared.age

omit [Field K] [LinearOrder K] in
theorem PreparedPlan.isRetired_iff (prepared : PreparedPlan K) (year : ℕ) :
    prepared.isRetired year = true ↔ prepared.retirementYear ≤ year := by
  rw [PreparedPlan.isRetired, decide_eq_true_iff, PreparedPlan.currentAge,
    PreparedPlan.retirementYear, tsub_le_iff_left]

/-- A draw once its quintile is known. -/
def LongTermCareDraw.observed (draw : LongTermCareDraw K) (quintile : IncomeQuintile) :
    LongTermCareDraw K :=
  { draw with quintile := some quintile }

theorem LongTermCareDraw.observe_observed (draw : LongTermCareDraw K) (quintile : IncomeQuintile)
    (currentAge : ℕ) (portfolioValue annualIncome : K) :
    (draw.observed quintile).observe currentAge portfolioValue annualIncome
      = draw.observed quintile :=
  if_pos (.inl rfl)

theorem LongTermCareDraw.observe_young (draw : LongTermCareDraw K) {currentAge : ℕ}
    (h : currentAge < ltcObservationAge) (portfolioValue annualIncome : K) :
    draw.observe currentAge portfolioValue annualIncome = draw :=
  if_pos (.inr h)

theorem LongTermCareDraw.observe_old {draw : LongTermCareDraw K} (hnone : draw.quintile = none)
    {currentAge : ℕ} (h : ltcObservationAge ≤ currentAge) (portfolioValue annualIncome : K) :
    ∃ quintile, draw.observe currentAge portfolioValue annualIncome = draw.observed quintile := by
  refine ⟨_, if_neg ?_⟩
  rintro (hsome | hyoung)
  · rw [hnone] at hsome
    cases hsome
  · exact absurd h (not_le.mpr hyoung)

theorem LongTermCareDraw.start_unobserved {plan : RetirementPlan K} {uniform : Uniform K}
    {baseYear birthYear : ℤ} {startAge : ℕ} :
    ∀ draw ∈ LongTermCareDraw.start plan uniform baseYear birthYear startAge,
      draw.quintile = none := by
  intro draw hdraw
  simp only [LongTermCareDraw.start, Option.mem_def] at hdraw
  split_ifs at hdraw <;> cases hdraw <;> rfl

section Run

variable [FloorRing K] (log : NaturalLog K) (prepared : PreparedPlan K) (uniform : Uniform K)
  (returns : ℕ → K × K)

/-- The draw a path starts with. -/
def careStart : Option (LongTermCareDraw K) :=
  LongTermCareDraw.start prepared.plan uniform prepared.currentYear prepared.birthYear prepared.age

/-- Up to the end of the observation year nothing is known of the household's income. -/
theorem careAt_before {year : ℕ} (h : year ≤ prepared.observationYear) :
    (stateAt log prepared uniform returns year).longTermCare = careStart prepared uniform := by
  induction year with
  | zero => rfl
  | succ year ih =>
    have hyoung : prepared.currentAge year < ltcObservationAge := by
      rw [PreparedPlan.observationYear] at h
      rw [PreparedPlan.currentAge]
      omega
    rw [stateAt_succ, ProjectionState.after, ih (Nat.le_of_succ_le h)]
    simp only [LongTermCareDraw.observe_young _ hyoung]
    exact Option.map_id'

/-- From the end of the observation year on the draw keeps the quintile seen there. -/
theorem careAt_after : ∃ quintile, ∀ year, prepared.observationYear < year →
    (stateAt log prepared uniform returns year).longTermCare
      = (careStart prepared uniform).map (·.observed quintile) := by
  have hbefore := careAt_before log prepared uniform returns (le_refl prepared.observationYear)
  have hold : ltcObservationAge ≤ prepared.currentAge prepared.observationYear := by
    rw [PreparedPlan.currentAge, PreparedPlan.observationYear]
    omega
  cases hstart : careStart prepared uniform with
  | none =>
    refine ⟨.second, fun year h => ?_⟩
    induction year, h using Nat.le_induction with
    | base =>
      rw [stateAt_succ, ProjectionState.after, hbefore, hstart]
      rfl
    | succ year _ ih =>
      rw [stateAt_succ, ProjectionState.after, ih]
      rfl
  | some draw =>
    have hnone := LongTermCareDraw.start_unobserved draw hstart
    obtain ⟨quintile, hquintile⟩ := draw.observe_old hnone hold
      (totalBalance (outcomeAt log prepared uniform returns prepared.observationYear).accounts)
      (if prepared.observationYear = 0 then
        (outcomeAt log prepared uniform returns prepared.observationYear).income
          / prepared.remainingYearFraction
      else (outcomeAt log prepared uniform returns prepared.observationYear).income)
    refine ⟨quintile, fun year h => ?_⟩
    induction year, h using Nat.le_induction with
    | base =>
      rw [stateAt_succ, ProjectionState.after, hbefore, hstart]
      exact congrArg some hquintile
    | succ year _ ih =>
      rw [stateAt_succ, ProjectionState.after, ih]
      exact congrArg some (draw.observe_observed quintile _ _ _)

/-- Only a retired year is charged. -/
theorem outcomeAt_longTermCareCost (year : ℕ) :
    (outcomeAt log prepared uniform returns year).longTermCareCost
      = if prepared.retirementYear ≤ year then
          (stateAt log prepared uniform returns year).longTermCare.elim 0
            (·.costForYear log year prepared.totalYears)
        else 0 := by
  rw [outcomeAt, yearOutcome]
  by_cases h : prepared.isRetired year = true
  · rw [if_pos h, if_pos ((prepared.isRetired_iff year).mp h)]
    rfl
  · rw [if_neg h, if_neg (mt (prepared.isRetired_iff year).mpr h)]
    rfl

end Run

/-! ## Installments -/

variable [IsStrictOrderedRing K]

/-- The years of an episode a path of `totalYears` has room for. -/
def LongTermCareDraw.duration (draw : LongTermCareDraw K) (episode : LtcEpisode K)
    (totalYears : ℕ) : K :=
  min (min episode.years (totalYears : K)) draw.maximumDurationYears

/-- An installment covers a unit step of the ramp that starts with the episode. -/
theorem LongTermCareDraw.costForYear_eq (log : NaturalLog K) {draw : LongTermCareDraw K}
    {quintile : IncomeQuintile} (hquintile : draw.quintile = some quintile)
    {episode : LtcEpisode K} (hepisode : drawEpisode log quintile draw.uniform = some episode)
    {year totalYears : ℕ} (hyear : year < totalYears)
    (hduration : 0 ≤ draw.duration episode totalYears) :
    draw.costForYear log year totalYears
      = episode.lifetimeCost2020 * draw.priceScale / draw.duration episode totalYears
        * (ramp (totalYears - draw.duration episode totalYears) (year + 1)
          - ramp (totalYears - draw.duration episode totalYears) year) := by
  have hbind : draw.quintile.bind (drawEpisode log · draw.uniform) = some episode := by
    rw [hquintile, Option.bind_some, hepisode]
  have hend : min ((year : K) + 1) totalYears = year + 1 :=
    min_eq_left (by exact_mod_cast hyear)
  have hfold : min (min episode.years (totalYears : K)) draw.maximumDurationYears
      = draw.duration episode totalYears := rfl
  rw [ramp_unit_step, LongTermCareDraw.costForYear, hbind]
  simp only [hfold, hend]
  split
  · rename_i hle
    rw [le_antisymm hle hduration, div_zero, zero_mul]
  · ring

section Charge

variable [FloorRing K] (log : NaturalLog K) {prepared : PreparedPlan K} (uniform : Uniform K)
  (returns : ℕ → K × K)

omit [FloorRing K] [IsStrictOrderedRing K] in
theorem careStart_some {draw : LongTermCareDraw K} (h : careStart prepared uniform = some draw) :
    draw.uniform = uniform ∧ draw.maximumDurationYears
        = ((prepared.plan.profile.lifeExpectancy - max prepared.age ltcObservationAge : ℕ) : K) ∧
      ltcObservationAge < prepared.plan.profile.lifeExpectancy := by
  simp only [careStart, LongTermCareDraw.start] at h
  split_ifs at h with hoff hhorizon <;> cases h <;> exact ⟨rfl, rfl, not_le.mp hhorizon⟩

omit [FloorRing K] in
/-- The observation comes before any year of the episode. -/
theorem duration_le (h : Prepared prepared) {draw : LongTermCareDraw K}
    (hstart : careStart prepared uniform = some draw) (episode : LtcEpisode K) :
    draw.duration episode prepared.totalYears
      ≤ (prepared.totalYears : K) - ((prepared.observationYear + 1 : ℕ) : K) := by
  obtain ⟨-, hmaximum, hhorizon⟩ := careStart_some uniform hstart
  have hyears : prepared.plan.profile.lifeExpectancy - max prepared.age ltcObservationAge
      + (prepared.observationYear + 1) ≤ prepared.totalYears := by
    have hage := h.age_lt
    rw [h.totalYears_eq, PreparedPlan.observationYear]
    omega
  refine (min_le_right _ _).trans ?_
  rw [hmaximum, le_sub_iff_add_le]
  exact_mod_cast hyears

omit [FloorRing K] in
theorem duration_nonneg {draw : LongTermCareDraw K}
    (hstart : careStart prepared uniform = some draw) {quintile : IncomeQuintile}
    {episode : LtcEpisode K} (hepisode : drawEpisode log quintile uniform = some episode) :
    0 ≤ draw.duration episode prepared.totalYears := by
  have hyears : 0 ≤ episode.years := by
    rcases drawEpisode_pos log hepisode with ⟨hpos, -⟩ | ⟨hzero, -⟩
    · exact hpos.le
    · exact hzero.ge
  refine le_min (le_min hyears (Nat.cast_nonneg _)) ?_
  rw [(careStart_some uniform hstart).2.1]
  exact Nat.cast_nonneg _

/-- What a modeled year is charged: its step of the episode, once retired. -/
theorem careCost_eq (h : Prepared prepared) {draw : LongTermCareDraw K}
    (hstart : careStart prepared uniform = some draw) {quintile : IncomeQuintile}
    (hafter : ∀ year, prepared.observationYear < year →
      (stateAt log prepared uniform returns year).longTermCare = some (draw.observed quintile))
    {episode : LtcEpisode K} (hepisode : drawEpisode log quintile uniform = some episode)
    {year : ℕ} (hyear : year < prepared.totalYears) :
    (outcomeAt log prepared uniform returns year).longTermCareCost
      = episode.lifetimeCost2020 * draw.priceScale / draw.duration episode prepared.totalYears
        * (if prepared.retirementYear ≤ year then
            ramp (prepared.totalYears - draw.duration episode prepared.totalYears) ((year : K) + 1)
              - ramp (prepared.totalYears - draw.duration episode prepared.totalYears) year
          else 0) := by
  have hduration := duration_nonneg log uniform hstart hepisode
  rw [outcomeAt_longTermCareCost]
  split
  swap
  · rw [mul_zero]
  by_cases hobserved : prepared.observationYear < year
  · rw [hafter year hobserved, Option.elim_some]
    have hquintile : (draw.observed quintile).quintile = some quintile := rfl
    exact LongTermCareDraw.costForYear_eq log hquintile
      (by rwa [LongTermCareDraw.observed, (careStart_some uniform hstart).1]) hyear hduration
  · have hearly : ((year : K) + 1) ≤ ((prepared.observationYear + 1 : ℕ) : K) := by
      exact_mod_cast Nat.succ_le_succ (not_lt.mp hobserved)
    have hepisodeStart := duration_le uniform h hstart episode
    rw [careAt_before log prepared uniform returns (not_lt.mp hobserved), hstart,
      ramp_of_le (by linarith), ramp_of_le (by linarith), sub_self, mul_zero]
    simp only [Option.elim_some, LongTermCareDraw.costForYear,
      LongTermCareDraw.start_unobserved draw hstart, Option.bind_none]

/-- What a whole path is charged: the part of the episode in its retired years. -/
theorem careCost_sum (h : Prepared prepared) {draw : LongTermCareDraw K}
    (hstart : careStart prepared uniform = some draw) {quintile : IncomeQuintile}
    (hafter : ∀ year, prepared.observationYear < year →
      (stateAt log prepared uniform returns year).longTermCare = some (draw.observed quintile))
    {episode : LtcEpisode K} (hepisode : drawEpisode log quintile uniform = some episode) :
    ∑ year ∈ Finset.range prepared.totalYears,
        (outcomeAt log prepared uniform returns year).longTermCareCost
      = episode.lifetimeCost2020 * draw.priceScale / draw.duration episode prepared.totalYears
        * (draw.duration episode prepared.totalYears
          - ramp (prepared.totalYears - draw.duration episode prepared.totalYears)
            prepared.retirementYear) := by
  have hretires : prepared.retirementYear ≤ prepared.totalYears := by
    have hlife := h.plan_valid.lifeExpectancy_gt
    rw [h.totalYears_eq, PreparedPlan.retirementYear]
    omega
  rw [Finset.sum_congr rfl fun year hyear => careCost_eq log uniform returns h hstart hafter
    hepisode (Finset.mem_range.mp hyear), ← Finset.mul_sum, sum_unit_steps _ hretires,
    ramp_of_ge (by linarith [duration_nonneg log uniform hstart hepisode]), sub_sub_cancel]

omit [FloorRing K] in
theorem careStart_priceScale_pos (h : Prepared prepared) {draw : LongTermCareDraw K}
    (hstart : careStart prepared uniform = some draw) : 0 < draw.priceScale := by
  obtain ⟨-, -, -, hgrowth, -⟩ := (RetirementHealthcare.isValid_iff _).mp h.plan_valid.healthcare
  have hbase : (0 : K) < 1 + prepared.plan.profile.retirementHealthcare.realGrowthRate := by
    linarith
  have hprice : (0 : K) < (priceLevelRatio ltcTableDollarYear prepared.currentYear : K) := by
    exact_mod_cast priceLevelRatio_pos _ _
  have hmultiplier : 0 < prepared.plan.profile.longTermCare.costMultiplier := by
    linarith [h.plan_valid.costMultiplier_mem.1]
  have hexposure := remainingLtcExposure_pos (K := K) h.age_lt
    (careStart_some uniform hstart).2.2
  have hscale (years : ℤ) := mul_pos (mul_pos (mul_pos hprice (zpow_pos hbase years))
    hmultiplier) hexposure
  simp only [careStart, LongTermCareDraw.start] at hstart
  split_ifs at hstart <;> cases hstart <;> exact hscale _

/-- The retired years pay for the whole episode exactly when it fits in them. -/
theorem careCost_full_iff (h : Prepared prepared) {draw : LongTermCareDraw K}
    (hstart : careStart prepared uniform = some draw) {quintile : IncomeQuintile}
    {episode : LtcEpisode K} (hepisode : drawEpisode log quintile uniform = some episode) :
    episode.lifetimeCost2020 * draw.priceScale / draw.duration episode prepared.totalYears
        * (draw.duration episode prepared.totalYears
          - ramp (prepared.totalYears - draw.duration episode prepared.totalYears)
            prepared.retirementYear)
        = episode.lifetimeCost2020 * draw.priceScale ↔
      draw.duration episode prepared.totalYears
        ≤ (prepared.totalYears : K) - prepared.retirementYear := by
  have hduration := duration_nonneg log uniform hstart hepisode
  have hscale := careStart_priceScale_pos uniform h hstart
  have hlife := h.plan_valid.lifeExpectancy_gt
  have hage := h.age_lt
  obtain ⟨-, hmaximum, hhorizon⟩ := careStart_some uniform hstart
  rcases drawEpisode_pos log hepisode with ⟨hyears, hcost⟩ | ⟨hyears, hcost⟩
  · have hpos : 0 < draw.duration episode prepared.totalYears := by
      refine lt_min (lt_min hyears ?_) ?_
      · exact Nat.cast_pos.mpr (by rw [h.totalYears_eq]; omega)
      · rw [hmaximum]
        exact Nat.cast_pos.mpr (by omega)
    have hratio : 0 < episode.lifetimeCost2020 * draw.priceScale
        / draw.duration episode prepared.totalYears := div_pos (mul_pos hcost hscale) hpos
    rw [mul_sub, div_mul_cancel₀ _ hpos.ne', sub_eq_self, mul_eq_zero, or_iff_right hratio.ne']
    constructor
    · intro hzero
      have hle := le_max_left ((prepared.retirementYear : K)
        - (prepared.totalYears - draw.duration episode prepared.totalYears)) 0
      rw [ramp] at hzero
      linarith
    · exact fun hfits => ramp_of_le (by linarith)
  · have hzero : draw.duration episode prepared.totalYears = 0 :=
      le_antisymm ((min_le_left _ _).trans ((min_le_left _ _).trans hyears.le)) hduration
    have hretires : ((prepared.retirementYear : ℕ) : K) ≤ prepared.totalYears := by
      refine Nat.cast_le.mpr ?_
      rw [h.totalYears_eq, PreparedPlan.retirementYear]
      omega
    rw [hcost, zero_mul, zero_div, zero_mul, hzero]
    exact iff_of_true rfl (by linarith)

/-- Over the whole path of every accepted plan with the care model on and a horizon past
65, one quintile is observed; no year up to the observation is charged; and for every
episode drawn at that quintile the years are charged its whole cost exactly when it fits
in the plan's retired years. -/
theorem careCost_charged_iff {plan : RetirementPlan K} (hplan : validatePlan plan = .ok ())
    (hnew : PreparedPlan.new plan = .ok prepared)
    (hversion : ltcModelSchemaVersion ≤ plan.schemaVersion)
    (henabled : plan.profile.longTermCare.enabled = true)
    (hhorizon : ltcObservationAge < plan.profile.lifeExpectancy) :
    ∃ draw quintile,
      (stateAt log prepared uniform returns prepared.totalYears).longTermCare = some draw ∧
      draw.quintile = some quintile ∧
      ∀ episode, drawEpisode log quintile uniform = some episode →
        ((∀ year ≤ prepared.observationYear,
            (outcomeAt log prepared uniform returns year).longTermCareCost = 0) ∧
          ∑ year ∈ Finset.range prepared.totalYears,
              (outcomeAt log prepared uniform returns year).longTermCareCost
            = episode.lifetimeCost2020 * draw.priceScale ↔
        draw.duration episode prepared.totalYears
          ≤ (prepared.totalYears : K) - prepared.retirementYear) := by
  obtain ⟨h, rfl⟩ := prepared_of_new hplan hnew
  obtain ⟨start, hstart⟩ : ∃ start, careStart prepared uniform = some start := by
    have hon : ¬(prepared.plan.schemaVersion < ltcModelSchemaVersion ∨
        prepared.plan.profile.longTermCare.enabled = false) := by
      rintro (hold | hoff)
      · exact absurd hversion (not_le.mpr hold)
      · rw [henabled] at hoff
        cases hoff
    simp only [careStart, LongTermCareDraw.start, if_neg hon, if_neg (not_le.mpr hhorizon)]
    exact ⟨_, rfl⟩
  obtain ⟨quintile, hafter⟩ := careAt_after log prepared uniform returns
  simp only [hstart, Option.map_some] at hafter
  have hobserved : prepared.observationYear < prepared.totalYears := by
    have hage := h.age_lt
    rw [h.totalYears_eq, PreparedPlan.observationYear]
    omega
  refine ⟨start.observed quintile, quintile, hafter _ hobserved, rfl, fun episode hepisode => ?_⟩
  have hearly (year : ℕ) (hyear : year ≤ prepared.observationYear) :
      (outcomeAt log prepared uniform returns year).longTermCareCost = 0 := by
    rw [outcomeAt_longTermCareCost, careAt_before log prepared uniform returns hyear, hstart]
    split
    · simp only [Option.elim_some, LongTermCareDraw.costForYear,
        LongTermCareDraw.start_unobserved start hstart, Option.bind_none]
    · rfl
  rw [careCost_sum log uniform returns h hstart hafter hepisode]
  exact (and_iff_right hearly).trans (careCost_full_iff log uniform h hstart hepisode)

end Charge

/-! ## A household that works into the episode -/

/-- A saver of 73 who retires at 77 and plans through 78. -/
def lateRetirementPlan : RetirementPlan ℚ where
  schemaVersion := 8
  profile :=
    { birthDate := some (newYear 1952)
      state := .TX
      filingStatus := .single
      retirementAge := 77
      currentSalary := 0
      salaryGrowthRate := 0
      currentSpending := 0
      workingSpendingGrowthRate := 0
      retirementSpending := 0
      retirementSpendingGrowthRate := 0
      lifeExpectancy := 78
      retirementHealthcare := ⟨0, 0, 0, 0⟩
      longTermCare := ⟨true, 1⟩
      asOfDate := some (newYear 2025) }
  accounts := [⟨.taxable, 10000000, ⟨1, 0⟩, false⟩]
  socialSecurity := ⟨false, none, 70, false⟩
  assumptions :=
    { simulationModel := .historical
      randomSeed := 1
      taxableGainRatio := 0
      hsaEligible := false
      useBackdoorRoth := false
      rothConversion := ⟨false, .bracket12⟩
      magiAwareWithdrawals := false
      terminalTaxRate := 0 }

/-- `lateRetirementPlan`, prepared. -/
def lateRetirementPrepared : PreparedPlan ℚ :=
  PreparedPlan.onDates lateRetirementPlan (newYear 2025) 1952 73

theorem lateRetirementPlan_valid : validatePlan lateRetirementPlan = .ok () := by decide +kernel

theorem lateRetirementPlan_prepared :
    PreparedPlan.new lateRetirementPlan = .ok lateRetirementPrepared := rfl

/-- A draw of two and a half years of care. -/
def longEpisode : Uniform ℚ := ⟨0.888, by norm_num, by norm_num⟩

/-- A market that stands still. -/
def flatMarket (_ : ℕ) : ℚ × ℚ := (0, 0)

theorem careCost_charged_iff_lateRetirement : ∃ draw quintile,
    (stateAt NaturalLog.flat lateRetirementPrepared longEpisode flatMarket
      lateRetirementPrepared.totalYears).longTermCare = some draw ∧
    draw.quintile = some quintile ∧
    ∀ episode, drawEpisode NaturalLog.flat quintile longEpisode = some episode →
      ((∀ year ≤ lateRetirementPrepared.observationYear,
          (outcomeAt NaturalLog.flat lateRetirementPrepared longEpisode flatMarket
            year).longTermCareCost = 0) ∧
        ∑ year ∈ Finset.range lateRetirementPrepared.totalYears,
            (outcomeAt NaturalLog.flat lateRetirementPrepared longEpisode flatMarket
              year).longTermCareCost
          = episode.lifetimeCost2020 * draw.priceScale ↔
      draw.duration episode lateRetirementPrepared.totalYears
        ≤ (lateRetirementPrepared.totalYears : ℚ) - lateRetirementPrepared.retirementYear) :=
  careCost_charged_iff NaturalLog.flat longEpisode flatMarket lateRetirementPlan_valid
    lateRetirementPlan_prepared (by decide) rfl (by decide)

/-- The working year before retirement falls inside the episode and is never charged. -/
theorem lateRetirement_undercharged :
    (stateAt NaturalLog.flat lateRetirementPrepared longEpisode flatMarket 6).longTermCare.any
        (fun draw => decide (draw.quintile = some .highest)) = true ∧
      (drawEpisode NaturalLog.flat .highest longEpisode).any (fun episode =>
        (stateAt NaturalLog.flat lateRetirementPrepared longEpisode flatMarket 6).longTermCare.any
          fun draw => decide
            (((List.range 6).map fun year =>
                (outcomeAt NaturalLog.flat lateRetirementPrepared longEpisode flatMarket
                  year).longTermCareCost).sum
              < episode.lifetimeCost2020 * draw.priceScale)) = true := by
  decide +kernel

end RetirementPlanner.Engine
