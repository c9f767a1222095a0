import RetirementPlanner.Engine.Operations
import RetirementPlanner.Proof.Aggregation
import RetirementPlanner.Proof.CareCost
import RetirementPlanner.Proof.MagiBand

/-!
# No operation of a function fails

Each function's partial operations are safe, under what the validator gives of the plan and
what the functions before it leave. Most guards stand in the source next to the operation;
the ones that do not are the validator's: a rate above minus one (`growthBase_ne_zero`), a
life expectancy past the current age (`newOperations_safe`), a block of at least one year
(`nextOperations_safe`), and a retirement age that a retired year has reached
(`baseSpendingOperations_safe`). Required distributions start at 72, where their table does
(`calculateRmdOperations_safe`).
-/

namespace RetirementPlanner.Engine

open Operations

variable {K : Type*} [Field K] [LinearOrder K] [IsStrictOrderedRing K]

/-! ## The prepared plan -/

theorem toBucketsOperations_safe (accounts : List (Account K)) :
    Safe (toBucketsOperations accounts) := by
  refine safe_flatMap.mpr fun accountType _ => safe_ite.mpr ⟨fun _ => safe_nil, fun hmembers => ?_⟩
  refine safe_ite.mpr ⟨fun hbalance => ?_, fun _ => ?_⟩
  · exact safe_cons.mpr ⟨hbalance.ne', safe_nil⟩
  · exact safe_cons.mpr
      ⟨Nat.cast_ne_zero.mpr (List.length_pos_of_ne_nil hmembers).ne', safe_nil⟩

theorem newOperations_safe {plan : RetirementPlan K} (hplan : validatePlan plan = .ok ()) :
    Safe (PreparedPlan.newOperations plan) := by
  rw [PreparedPlan.newOperations]
  split
  · exact safe_nil
  · rename_i prepared hnew
    have hnewYear : hasNewYear prepared.currentYear := by
      obtain ⟨hlow, hhigh⟩ := currentYear_mem hplan hnew
      rw [hasNewYear, decide_eq_true_iff]
      omega
    obtain ⟨h, rfl⟩ := prepared_of_new hplan hnew
    have hdays : (if isLeapYear prepared.currentYear then 366 else 365 : K) ≠ 0 := by
      split <;> norm_num
    simp only [safe_append, safe_cons, safe_nil, and_true]
    exact ⟨⟨hnewYear, hdays, h.age_lt.le⟩, toBucketsOperations_safe _⟩

/-! ## Market returns -/

theorem length_historicalReturns_pos : 0 < historicalReturns.length := by decide

theorem sampleOperations_safe {entry : AnnualMarketReturn} (h : entry ∈ historicalReturns) :
    Safe (entry.sampleOperations : List (Operation K)) := by
  have hlevel : (0 : K) < 1 + (entry.inflationRate : K) := by
    have hrate : (-1 : K) < (entry.inflationRate : K) := by
      exact_mod_cast inflationRate_gt entry h
    linarith
  exact safe_cons.mpr ⟨hlevel.ne', safe_nil⟩

section Returns

variable (source : RandomSource K)

theorem sampleHistoricalReturnsOperations_safe (rng : source.Rng) :
    Safe (sampleHistoricalReturnsOperations source rng) := by
  simp only [sampleHistoricalReturnsOperations, safe_append, safe_cons, safe_nil, and_true]
  exact ⟨⟨length_historicalReturns_pos.ne', (source.genRange rng).1.isLt⟩,
    sampleOperations_safe (List.get_mem _ _)⟩

theorem sampleBlockOperations_safe (rng : source.Rng) (blockSize : ℕ) :
    Safe (sampleBlockOperations source rng blockSize) := by
  simp only [sampleBlockOperations, safe_cons, safe_flatMap, safe_append, safe_elim, safe_nil,
    and_true]
  have hlength := length_historicalReturns_pos
  exact ⟨hlength.ne', fun offset _ => ⟨⟨hlength.ne', Nat.mod_lt _ hlength⟩,
    fun entry hentry => sampleOperations_safe (List.mem_of_getElem? hentry)⟩⟩

omit [IsStrictOrderedRing K] in
/-- A block has a year for each it was asked for, up to the length of the table. -/
theorem length_sampleBlock (rng : source.Rng) (blockSize : ℕ) :
    (sampleBlock source rng blockSize).1.length = min blockSize historicalReturns.length := by
  refine (filterMap_length fun offset _ => ?_).trans List.length_range
  rw [List.getElem?_eq_getElem (Nat.mod_lt _ length_historicalReturns_pos)]
  exact ⟨_, rfl⟩

variable {source}

/-- A generator that never asks for an empty block. -/
def MarketReturnsGenerator.Valid : MarketReturnsGenerator source → Prop
  | .blockBootstrap _ blockSize _ _ => 1 ≤ blockSize
  | _ => True

omit [IsStrictOrderedRing K] in
theorem next_valid {generator : MarketReturnsGenerator source} (h : generator.Valid) :
    (generator.next source).2.Valid := by
  cases generator with
  | singleBootstrap | parametric => trivial
  | blockBootstrap rng blockSize currentBlock blockIndex =>
    simp only [MarketReturnsGenerator.next]
    split <;> exact h

theorem nextOperations_safe {generator : MarketReturnsGenerator source} (h : generator.Valid) :
    Safe (generator.nextOperations source) := by
  cases generator with
  | singleBootstrap rng => exact sampleHistoricalReturnsOperations_safe source rng
  | parametric => exact safe_nil
  | blockBootstrap rng blockSize currentBlock blockIndex =>
    refine safe_ite.mpr ⟨fun _ => ?_, fun hindex => ?_⟩
    · refine safe_append.mpr ⟨sampleBlockOperations_safe source rng blockSize, ?_⟩
      refine safe_cons.mpr ⟨?_, safe_nil⟩
      show 0 < (sampleBlock source rng blockSize).1.length
      rw [length_sampleBlock]
      exact lt_min h length_historicalReturns_pos
    · exact safe_cons.mpr ⟨not_le.mp hindex, safe_nil⟩

variable (source)

theorem createOperations_safe (plan : RetirementPlan K) (config : ProjectionConfig) :
    Safe (createMarketReturnsGeneratorOperations source plan config) := by
  rw [createMarketReturnsGeneratorOperations]
  split
  · exact safe_nil
  · exact safe_ite.mpr ⟨fun _ => sampleBlockOperations_safe source _ _, fun _ => safe_nil⟩

omit [IsStrictOrderedRing K] in
theorem generatorAt_valid (plan : RetirementPlan K) {config : ProjectionConfig}
    (h : 1 ≤ config.blockSize) (year : ℕ) : (generatorAt source plan config year).Valid := by
  induction year with
  | zero =>
    rw [generatorAt, createMarketReturnsGenerator]
    split
    · trivial
    · split
      · exact h
      · trivial
  | succ year ih => exact next_valid ih

end Returns

/-! ## Long-term care episodes -/

/-- A rate the validator accepts leaves growth something to work on. -/
theorem growthBase_ne_zero {rate : K} (h : -0.1 ≤ rate) : 1 + rate ≠ 0 := by
  have hpos : 0 < 1 + rate := by linarith
  exact hpos.ne'

theorem conditionalCumulativeOperations_safe {closedPercent : List ℚ} {topPercent : ℚ}
    (h : closedPercent.sum + topPercent ≠ 0) :
    Safe (conditionalCumulativeOperations closedPercent topPercent : List (Operation K)) :=
  safe_cons.mpr ⟨Rat.cast_ne_zero.mpr h, safe_nil⟩

theorem spendingRow_ne_zero (quintile : IncomeQuintile) :
    (spendingRow quintile).noSpendingPercent + (spendingRow quintile).closedPercent.sum
        + (spendingRow quintile).topPercent ≠ 0 ∧
      (spendingRow quintile).closedPercent.sum + (spendingRow quintile).topPercent ≠ 0 ∧
      (spendingRow quintile).topPercent ≠ 0 := by
  cases quintile <;> decide +kernel

theorem careModelsOperations_safe : Safe (careModelsOperations : List (Operation K)) := by
  refine safe_append.mpr ⟨safe_flatMap.mpr fun quintile _ => ?_, ?_⟩
  · obtain ⟨hrow, hcare, htop⟩ := spendingRow_ne_zero quintile
    refine safe_append.mpr ⟨safe_append.mpr ⟨?_, conditionalCumulativeOperations_safe hcare⟩, ?_⟩
    · exact safe_cons.mpr ⟨Rat.cast_ne_zero.mpr hrow, safe_nil⟩
    · exact safe_cons.mpr ⟨Rat.cast_ne_zero.mpr (div_ne_zero htop hrow), safe_nil⟩
  · exact conditionalCumulativeOperations_safe (by decide +kernel)

omit [IsStrictOrderedRing K] in
theorem invertClosedBucketsOperations_safe (quantile : K) (lowerCumulative : ℚ)
    (cumulative : List ℚ) (buckets : List (ℚ × ℚ)) :
    Safe (invertClosedBucketsOperations quantile lowerCumulative cumulative buckets) := by
  induction cumulative generalizing lowerCumulative buckets with
  | nil => exact safe_nil
  | cons upperCumulative cumulative ih =>
    cases buckets with
    | nil => exact safe_nil
    | cons bucket buckets =>
      refine safe_ite.mpr ⟨fun _ => safe_ite.mpr ⟨fun hmass => ?_, fun _ => safe_nil⟩,
        fun _ => ih upperCumulative buckets⟩
      exact safe_cons.mpr ⟨hmass.ne', safe_nil⟩

theorem quantileOperations_safe (quantile : K) {cumulative : List ℚ} {buckets : List (ℚ × ℚ)}
    (hpos : 1 ≤ buckets.length) (hlength : cumulative.length = buckets.length)
    (htail : cumulative.getLastD 0 < 1) :
    Safe (quantileOperations quantile cumulative buckets) := by
  refine safe_append.mpr ⟨invertClosedBucketsOperations_safe quantile 0 cumulative buckets, ?_⟩
  split
  · exact safe_nil
  · have hindex : buckets.length - 1 < cumulative.length := by omega
    simp only [tailPositionOperations, safe_cons, safe_nil, and_true]
    exact ⟨hpos, hindex, Rat.cast_ne_zero.mpr (sub_pos.mpr htail).ne'⟩

theorem spendingForOperations_safe (quintile : IncomeQuintile) (quantile : K) :
    Safe (spendingForOperations (spendingModel quintile) quantile) := by
  have hlength : (spendingModel quintile).cumulative.length = spendingBuckets.length := by
    cases quintile <;> decide +kernel
  exact quantileOperations_safe quantile (by decide) hlength (spendingModel_facts quintile).2.2.2

theorem yearsForOperations_safe (quantile : K) : Safe (yearsForOperations quantile) :=
  quantileOperations_safe quantile (by decide) (by decide +kernel) (by decide +kernel)

theorem drawEpisodeOperations_safe (quintile : IncomeQuintile) (u : Uniform K) :
    Safe (drawEpisodeOperations quintile u) := by
  have hindex : quintile.index < incomeQuintiles.length := by cases quintile <;> decide
  have hcare : ((1 - (spendingModel quintile).noSpendingProbability : ℚ) : K) ≠ 0 :=
    Rat.cast_ne_zero.mpr (sub_pos.mpr (spendingModel_facts quintile).2.1).ne'
  simp only [drawEpisodeOperations, safe_cons, safe_append, safe_ite, safe_nil, and_true]
  exact ⟨⟨hindex, careModelsOperations_safe⟩, fun _ => trivial, fun _ =>
    ⟨⟨hcare, spendingForOperations_safe quintile _⟩, yearsForOperations_safe _⟩⟩

theorem annuityFactorOperations_safe {termYears : ℕ} (h : termYears ≠ 0) :
    Safe (annuityFactorOperations termYears : List (Operation K)) := by
  have hbase : (1 : K) < 1 + ltcAnnuityRealRate := by norm_num [ltcAnnuityRealRate]
  have hpower : (1 + ltcAnnuityRealRate : K) ^ (-(termYears : ℤ)) < 1 := by
    rw [zpow_neg, zpow_natCast]
    exact inv_lt_one_of_one_lt₀ (one_lt_pow₀ hbase h)
  simp only [annuityFactorOperations, safe_cons, safe_nil, and_true]
  exact ⟨.inl (zero_lt_one.trans hbase).ne', (sub_pos.mpr hpower).ne'⟩

theorem remainingLtcExposureOperations_safe (currentAge lifeExpectancy : ℕ) :
    Safe (remainingLtcExposureOperations currentAge lifeExpectancy : List (Operation K)) := by
  refine safe_ite.mpr ⟨fun _ => safe_nil, fun _ => safe_ite.mpr ⟨fun _ => safe_nil, fun h => ?_⟩⟩
  exact safe_cons.mpr ⟨Nat.cast_ne_zero.mpr h, safe_nil⟩

theorem priceLevelRatioOperations_safe (fromYear toYear : ℤ) :
    Safe (priceLevelRatioOperations fromYear toYear : List (Operation K)) := by
  refine safe_ite.mpr ⟨fun _ => safe_nil, fun _ => safe_cons.mpr ⟨?_, safe_nil⟩⟩
  exact Rat.cast_ne_zero.mpr (priceLevelRatio_pos toYear fromYear).ne'

theorem startOperations_safe {plan : RetirementPlan K} (hplan : ValidPlan plan)
    (baseYear birthYear : ℤ) (startAge : ℕ) :
    Safe (LongTermCareDraw.startOperations plan baseYear birthYear startAge) := by
  have hrate := ((RetirementHealthcare.isValid_iff _).mp hplan.healthcare).2.2.2.1
  refine safe_ite.mpr ⟨fun _ => safe_nil, fun _ => safe_ite.mpr ⟨fun _ => safe_nil, fun h => ?_⟩⟩
  simp only [safe_append, safe_cons, safe_nil, and_true]
  refine ⟨⟨⟨⟨(not_le.mp h).le, .inl (growthBase_ne_zero hrate)⟩,
    priceLevelRatioOperations_safe _ _⟩, remainingLtcExposureOperations_safe _ _⟩,
    annuityFactorOperations_safe ?_⟩
  exact (lt_max_of_lt_right (by decide)).ne'

omit [IsStrictOrderedRing K] in
theorem observeOperations_safe {draw : LongTermCareDraw K} (h : 0 < draw.povertyLevel)
    (currentAge : ℕ) : Safe (draw.observeOperations currentAge) :=
  safe_ite.mpr ⟨fun _ => safe_nil, fun _ => safe_cons.mpr ⟨h.ne', safe_nil⟩⟩

theorem costForYearOperations_safe (log : NaturalLog K) (draw : LongTermCareDraw K)
    (totalYears : ℕ) : Safe (draw.costForYearOperations log totalYears) := by
  refine safe_elim.mpr fun quintile _ => safe_append.mpr
    ⟨drawEpisodeOperations_safe quintile draw.uniform, safe_elim.mpr fun episode _ => ?_⟩
  refine safe_ite.mpr ⟨fun _ => safe_nil, fun h => safe_cons.mpr ⟨?_, safe_nil⟩⟩
  exact (not_le.mp h).ne'

/-! ## Required distributions and the Roth ledger -/

/-- From 72 on every age has its factor: the last one covers the ages past the table. -/
theorem exists_rmdFactor {age : ℕ} (h : 72 ≤ age) :
    ∃ factor, rmdFactor (min age 120) = some factor ∧ 0 < factor := by
  have hlt : min age 120 - 72 < rmdUniformLifetimeTable.length := by
    have hlength : rmdUniformLifetimeTable.length = 49 := by decide
    omega
  refine ⟨rmdUniformLifetimeTable[min age 120 - 72], ?_, rmdFactor_pos _ (List.getElem_mem hlt)⟩
  rw [rmdFactor, if_neg (by omega), List.getElem?_eq_getElem hlt]

theorem calculateRmdOperations_safe {age applicableAge : ℕ} (h : 72 ≤ applicableAge) :
    Safe (calculateRmdOperations age applicableAge : List (Operation K)) := by
  refine safe_ite.mpr ⟨fun _ => safe_nil, fun hage => ?_⟩
  obtain ⟨factor, hfactor, hpos⟩ := exists_rmdFactor (h.trans (not_lt.mp hage))
  simp only [hfactor, safe_cons, safe_nil, and_true]
  exact ⟨rfl, Rat.cast_ne_zero.mpr hpos.ne'⟩

theorem getRmdStartAge_ge (birthYear : ℤ) : 72 ≤ getRmdStartAge birthYear := by
  rw [getRmdStartAge]
  split_ifs <;> omega

theorem requiredDistributionOperations_safe (currentAge : ℕ) (birthYear : ℤ) :
    Safe (requiredDistributionOperations currentAge (getRmdStartAge birthYear)
      : List (Operation K)) :=
  safe_ite.mpr ⟨fun _ => calculateRmdOperations_safe (getRmdStartAge_ge birthYear),
    fun _ => safe_nil⟩

omit [IsStrictOrderedRing K] in
theorem rothBasisAtStartOperations_safe (rothBasis : RothBasisState K) (currentAge : ℕ)
    (taxYear : ℤ) : Safe (rothBasisAtStartOperations rothBasis currentAge taxYear) := by
  refine safe_ite.mpr ⟨fun _ => safe_nil, fun _ => safe_ite.mpr ⟨fun _ => ?_, fun _ => safe_nil⟩⟩
  refine safe_ite.mpr ⟨fun _ => safe_nil, fun _ => safe_cons.mpr ⟨⟨Nat.zero_le _, ?_⟩, safe_nil⟩⟩
  exact (List.takeWhile_sublist _).length_le

/-! ## Tax and Social Security -/

theorem frozenThresholdOperations_safe (taxYear : ℤ) :
    Safe (frozenThresholdOperations taxYear : List (Operation K)) := by
  have hrate : (0 : K) < (longRunInflation : K) := by exact_mod_cast longRunInflation_pos
  have hbase : (0 : K) < 1 + (longRunInflation : K) := by linarith
  refine safe_ite.mpr ⟨fun _ => safe_nil, fun _ => ?_⟩
  simp only [safe_cons, safe_nil, and_true]
  exact ⟨Nat.cast_ne_zero.mpr length_historicalReturns_pos.ne', .inl hbase.ne',
    (zpow_pos hbase _).ne'⟩

theorem calculateTaxOperations_safe (household : Household) (taxYear : ℤ) :
    Safe (calculateTaxOperations household taxYear : List (Operation K)) := by
  simp only [calculateTaxOperations, safe_append, safe_cons, safe_nil, and_true]
  refine ⟨⟨?_, ?_⟩, frozenThresholdOperations_safe taxYear⟩
  · show (0 : K) ≤ getHsaContributionLimit household.primaryAge
    rw [getHsaContributionLimit]
    split <;> norm_num
  · show (0 : K) ≤ getK401ContributionLimit household.primaryAge
    rw [getK401ContributionLimit]
    split_ifs <;> norm_num

theorem socialSecurityBenefitOperations_safe {prepared : PreparedPlan K}
    (hgrowth : -0.1 ≤ prepared.plan.profile.salaryGrowthRate) (year : ℕ) :
    Safe (socialSecurityBenefitOperations prepared year) := by
  refine safe_ite.mpr ⟨fun _ => safe_ite.mpr ⟨fun _ => safe_nil, fun _ => ?_⟩, fun _ => safe_nil⟩
  refine safe_append.mpr ⟨safe_map.mpr fun age _ => ?_, safe_comparisons _⟩
  exact .inl (growthBase_ne_zero hgrowth)

/-! ## Healthcare -/

omit [IsStrictOrderedRing K] in
theorem applicablePercentOperations_safe (fplRatio lowerRatio : K)
    (bands : List (ApplicablePercentageBand K)) :
    Safe (applicablePercentOperations fplRatio lowerRatio bands) := by
  induction bands generalizing lowerRatio with
  | nil => exact safe_nil
  | cons band bands ih =>
    refine safe_ite.mpr ⟨fun _ => safe_ite.mpr ⟨fun hspan => ?_, fun _ => safe_nil⟩,
      fun _ => ih band.upperFplRatio⟩
    exact safe_cons.mpr ⟨hspan.ne', safe_nil⟩

theorem expectedPremiumContributionOperations_safe (magi : K) (householdSize : ℕ) :
    Safe (expectedPremiumContributionOperations magi householdSize) := by
  refine safe_append.mpr ⟨safe_cons.mpr ⟨federalPovertyLevel_pos.ne', safe_nil⟩,
    safe_ite.mpr ⟨fun _ => ?_, fun _ => safe_nil⟩⟩
  exact applicablePercentOperations_safe _ 0 applicablePercentageBands

theorem healthcareGrowthFactorOperations_safe {healthcare : RetirementHealthcare K}
    (h : -0.1 ≤ healthcare.realGrowthRate) (growthYears : ℕ) :
    Safe (healthcareGrowthFactorOperations healthcare growthYears) :=
  safe_cons.mpr ⟨.inl (growthBase_ne_zero h), safe_nil⟩

theorem healthcareCostForOperations_safe {healthcare : RetirementHealthcare K}
    (h : -0.1 ≤ healthcare.realGrowthRate) (age growthYears : ℕ)
    (incomeTest : Option (PremiumIncomeTest K)) :
    Safe (healthcareCostForOperations healthcare age growthYears incomeTest) := by
  refine safe_append.mpr ⟨healthcareGrowthFactorOperations_safe h growthYears,
    safe_elim.mpr fun test _ => safe_ite.mpr ⟨fun _ => safe_nil, fun _ => ?_⟩⟩
  exact safe_elim.mpr fun magi _ => expectedPremiumContributionOperations_safe magi _

/-! ## Withdrawals, deposits and conversions -/

omit [IsStrictOrderedRing K] in
theorem withdrawInOrderOperations_safe (accounts : List (Account K)) :
    Safe (withdrawInOrderOperations accounts) :=
  safe_scan (List.length_map _).ge

theorem executeOrderedWithdrawalsOperations_safe (accounts : List (Account K))
    (context : WithdrawalContext K) :
    Safe (executeOrderedWithdrawalsOperations accounts context) :=
  safe_append.mpr ⟨safe_append.mpr ⟨safe_scan (List.length_map _).ge,
    withdrawInOrderOperations_safe accounts⟩, frozenThresholdOperations_safe context.taxYear⟩

omit [IsStrictOrderedRing K] in
theorem depositToBucketOperations_safe (accounts : List (Account K)) (accountType : AccountType)
    (amount : K) : Safe (depositToBucketOperations accounts accountType amount) := by
  refine safe_ite.mpr ⟨fun _ => safe_nil, fun _ => ?_⟩
  split
  · exact safe_nil
  · exact safe_ite.mpr ⟨fun h => safe_cons.mpr ⟨h.ne', safe_nil⟩, fun _ => safe_nil⟩

omit [IsStrictOrderedRing K] in
theorem depositsOperations_safe (accounts : List (Account K)) (deposits : List (AccountType × K)) :
    Safe (depositsOperations accounts deposits) := by
  induction deposits generalizing accounts with
  | nil => exact safe_nil
  | cons deposit deposits ih =>
    exact safe_append.mpr ⟨depositToBucketOperations_safe accounts deposit.1 deposit.2, ih _⟩

theorem solveStepOperations_safe (b : SolveBracket K) (step : ℕ) :
    Safe (solveStepOperations b step) := by
  refine safe_ite.mpr ⟨fun _ => safe_nil, fun _ => safe_ite.mpr ⟨fun h => ?_, fun _ => safe_nil⟩⟩
  exact safe_cons.mpr ⟨(sub_pos.mpr h.2).ne', safe_nil⟩

theorem rothConversionForOperations_safe (input : RothConversionInput K) :
    Safe (rothConversionForOperations input) := by
  refine safe_ite.mpr ⟨fun _ => safe_nil, fun _ => safe_elim.mpr fun limit _ => ?_⟩
  refine safe_append.mpr ⟨frozenThresholdOperations_safe input.taxYear, ?_⟩
  exact safe_ite.mpr ⟨fun _ => safe_nil,
    fun _ => safe_flatMap.mpr fun step _ => solveStepOperations_safe _ step⟩

/-! ## Years -/

theorem cashFlowWithOperations_safe {c : WorkingContext K} (h : 0 < c.periodFraction) :
    Safe c.cashFlowWithOperations :=
  safe_append.mpr ⟨safe_cons.mpr ⟨h.ne', safe_nil⟩,
    calculateTaxOperations_safe c.household c.taxYear⟩

theorem shortfallLoopOperations_safe {c : WorkingContext K} (h : 0 < c.periodFraction)
    (passes : ℕ) (s : ShortfallState K) : Safe (c.shortfallLoopOperations passes s) := by
  induction passes generalizing s with
  | zero => exact safe_nil
  | succ passes ih =>
    refine safe_ite.mpr ⟨fun _ => safe_nil, fun _ => ?_⟩
    refine safe_append.mpr ⟨withdrawInOrderOperations_safe s.accounts, ?_⟩
    exact safe_ite.mpr ⟨fun _ => safe_nil,
      fun _ => safe_append.mpr ⟨cashFlowWithOperations_safe h, ih _⟩⟩

theorem workingYearOperations_safe {prepared : PreparedPlan K} (h : Prepared prepared)
    (returns : K × K) (year : ℕ) (accounts : List (Account K)) (rmdAmount : K) :
    Safe (workingYearOperations prepared returns year accounts rmdAmount) := by
  have hfraction : 0 < (workingContext prepared year).periodFraction := h.periodFraction_pos year
  simp only [workingYearOperations, safe_append, safe_cons, safe_ite, safe_nil, and_true]
  refine ⟨⟨⟨⟨?_, fun _ => ?_, fun _ => trivial⟩, cashFlowWithOperations_safe hfraction⟩,
    shortfallLoopOperations_safe hfraction _ _⟩, depositsOperations_safe _ _⟩
  · exact .inr (Int.natCast_nonneg year)
  · exact .inr (Int.natCast_nonneg year)

omit [IsStrictOrderedRing K] in
/-- A retired year has reached the retirement age, so the years since are not negative. -/
theorem baseSpendingOperations_safe {prepared : PreparedPlan K} {year : ℕ}
    (hretired : prepared.isRetired year = true) : Safe (baseSpendingOperations prepared year) := by
  have hreached := (prepared.isRetired_iff year).mp hretired
  refine safe_ite.mpr ⟨fun _ => ?_, fun _ => ?_⟩
  · simp only [safe_cons, safe_nil, and_true]
    exact ⟨hreached, .inr (Int.natCast_nonneg _)⟩
  · exact safe_cons.mpr ⟨.inr (Int.natCast_nonneg year), safe_nil⟩

theorem incomeTestOperations_safe {prepared : PreparedPlan K}
    (h : -0.1 ≤ prepared.plan.profile.retirementHealthcare.realGrowthRate) (year : ℕ)
    (magiByYear : List (YearMagi K)) (accounts : List (Account K)) :
    Safe (incomeTestOperations prepared year magiByYear accounts) := by
  refine safe_ite.mpr ⟨fun _ => safe_elim.mpr fun prior _ => ?_, fun _ => safe_nil⟩
  refine safe_ite.mpr ⟨fun _ => safe_nil, fun _ => safe_append.mpr ⟨?_, ?_⟩⟩
  · exact healthcareGrowthFactorOperations_safe h _
  · exact withdrawInOrderOperations_safe accounts

theorem conversionOperations_safe [FloorRing K] (prepared : PreparedPlan K) (year : ℕ)
    (accounts : List (Account K)) (socialSecurityBenefit : K) (result : WithdrawalResult K) :
    Safe (conversionOperations prepared year accounts socialSecurityBenefit result) := by
  refine safe_ite.mpr ⟨fun _ => safe_append.mpr ⟨rothConversionForOperations_safe _, ?_⟩,
    fun _ => safe_nil⟩
  exact safe_ite.mpr ⟨fun _ => depositToBucketOperations_safe _ _ _, fun _ => safe_nil⟩

theorem retiredYearOperations_safe [FloorRing K] (log : NaturalLog K) {prepared : PreparedPlan K}
    (h : Prepared prepared) (returns : K × K) {year : ℕ}
    (hretired : prepared.isRetired year = true) (state : ProjectionState K)
    (rothBasis : RothBasisState K) (rmdAmount : K) :
    Safe (retiredYearOperations log prepared returns year state rothBasis rmdAmount) := by
  have hrate := ((RetirementHealthcare.isValid_iff _).mp h.plan_valid.healthcare).2.2.2.1
  have hamounts := h.plan_valid.amounts
  simp only [UserProfile.hasValidAmounts, Bool.and_eq_true, decide_eq_true_eq] at hamounts
  obtain ⟨⟨⟨-, hgrowth⟩, -⟩, -⟩ := hamounts
  simp only [retiredYearOperations, safe_append]
  refine ⟨⟨⟨⟨⟨⟨⟨baseSpendingOperations_safe hretired, ?_⟩, ?_⟩, ?_⟩, ?_⟩, ?_⟩, ?_⟩, ?_⟩
  · exact safe_elim.mpr fun draw _ => costForYearOperations_safe log draw _
  · exact socialSecurityBenefitOperations_safe hgrowth.1 year
  · exact incomeTestOperations_safe hrate year _ _
  · exact healthcareCostForOperations_safe hrate _ _ _
  · exact executeOrderedWithdrawalsOperations_safe _ _
  · exact depositToBucketOperations_safe _ _ _
  · exact conversionOperations_safe prepared year _ _ _

end RetirementPlanner.Engine
