import RetirementPlanner.Engine.Projection
import RetirementPlanner.Engine.Validation

/-!
# The amounts of an accepted plan

What the withdrawal solve is handed is never negative: the benefit
(`calculateSsaBenefit_nonneg`), the cost of care (`costForYear_nonneg`) and of
healthcare (`healthcareCostFor_nonneg`). The care draw stays under the open end of
its distribution because its uniform is below one, so its logarithm is taken of a
positive number.
-/

namespace RetirementPlanner.Engine

variable {K : Type*} [Field K] [LinearOrder K] [IsStrictOrderedRing K]

/-! ## Social Security -/

theorem le_piaLoop {points : List (SSABendPoint K)} (h : ∀ p ∈ points, 0 ≤ p.rate)
    (pia remaining previous : K) : pia ≤ piaLoop pia remaining previous points := by
  induction points generalizing pia remaining previous with
  | nil => exact le_rfl
  | cons point points ih =>
    have hrate := h point List.mem_cons_self
    have htail : ∀ p ∈ points, 0 ≤ p.rate := fun p hp => h p (List.mem_cons_of_mem _ hp)
    have htaken (amount : K) : pia ≤ if 0 < amount then pia + amount * point.rate else pia := by
      split
      · rename_i hpos
        exact le_add_of_nonneg_right (mul_nonneg hpos.le hrate)
      · exact le_rfl
    cases hthreshold : point.threshold with
    | none =>
      simp only [piaLoop, hthreshold, ite_self]
      exact htaken remaining
    | some threshold =>
      have h := htaken (min remaining (threshold - previous))
      simp only [piaLoop, hthreshold]
      set pia' := if 0 < min remaining (threshold - previous) then
        pia + min remaining (threshold - previous) * point.rate else pia
      set remaining' := if 0 < min remaining (threshold - previous) then
        remaining - min remaining (threshold - previous) else remaining
      by_cases hdone : remaining' ≤ 0
      · exact h.trans_eq (if_pos hdone).symm
      · exact (h.trans (ih htail pia' remaining' threshold)).trans_eq (if_neg hdone).symm

theorem calculatePia_nonneg [FloorRing K] (aime : K) : 0 ≤ calculatePia aime bendPoints := by
  have h : (0 : K) ≤ piaLoop 0 aime 0 bendPoints := by
    refine le_piaLoop ?_ 0 aime 0
    simp only [bendPoints, List.forall_mem_cons, List.not_mem_nil, false_imp_iff, implies_true,
      and_true]
    norm_num
  exact div_nonneg (Int.cast_nonneg (Int.floor_nonneg.mpr (mul_nonneg h (by norm_num))))
    (by norm_num)

theorem getFullRetirementAgeMonths_le (birthYear : ℤ) :
    getFullRetirementAgeMonths birthYear ≤ 804 := by
  unfold getFullRetirementAgeMonths
  split_ifs <;> omega

/-- Claiming early costs at most 30%. -/
theorem getClaimAgeAdjustment_nonneg (claimAge : ℕ) (birthYear : ℤ) :
    (0 : K) ≤ getClaimAgeAdjustment claimAge birthYear := by
  have hfull := getFullRetirementAgeMonths_le birthYear
  simp only [getClaimAgeAdjustment]
  set claimMonths : ℤ := ((min (max claimAge 62) 70 : ℕ) : ℤ) * 12 with hclaim
  have hmonths : 744 ≤ claimMonths ∧ claimMonths ≤ 840 := by omega
  split
  · rename_i hearly
    have hfirst : min (getFullRetirementAgeMonths birthYear - claimMonths) 36 ≤ 36 :=
      min_le_right _ _
    have hadditional : max (getFullRetirementAgeMonths birthYear - claimMonths - 36) 0 ≤ 24 := by
      omega
    have h1 : ((min (getFullRetirementAgeMonths birthYear - claimMonths) 36 : ℤ) : K) ≤ 36 := by
      exact_mod_cast hfirst
    have h2 : ((max (getFullRetirementAgeMonths birthYear - claimMonths - 36) 0 : ℤ) : K)
        ≤ 24 := by exact_mod_cast hadditional
    linarith
  · rename_i hlate
    have hdelayed : 0 ≤ min claimMonths (70 * 12) - getFullRetirementAgeMonths birthYear := by
      omega
    have hcredit : (0 : K) ≤ delayedRetirementCreditPerMonth birthYear := by
      unfold delayedRetirementCreditPerMonth
      split_ifs <;> norm_num
    have hcast : (0 : K)
        ≤ ((min claimMonths (70 * 12) - getFullRetirementAgeMonths birthYear : ℤ) : K) := by
      exact_mod_cast hdelayed
    exact add_nonneg zero_le_one (mul_nonneg hcast hcredit)

theorem calculateSsaBenefit_nonneg [FloorRing K] (salaryHistory : List K) (claimAge : ℕ)
    (birthYear : ℤ) : 0 ≤ calculateSsaBenefit salaryHistory claimAge birthYear :=
  mul_nonneg (mul_nonneg (calculatePia_nonneg _) (getClaimAgeAdjustment_nonneg _ _))
    (by norm_num)

/-! ## Long-term care -/

/-- Inverting the closed buckets from inside them gives a value inside the buckets. -/
theorem invertClosedBuckets_ge {quantile : K} {lower bound : ℚ} {cumulative : List ℚ}
    {buckets : List (ℚ × ℚ)} {v : K} (hbuckets : ∀ b ∈ buckets, bound ≤ b.1 ∧ b.1 ≤ b.2)
    (hlower : (lower : K) ≤ quantile)
    (h : invertClosedBuckets quantile lower cumulative buckets = some v) : (bound : K) ≤ v := by
  induction cumulative generalizing lower buckets with
  | nil => simp [invertClosedBuckets] at h
  | cons upper cumulative ih =>
    cases buckets with
    | nil => simp [invertClosedBuckets] at h
    | cons bucket buckets =>
      obtain ⟨hb0, hb1⟩ := hbuckets bucket List.mem_cons_self
      rw [invertClosedBuckets] at h
      split at h
      · cases h
        have h1 : (bound : K) ≤ (bucket.1 : K) := by exact_mod_cast hb0
        have h2 : (0 : K) ≤ ((bucket.2 - bucket.1 : ℚ) : K) := by
          exact_mod_cast sub_nonneg.mpr hb1
        refine le_add_of_le_of_nonneg h1 (mul_nonneg ?_ h2)
        split
        · rename_i hmass
          exact div_nonneg (sub_nonneg.mpr hlower) hmass.le
        · exact le_rfl
      · rename_i hupper
        exact ih (fun b hb => hbuckets b (List.mem_cons_of_mem _ hb)) (not_lt.mp hupper) h

/-- A quantile of zero is the bottom of the first bucket. -/
theorem invertClosedBuckets_zero {upper : ℚ} (hupper : 0 < upper) (cumulative : List ℚ)
    (bucket : ℚ × ℚ) (buckets : List (ℚ × ℚ)) :
    invertClosedBuckets (0 : K) 0 (upper :: cumulative) (bucket :: buckets)
      = some (bucket.1 : K) := by
  have hpos : (0 : K) < (upper : K) := by exact_mod_cast hupper
  rw [invertClosedBuckets, if_pos hpos]
  simp

omit [IsStrictOrderedRing K] in
theorem NaturalLog.nonpos (log : NaturalLog K) {x : K} (h0 : 0 < x) (h1 : x ≤ 1) :
    log.ln x ≤ 0 :=
  (log.ln_mono h0 h1).trans_eq log.ln_one

theorem spendingModel_facts (quintile : IncomeQuintile) :
    0 ≤ (spendingModel quintile).noSpendingProbability ∧
      (spendingModel quintile).noSpendingProbability < 1 ∧
      0 ≤ (spendingModel quintile).tailMeanExcess ∧
      (spendingModel quintile).cumulative.getLastD 0 < 1 := by
  cases quintile <;> decide +kernel

theorem tailPosition_lt_one {quantile : K} (hq : quantile < 1) {tailEntry : ℚ}
    (ht : tailEntry < 1) : 0 ≤ tailPosition quantile tailEntry ∧
      tailPosition quantile tailEntry < 1 := by
  have hden : (0 : K) < ((1 - tailEntry : ℚ) : K) := by exact_mod_cast sub_pos.mpr ht
  have hlt : (quantile - (tailEntry : K)) / ((1 - tailEntry : ℚ) : K) < 1 := by
    rw [div_lt_one hden]
    push_cast
    linarith
  refine ⟨le_min (le_max_right _ _) zero_le_one, (min_le_left _ _).trans_lt ?_⟩
  exact max_lt hlt zero_lt_one

/-- Above the bottom of the first bucket every value is positive. -/
theorem invertClosedBuckets_pos {quantile : K} (hquantile : 0 < quantile) {upper high bound : ℚ}
    (hupper : 0 < upper) (hhigh : 0 < high) (hbound : 0 < bound) {cumulative : List ℚ}
    {buckets : List (ℚ × ℚ)} (hbuckets : ∀ b ∈ buckets, bound ≤ b.1 ∧ b.1 ≤ b.2) {v : K}
    (h : invertClosedBuckets quantile 0 (upper :: cumulative) ((0, high) :: buckets) = some v) :
    0 < v := by
  rw [invertClosedBuckets] at h
  split at h
  · cases h
    have hmass : (0 : K) < ((upper - 0 : ℚ) : K) := by
      rw [sub_zero]
      exact_mod_cast hupper
    have hwidth : (0 : K) < ((high - 0 : ℚ) : K) := by
      rw [sub_zero]
      exact_mod_cast hhigh
    rw [if_pos hmass, Rat.cast_zero, sub_zero, zero_add]
    exact mul_pos (div_pos hquantile hmass) hwidth
  · rename_i hpast
    have hle := invertClosedBuckets_ge hbuckets (not_lt.mp hpast) h
    have hpos : (0 : K) < (bound : K) := by exact_mod_cast hbound
    exact hpos.trans_le hle

omit [Field K] [LinearOrder K] [IsStrictOrderedRing K] in
theorem durationCumulative_eq : durationCumulative = [229 / 438, 306 / 438, 407 / 438] := by
  decide +kernel

/-- Only the bottom of the distribution has no years of service. -/
theorem yearsFor_pos {quantile : K} (h : 0 < quantile) : 0 < yearsFor quantile := by
  rw [yearsFor]
  cases hinvert : invertClosedBuckets quantile 0 durationCumulative durationBuckets with
  | none =>
    have hposition : (0 : K) ≤ tailPosition quantile (durationCumulative.getLastD 0) :=
      le_min (le_max_right _ _) zero_le_one
    have hwidth : (0 : K) ≤ ((durationCap - durationTailFloor : ℚ) : K) := by
      norm_num [durationCap, durationTailFloor]
    have hfloor : (0 : K) < (durationTailFloor : K) := by norm_num [durationTailFloor]
    exact add_pos_of_pos_of_nonneg hfloor (mul_nonneg hposition hwidth)
  | some years =>
    rw [durationCumulative_eq, durationBuckets] at hinvert
    exact invertClosedBuckets_pos h (by norm_num) (by norm_num) one_pos (by decide +kernel) hinvert

theorem yearsFor_zero : yearsFor (0 : K) = 0 := by
  rw [yearsFor, durationCumulative_eq, durationBuckets, invertClosedBuckets_zero (by norm_num)]
  exact Rat.cast_zero

omit [Field K] [LinearOrder K] [IsStrictOrderedRing K] in
/-- Every quintile's closed buckets start with some mass. -/
theorem exists_cumulative (quintile : IncomeQuintile) : ∃ upper cumulative,
    (spendingModel quintile).cumulative = upper :: cumulative ∧ 0 < upper := by
  have hfirst : (spendingModel quintile).cumulative.head?.any (0 < ·) = true := by
    cases quintile <;> decide +kernel
  cases hcumulative : (spendingModel quintile).cumulative with
  | nil => simp [hcumulative] at hfirst
  | cons upper cumulative =>
    rw [hcumulative, List.head?_cons, Option.any_some, decide_eq_true_iff] at hfirst
    exact ⟨upper, cumulative, rfl, hfirst⟩

theorem spendingFor_zero (log : NaturalLog K) (quintile : IncomeQuintile) :
    spendingFor log (spendingModel quintile) (0 : K) = 0 := by
  obtain ⟨upper, cumulative, hcumulative, hupper⟩ := exists_cumulative quintile
  rw [spendingFor, hcumulative, spendingBuckets, invertClosedBuckets_zero hupper]
  exact Rat.cast_zero

theorem spendingFor_pos (log : NaturalLog K) (quintile : IncomeQuintile) {quantile : K}
    (h0 : 0 < quantile) (h1 : quantile < 1) :
    0 < spendingFor log (spendingModel quintile) quantile := by
  obtain ⟨-, -, hexcess, hentry⟩ := spendingModel_facts quintile
  obtain ⟨upper, cumulative, hcumulative, hupper⟩ := exists_cumulative quintile
  rw [spendingFor]
  cases hinvert : invertClosedBuckets quantile 0 (spendingModel quintile).cumulative
      spendingBuckets with
  | some dollars =>
    rw [hcumulative, spendingBuckets] at hinvert
    exact invertClosedBuckets_pos h0 hupper (by norm_num) one_pos (by decide +kernel) hinvert
  | none =>
    obtain ⟨hp0, hp1⟩ := tailPosition_lt_one h1 hentry
    have hln := log.nonpos (sub_pos.mpr hp1) (sub_le_self 1 hp0)
    have hexcess' : (0 : K) ≤ ((spendingModel quintile).tailMeanExcess : K) := by
      exact_mod_cast hexcess
    have hprod := mul_nonpos_of_nonneg_of_nonpos hexcess' hln
    have hfloor : (0 : K) < (spendingTailFloor : K) := by norm_num [spendingTailFloor]
    exact lt_min (by linarith) (by norm_num [spendingCap])

/-- An episode has years and a cost, or neither. -/
theorem drawEpisode_pos (log : NaturalLog K) {quintile : IncomeQuintile} {u : Uniform K}
    {episode : LtcEpisode K} (h : drawEpisode log quintile u = some episode) :
    0 < episode.years ∧ 0 < episode.lifetimeCost2020 ∨
      episode.years = 0 ∧ episode.lifetimeCost2020 = 0 := by
  obtain ⟨hp0, hp1, -, -⟩ := spendingModel_facts quintile
  simp only [drawEpisode] at h
  split at h
  · cases h
  · cases h
    have hden : (0 : K) < ((1 - (spendingModel quintile).noSpendingProbability : ℚ) : K) := by
      exact_mod_cast sub_pos.mpr hp1
    have hlt : (u.value - ((spendingModel quintile).noSpendingProbability : K))
        / ((1 - (spendingModel quintile).noSpendingProbability : ℚ) : K) < 1 := by
      rw [div_lt_one hden]
      push_cast
      linarith [u.lt_one]
    have hquantile : 0 ≤ min (max ((u.value - ((spendingModel quintile).noSpendingProbability : K))
        / ((1 - (spendingModel quintile).noSpendingProbability : ℚ) : K)) 0) 1 :=
      le_min (le_max_right _ _) zero_le_one
    rcases hquantile.eq_or_lt with hzero | hpos
    · simp only [← hzero]
      exact .inr ⟨yearsFor_zero, spendingFor_zero log quintile⟩
    · exact .inl ⟨yearsFor_pos hpos, spendingFor_pos log quintile hpos
        ((min_le_left _ _).trans_lt (max_lt hlt zero_lt_one))⟩

theorem priceLevelRatio_pos (fromYear toYear : ℤ) : 0 < priceLevelRatio fromYear toYear := by
  have hprod : 0 < ((historicalReturns.filter fun entry =>
      min fromYear toYear < (entry.year : ℤ) ∧ (entry.year : ℤ) ≤ max fromYear toYear).map
        (1 + ·.inflationRate)).prod := by
    refine List.prod_pos fun v hv => ?_
    obtain ⟨entry, hentry, rfl⟩ := List.mem_map.mp hv
    linarith [inflationRate_gt entry (List.mem_of_mem_filter hentry)]
  simp only [priceLevelRatio]
  split
  · exact hprod
  · exact div_pos one_pos hprod

theorem remainingLtcExposure_nonneg (currentAge lifeExpectancy : ℕ) :
    (0 : K) ≤ remainingLtcExposure currentAge lifeExpectancy := by
  simp only [remainingLtcExposure]
  split_ifs
  · exact zero_le_one
  · exact le_rfl
  · exact le_min (le_max_right _ _) zero_le_one

theorem remainingLtcExposure_pos {currentAge lifeExpectancy : ℕ} (h : currentAge < lifeExpectancy)
    (hhorizon : ltcObservationAge < lifeExpectancy) :
    (0 : K) < remainingLtcExposure currentAge lifeExpectancy := by
  have hleft : (0 : K) < ((lifeExpectancy - currentAge : ℕ) : K) :=
    Nat.cast_pos.mpr (Nat.sub_pos_of_lt h)
  have hlifetime : (0 : K) < ((lifeExpectancy - ltcObservationAge : ℕ) : K) :=
    Nat.cast_pos.mpr (Nat.sub_pos_of_lt hhorizon)
  simp only [remainingLtcExposure]
  split
  · exact one_pos
  · rw [if_neg (Nat.sub_pos_of_lt hhorizon).ne']
    exact lt_min (lt_max_of_lt_left (div_pos hleft hlifetime)) one_pos

/-- A draw that can only cost something. -/
def LongTermCareDraw.Valid (draw : LongTermCareDraw K) : Prop := 0 ≤ draw.priceScale

omit [IsStrictOrderedRing K] in
theorem RetirementHealthcare.isValid_iff (healthcare : RetirementHealthcare K) :
    healthcare.isValid ↔ 0 ≤ healthcare.preMedicarePremium ∧ 0 ≤ healthcare.medicarePremium ∧
      0 ≤ healthcare.outOfPocket ∧ -0.1 ≤ healthcare.realGrowthRate ∧
      healthcare.realGrowthRate ≤ 0.2 := by
  simp [RetirementHealthcare.isValid, and_assoc]

theorem LongTermCareDraw.start_valid {plan : RetirementPlan K} (hplan : ValidPlan plan)
    {uniform : Uniform K} {baseYear birthYear : ℤ} {startAge : ℕ} :
    ∀ draw ∈ LongTermCareDraw.start plan uniform baseYear birthYear startAge, draw.Valid := by
  intro draw hdraw
  obtain ⟨-, -, -, hgrowth, -⟩ := (RetirementHealthcare.isValid_iff _).mp hplan.healthcare
  have hbase : (0 : K) ≤ 1 + plan.profile.retirementHealthcare.realGrowthRate := by linarith
  have hprice : (0 : K) ≤ (priceLevelRatio ltcTableDollarYear baseYear : K) := by
    exact_mod_cast (priceLevelRatio_pos _ _).le
  have hmultiplier : 0 ≤ plan.profile.longTermCare.costMultiplier := by
    linarith [hplan.costMultiplier_mem.1]
  have hscale (years : ℤ) := mul_nonneg (mul_nonneg (mul_nonneg hprice (zpow_nonneg hbase years))
    hmultiplier) (remainingLtcExposure_nonneg startAge plan.profile.lifeExpectancy)
  simp only [LongTermCareDraw.start, Option.mem_def] at hdraw
  split_ifs at hdraw <;> cases hdraw <;> exact hscale _

omit [IsStrictOrderedRing K] in
theorem LongTermCareDraw.observe_valid {draw : LongTermCareDraw K} (h : draw.Valid) (age : ℕ)
    (portfolioValue annualIncome : K) : (draw.observe age portfolioValue annualIncome).Valid := by
  simp only [LongTermCareDraw.observe]
  split
  · exact h
  · exact h

theorem LongTermCareDraw.costForYear_nonneg (log : NaturalLog K) {draw : LongTermCareDraw K}
    (h : draw.Valid) (year totalYears : ℕ) : 0 ≤ draw.costForYear log year totalYears := by
  rw [LongTermCareDraw.costForYear]
  cases hepisode : draw.quintile.bind (drawEpisode log · draw.uniform) with
  | none => exact le_rfl
  | some episode =>
    obtain ⟨quintile, -, hdraw⟩ := Option.bind_eq_some_iff.mp hepisode
    have hcost : 0 ≤ episode.lifetimeCost2020 := by
      rcases drawEpisode_pos log hdraw with ⟨-, hpos⟩ | ⟨-, hzero⟩
      · exact hpos.le
      · exact hzero.ge
    simp only
    split
    · exact le_rfl
    · rename_i hduration
      refine div_nonneg (mul_nonneg (mul_nonneg hcost h) ?_) (not_le.mp hduration).le
      exact le_min (le_max_right _ _) zero_le_one

/-! ## Healthcare -/

theorem irmaaAnnualSurcharge_nonneg (magi : K) (filingStatus : FilingStatus) (people : ℕ) :
    0 ≤ irmaaAnnualSurcharge magi filingStatus people := by
  have htier (tier : Option K × K) (hmem : tier ∈ irmaaTiers2026) : 0 ≤ tier.2 := by
    simp only [irmaaTiers2026, List.mem_cons, List.not_mem_nil, or_false] at hmem
    rcases hmem with rfl | rfl | rfl | rfl | rfl | rfl <;> norm_num
  refine mul_nonneg (mul_nonneg ?_ (by norm_num)) (Nat.cast_nonneg _)
  split_ifs
  · exact le_rfl
  · norm_num
  · norm_num
  · cases hfind : irmaaTiers2026.find? fun tier : Option K × K =>
        tier.1.all fun bound => magi ≤ bound * irmaaScale filingStatus with
    | none => norm_num
    | some tier => exact htier tier (List.mem_of_find?_eq_some hfind)

theorem incomeTestedPremium_nonneg {listPremium : K} (h : 0 ≤ listPremium) (onMedicare : Bool)
    (test : PremiumIncomeTest K) : 0 ≤ incomeTestedPremium listPremium onMedicare test := by
  simp only [incomeTestedPremium]
  split_ifs
  · exact h
  · split
    · exact add_nonneg h (irmaaAnnualSurcharge_nonneg _ _ _)
    · exact h
  · split
    · split
      · exact le_max_right _ _
      · exact h
    · exact h

theorem healthcareCostFor_nonneg {healthcare : RetirementHealthcare K} (h : healthcare.isValid)
    (age growthYears : ℕ) (incomeTest : Option (PremiumIncomeTest K)) :
    0 ≤ (healthcareCostFor healthcare age growthYears incomeTest).qualified := by
  obtain ⟨hpre, hmedicare, hpocket, hgrowth, -⟩ := (RetirementHealthcare.isValid_iff _).mp h
  have hfactor : 0 ≤ healthcareGrowthFactor healthcare growthYears :=
    pow_nonneg (by linarith) _
  have hlist : 0 ≤ (if decide (medicareAge ≤ age) = true then healthcare.medicarePremium
      else healthcare.preMedicarePremium) * healthcareGrowthFactor healthcare growthYears :=
    mul_nonneg (by split <;> assumption) hfactor
  refine add_nonneg (mul_nonneg hpocket hfactor) ?_
  by_cases hage : decide (medicareAge ≤ age) = true
  · refine le_of_le_of_eq ?_ (if_pos hage).symm
    cases incomeTest with
    | none => exact hlist
    | some test => exact incomeTestedPremium_nonneg hlist _ _
  · exact (if_neg hage).symm.le

end RetirementPlanner.Engine
