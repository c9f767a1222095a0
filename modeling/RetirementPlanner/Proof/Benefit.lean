import RetirementPlanner.Lib.TopSum
import RetirementPlanner.Proof.Amounts

/-!
# The Social Security benefit is monotone

Average monthly earnings are a floor of the largest 35 values of the history
(`calculateAime_eq`), so they do not depend on its order and rise with every value. The
primary insurance amount rises with them (`piaLoop_mono`), and the claim-age factor with the
claim age (`getClaimAgeAdjustment_mono`): `calculateSsaBenefit_monotone`.
-/

namespace RetirementPlanner.Engine

open TopSum

variable {K : Type*} [Field K] [LinearOrder K] [IsStrictOrderedRing K]

/-! ## Earnings -/

/-- What of a salary counts as earnings. -/
def taxableWage (salary : K) : K := min (max salary 0) maxTaxableWage

theorem maxTaxableWage_nonneg : (0 : K) ≤ maxTaxableWage := by norm_num [maxTaxableWage]

omit [IsStrictOrderedRing K] in
theorem taxableWage_mono : Monotone (taxableWage : K → K) := fun _ _ h =>
  min_le_min_right _ (max_le_max_right _ h)

theorem taxableWage_nonneg (salary : K) : 0 ≤ taxableWage salary :=
  le_min (le_max_right _ _) maxTaxableWage_nonneg

variable [FloorRing K]

omit [IsStrictOrderedRing K] in
theorem calculateAime_eq (salaryHistory : List K) :
    calculateAime salaryHistory = (⌊topSum taxableWage 35 salaryHistory / 420⌋ : ℤ) := by
  have htake : (salaryHistory.mergeSort fun a b => decide (b ≤ a)).take
        (min 35 salaryHistory.length)
      = (salaryHistory.mergeSort fun a b => decide (b ≤ a)).take 35 := by
    have hlength := @List.length_mergeSort K (fun a b => decide (b ≤ a)) salaryHistory
    rw [← hlength, ← List.take_take, List.take_length]
  simp only [calculateAime, htake]
  rfl

theorem aime_le_aime {salaryHistory salaryHistory' : List K}
    (h : topSum taxableWage 35 salaryHistory ≤ topSum taxableWage 35 salaryHistory') :
    calculateAime salaryHistory ≤ calculateAime salaryHistory' := by
  rw [calculateAime_eq, calculateAime_eq]
  exact_mod_cast Int.floor_mono (div_le_div_of_nonneg_right h (by norm_num))

/-- No history earns more than a full one at the wage base. -/
theorem calculateAime_le_full (salaryHistory : List K) :
    calculateAime salaryHistory ≤ calculateAime (List.replicate 35 maxTaxableWage) := by
  refine aime_le_aime ?_
  have hle := topSum_le_nsmul (fun salary => min_le_right (max salary (0 : K)) maxTaxableWage)
    maxTaxableWage_nonneg 35 salaryHistory
  refine hle.trans ?_
  have hfull := sum_le_topSum taxableWage_mono taxableWage_nonneg
    (List.Subperm.refl (List.replicate 35 (maxTaxableWage : K)))
    (List.length_replicate (n := 35)).le
  rwa [List.map_replicate, List.sum_replicate, taxableWage, max_eq_left maxTaxableWage_nonneg,
    min_self] at hfull

/-! ## The primary insurance amount -/

/-- What of the remaining earnings one bend point rates. -/
def ratedAmount (remaining width : K) : K := max (min remaining width) 0

omit [IsStrictOrderedRing K] [FloorRing K] in
theorem ratedAmount_mono (width : K) {remaining remaining' : K} (h : remaining ≤ remaining') :
    ratedAmount remaining width ≤ ratedAmount remaining' width :=
  max_le_max_right _ (min_le_min_right _ h)

omit [FloorRing K] in
/-- A bend point rates no more of a raise than the raise. -/
theorem ratedAmount_sub_le (width : K) {remaining remaining' : K} (h : remaining ≤ remaining') :
    remaining - ratedAmount remaining width ≤ remaining' - ratedAmount remaining' width := by
  simp only [ratedAmount, max_def, min_def]
  split_ifs <;> linarith

omit [IsStrictOrderedRing K] [FloorRing K] in
theorem piaLoop_some (pia remaining previous threshold rate : K) (rest : List (SSABendPoint K)) :
    piaLoop pia remaining previous (⟨some threshold, rate⟩ :: rest)
      = if remaining - ratedAmount remaining (threshold - previous) ≤ 0 then
          pia + ratedAmount remaining (threshold - previous) * rate
        else piaLoop (pia + ratedAmount remaining (threshold - previous) * rate)
          (remaining - ratedAmount remaining (threshold - previous)) threshold rest := by
  by_cases htaken : 0 < min remaining (threshold - previous)
  · have hrated : ratedAmount remaining (threshold - previous)
        = min remaining (threshold - previous) := max_eq_left htaken.le
    simp only [piaLoop, hrated, if_pos htaken]
  · have hrated : ratedAmount remaining (threshold - previous) = 0 :=
      max_eq_right (not_lt.mp htaken)
    simp only [piaLoop, hrated, if_neg htaken, zero_mul, add_zero, sub_zero]

omit [IsStrictOrderedRing K] [FloorRing K] in
theorem piaLoop_none (pia remaining previous rate : K) (rest : List (SSABendPoint K)) :
    piaLoop pia remaining previous (⟨none, rate⟩ :: rest) = pia + max remaining 0 * rate := by
  simp only [piaLoop, ite_self]
  by_cases htaken : 0 < remaining
  · rw [if_pos htaken, max_eq_left htaken.le]
  · rw [if_neg htaken, max_eq_right (not_lt.mp htaken), zero_mul, add_zero]

omit [FloorRing K] in
/-- By induction on the bend points: after each, more is rated and no less remains. -/
theorem piaLoop_mono {points : List (SSABendPoint K)} (h : ∀ p ∈ points, 0 ≤ p.rate)
    {pia pia' remaining remaining' : K} (hpia : pia ≤ pia') (hremaining : remaining ≤ remaining')
    (previous : K) :
    piaLoop pia remaining previous points ≤ piaLoop pia' remaining' previous points := by
  induction points generalizing pia pia' remaining remaining' previous with
  | nil => exact hpia
  | cons point points ih =>
    obtain ⟨threshold, rate⟩ := point
    have hrate : 0 ≤ rate := h _ List.mem_cons_self
    have hrest : ∀ p ∈ points, 0 ≤ p.rate := fun p hp => h p (List.mem_cons_of_mem _ hp)
    cases threshold with
    | none =>
      rw [piaLoop_none, piaLoop_none]
      exact add_le_add hpia (mul_le_mul_of_nonneg_right (max_le_max_right _ hremaining) hrate)
    | some threshold =>
      have hrated := add_le_add hpia
        (mul_le_mul_of_nonneg_right (ratedAmount_mono (threshold - previous) hremaining) hrate)
      have hleft := ratedAmount_sub_le (threshold - previous) hremaining
      rw [piaLoop_some, piaLoop_some]
      split
      · split
        · exact hrated
        · exact hrated.trans (le_piaLoop hrest _ _ _)
      · rename_i hmore
        rw [if_neg fun hdone => hmore (hleft.trans hdone)]
        exact ih hrest hrated hleft threshold

theorem calculatePia_mono {aime aime' : K} (h : aime ≤ aime') :
    calculatePia aime bendPoints ≤ calculatePia aime' bendPoints := by
  have hrates : ∀ p ∈ (bendPoints : List (SSABendPoint K)), 0 ≤ p.rate := by
    simp only [bendPoints, List.forall_mem_cons, List.not_mem_nil, false_imp_iff, implies_true,
      and_true]
    norm_num
  have hloop := mul_le_mul_of_nonneg_right (piaLoop_mono hrates (le_refl 0) h 0)
    (by norm_num : (0 : K) ≤ 10)
  refine div_le_div_of_nonneg_right ?_ (by norm_num)
  exact_mod_cast Int.floor_mono hloop

/-! ## The claim age -/

omit [FloorRing K] in
theorem delayedRetirementCreditPerMonth_nonneg (birthYear : ℤ) :
    (0 : K) ≤ delayedRetirementCreditPerMonth birthYear := by
  unfold delayedRetirementCreditPerMonth
  split_ifs <;> norm_num

omit [FloorRing K] in
/-- Waiting costs nothing, whichever side of the full retirement age either claim is on. -/
theorem getClaimAgeAdjustment_mono (birthYear : ℤ) {claimAge claimAge' : ℕ}
    (h : claimAge ≤ claimAge') :
    (getClaimAgeAdjustment claimAge birthYear : K) ≤ getClaimAgeAdjustment claimAge' birthYear := by
  have hcredit := delayedRetirementCreditPerMonth_nonneg (K := K) birthYear
  simp only [getClaimAgeAdjustment]
  set full := getFullRetirementAgeMonths birthYear
  set months : ℤ := ((min (max claimAge 62) 70 : ℕ) : ℤ) * 12 with hmonths
  set months' : ℤ := ((min (max claimAge' 62) 70 : ℕ) : ℤ) * 12 with hmonths'
  have hle : months ≤ months' := by omega
  split
  · rename_i hearly
    have hfirst : (0 : K) ≤ (min (full - months) 36 : ℤ) := by
      exact_mod_cast (by omega : 0 ≤ min (full - months) 36)
    have hadditional : (0 : K) ≤ (max (full - months - 36) 0 : ℤ) := by
      exact_mod_cast (le_max_right _ _)
    split
    · have hfirst' : ((min (full - months') 36 : ℤ) : K) ≤ (min (full - months) 36 : ℤ) := by
        exact_mod_cast (by omega : min (full - months') 36 ≤ min (full - months) 36)
      have hadditional' : ((max (full - months' - 36) 0 : ℤ) : K)
          ≤ (max (full - months - 36) 0 : ℤ) := by
        exact_mod_cast (by omega : max (full - months' - 36) 0 ≤ max (full - months - 36) 0)
      linarith
    · rename_i hlate
      have hdelayed : (0 : K) ≤ (min months' (70 * 12) - full : ℤ) := by
        exact_mod_cast (by omega : 0 ≤ min months' (70 * 12) - full)
      refine le_trans ?_ (le_add_of_nonneg_right (mul_nonneg hdelayed hcredit))
      rw [sub_sub]
      exact sub_le_self 1 (add_nonneg (div_nonneg hfirst (by norm_num))
        (div_nonneg hadditional (by norm_num)))
  · rename_i hlate
    rw [if_neg (by omega)]
    have hdelayed : ((min months (70 * 12) - full : ℤ) : K)
        ≤ (min months' (70 * 12) - full : ℤ) := by
      exact_mod_cast (by omega : min months (70 * 12) - full ≤ min months' (70 * 12) - full)
    exact add_le_add_right (mul_le_mul_of_nonneg_right hdelayed hcredit) 1

/-! ## The benefit -/

omit [IsStrictOrderedRing K] in
theorem calculateSsaBenefit_perm {salaryHistory salaryHistory' : List K}
    (h : salaryHistory'.Perm salaryHistory) (claimAge : ℕ) (birthYear : ℤ) :
    calculateSsaBenefit salaryHistory' claimAge birthYear
      = calculateSsaBenefit salaryHistory claimAge birthYear := by
  simp only [calculateSsaBenefit, calculateAime_eq, topSum_perm taxableWage 35 h]

theorem benefit_le_benefit {aime aime' : K} (h : aime ≤ aime') {claimAge claimAge' : ℕ}
    (hclaim : claimAge ≤ claimAge') (birthYear : ℤ) :
    calculatePia aime bendPoints * getClaimAgeAdjustment claimAge birthYear * 12
      ≤ calculatePia aime' bendPoints * getClaimAgeAdjustment claimAge' birthYear * 12 :=
  mul_le_mul_of_nonneg_right
    (mul_le_mul (calculatePia_mono h) (getClaimAgeAdjustment_mono birthYear hclaim)
      (getClaimAgeAdjustment_nonneg _ _) (calculatePia_nonneg _)) (by norm_num)

/-- The benefit of a salary history depends neither on its order nor falls when salaries of
it are raised, when a further year is worked, or when it is claimed later; and no history
has higher average earnings than 35 years at the wage base. -/
theorem calculateSsaBenefit_monotone (salaryHistory : List K) (claimAge : ℕ) (birthYear : ℤ) :
    (∀ reordered, reordered.Perm salaryHistory →
      calculateSsaBenefit reordered claimAge birthYear
        = calculateSsaBenefit salaryHistory claimAge birthYear) ∧
    (∀ raised, List.Forall₂ (· ≤ ·) salaryHistory raised →
      calculateSsaBenefit salaryHistory claimAge birthYear
        ≤ calculateSsaBenefit raised claimAge birthYear) ∧
    (∀ salary, calculateSsaBenefit salaryHistory claimAge birthYear
      ≤ calculateSsaBenefit (salaryHistory ++ [salary]) claimAge birthYear) ∧
    (∀ later, claimAge ≤ later → calculateSsaBenefit salaryHistory claimAge birthYear
      ≤ calculateSsaBenefit salaryHistory later birthYear) ∧
    calculateAime salaryHistory ≤ calculateAime (List.replicate 35 maxTaxableWage) := by
  refine ⟨fun reordered h => calculateSsaBenefit_perm h claimAge birthYear, fun raised h => ?_,
    fun salary => ?_, fun later h => benefit_le_benefit le_rfl h birthYear,
    calculateAime_le_full salaryHistory⟩
  · exact benefit_le_benefit (aime_le_aime
      (topSum_mono taxableWage_mono taxableWage_nonneg 35 h)) le_rfl birthYear
  · exact benefit_le_benefit (aime_le_aime
      (topSum_le_append taxableWage_mono taxableWage_nonneg 35 salaryHistory [salary])) le_rfl
      birthYear

/-- A raise in one of two years and a claim a year later. -/
theorem calculateSsaBenefit_monotone_raise :
    calculateSsaBenefit ([50000, 60000] : List ℚ) 66 1960
      ≤ calculateSsaBenefit ([50000, 70000] : List ℚ) 66 1960 ∧
    calculateSsaBenefit ([50000, 70000] : List ℚ) 66 1960
      ≤ calculateSsaBenefit ([50000, 70000] : List ℚ) 67 1960 :=
  ⟨(calculateSsaBenefit_monotone [50000, 60000] 66 1960).2.1 [50000, 70000]
      (.cons le_rfl (.cons (by norm_num) .nil)),
    (calculateSsaBenefit_monotone [50000, 70000] 66 1960).2.2.2.1 67 (by decide)⟩

end RetirementPlanner.Engine
