import RetirementPlanner.Proof.TaxSchedule

/-!
# The deduction, the federal tax and the state tax

The parts of a year's tax in closed form, and how each moves with income. The
federal tax is a sum of schedules in the income after the deduction
(`federalTaxOn_eq`): a deduction that exceeds ordinary income shelters gains by
exactly its excess. The bounds on its slope (`incomeTax_slope`,
`incomeTax_slope_of_room`) use that ordinary income pushes gains into higher
gains brackets only where its own rate is far from the top.
-/

namespace RetirementPlanner.Engine

open Schedule

variable {K : Type*} [Field K] [LinearOrder K] [IsStrictOrderedRing K]

/-! ## Thresholds -/

theorem longRunInflation_cast_nonneg : (0 : K) ≤ (longRunInflation : K) := by
  exact_mod_cast longRunInflation_pos.le

theorem frozenThreshold_mono {a b : K} (h : a ≤ b) (taxYear : ℤ) :
    frozenThreshold a taxYear ≤ frozenThreshold b taxYear := by
  have hi : (0 : K) ≤ (longRunInflation : K) := longRunInflation_cast_nonneg
  simp only [frozenThreshold]
  split
  · exact h
  · exact div_le_div_of_nonneg_right h (zpow_nonneg (by linarith) _)

/-! ## The deduction -/

/-- Whether the enhanced senior deduction reaches the household. -/
def enhancedApplies (household : Household) (taxYear : ℤ) : Prop :=
  household.seniors ≠ 0 ∧ household.filingStatus ≠ .marriedFilingSeparately ∧
    taxYear ≤ obbbaLastYear

def obbbaPhaseoutStart (filingStatus : FilingStatus) : K :=
  if filingStatus = .marriedFilingJointly then obbbaPhaseoutStartJoint else obbbaPhaseoutStartOther

/-- The enhanced senior deduction at a MAGI. -/
def enhancedDeduction (household : Household) (magi : K) : K :=
  max (household.seniors * obbbaPerPerson
    - max (magi - obbbaPhaseoutStart household.filingStatus) 0 * obbbaPhaseoutRate) 0

/-- The part of the deduction that does not depend on income. -/
def fixedDeduction (household : Household) : K :=
  baseDeduction household.filingStatus
    + household.seniors * perSeniorDeduction household.filingStatus

omit [IsStrictOrderedRing K] in
theorem deductionFor_of_enhanced {household : Household} {taxYear : ℤ}
    (h : enhancedApplies household taxYear) (magi : K) :
    deductionFor household taxYear magi
      = fixedDeduction household + enhancedDeduction household magi := by
  obtain ⟨hseniors, hstatus, hyear⟩ := h
  simp [deductionFor, hseniors, hstatus, hyear.not_gt, fixedDeduction, enhancedDeduction,
    obbbaPhaseoutStart]

omit [IsStrictOrderedRing K] in
theorem deductionFor_of_not_enhanced {household : Household} {taxYear : ℤ}
    (h : ¬enhancedApplies household taxYear) (magi : K) :
    deductionFor household taxYear magi = fixedDeduction household := by
  simp only [enhancedApplies, not_and_or, not_not, not_le] at h
  simp only [deductionFor, fixedDeduction]
  split
  · rename_i hseniors
    simp [hseniors]
  · rename_i hseniors
    rw [if_pos (h.resolve_left hseniors)]

theorem fixedDeduction_nonneg (household : Household) : (0 : K) ≤ fixedDeduction household := by
  have hbase : (0 : K) ≤ baseDeduction household.filingStatus := by
    cases household.filingStatus <;> norm_num [baseDeduction]
  have hper : (0 : K) ≤ perSeniorDeduction household.filingStatus := by
    cases household.filingStatus <;> norm_num [perSeniorDeduction]
  exact add_nonneg hbase (mul_nonneg (Nat.cast_nonneg _) hper)

theorem deductionFor_nonneg (household : Household) (taxYear : ℤ) (magi : K) :
    0 ≤ deductionFor household taxYear magi := by
  by_cases h : enhancedApplies household taxYear
  · rw [deductionFor_of_enhanced h]
    exact add_nonneg (fixedDeduction_nonneg _) (le_max_right _ _)
  · rw [deductionFor_of_not_enhanced h]
    exact fixedDeduction_nonneg _

theorem enhancedDeduction_antitone (household : Household) {m m' : K} (h : m ≤ m') :
    enhancedDeduction household m' ≤ enhancedDeduction household m := by
  have hmax := max_le_max_right 0 (sub_le_sub_right h (obbbaPhaseoutStart household.filingStatus))
  have hrate := mul_le_mul_of_nonneg_right hmax
    (by norm_num [obbbaPhaseoutRate] : (0 : K) ≤ obbbaPhaseoutRate)
  exact max_le_max_right 0 (sub_le_sub_left hrate _)

theorem deductionFor_antitone (household : Household) (taxYear : ℤ) {m m' : K} (h : m ≤ m') :
    deductionFor household taxYear m' ≤ deductionFor household taxYear m := by
  by_cases he : enhancedApplies household taxYear
  · rw [deductionFor_of_enhanced he, deductionFor_of_enhanced he]
    exact add_le_add_right (enhancedDeduction_antitone household h) _
  · rw [deductionFor_of_not_enhanced he, deductionFor_of_not_enhanced he]

/-- The phase-out takes at most six cents of deduction per dollar of income. -/
theorem deductionFor_slope (household : Household) (taxYear : ℤ) {m m' : K} (h : m ≤ m') :
    deductionFor household taxYear m - deductionFor household taxYear m' ≤ 0.06 * (m' - m) := by
  have hpos : 0 ≤ m' - m := sub_nonneg.mpr h
  by_cases he : enhancedApplies household taxYear
  · rw [deductionFor_of_enhanced he, deductionFor_of_enhanced he, add_sub_add_left_eq_sub]
    have hramp := ramp_sub_le (obbbaPhaseoutStart household.filingStatus) h
    simp only [ramp] at hramp
    simp only [enhancedDeduction, obbbaPhaseoutRate]
    rw [sub_le_iff_le_add]
    refine max_le ?_ (by linarith [le_max_right ((household.seniors : K) * obbbaPerPerson
      - max (m' - obbbaPhaseoutStart household.filingStatus) 0 * 0.06) 0])
    linarith [le_max_left ((household.seniors : K) * obbbaPerPerson
      - max (m' - obbbaPhaseoutStart household.filingStatus) 0 * 0.06) 0]
  · rw [deductionFor_of_not_enhanced he, deductionFor_of_not_enhanced he, sub_self]
    linarith

/-- Where the enhanced deduction of one senior is gone. -/
def obbbaPhaseoutEnd (filingStatus : FilingStatus) : K := obbbaPhaseoutStart filingStatus + 100000

theorem seniors_single_le (filingStatus : FilingStatus) (age : ℕ) :
    (Household.single filingStatus age).seniors ≤ 1 := by
  simp only [Household.seniors, Household.single]
  exact List.length_filter_le _ [age]

/-- For one person the phase-out takes $6,000 in all, and nothing past its end. -/
theorem deductionFor_single_loss (filingStatus : FilingStatus) (age : ℕ) (taxYear : ℤ) {m m' : K}
    (h : m ≤ m') :
    deductionFor (.single filingStatus age) taxYear m
        - deductionFor (.single filingStatus age) taxYear m' = 0 ∨
      (m < obbbaPhaseoutEnd filingStatus ∧
        deductionFor (.single filingStatus age) taxYear m
          - deductionFor (.single filingStatus age) taxYear m' ≤ 6000) := by
  by_cases he : enhancedApplies (.single filingStatus age) taxYear
  · have hs : (Household.single filingStatus age).seniors = 1 :=
      le_antisymm (seniors_single_le _ _) (Nat.one_le_iff_ne_zero.mpr he.1)
    rw [deductionFor_of_enhanced he, deductionFor_of_enhanced he, add_sub_add_left_eq_sub]
    have hstatus : (Household.single filingStatus age).filingStatus = filingStatus := rfl
    simp only [enhancedDeduction, hs, hstatus, Nat.cast_one, one_mul, obbbaPerPerson,
      obbbaPhaseoutRate, obbbaPhaseoutEnd]
    have h0 := le_max_left (m - obbbaPhaseoutStart filingStatus) 0
    have h0' := le_max_right (m - obbbaPhaseoutStart filingStatus) 0
    have h1 := le_max_left (m' - obbbaPhaseoutStart filingStatus) 0
    by_cases hm : m < obbbaPhaseoutStart filingStatus + 100000
    · refine .inr ⟨hm, ?_⟩
      have := le_max_right (6000 - max (m' - obbbaPhaseoutStart filingStatus) 0 * 0.06) 0
      rw [sub_le_iff_le_add]
      refine max_le ?_ ?_ <;> linarith
    · left
      rw [max_eq_right (by linarith), max_eq_right (by linarith), sub_self]
  · left
    rw [deductionFor_of_not_enhanced he, deductionFor_of_not_enhanced he, sub_self]

/-! ## Federal tax -/

/-- The net investment income tax. -/
def investmentTax (filingStatus : FilingStatus) (taxYear : ℤ) (ordinary qualified : K) : K :=
  0.038 * min (max qualified 0)
    (max (ordinary + qualified
      - frozenThreshold (netInvestmentIncomeThreshold filingStatus) taxYear) 0)

/-- The income tax proper on ordinary income `z` after the deduction and on gains:
the ordinary schedule, and what the gains add to the gains schedule. -/
def incomeTax (filingStatus : FilingStatus) (z gains : K) : K :=
  value (federalKinks filingStatus) z
    + (value (ltcgKinks filingStatus) (z + gains) - value (ltcgKinks filingStatus) z)

theorem value_federalKinks_of_nonpos (filingStatus : FilingStatus) {z : K} (h : z ≤ 0) :
    value (federalKinks filingStatus) z = 0 :=
  (getFederalBrackets_contiguous filingStatus).value_eq_zero h

theorem value_ltcgKinks_of_nonpos (filingStatus : FilingStatus) {z : K} (h : z ≤ 0) :
    value (ltcgKinks filingStatus) z = 0 :=
  (ltcgBrackets_contiguous filingStatus).value_eq_zero h

/-- The federal tax is the income tax after the deduction and the net investment
income tax. -/
theorem federalTaxOn_eq (ordinary deduction : K) {qualified : K} (hq : 0 ≤ qualified)
    (filingStatus : FilingStatus) (taxYear : ℤ) :
    federalTaxOn ordinary qualified deduction filingStatus taxYear
      = incomeTax filingStatus (ordinary - deduction) qualified
        + investmentTax filingStatus taxYear ordinary qualified := by
  simp only [federalTaxOn, investmentTax, incomeTax]
  congr 1
  rw [calculateProgressiveTax_eq (getFederalBrackets_contiguous filingStatus),
    calculateLtcgTax_eq filingStatus (le_max_right _ _) (le_max_right _ _), ← federalKinks]
  rcases le_total ordinary deduction with h | h
  · rw [max_eq_right (by linarith : ordinary - deduction ≤ 0),
      max_eq_left (by linarith : 0 ≤ deduction - ordinary), zero_add,
      value_federalKinks_of_nonpos filingStatus le_rfl,
      value_federalKinks_of_nonpos filingStatus (by linarith : ordinary - deduction ≤ 0),
      value_ltcgKinks_of_nonpos filingStatus le_rfl,
      value_ltcgKinks_of_nonpos filingStatus (by linarith : ordinary - deduction ≤ 0)]
    rcases le_total qualified (deduction - ordinary) with hs | hs
    · rw [max_eq_right (by linarith), value_ltcgKinks_of_nonpos filingStatus le_rfl,
        value_ltcgKinks_of_nonpos filingStatus (by linarith)]
    · rw [max_eq_left (by linarith)]
      congr 3
      ring
  · rw [max_eq_left (by linarith : 0 ≤ ordinary - deduction),
      max_eq_right (by linarith : deduction - ordinary ≤ 0), sub_zero, max_eq_left hq]

theorem incomeTax_mono (filingStatus : FilingStatus) {z z' gains gains' : K} (hz : z ≤ z')
    (hg : 0 ≤ gains) (hgains : gains ≤ gains') :
    incomeTax filingStatus z gains ≤ incomeTax filingStatus z' gains' := by
  have h1 := value_mono (federalKinks_upward filingStatus) hz
  have h2 := value_add_sub_mono (ltcgKinks_upward filingStatus) hz hg
  have h3 := value_mono (ltcgKinks_upward filingStatus)
    (by linarith : z' + gains ≤ z' + gains')
  simp only [incomeTax]
  linarith

theorem incomeTax_nonneg (filingStatus : FilingStatus) (z : K) {gains : K} (hg : 0 ≤ gains) :
    0 ≤ incomeTax filingStatus z gains := by
  have h1 := value_nonneg (federalKinks_upward filingStatus) z
  have h2 := value_mono (ltcgKinks_upward filingStatus) (by linarith : z ≤ z + gains)
  simp only [incomeTax]
  linarith

/-- Where gains start to be taxed at the top rate. -/
def ltcgTopThreshold : FilingStatus → K
  | .single => 533400
  | .marriedFilingJointly => 600050
  | .marriedFilingSeparately => 300025
  | .headOfHousehold => 566700

/-- Where gains start to be taxed at all. -/
def ltcgFloor : FilingStatus → K
  | .single => 48450
  | .marriedFilingJointly => 96900
  | .marriedFilingSeparately => 48450
  | .headOfHousehold => 65250

/-- The gains schedule has two kinks: the floor, and the top threshold. -/
theorem value_ltcgKinks (filingStatus : FilingStatus) (z : K) :
    value (ltcgKinks filingStatus) z
      = 0.15 * ramp (ltcgFloor filingStatus) z + 0.05 * ramp (ltcgTopThreshold filingStatus) z := by
  cases filingStatus <;>
    · simp only [ltcgKinks, ltcgBrackets, kinks, kinksFrom, value_cons, value_nil, ltcgFloor,
        ltcgTopThreshold]
      norm_num

/-- Up to the gains floor, the ordinary rate is at most 22%. -/
theorem federalKinks_slope_below (filingStatus : FilingStatus) {z z' : K} (h : z ≤ z')
    (hz' : z' ≤ ltcgFloor filingStatus) :
    value (federalKinks filingStatus) z' - value (federalKinks filingStatus) z
      ≤ 0.22 * (z' - z) := by
  have hsplit : (federalKinks filingStatus : List (K × K))
      = (federalKinks filingStatus).take 3 ++ (federalKinks filingStatus).drop 3 :=
    (List.take_append_drop 3 _).symm
  have hlow : SlopesLE (0.22 : K) 0 ((federalKinks filingStatus).take 3) := by
    cases filingStatus <;>
      simp only [SlopesLE, federalKinks, getFederalBrackets, kinks, kinksFrom, List.take,
        List.forall_mem_cons, List.not_mem_nil, false_imp_iff, implies_true, and_true] <;>
      norm_num
  have hhigh : ∀ k ∈ (federalKinks filingStatus : List (K × K)).drop 3,
      ltcgFloor filingStatus ≤ k.1 := by
    cases filingStatus <;>
      simp only [federalKinks, getFederalBrackets, kinks, kinksFrom, List.drop, ltcgFloor,
        List.forall_mem_cons, List.not_mem_nil, false_imp_iff, implies_true, and_true] <;>
      norm_num
  have hzero {x : K} (hx : x ≤ ltcgFloor filingStatus) :
      value ((federalKinks filingStatus).drop 3) x = 0 :=
    value_eq_zero fun k hk => hx.trans (hhigh k hk)
  rw [hsplit, value_append, value_append, hzero hz', hzero (h.trans hz'), add_zero, add_zero]
  exact slope_le hlow h

/-- Ordinary income moves the ordinary tax at most 22% faster than it moves the
gains stacked on it into higher rates. -/
theorem federalKinks_sub_ltcgKinks (filingStatus : FilingStatus) {z z' : K} (h : z ≤ z') :
    value (federalKinks filingStatus) z' - value (federalKinks filingStatus) z
      ≤ 0.22 * (z' - z)
        + (value (ltcgKinks filingStatus) z' - value (ltcgKinks filingStatus) z) := by
  have hmono {x y : K} (hxy : x ≤ y) := value_mono (ltcgKinks_upward filingStatus) hxy
  have below {x y : K} (hxy : x ≤ y) (hy : y ≤ ltcgFloor filingStatus) :
      value (federalKinks filingStatus) y - value (federalKinks filingStatus) x
        ≤ 0.22 * (y - x)
          + (value (ltcgKinks filingStatus) y - value (ltcgKinks filingStatus) x) := by
    linarith [federalKinks_slope_below filingStatus hxy hy, hmono hxy]
  have above {x y : K} (hxy : x ≤ y) (hx : ltcgFloor filingStatus ≤ x) :
      value (federalKinks filingStatus) y - value (federalKinks filingStatus) x
        ≤ 0.22 * (y - x)
          + (value (ltcgKinks filingStatus) y - value (ltcgKinks filingStatus) x) := by
    have hp := slope_le (federalKinks_slopes filingStatus) hxy
    have hr := ramp_mono (ltcgTopThreshold filingStatus) hxy
    rw [value_ltcgKinks, value_ltcgKinks, ramp_of_ge hx, ramp_of_ge (hx.trans hxy)]
    linarith
  rcases le_total z' (ltcgFloor filingStatus) with hz' | hz'
  · exact below h hz'
  rcases le_total (ltcgFloor filingStatus) z with hz | hz
  · exact above h hz
  linarith [below hz le_rfl, above hz' le_rfl]

/-- The income tax takes at most 42 cents of a dollar of ordinary income and 20
cents of a dollar of gains. -/
theorem incomeTax_slope (filingStatus : FilingStatus) {z z' gains gains' : K} (hz : z ≤ z')
    (hgains : gains ≤ gains') :
    incomeTax filingStatus z' gains' - incomeTax filingStatus z gains
      ≤ 0.42 * (z' - z) + 0.20 * (gains' - gains) := by
  have h1 := federalKinks_sub_ltcgKinks filingStatus hz
  have h2 := slope_le (ltcgKinks_slopes filingStatus) (by linarith : z + gains ≤ z' + gains')
  simp only [incomeTax]
  linarith

/-- A step that starts `room` below the top gains threshold saves either all of
the top gains rate or that rate on the room. -/
theorem incomeTax_slope_of_room (filingStatus : FilingStatus) {z z' gains gains' room : K}
    (hz : z ≤ z') (hgains : gains ≤ gains')
    (hroom : z + gains + room ≤ ltcgTopThreshold filingStatus) (hpos : 0 ≤ room) :
    incomeTax filingStatus z' gains' - incomeTax filingStatus z gains
        ≤ 0.37 * (z' - z) + 0.15 * (gains' - gains) ∨
      incomeTax filingStatus z' gains' - incomeTax filingStatus z gains
        ≤ 0.42 * (z' - z) + 0.20 * (gains' - gains) - 0.05 * room := by
  have hw : z + gains ≤ z' + gains' := by linarith
  have h1 := federalKinks_sub_ltcgKinks filingStatus hz
  have hfloor := ramp_sub_le (ltcgFloor filingStatus) hw
  have htop : ramp (ltcgTopThreshold filingStatus) (z + gains) = 0 := ramp_of_le (by linarith)
  simp only [incomeTax, value_ltcgKinks filingStatus (z + gains),
    value_ltcgKinks filingStatus (z' + gains'), htop]
  rcases le_total (z' + gains') (ltcgTopThreshold filingStatus) with hw' | hw'
  · left
    rw [ramp_of_le hw']
    linarith
  · right
    rw [ramp_of_ge hw']
    linarith

theorem investmentTax_mono (filingStatus : FilingStatus) (taxYear : ℤ) {o o' q q' : K}
    (ho : o ≤ o') (hq : q ≤ q') :
    investmentTax filingStatus taxYear o q ≤ investmentTax filingStatus taxYear o' q' := by
  have h : (0 : K) ≤ 0.038 := by norm_num
  refine mul_le_mul_of_nonneg_left (min_le_min (max_le_max_right 0 hq) ?_) h
  exact max_le_max_right 0 (by linarith)

theorem investmentTax_nonneg (filingStatus : FilingStatus) (taxYear : ℤ) (o q : K) :
    0 ≤ investmentTax filingStatus taxYear o q :=
  mul_nonneg (by norm_num) (le_min (le_max_right _ _) (le_max_right _ _))

theorem investmentTax_le (filingStatus : FilingStatus) (taxYear : ℤ) (o : K) {q : K} (hq : 0 ≤ q) :
    investmentTax filingStatus taxYear o q ≤ 0.038 * q := by
  have h : (0 : K) ≤ 0.038 := by norm_num
  refine mul_le_mul_of_nonneg_left ((min_le_left _ _).trans ?_) h
  rw [max_eq_left hq]

theorem investmentTax_slope (filingStatus : FilingStatus) (taxYear : ℤ) {o o' q q' : K}
    (ho : o ≤ o') (hq0 : 0 ≤ q) (hq : q ≤ q') :
    investmentTax filingStatus taxYear o' q' - investmentTax filingStatus taxYear o q
      ≤ 0.038 * ((o' - o) + (q' - q)) := by
  set t := frozenThreshold (netInvestmentIncomeThreshold filingStatus : K) taxYear with ht
  have hramp := ramp_sub_le t (by linarith : o + q ≤ o' + q')
  simp only [ramp] at hramp
  have hmin : min (max q' 0) (max (o' + q' - t) 0)
      ≤ min (max q 0) (max (o + q - t) 0) + ((o' - o) + (q' - q)) := by
    rw [max_eq_left hq0, max_eq_left (hq0.trans hq)]
    rcases min_choice q (max (o + q - t) 0) with h | h <;> rw [h]
    · exact (min_le_left _ _).trans (by linarith)
    · exact (min_le_right _ _).trans (by linarith)
  simp only [investmentTax, ← ht]
  linarith

/-! ## State tax -/

/-- What the state taxes, before its standard deduction. -/
def StateTaxInput.base (state : State) (input : StateTaxInput K) : K :=
  let profile := stateTaxProfile state
  let deductiblePretax :=
    if profile.conformsToFederalHsa then input.pretaxHsa + input.pretaxTraditional
    else input.pretaxTraditional
  let socialSecurity := if profile.socialSecurityExempt then 0 else input.socialSecurity
  input.wages + input.otherOrdinary + input.qualified + socialSecurity - deductiblePretax

/-- A state's tax on its base: California's schedule past its standard deduction,
and nothing elsewhere. -/
def stateSchedule (state : State) (filingStatus : FilingStatus) (base : K) : K :=
  match state with
  | .CA => value (californiaKinks filingStatus)
      (base - (stateStandardDeduction .CA filingStatus).getD 0)
  | _ => 0

theorem stateTaxOf_eq (state : State) (filingStatus : FilingStatus) (input : StateTaxInput K) :
    stateTaxOf state filingStatus input
      = stateSchedule state filingStatus (input.base state) := by
  cases state
  case CA =>
    have hmax (x : K) : value (californiaKinks filingStatus) (max x 0)
        = value (californiaKinks filingStatus) x := by
      rcases le_total x 0 with h | h
      · rw [max_eq_right h, californiaKinks, kinks,
          (californiaBrackets_contiguous filingStatus).value_eq_zero le_rfl,
          (californiaBrackets_contiguous filingStatus).value_eq_zero h]
      · rw [max_eq_left h]
    simp only [stateTaxOf, stateBrackets, stateStandardDeduction, stateSchedule, Option.getD_some,
      StateTaxInput.base]
    rw [calculateProgressiveTax_eq (californiaBrackets_contiguous filingStatus), ← californiaKinks,
      hmax]
  all_goals simp only [stateTaxOf, stateBrackets, stateSchedule]

theorem stateSchedule_mono (state : State) (filingStatus : FilingStatus) {x y : K} (h : x ≤ y) :
    stateSchedule state filingStatus x ≤ stateSchedule state filingStatus y := by
  cases state
  case CA => exact value_mono (californiaKinks_upward filingStatus) (by linarith)
  all_goals exact le_rfl

theorem stateSchedule_slope (state : State) (filingStatus : FilingStatus) {x y : K} (h : x ≤ y) :
    stateSchedule state filingStatus y - stateSchedule state filingStatus x
      ≤ 0.133 * (y - x) := by
  cases state
  case CA =>
    set d := (stateStandardDeduction (K := K) .CA filingStatus).getD 0 with hd
    have := slope_le (californiaKinks_slopes filingStatus) (by linarith : x - d ≤ y - d)
    simp only [stateSchedule, ← hd]
    linarith
  all_goals
    simp only [stateSchedule, sub_self]
    exact mul_nonneg (by norm_num) (sub_nonneg.mpr h)

theorem stateSchedule_zero (state : State) (filingStatus : FilingStatus) :
    stateSchedule state filingStatus (0 : K) = 0 := by
  cases state
  case CA =>
    refine (californiaBrackets_contiguous filingStatus).value_eq_zero ?_
    cases filingStatus <;> norm_num [stateStandardDeduction]
  all_goals rfl

end RetirementPlanner.Engine
