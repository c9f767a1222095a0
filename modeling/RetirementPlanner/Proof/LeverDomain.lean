import RetirementPlanner.Lib.Spans
import RetirementPlanner.Proof.SpendingAxis
import RetirementPlanner.Proof.StoredPlans

/-!
# When a curve covers its slider

A lever's sweep values increase and stay within the lever's range (`sweepValues_increasing`,
`sweepValues_range`), so the curve covers the slider just when both ends of the range are among
them (`leverRange_spans`). An end is when it is a multiple of the spacing or the plan's own value
(`mem_sweepValues_of_range`); the four levers differ in when their ends are.

* `leverRange_spans_iff`: the plans and levers whose curve covers the slider.
-/

namespace RetirementPlanner.Web

open Sampling Schema

variable {K : Type} [Field K] [LinearOrder K] [IsStrictOrderedRing K] [FloorRing K]

/-! ## The ends of a range -/

section Ends

variable (key : LeverKey) (plan : RetirementPlan K)

omit [IsStrictOrderedRing K] in
theorem sweepValues_increasing : (leverRange key plan).sweepValues.Pairwise (· < ·) := by
  rw [sweepValues_eq]
  exact pairwise_lt_insertionSort (List.nodup_dedup _)

omit [IsStrictOrderedRing K] in
theorem min_le_max : (leverRange key plan).min ≤ (leverRange key plan).max := le_max_left _ _

theorem leverRange_spans :
    Spans (leverRange key plan).sweepValues (leverRange key plan).min (leverRange key plan).max ↔
      (leverRange key plan).min ∈ (leverRange key plan).sweepValues ∧
        (leverRange key plan).max ∈ (leverRange key plan).sweepValues :=
  spans_iff (sweepValues_increasing key plan) fun _ => sweepValues_range key plan

/-- The spacing of a lever's sweep. -/
def sweepSpacing (key : LeverKey) (plan : RetirementPlan K) : K :=
  spacingOf (leverRange key plan).min (leverRange key plan).max
    (specs key : LeverSpec K).sweepStep (specs key : LeverSpec K).maxSweepValues

variable {key plan}

theorem mem_sweepGrid_of_range {x : K} (hlow : (leverRange key plan).min ≤ x)
    (hhigh : x ≤ (leverRange key plan).max) :
    x ∈ sweepGrid key plan ↔ ∃ k : ℤ, x = k * sweepSpacing key plan := by
  obtain ⟨-, hstep, hcount⟩ := specs_steps (K := K) key
  rw [sweepGrid, mem_multiplesWithin hcount hstep]
  constructor
  · rintro ⟨k, hx, -⟩
    exact ⟨k, hx⟩
  · rintro ⟨k, hx⟩
    exact ⟨k, hx, hlow, hhigh⟩

omit [IsStrictOrderedRing K] in
theorem mem_ownValue_of_range {x : K} (hlow : (leverRange key plan).min ≤ x)
    (hhigh : x ≤ (leverRange key plan).max) :
    x ∈ ownValue key plan ↔
      (specs key : LeverSpec K).includeCurrentInSweep = true ∧ x = (specs key).value plan := by
  rw [ownValue]
  constructor
  · intro hmem
    split at hmem
    · rename_i hjoins
      exact ⟨hjoins.1, List.mem_singleton.mp hmem⟩
    · cases hmem
  · rintro ⟨hjoins, rfl⟩
    rw [if_pos ⟨hjoins, hlow, hhigh⟩]
    exact List.mem_singleton_self _

/-- A point of the range is swept when it is a multiple of the spacing or the plan's own value. -/
theorem mem_sweepValues_of_range {x : K} (hlow : (leverRange key plan).min ≤ x)
    (hhigh : x ≤ (leverRange key plan).max) :
    x ∈ (leverRange key plan).sweepValues ↔ (∃ k : ℤ, x = k * sweepSpacing key plan) ∨
      (specs key : LeverSpec K).includeCurrentInSweep = true ∧ x = (specs key).value plan := by
  rw [mem_sweepValues, mem_sweepGrid_of_range hlow hhigh, mem_ownValue_of_range hlow hhigh]

variable (key plan)

theorem sweepSpacing_least {count : ℕ} (hcount : 1 ≤ count)
    (hmost : (specs key : LeverSpec K).maxSweepValues = count + 1) :
    ∃ doublings : ℕ, sweepSpacing key plan = (specs key : LeverSpec K).sweepStep * 2 ^ doublings ∧
      (leverRange key plan).max - (leverRange key plan).min
        ≤ (specs key : LeverSpec K).sweepStep * (count * 2 ^ doublings) ∧
      ∀ fewer < doublings, (specs key : LeverSpec K).sweepStep * (count * 2 ^ fewer)
        < (leverRange key plan).max - (leverRange key plan).min := by
  rw [sweepSpacing, hmost]
  exact spacingOf_least hcount (specs_steps key).2.1

variable {key plan}

/-- A range that is short enough is swept in the lever's own step. -/
theorem sweepSpacing_of_short {count : ℕ} (hcount : 1 ≤ count)
    (hmost : (specs key : LeverSpec K).maxSweepValues = count + 1)
    (hshort : (leverRange key plan).max - (leverRange key plan).min
      ≤ (specs key : LeverSpec K).sweepStep * count) :
    sweepSpacing key plan = (specs key : LeverSpec K).sweepStep := by
  obtain ⟨doublings, heq, -, hleast⟩ := sweepSpacing_least key plan hcount hmost
  cases doublings with
  | zero => rw [heq, pow_zero, mul_one]
  | succ doublings =>
    have hlong := hleast 0 (Nat.succ_pos _)
    rw [pow_zero, mul_one] at hlong
    exact absurd hshort (not_le.mpr hlong)

omit [FloorRing K] in
theorem exists_eq_mul_iff {x n : ℤ} : (∃ k : ℤ, (x : K) = k * n) ↔ n ∣ x := by
  constructor
  · rintro ⟨k, hx⟩
    exact ⟨k, by rw [mul_comm]; exact_mod_cast hx⟩
  · rintro ⟨k, rfl⟩
    exact ⟨k, by push_cast; ring⟩

end Ends

/-! ## Claim ages and conversions -/

section Fixed

variable {key : LeverKey} {plan : RetirementPlan K}

omit [IsStrictOrderedRing K] in
/-- A lever whose band is all that its bounds allow always has that range. -/
theorem leverRange_of_bounds {low high : K} (hbounds : (specs key).bounds plan = (low, high))
    (hbase : (specs key).base plan = (low, high)) (hle : low ≤ high) :
    (leverRange key plan).min = low ∧ (leverRange key plan).max = high := by
  have hlow : ∀ x : K, max low (min low x) = low := fun x => max_eq_left (min_le_left _ _)
  have hhigh : ∀ x : K, min high (max high x) = high := fun x => min_eq_left (le_max_left _ _)
  simp only [leverRange, hbounds, hbase, hlow, hhigh, true_and]
  exact max_eq_right hle

/-- A short range between two multiples of the lever's step is covered. -/
theorem spans_of_multiples {count : ℕ} (hcount : 1 ≤ count)
    (hmost : (specs key : LeverSpec K).maxSweepValues = count + 1) {m n : ℤ}
    (hmin : (leverRange key plan).min = m * (specs key : LeverSpec K).sweepStep)
    (hmax : (leverRange key plan).max = n * (specs key : LeverSpec K).sweepStep)
    (hshort : n - m ≤ count) :
    Spans (leverRange key plan).sweepValues (leverRange key plan).min
      (leverRange key plan).max := by
  have hstep : 0 < (specs key : LeverSpec K).sweepStep := (specs_steps key).2.1
  have hspacing : sweepSpacing key plan = (specs key : LeverSpec K).sweepStep := by
    refine sweepSpacing_of_short hcount hmost ?_
    have hcast : ((n : K) - m) ≤ count := by exact_mod_cast hshort
    rw [hmin, hmax, ← sub_mul, mul_comm]
    exact mul_le_mul_of_nonneg_left hcast hstep.le
  have hrange := min_le_max key plan
  rw [leverRange_spans, mem_sweepValues_of_range le_rfl hrange,
    mem_sweepValues_of_range hrange le_rfl, hspacing]
  exact ⟨.inl ⟨m, hmin⟩, .inl ⟨n, hmax⟩⟩

theorem claimAge_spans (plan : RetirementPlan K) :
    Spans (leverRange .socialSecurityClaimAge plan).sweepValues
      (leverRange .socialSecurityClaimAge plan).min
      (leverRange .socialSecurityClaimAge plan).max := by
  obtain ⟨hmin, hmax⟩ := @leverRange_of_bounds K _ _ _ .socialSecurityClaimAge plan 62 70 rfl rfl
    (by norm_num)
  refine @spans_of_multiples K _ _ _ _ _ _ 6 (by decide) rfl 31 35 (hmin.trans ?_)
    (hmax.trans ?_) (by decide)
  · norm_num [specs]
  · norm_num [specs]

theorem rothConversion_spans (plan : RetirementPlan K) :
    Spans (leverRange .rothConversion plan).sweepValues (leverRange .rothConversion plan).min
      (leverRange .rothConversion plan).max := by
  obtain ⟨hmin, hmax⟩ := @leverRange_of_bounds K _ _ _ .rothConversion plan 0
    ((conversionSteps.length : K) - 1) rfl rfl (by norm_num [conversionSteps])
  refine @spans_of_multiples K _ _ _ _ _ _ 5 (by decide) rfl 0 5 (hmin.trans ?_)
    (hmax.trans ?_) (by decide)
  · norm_num [specs]
  · norm_num [specs, conversionSteps]

end Fixed

/-! ## Retirement ages -/

section RetirementAge

variable {plan : RetirementPlan K}

omit [LinearOrder K] [IsStrictOrderedRing K] [FloorRing K] in
/-- The last age the slider has: the standard band, or the five years that end at or after the
plan's age, within the lifetime. -/
def lastAge (plan : RetirementPlan K) : ℤ :=
  min (min 100 (plan.profile.lifeExpectancy - 1))
    (max 70 ((plan.profile.retirementAge + 4) / 5 * 5))

theorem ceil_fives (age : ℤ) : ⌈(age : K) / 5⌉ = (age + 4) / 5 := by
  have hlow : (((age + 4) / 5 - 1 : ℤ) : K) * 5 < age := by
    exact_mod_cast (by omega : ((age + 4) / 5 - 1) * 5 < age)
  have hhigh : (age : K) ≤ (((age + 4) / 5 : ℤ) : K) * 5 := by
    exact_mod_cast (by omega : age ≤ (age + 4) / 5 * 5)
  rw [Int.ceil_eq_iff, lt_div_iff₀ (by norm_num), div_le_iff₀ (by norm_num)]
  push_cast at hlow
  exact ⟨hlow, hhigh⟩

theorem leverRange_retirementAge (h : StoredPlan plan) :
    (leverRange .retirementAge plan).min = ((45 : ℤ) : K) ∧
      (leverRange .retirementAge plan).max = (lastAge plan : K) := by
  have hlife : 65 ≤ plan.profile.lifeExpectancy := h.profile.lifeExpectancy.1
  have hmin : (leverRange .retirementAge plan).min = ((45 : ℤ) : K) :=
    max_eq_left (min_le_left _ _)
  refine ⟨hmin, ?_⟩
  have heq : (leverRange .retirementAge plan).max = max (leverRange .retirementAge plan).min
      (min (min 100 ((plan.profile.lifeExpectancy : K) - 1))
        (max 70 ((⌈(plan.profile.retirementAge : K) / 5⌉ : K) * 5))) := rfl
  have hlast : 45 ≤ lastAge plan := by
    rw [lastAge]
    omega
  have hcast : min (min 100 ((plan.profile.lifeExpectancy : K) - 1))
      (max 70 ((⌈(plan.profile.retirementAge : K) / 5⌉ : K) * 5)) = (lastAge plan : K) := by
    rw [ceil_fives, lastAge]
    push_cast
    rfl
  rw [heq, hmin, hcast]
  exact max_eq_right (Int.cast_le.mpr hlast)

/-- Up to 80 the ages are swept in fives, so the last one has to be a five or the plan's own; past
80 in tens, and 45 is none. -/
theorem retirementAge_spans_iff (h : StoredPlan plan) :
    Spans (leverRange .retirementAge plan).sweepValues (leverRange .retirementAge plan).min
        (leverRange .retirementAge plan).max ↔
      plan.profile.retirementAge ≤ 80 ∧
        (max 70 ((plan.profile.retirementAge + 4) / 5 * 5) < plan.profile.lifeExpectancy ∨
          5 ∣ plan.profile.lifeExpectancy - 1 ∨
          plan.profile.retirementAge = plan.profile.lifeExpectancy - 1) := by
  obtain ⟨hmin, hmax⟩ := leverRange_retirementAge h
  have hlife : 65 ≤ plan.profile.lifeExpectancy := h.profile.lifeExpectancy.1
  have hage : 45 ≤ plan.profile.retirementAge ∧ plan.profile.retirementAge ≤ 100 :=
    h.profile.retirementAge
  have hhorizon : plan.profile.retirementAge < plan.profile.lifeExpectancy :=
    (le_max_right _ _).trans_lt h.profile.horizon
  have hrange := min_le_max .retirementAge plan
  have hvalue : (specs .retirementAge).value plan = (plan.profile.retirementAge : K) := rfl
  rw [leverRange_spans, mem_sweepValues_of_range le_rfl hrange,
    mem_sweepValues_of_range hrange le_rfl, hmin, hmax, hvalue]
  obtain ⟨doublings, hspacing, hfits, hleast⟩ :=
    @sweepSpacing_least K _ _ _ _ .retirementAge plan 7 (by decide) rfl
  have hstep : (specs .retirementAge : LeverSpec K).sweepStep = ((5 : ℤ) : K) := by
    norm_num [specs]
  rw [hmin, hmax, hstep] at hfits hleast
  have hspacing' : sweepSpacing .retirementAge plan = ((5 * 2 ^ doublings : ℤ) : K) := by
    rw [hspacing, hstep]
    push_cast
    rfl
  have hjoins : (specs .retirementAge : LeverSpec K).includeCurrentInSweep = true := rfl
  simp only [hspacing', exists_eq_mul_iff, hjoins, true_and, Int.cast_inj]
  have hfits' : lastAge plan - 45 ≤ 5 * (7 * 2 ^ doublings) := by exact_mod_cast hfits
  have hleast' : ∀ fewer < doublings, 5 * (7 * 2 ^ fewer) < lastAge plan - 45 := by
    intro fewer hfewer
    exact_mod_cast hleast fewer hfewer
  have hlast : lastAge plan = min (min 100 (plan.profile.lifeExpectancy - 1))
    (max 70 ((plan.profile.retirementAge + 4) / 5 * 5)) := rfl
  rcases doublings with _ | _ | doublings
  · simp only [pow_zero, mul_one] at hfits' ⊢
    omega
  · have htens := hleast' 0 (by decide)
    simp only [zero_add, pow_zero, pow_one, mul_one] at htens ⊢
    omega
  · have hhundred := hleast' 1 (by omega)
    omega

end RetirementAge

/-! ## Spending -/

section Spending

variable {plan : RetirementPlan K}

omit [FloorRing K] in
/-- Half a tick is the finest spacing. -/
theorem exists_ticks_eq_iff {n : ℤ} (doublings : ℕ) :
    (∃ k : ℤ, (ticks n : K) = k * (10000 * 2 ^ doublings)) ↔ 2 ^ doublings ∣ 2 * n := by
  rw [← @exists_eq_mul_iff K]
  refine exists_congr fun k => ?_
  have hticks : (ticks n : K) = 10000 * ((2 * n : ℤ) : K) := by
    rw [ticks]
    push_cast
    ring
  have hmultiple : (k : K) * (10000 * 2 ^ doublings) = 10000 * (k * ((2 ^ doublings : ℤ) : K)) := by
    push_cast
    ring
  rw [hticks, hmultiple]
  exact mul_right_inj' (by norm_num)

/-- An axis is swept in some doubling of $10,000: its ends have to be multiples of one of which
thirteen span the axis. -/
theorem spending_spans_iff (h : StoredPlan plan) :
    Spans (leverRange .spending plan).sweepValues (leverRange .spending plan).min
        (leverRange .spending plan).max ↔
      ∃ e : ℕ, 2 ^ e ∣ 2 * floorTicks plan.profile.currentSalary plan.profile.currentSpending ∧
        2 ^ e ∣ 2 * topTicks plan.profile.currentSalary plan.profile.currentSpending ∧
        2 * topTicks plan.profile.currentSalary plan.profile.currentSpending
          - 2 * floorTicks plan.profile.currentSalary plan.profile.currentSpending
            ≤ (13 : ℕ) * 2 ^ e := by
  obtain ⟨hmin, hmax⟩ := leverRange_spending h.profile.currentSpending.1
    h.profile.currentSpending.2
  have hrange := min_le_max .spending plan
  have hjoins : (specs .spending : LeverSpec K).includeCurrentInSweep = false := rfl
  have hstep : (specs .spending : LeverSpec K).sweepStep = 10000 := rfl
  obtain ⟨doublings, hspacing, hfits, hleast⟩ :=
    @sweepSpacing_least K _ _ _ _ .spending plan 13 (by decide) rfl
  rw [hmin, hmax, hstep] at hfits hleast
  rw [leverRange_spans, mem_sweepValues_of_range le_rfl hrange,
    mem_sweepValues_of_range hrange le_rfl, hmin, hmax, hspacing, hstep]
  simp only [hjoins, Bool.false_eq_true, false_and, or_false, exists_ticks_eq_iff]
  set low := floorTicks plan.profile.currentSalary plan.profile.currentSpending
  set high := topTicks plan.profile.currentSalary plan.profile.currentSpending
  have hwidth : (ticks high : K) - ticks low = 10000 * ((2 * high - 2 * low : ℤ) : K) := by
    rw [ticks, ticks]
    push_cast
    ring
  rw [hwidth] at hfits hleast
  refine least_pow_dvd_iff ?_ fun fewer hfewer => ?_
  · exact_mod_cast le_of_mul_le_mul_left hfits (by norm_num)
  · exact_mod_cast lt_of_mul_lt_mul_left (hleast fewer hfewer) (by norm_num)

end Spending

/-! ## Every lever -/

/-- When the ends of a lever's range are plotted. -/
def EndsPlotted (plan : RetirementPlan K) : LeverKey → Prop
  | .retirementAge =>
    plan.profile.retirementAge ≤ 80 ∧
      (max 70 ((plan.profile.retirementAge + 4) / 5 * 5) < plan.profile.lifeExpectancy ∨
        5 ∣ plan.profile.lifeExpectancy - 1 ∨
        plan.profile.retirementAge = plan.profile.lifeExpectancy - 1)
  | .spending =>
    ∃ e : ℕ, 2 ^ e ∣ 2 * floorTicks plan.profile.currentSalary plan.profile.currentSpending ∧
      2 ^ e ∣ 2 * topTicks plan.profile.currentSalary plan.profile.currentSpending ∧
      2 * topTicks plan.profile.currentSalary plan.profile.currentSpending
        - 2 * floorTicks plan.profile.currentSalary plan.profile.currentSpending
          ≤ (13 : ℕ) * 2 ^ e
  | .socialSecurityClaimAge => True
  | .rothConversion => True

/-- The curve of a stored plan's lever runs from the slider's one end to the other. -/
theorem leverRange_spans_iff {value : Option (Json K)} {plan : RetirementPlan K}
    (hstored : retirementPlanSchema value = .ok plan) (key : LeverKey) :
    Spans (leverRange key plan).sweepValues (leverRange key plan).min (leverRange key plan).max ↔
      EndsPlotted plan key := by
  have h := retirementPlanSchema_stored hstored
  cases key with
  | retirementAge => exact retirementAge_spans_iff h
  | spending => exact spending_spans_iff h
  | socialSecurityClaimAge => exact iff_of_true (claimAge_spans plan) trivial
  | rothConversion => exact iff_of_true (rothConversion_spans plan) trivial

/-- The axis from $20,000 to $240,000 is swept from end to end, every $20,000. -/
theorem leverRange_spans_iff_spending :
    (leverRange .spending (householdSpending 200000 1)).sweepValues.length = 12 ∧
      Spans (leverRange .spending (householdSpending 200000 1)).sweepValues
        (leverRange .spending (householdSpending 200000 1)).min
        (leverRange .spending (householdSpending 200000 1)).max := by
  have hplan : retirementPlanSchema (some (planJson (householdSpending 200000 1)))
      = .ok (householdSpending 200000 1) := stored_of_test (by decide +kernel)
  refine ⟨by decide +kernel, (leverRange_spans_iff hplan .spending).mpr ⟨1, ?_⟩⟩
  decide +kernel

/-- The axis from $20,000 to $300,000 is swept from $40,000 to $280,000. -/
theorem leverRange_not_spans :
    ∃ (value : Option (Json ℚ)) (plan : RetirementPlan ℚ),
      retirementPlanSchema value = .ok plan ∧
        ¬ Spans (leverRange .spending plan).sweepValues (leverRange .spending plan).min
          (leverRange .spending plan).max := by
  have hplan : retirementPlanSchema (some (planJson (householdSpending 300000 1)))
      = .ok (householdSpending 300000 1) := stored_of_test (by decide +kernel)
  have hfirst : (leverRange .spending (householdSpending 300000 1)).sweepValues.head?
      ≠ some (leverRange .spending (householdSpending 300000 1)).min := by decide +kernel
  exact ⟨_, _, hplan, fun h => hfirst h.first⟩

end RetirementPlanner.Web
