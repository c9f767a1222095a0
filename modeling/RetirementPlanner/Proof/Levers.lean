import Mathlib.Tactic
import RetirementPlanner.Web.Levers

/-!
# What a lever's range holds

`mem_multiplesWithin`: the two loops of `multiplesWithin` find every multiple of the
spacing in a range, and no more than they were asked for. A lever's sweep values are
therefore few (`length_sweepValues_le`), distinct (`nodup_sweepValues`), within the lever's
hard bounds (`sweepValues_bounds`) and whole (`sweepValues_whole`).
-/

namespace RetirementPlanner.Web

variable {K : Type} [Field K] [LinearOrder K] [IsStrictOrderedRing K]

/-! ## The spacing -/

omit [IsStrictOrderedRing K] in
/-- The spacing is doubled only while too many multiples would fit. -/
theorem widen_least (width : K) (maxCount rounds : ℕ) (spacing : K) :
    ∃ doublings : ℕ, widen width maxCount rounds spacing = spacing * 2 ^ doublings ∧
      ∀ fewer < doublings, (maxCount : K) < width / (spacing * 2 ^ fewer) + 1 := by
  induction rounds generalizing spacing with
  | zero => exact ⟨0, by rw [widen, pow_zero, mul_one], fun fewer h => (nomatch h)⟩
  | succ rounds ih =>
    rw [widen]
    split
    · rename_i hcrowded
      obtain ⟨doublings, heq, hleast⟩ := ih (spacing * 2)
      refine ⟨doublings + 1, by rw [heq, pow_succ']; ring, fun fewer hfewer => ?_⟩
      cases fewer with
      | zero => rwa [pow_zero, mul_one]
      | succ fewer =>
        have hstep := hleast fewer (Nat.lt_of_succ_lt_succ hfewer)
        rwa [mul_assoc, ← pow_succ'] at hstep
    · exact ⟨0, by rw [pow_zero, mul_one], fun fewer h => (nomatch h)⟩

omit [IsStrictOrderedRing K] in
theorem widen_eq (width : K) (maxCount rounds : ℕ) (spacing : K) :
    ∃ doublings : ℕ, widen width maxCount rounds spacing = spacing * 2 ^ doublings := by
  obtain ⟨doublings, heq, -⟩ := widen_least width maxCount rounds spacing
  exact ⟨doublings, heq⟩

theorem widen_pos (width : K) (maxCount rounds : ℕ) {spacing : K} (h : 0 < spacing) :
    0 < widen width maxCount rounds spacing := by
  obtain ⟨doublings, heq⟩ := widen_eq width maxCount rounds spacing
  rw [heq]
  positivity

/-- The doubling ends by the condition of its loop, not for want of rounds. -/
theorem widen_fits {width spacing : K} {maxCount rounds : ℕ} (hcount : 2 ≤ maxCount)
    (hspacing : 0 < spacing) (hrounds : width ≤ spacing * 2 ^ rounds) :
    width / widen width maxCount rounds spacing + 1 ≤ maxCount := by
  induction rounds generalizing spacing with
  | zero =>
    have hratio : width / spacing ≤ 1 := by
      rw [div_le_one hspacing]
      simpa using hrounds
    have htwo : (2 : K) ≤ maxCount := by exact_mod_cast hcount
    rw [widen]
    linarith
  | succ rounds ih =>
    rw [widen]
    split
    · refine ih (by positivity) (hrounds.trans_eq ?_)
      rw [pow_succ']
      ring
    · rename_i hfits
      exact not_lt.mp hfits

theorem le_step_mul_pow [FloorRing K] {width step : K} (hstep : 0 < step) :
    width ≤ step * 2 ^ ⌈width / step⌉.toNat := by
  have hceil : width / step ≤ (⌈width / step⌉.toNat : K) := by
    refine (Int.le_ceil _).trans ?_
    exact_mod_cast Int.self_le_toNat _
  have hpow : (⌈width / step⌉.toNat : K) ≤ 2 ^ ⌈width / step⌉.toNat := by
    exact_mod_cast Nat.lt_two_pow_self.le
  rw [div_le_iff₀ hstep] at hceil
  calc width ≤ (⌈width / step⌉.toNat : K) * step := hceil
    _ ≤ 2 ^ ⌈width / step⌉.toNat * step := by gcongr
    _ = step * 2 ^ ⌈width / step⌉.toNat := mul_comm _ _

/-! ## The values -/

omit [IsStrictOrderedRing K] in
theorem length_valuesUpTo_le (max spacing : K) (rounds : ℕ) (v : K) :
    (valuesUpTo max spacing rounds v).length ≤ rounds := by
  induction rounds generalizing v with
  | zero => exact le_rfl
  | succ rounds ih =>
    rw [valuesUpTo]
    split
    · exact Nat.succ_le_succ (ih _)
    · exact Nat.zero_le _

theorem mem_valuesUpTo {max spacing x : K} (hspacing : 0 < spacing) {rounds : ℕ} {v : K} :
    x ∈ valuesUpTo max spacing rounds v ↔ ∃ i : ℕ, i < rounds ∧ x = v + i * spacing ∧ x ≤ max := by
  induction rounds generalizing v with
  | zero => simp [valuesUpTo]
  | succ rounds ih =>
    rw [valuesUpTo]
    split
    · rename_i hv
      rw [List.mem_cons, ih]
      constructor
      · rintro (rfl | ⟨i, hi, rfl, hx⟩)
        · exact ⟨0, Nat.succ_pos _, by simp, hv⟩
        · exact ⟨i + 1, Nat.succ_lt_succ hi, by push_cast; ring, hx⟩
      · rintro ⟨i, hi, rfl, hx⟩
        cases i with
        | zero => exact .inl (by simp)
        | succ i => exact .inr ⟨i, Nat.lt_of_succ_lt_succ hi, by push_cast; ring, hx⟩
    · rename_i hv
      refine ⟨fun h => (nomatch h), ?_⟩
      rintro ⟨i, -, rfl, hx⟩
      have hmul : 0 ≤ (i : K) * spacing := by positivity
      exact absurd (by linarith) hv

variable [FloorRing K]

/-- The spacing a range of values settles on. -/
def spacingOf (min max step : K) (maxCount : ℕ) : K :=
  widen (max - min) maxCount ⌈(max - min) / step⌉.toNat step

omit [IsStrictOrderedRing K] in
theorem length_multiplesWithin_le (min max step : K) (maxCount : ℕ) :
    (multiplesWithin min max step maxCount).length ≤ maxCount := length_valuesUpTo_le _ _ _ _

/-- The values are the multiples of the spacing in the range: neither loop is cut short. -/
theorem mem_multiplesWithin {min max step x : K} {maxCount : ℕ} (hcount : 2 ≤ maxCount)
    (hstep : 0 < step) :
    x ∈ multiplesWithin min max step maxCount ↔
      ∃ k : ℤ, x = k * spacingOf min max step maxCount ∧ min ≤ x ∧ x ≤ max := by
  have hpos : 0 < spacingOf min max step maxCount := widen_pos _ _ _ hstep
  have hfits : (max - min) / spacingOf min max step maxCount + 1 ≤ maxCount :=
    widen_fits hcount hstep (le_step_mul_pow hstep)
  have hmem : x ∈ multiplesWithin min max step maxCount ↔ ∃ i : ℕ, i < maxCount ∧
      x = (⌈min / spacingOf min max step maxCount⌉ : K) * spacingOf min max step maxCount
        + i * spacingOf min max step maxCount ∧ x ≤ max := mem_valuesUpTo hpos
  rw [hmem]
  set spacing := spacingOf min max step maxCount
  have hfirst : min ≤ (⌈min / spacing⌉ : K) * spacing := by
    rw [← div_le_iff₀ hpos]
    exact Int.le_ceil _
  constructor
  · rintro ⟨i, -, rfl, hx⟩
    refine ⟨⌈min / spacing⌉ + i, by push_cast; ring, ?_, hx⟩
    have hmul : 0 ≤ (i : K) * spacing := by positivity
    linarith
  · rintro ⟨k, rfl, hlow, hx⟩
    have hk : ⌈min / spacing⌉ ≤ k := by
      rw [Int.ceil_le, div_le_iff₀ hpos]
      exact hlow
    have hindex : ((k - ⌈min / spacing⌉).toNat : K) = k - ⌈min / spacing⌉ := by
      have hcast : (((k - ⌈min / spacing⌉).toNat : ℤ) : K) = ((k - ⌈min / spacing⌉ : ℤ) : K) := by
        rw [Int.toNat_of_nonneg (by omega)]
      push_cast at hcast
      exact hcast
    refine ⟨(k - ⌈min / spacing⌉).toNat, ?_, by rw [hindex]; ring, hx⟩
    have hwidth : ((k : K) - ⌈min / spacing⌉) * spacing ≤ max - min := by
      rw [sub_mul]
      linarith
    have hlt : ((k - ⌈min / spacing⌉).toNat : K) < maxCount := by
      rw [hindex]
      rw [← le_div_iff₀ hpos] at hwidth
      linarith
    exact_mod_cast hlt

/-- Of the doublings of the step, the spacing is the first at which few enough multiples fit. -/
theorem spacingOf_least {min max step : K} {count : ℕ} (hcount : 1 ≤ count) (hstep : 0 < step) :
    ∃ doublings : ℕ, spacingOf min max step (count + 1) = step * 2 ^ doublings ∧
      max - min ≤ step * (count * 2 ^ doublings) ∧
        ∀ fewer < doublings, step * (count * 2 ^ fewer) < max - min := by
  obtain ⟨doublings, heq, hleast⟩ :=
    widen_least (max - min) (count + 1) ⌈(max - min) / step⌉.toNat step
  have hrounds := @le_step_mul_pow K _ _ _ _ (max - min) _ hstep
  have hfits := widen_fits (Nat.succ_le_succ hcount) hstep hrounds
  rw [heq] at hfits
  push_cast at hfits hleast
  refine ⟨doublings, heq, ?_, fun fewer hfewer => ?_⟩
  · have hratio : (max - min) / (step * 2 ^ doublings) ≤ count := by linarith
    rw [div_le_iff₀ (by positivity)] at hratio
    linarith
  · have hratio : (count : K) < (max - min) / (step * 2 ^ fewer) := by
      linarith [hleast fewer hfewer]
    rw [lt_div_iff₀ (by positivity)] at hratio
    linarith

/-! ## Sweep values -/

theorem specs_steps (key : LeverKey) :
    0 < (specs key : LeverSpec K).tickStep ∧ 0 < (specs key : LeverSpec K).sweepStep ∧
      2 ≤ (specs key : LeverSpec K).maxSweepValues := by
  cases key <;> refine ⟨?_, ?_, ?_⟩ <;> norm_num [specs, conversionSteps]

omit [IsStrictOrderedRing K] in
/-- The step of a sweep is whole, and so is every value that joins one. -/
theorem specs_whole (key : LeverKey) (plan : RetirementPlan K) :
    (∃ n : ℤ, (specs key : LeverSpec K).sweepStep = n) ∧
      ((specs key : LeverSpec K).includeCurrentInSweep = true →
        ∃ n : ℤ, (specs key).value plan = n) := by
  cases key with
  | retirementAge => exact ⟨⟨5, by norm_num [specs]⟩, fun _ => ⟨plan.profile.retirementAge, rfl⟩⟩
  | spending => exact ⟨⟨10000, by norm_num [specs]⟩, fun h => (nomatch h)⟩
  | socialSecurityClaimAge =>
    exact ⟨⟨2, by norm_num [specs]⟩, fun _ => ⟨plan.socialSecurity.claimAge, rfl⟩⟩
  | rothConversion =>
    exact ⟨⟨1, by norm_num [specs]⟩, fun _ => ⟨conversionStepOf plan, (Int.cast_natCast _).symm⟩⟩

section SweepValues

variable (key : LeverKey) (plan : RetirementPlan K)

/-- The grid a sweep runs over. -/
def sweepGrid (key : LeverKey) (plan : RetirementPlan K) : List K :=
  multiplesWithin (leverRange key plan).min (leverRange key plan).max
    (specs key : LeverSpec K).sweepStep (specs key : LeverSpec K).maxSweepValues

/-- The plan's own value, where it joins the sweep. -/
def ownValue (key : LeverKey) (plan : RetirementPlan K) : List K :=
  if (specs key : LeverSpec K).includeCurrentInSweep ∧
      (leverRange key plan).min ≤ (specs key).value plan ∧
      (specs key).value plan ≤ (leverRange key plan).max then [(specs key).value plan]
  else []

omit [IsStrictOrderedRing K] in
theorem sweepValues_eq : (leverRange key plan).sweepValues
    = (sweepGrid key plan ++ ownValue key plan).dedup.insertionSort (· ≤ ·) := by
  have hvalues : (leverRange key plan).sweepValues
      = (if (specs key : LeverSpec K).includeCurrentInSweep ∧
            (leverRange key plan).min ≤ (specs key).value plan ∧
            (specs key).value plan ≤ (leverRange key plan).max then
          sweepGrid key plan ++ [(specs key).value plan]
        else sweepGrid key plan).dedup.insertionSort (· ≤ ·) := rfl
  rw [hvalues, ownValue]
  split
  · rfl
  · rw [List.append_nil]

omit [IsStrictOrderedRing K] in
theorem nodup_sweepValues : (leverRange key plan).sweepValues.Nodup := by
  rw [sweepValues_eq]
  exact (List.perm_insertionSort _ _).nodup_iff.mpr (List.nodup_dedup _)

omit [IsStrictOrderedRing K] in
theorem length_sweepValues_le : (leverRange key plan).sweepValues.length
    ≤ (specs key : LeverSpec K).maxSweepValues
      + (if (specs key : LeverSpec K).includeCurrentInSweep then 1 else 0) := by
  have hown : (ownValue key plan).length
      ≤ if (specs key : LeverSpec K).includeCurrentInSweep then 1 else 0 := by
    rw [ownValue]
    split
    · rename_i hjoins
      rw [if_pos hjoins.1]
      rfl
    · exact Nat.zero_le _
  rw [sweepValues_eq, List.length_insertionSort]
  refine (List.dedup_sublist _).length_le.trans ?_
  rw [List.length_append]
  exact Nat.add_le_add (length_multiplesWithin_le _ _ _ _) hown

omit [IsStrictOrderedRing K] in
theorem mem_sweepValues {x : K} : x ∈ (leverRange key plan).sweepValues ↔
    x ∈ sweepGrid key plan ∨ x ∈ ownValue key plan := by
  rw [sweepValues_eq, List.mem_insertionSort, List.mem_dedup, List.mem_append]

theorem sweepValues_range {x : K} (h : x ∈ (leverRange key plan).sweepValues) :
    (leverRange key plan).min ≤ x ∧ x ≤ (leverRange key plan).max := by
  obtain ⟨-, hstep, hcount⟩ := specs_steps (K := K) key
  rcases (mem_sweepValues key plan).mp h with hgrid | hown
  · obtain ⟨k, -, hrange⟩ := (mem_multiplesWithin hcount hstep).mp hgrid
    exact hrange
  · rw [ownValue] at hown
    split at hown
    · rename_i hjoins
      cases List.mem_singleton.mp hown
      exact hjoins.2
    · cases hown

/-- A sweep stays within the hard bounds of its lever, where the plan's own value does. -/
theorem sweepValues_bounds {low high : K} (hbounds : (specs key).bounds plan = (low, high))
    (hvalue : low ≤ (specs key).value plan ∧ (specs key).value plan ≤ high)
    {x : K} (h : x ∈ (leverRange key plan).sweepValues) : low ≤ x ∧ x ≤ high := by
  obtain ⟨htick, -, -⟩ := specs_steps (K := K) key
  have hfloor : (⌊(specs key).value plan / (specs key).tickStep⌋ : K) * (specs key).tickStep
      ≤ (specs key).value plan := by
    rw [← le_div_iff₀ htick]
    exact Int.floor_le _
  have hmin : low ≤ (leverRange key plan).min := by
    simp only [leverRange, hbounds]
    exact le_max_left _ _
  have hminHigh : (leverRange key plan).min ≤ high := by
    simp only [leverRange, hbounds]
    exact max_le (hvalue.1.trans hvalue.2) ((min_le_right _ _).trans (hfloor.trans hvalue.2))
  have hmax : (leverRange key plan).max ≤ high := by
    have heq : (leverRange key plan).max = max (leverRange key plan).min
        (min high (max ((specs key).base plan).2
          ((⌈(specs key).value plan / (specs key).tickStep⌉ : K) * (specs key).tickStep))) := by
      simp only [leverRange, hbounds]
    rw [heq]
    exact max_le hminHigh (min_le_left _ _)
  obtain ⟨hlow, hhigh⟩ := sweepValues_range key plan h
  exact ⟨hmin.trans hlow, hhigh.trans hmax⟩

/-- Every sweep value is a whole number. -/
theorem sweepValues_whole {x : K} (h : x ∈ (leverRange key plan).sweepValues) :
    ∃ n : ℤ, x = n := by
  obtain ⟨-, hstep, hcount⟩ := specs_steps (K := K) key
  obtain ⟨⟨step, hwhole⟩, hvalue⟩ := specs_whole key plan
  rcases (mem_sweepValues key plan).mp h with hgrid | hown
  · obtain ⟨k, rfl, -⟩ := (mem_multiplesWithin hcount hstep).mp hgrid
    obtain ⟨doublings, hspacing⟩ := widen_eq ((leverRange key plan).max - (leverRange key plan).min)
      (specs key : LeverSpec K).maxSweepValues
      ⌈((leverRange key plan).max - (leverRange key plan).min)
        / (specs key : LeverSpec K).sweepStep⌉.toNat (specs key : LeverSpec K).sweepStep
    refine ⟨k * (step * 2 ^ doublings), ?_⟩
    rw [spacingOf, hspacing, hwhole]
    push_cast
    rfl
  · rw [ownValue] at hown
    split at hown
    · rename_i hjoins
      cases List.mem_singleton.mp hown
      exact hvalue hjoins.1
    · cases hown

theorem floor_sweepValue {x : K} (h : x ∈ (leverRange key plan).sweepValues) : (⌊x⌋ : K) = x := by
  obtain ⟨n, rfl⟩ := sweepValues_whole key plan h
  rw [Int.floor_intCast]

end SweepValues

end RetirementPlanner.Web
