import RetirementPlanner.Proof.Levers

/-!
# The spending axis in ticks

The ends of the spending lever's range are whole ticks of $20,000 (`leverRange_spending`): the
lower one is the salary's bottom tick or the tick under the plan's spending, the upper one as many
whole bands as hold the spending, up to the most a plan may spend.
-/

namespace RetirementPlanner.Web

variable {K : Type} [Field K] [LinearOrder K]

/-! ## Ticks -/

omit [LinearOrder K] in
/-- An amount of whole ticks. -/
def ticks (n : ℤ) : K := (n : K) * 20000

section Ticks

variable [IsStrictOrderedRing K]

theorem ticks_lt_ticks {m n : ℤ} : (ticks m : K) < ticks n ↔ m < n := by
  rw [ticks, ticks, mul_lt_mul_iff_left₀ (by norm_num), Int.cast_lt]

theorem ticks_le_ticks {m n : ℤ} : (ticks m : K) ≤ ticks n ↔ m ≤ n := by
  rw [← not_lt, ← not_lt, ticks_lt_ticks]

theorem monotone_ticks : Monotone (ticks : ℤ → K) := fun _ _ h => ticks_le_ticks.mpr h

theorem max_ticks (m n : ℤ) : max (ticks m : K) (ticks n) = ticks (max m n) :=
  (monotone_ticks.map_max).symm

theorem min_ticks (m n : ℤ) : min (ticks m : K) (ticks n) = ticks (min m n) :=
  (monotone_ticks.map_min).symm

variable [FloorRing K]

theorem ticks_le_iff {n : ℤ} {x : K} : ticks n ≤ x ↔ n ≤ ⌊x / 20000⌋ := by
  rw [ticks, Int.le_floor, le_div_iff₀ (by norm_num)]

theorem le_ticks_iff {n : ℤ} {x : K} : x ≤ ticks n ↔ ⌈x / 20000⌉ ≤ n := by
  rw [ticks, Int.ceil_le, div_le_iff₀ (by norm_num)]

end Ticks

/-! ## The axis of a salary -/

section Axis

variable [FloorRing K]

/-- A quarter of the salary, to the nearest tick. -/
def bottomTicks (salary : K) : ℤ := max 1 ⌊max salary 20000 * 0.25 / 20000 + 1 / 2⌋

/-- All of the salary, and a tick over the bottom at least. -/
def bandTicks (salary : K) : ℤ := max (bottomTicks salary + 1) ⌈max salary 20000 / 20000⌉

/-- The bands that hold the spending. -/
def bandCount (salary spending : K) : ℤ := max 1 ⌈spending / ticks (bandTicks salary)⌉

def floorTicks (salary spending : K) : ℤ := min (bottomTicks salary) ⌊spending / 20000⌋

/-- A plan may spend 50,000 ticks. -/
def topTicks (salary spending : K) : ℤ := min 50000 (bandTicks salary * bandCount salary spending)

variable [IsStrictOrderedRing K] (salary : K)

omit [IsStrictOrderedRing K] in
theorem one_le_bottomTicks : 1 ≤ bottomTicks salary := le_max_left _ _

omit [IsStrictOrderedRing K] in
theorem bottomTicks_lt_bandTicks : bottomTicks salary < bandTicks salary :=
  Int.lt_of_add_one_le (le_max_left _ _)

/-- A quarter is at most half, also when rounded. -/
theorem two_mul_bottomTicks_le : 2 * bottomTicks salary ≤ bandTicks salary := by
  rcases le_or_gt (bottomTicks salary) 1 with hone | hmore
  · have hlt := bottomTicks_lt_bandTicks salary
    have hpos := one_le_bottomTicks salary
    omega
  · have hround : bottomTicks salary = ⌊max salary 20000 * 0.25 / 20000 + 1 / 2⌋ := by
      rw [bottomTicks] at hmore ⊢
      exact max_eq_right (le_of_not_ge fun hle => by omega)
    have hfloor : (bottomTicks salary : K) ≤ max salary 20000 * 0.25 / 20000 + 1 / 2 := by
      rw [hround]
      exact Int.floor_le _
    have htwo : (2 : K) ≤ bottomTicks salary := by exact_mod_cast hmore
    have hsalary : ((2 * bottomTicks salary : ℤ) : K) ≤ max salary 20000 / 20000 := by
      push_cast
      linarith
    have hceil : ((2 * bottomTicks salary : ℤ) : K) ≤ ⌈max salary 20000 / 20000⌉ :=
      hsalary.trans (Int.le_ceil _)
    exact (Int.cast_le.mp hceil).trans (le_max_right _ _)

theorem bandTicks_le {salary : K} (h : salary ≤ 1000000000) : bandTicks salary ≤ 50000 := by
  have hsalary : max salary 20000 ≤ 1000000000 := max_le h (by norm_num)
  have hceil : ⌈max salary 20000 / 20000⌉ ≤ 50000 :=
    le_ticks_iff.mp (hsalary.trans_eq (by norm_num [ticks]))
  have hquarter : ⌊max salary 20000 * 0.25 / 20000 + 1 / 2⌋ < 49999 := by
    rw [Int.floor_lt]
    push_cast
    linarith
  have hbottom : bottomTicks salary < 49999 := max_lt (by norm_num) hquarter
  exact max_le (by omega) hceil

theorem ticks_bandTicks_pos : (0 : K) < ticks (bandTicks salary) := by
  have hpos : 0 < bandTicks salary :=
    (Int.zero_lt_one.trans_le (one_le_bottomTicks salary)).trans (bottomTicks_lt_bandTicks salary)
  have hzero : (ticks 0 : K) = 0 := by rw [ticks, Int.cast_zero, zero_mul]
  rw [← hzero]
  exact ticks_lt_ticks.mpr hpos

omit [IsStrictOrderedRing K] in
theorem one_le_bandCount (spending : K) : 1 ≤ bandCount salary spending := le_max_left _ _

/-- The bands that are too few. -/
theorem lt_bandCount_iff (spending : K) {count : ℤ} (h : 1 ≤ count) :
    count < bandCount salary spending ↔ ticks (bandTicks salary * count) < spending := by
  have hband : (ticks (bandTicks salary * count) : K) = count * ticks (bandTicks salary) := by
    rw [ticks, ticks]
    push_cast
    ring
  rw [bandCount, lt_max_iff, Int.lt_ceil, lt_div_iff₀ (ticks_bandTicks_pos salary), hband]
  exact or_iff_right (not_lt.mpr h)

theorem spending_le_bands (spending : K) :
    spending ≤ ticks (bandTicks salary * bandCount salary spending) := by
  rw [← not_lt, ← lt_bandCount_iff salary spending (one_le_bandCount salary spending)]
  exact lt_irrefl _

theorem ceil_le_bands (spending : K) :
    ⌈spending / 20000⌉ ≤ bandTicks salary * bandCount salary spending :=
  le_ticks_iff.mp (spending_le_bands salary spending)

theorem floorTicks_le_topTicks {spending : K} (hmost : spending ≤ 1000000000) :
    floorTicks salary spending ≤ topTicks salary spending := by
  have hceil : ⌈spending / 20000⌉ ≤ 50000 :=
    le_ticks_iff.mp (hmost.trans_eq (by norm_num [ticks]))
  have hle : ⌊spending / 20000⌋ ≤ ⌈spending / 20000⌉ := Int.floor_le_ceil _
  exact (min_le_right _ _).trans (hle.trans (le_min hceil (ceil_le_bands salary spending)))

theorem spendingAxisRange_eq (plan : RetirementPlan K) :
    spendingAxisRange plan = (ticks (bottomTicks plan.profile.currentSalary),
      ticks (bandTicks plan.profile.currentSalary
        * bandCount plan.profile.currentSalary plan.profile.currentSpending)) := by
  have hone : (20000 : K) = ticks 1 := by rw [ticks, Int.cast_one, one_mul]
  have hbottom : max (20000 : K)
      (mathRound (max plan.profile.currentSalary 20000 * 0.25 / 20000) * 20000)
        = ticks (bottomTicks plan.profile.currentSalary) := by
    rw [bottomTicks, ← max_ticks, ← hone]
    rfl
  have hband : max (ticks (bottomTicks plan.profile.currentSalary) + 20000)
      (roundUpToTick (max plan.profile.currentSalary 20000) 20000)
        = (ticks (bandTicks plan.profile.currentSalary) : K) := by
    have hnext : (ticks (bottomTicks plan.profile.currentSalary) : K) + 20000
        = ticks (bottomTicks plan.profile.currentSalary + 1) := by
      rw [ticks, ticks]
      push_cast
      ring
    rw [hnext, bandTicks, ← max_ticks]
    rfl
  have htop : (ticks (bandTicks plan.profile.currentSalary) : K)
        * max 1 (⌈plan.profile.currentSpending / ticks (bandTicks plan.profile.currentSalary)⌉ : K)
      = ticks (bandTicks plan.profile.currentSalary
        * bandCount plan.profile.currentSalary plan.profile.currentSpending) := by
    rw [bandCount, ticks, ticks]
    push_cast
    ring
  simp only [spendingAxisRange, minSpendingBand, hbottom, hband, htop]

/-- The ends of the range of a plan that may be stored. -/
theorem leverRange_spending {plan : RetirementPlan K} (h0 : 0 ≤ plan.profile.currentSpending)
    (hmost : plan.profile.currentSpending ≤ 1000000000) :
    (leverRange .spending plan).min
        = ticks (floorTicks plan.profile.currentSalary plan.profile.currentSpending) ∧
      (leverRange .spending plan).max
        = ticks (topTicks plan.profile.currentSalary plan.profile.currentSpending) := by
  set salary := plan.profile.currentSalary with hsalary
  set spending := plan.profile.currentSpending with hspending
  have hzero : (0 : K) = ticks 0 := by rw [ticks, Int.cast_zero, zero_mul]
  have hcap : (maxPlanDollars : K) = ticks 50000 := by norm_num [maxPlanDollars, ticks]
  have hfloor : 0 ≤ ⌊spending / 20000⌋ := Int.floor_nonneg.mpr (by positivity)
  have hbottom := one_le_bottomTicks salary
  have hlow : 0 ≤ floorTicks salary spending := le_min (by omega) hfloor
  have hmin : (leverRange .spending plan).min = ticks (floorTicks salary spending) := by
    have heq : (leverRange .spending plan).min
        = max 0 (min (spendingAxisRange plan).1 (ticks ⌊spending / 20000⌋)) := rfl
    rw [heq, spendingAxisRange_eq, ← hsalary, ← hspending, hzero]
    simp only [min_ticks, max_ticks]
    rw [← floorTicks, max_eq_right hlow]
  refine ⟨hmin, ?_⟩
  have heq : (leverRange .spending plan).max = max (leverRange .spending plan).min
      (min maxPlanDollars (max (spendingAxisRange plan).2 (ticks ⌈spending / 20000⌉))) := rfl
  have hunder := floorTicks_le_topTicks salary hmost
  rw [heq, hmin, spendingAxisRange_eq, ← hsalary, ← hspending, hcap]
  simp only [max_ticks, min_ticks]
  rw [max_eq_left (ceil_le_bands salary spending), ← topTicks, max_eq_right hunder]

end Axis

end RetirementPlanner.Web
