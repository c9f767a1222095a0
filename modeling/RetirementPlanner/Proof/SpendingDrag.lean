import RetirementPlanner.Proof.SpendingAxis
import RetirementPlanner.Proof.StoredPlans

/-!
# When the spending handle settles

A handle that lands at a fraction of its track writes a whole number of thousands (`drag_eq`), and
the plan it leaves has an axis of its own. From below the bottom of the band that axis begins
higher (`landing_floor_iff`), from above its top it ends lower (`landing_top_iff`); from between
them it is the same.

* `settles_iff`: the handle settles after one move just when the second lands where the first did;
* `drag_settles_iff`: the tracks and fractions at which it does.
-/

namespace RetirementPlanner.Web

open Schema

variable {K : Type} [Field K] [LinearOrder K] [FloorRing K]

/-! ## Landing on an axis -/

/-- The thousands at a fraction of an axis of ticks. -/
def landing (low high : ℤ) (fraction : K) : ℤ := ⌊20 * (low + fraction * (high - low)) + 1 / 2⌋

section Landing

variable [IsStrictOrderedRing K] {low high : ℤ} {fraction : K}

theorem landing_eq_low (low high : ℤ) (fraction : K) :
    landing low high fraction = 20 * low + ⌊fraction * (20 * (high - low)) + 1 / 2⌋ := by
  have heq : 20 * (low + fraction * (high - low)) + 1 / 2
      = ((20 * low : ℤ) : K) + (fraction * (20 * (high - low)) + 1 / 2) := by
    push_cast
    ring
  rw [landing, heq, Int.floor_intCast_add]

theorem landing_eq_high (low high : ℤ) (fraction : K) :
    landing low high fraction = 20 * high - ⌈(1 - fraction) * (20 * (high - low)) - 1 / 2⌉ := by
  have heq : 20 * (low + fraction * (high - low)) + 1 / 2
      = ((20 * high : ℤ) : K) + -((1 - fraction) * (20 * (high - low)) - 1 / 2) := by
    push_cast
    ring
  rw [landing, heq, Int.floor_intCast_add, Int.floor_neg, ← sub_eq_add_neg]

theorem le_landing (h0 : 0 ≤ fraction) (hle : low ≤ high) :
    20 * low ≤ landing low high fraction := by
  have hwidth : (0 : K) ≤ high - low := sub_nonneg.mpr (Int.cast_le.mpr hle)
  have hfloor : 0 ≤ ⌊fraction * (20 * (high - low)) + 1 / 2⌋ := Int.floor_nonneg.mpr (by positivity)
  rw [landing_eq_low]
  omega

theorem landing_le (h1 : fraction ≤ 1) (hle : low ≤ high) :
    landing low high fraction ≤ 20 * high := by
  have hwidth : (0 : K) ≤ high - low := sub_nonneg.mpr (Int.cast_le.mpr hle)
  have hrest : 0 ≤ 1 - fraction := sub_nonneg.mpr h1
  have hdistance : 0 ≤ (1 - fraction) * (20 * (high - low)) := by positivity
  have hceil : -1 < ⌈(1 - fraction) * (20 * (high - low)) - 1 / 2⌉ := by
    rw [Int.lt_ceil]
    push_cast
    linarith
  rw [landing_eq_high]
  omega

/-- Past a twentieth of the track, a tick at its upper end moves the handle. -/
theorem landing_lt_of_high {high' : ℤ} (hlt : high' < high) (hfraction : 1 ≤ 20 * fraction) :
    landing low high' fraction < landing low high fraction := by
  have htick : (1 : K) ≤ high - high' := by
    have hcast : ((high' + 1 : ℤ) : K) ≤ high := Int.cast_le.mpr hlt
    push_cast at hcast
    linarith
  have hgap : 1 ≤ 20 * fraction * (high - high') := one_le_mul_of_one_le_of_one_le hfraction htick
  have hstep : (⌊fraction * (20 * (high' - low)) + 1 / 2⌋ + 1 : ℤ)
      ≤ ⌊fraction * (20 * (high - low)) + 1 / 2⌋ := by
    rw [← Int.floor_add_one]
    refine Int.floor_mono ?_
    linarith
  rw [landing_eq_low, landing_eq_low]
  omega

/-- And before the last twentieth, one at its lower end. -/
theorem landing_lt_of_low {low' : ℤ} (hlt : low < low') (hfraction : 1 ≤ 20 * (1 - fraction)) :
    landing low high fraction < landing low' high fraction := by
  have htick : (1 : K) ≤ low' - low := by
    have hcast : ((low + 1 : ℤ) : K) ≤ low' := Int.cast_le.mpr hlt
    push_cast at hcast
    linarith
  have hgap : 1 ≤ 20 * (1 - fraction) * (low' - low) :=
    one_le_mul_of_one_le_of_one_le hfraction htick
  have hstep : (⌊20 * (low + fraction * (high - low)) + 1 / 2⌋ + 1 : ℤ)
      ≤ ⌊20 * (low' + fraction * (high - low')) + 1 / 2⌋ := by
    rw [← Int.floor_add_one]
    refine Int.floor_mono ?_
    linarith
  rw [landing, landing]
  omega

/-! ## The second landing -/

variable {bottom band : ℤ}

/-- From an axis that begins below the bottom, the next begins at the tick under the landing. -/
theorem landing_floor_iff (h0 : 0 ≤ fraction) (hlow : 0 ≤ low)
    (hbelow : low < bottom) (hband : 2 * bottom ≤ band) :
    landing (min bottom (landing low band fraction / 20)) band fraction
        = landing low band fraction ↔
      landing low band fraction < 20 * low + 20 ∨
        landing low band fraction = landing bottom band fraction := by
  have hfrom : 20 * low ≤ landing low band fraction := le_landing h0 (by omega)
  rcases lt_or_ge (landing low band fraction) (20 * low + 20) with hnear | hfar
  · have hsame : min bottom (landing low band fraction / 20) = low := by omega
    rw [hsame]
    exact iff_of_true rfl (.inl hnear)
  · rw [or_iff_right (not_lt.mpr hfar)]
    constructor
    · intro hstays
      rcases lt_or_ge (20 * (1 - fraction)) 1 with hend | hbefore
      · -- The last twentieth of the track is past the bottom.
        have hceil : ⌈(1 - fraction) * (20 * (band - low)) - 1 / 2⌉ ≤ band - low := by
          have hwidth : (0 : K) ≤ band - low := sub_nonneg.mpr (Int.cast_le.mpr (by omega))
          have hmul := mul_le_mul_of_nonneg_right hend.le hwidth
          rw [Int.ceil_le]
          push_cast
          linarith
        have hhigh := landing_eq_high low band fraction
        have hbottom : min bottom (landing low band fraction / 20) = bottom := by omega
        rw [hbottom] at hstays
        exact hstays.symm
      · have hmoves : landing low band fraction
            < landing (min bottom (landing low band fraction / 20)) band fraction :=
          landing_lt_of_low (by omega) hbefore
        omega
    · intro hagree
      have hpast : 20 * bottom ≤ landing bottom band fraction := le_landing h0 (by omega)
      have hbottom : min bottom (landing low band fraction / 20) = bottom := by omega
      rw [hbottom]
      exact hagree.symm

/-- From an axis of several bands, the next has the bands that hold the landing. -/
theorem landing_top_iff (h1 : fraction ≤ 1) (hpos : 1 ≤ bottom)
    (hband : 2 * bottom ≤ band) {count count' most : ℤ} (hcount : 1 < count)
    (hmost : band * (count - 1) < most) (hcount' : 1 ≤ count')
    (hholds : ∀ bands : ℤ, 1 ≤ bands →
      (bands < count' ↔ 20 * (band * bands) < landing bottom (min most (band * count)) fraction)) :
    landing bottom (min most (band * count')) fraction
        = landing bottom (min most (band * count)) fraction ↔
      20 * (band * (count - 1)) < landing bottom (min most (band * count)) fraction ∨
        landing bottom (min most (band * count)) fraction = landing bottom band fraction := by
  have hbandPos : 0 < band := by omega
  have hlast : band * (count - 1) = band * count - band := by ring
  have hfirst : band ≤ band * (count - 1) := le_mul_of_one_le_right hbandPos.le (by omega)
  set settled := landing bottom (min most (band * count)) fraction with hsettled
  have hle : settled ≤ 20 * min most (band * count) := landing_le h1 (by omega)
  have hmostBands : count' ≤ count := by
    by_contra hmore
    have hpast := (hholds count (by omega)).mp (not_le.mp hmore)
    omega
  rcases lt_or_ge (20 * (band * (count - 1))) settled with hin | hunder
  · have hsame : count' = count := by
      have hmore := (hholds (count - 1) (by omega)).mpr hin
      omega
    rw [hsame]
    exact iff_of_true rfl (.inl hin)
  · have hfewer : count' ≤ count - 1 := by
      by_contra hmore
      have hpast := (hholds (count - 1) (by omega)).mp (not_le.mp hmore)
      omega
    have hshorter : band * count' ≤ band * (count - 1) :=
      mul_le_mul_of_nonneg_left hfewer hbandPos.le
    have hholdsOne : band ≤ band * count' := le_mul_of_one_le_right hbandPos.le hcount'
    have htop : min most (band * count') = band * count' := by omega
    rw [htop, or_iff_right (not_lt.mpr hunder)]
    constructor
    · intro hstays
      have hslow : 20 * fraction < 1 := by
        by_contra hfast
        have hmoves : landing bottom (band * count') fraction < settled :=
          landing_lt_of_high (by omega) (not_lt.mp hfast)
        omega
      have hnear : settled ≤ 19 * bottom + band * count' := by
        have hwidth : (0 : K) ≤ ((band * count' : ℤ) : K) - bottom :=
          sub_nonneg.mpr (Int.cast_le.mpr (by omega))
        have hmul := mul_le_mul_of_nonneg_right hslow.le hwidth
        have hfloor : ⌊fraction * (20 * (((band * count' : ℤ) : K) - bottom)) + 1 / 2⌋
            < band * count' - bottom + 1 := by
          rw [Int.floor_lt]
          push_cast at hmul ⊢
          linarith
        rw [← hstays, landing_eq_low]
        omega
      have hone : count' = 1 := by
        by_contra hmore
        have hpast := (hholds (count' - 1) (by omega)).mp (by omega)
        have hexpand : band * (count' - 1) = band * count' - band := by ring
        have htwo : band * 2 ≤ band * count' := mul_le_mul_of_nonneg_left (by omega) hbandPos.le
        omega
      rw [hone, mul_one] at hstays
      exact hstays.symm
    · intro hagree
      have hwithin : landing bottom band fraction ≤ 20 * band := landing_le h1 (by omega)
      have hone : count' = 1 := by
        by_contra hmore
        have hpast := (hholds 1 le_rfl).mp (by omega)
        rw [mul_one] at hpast
        omega
      rw [hone, mul_one]
      exact hagree.symm

theorem landing_near_low_iff :
    landing low high fraction < 20 * low + 20 ↔ fraction * ticks (high - low) < 19500 := by
  have hthousands : fraction * (ticks (high - low) : K)
      = 1000 * (fraction * (20 * (high - low))) := by
    rw [ticks]
    push_cast
    ring
  have hnear : ⌊fraction * (20 * ((high : K) - low)) + 1 / 2⌋ < 20 ↔
      fraction * (20 * ((high : K) - low)) + 1 / 2 < 20 := by
    rw [Int.floor_lt, Int.cast_ofNat]
  rw [landing_eq_low, hthousands, add_lt_add_iff_left, hnear]
  constructor
  · intro h
    linarith
  · intro h
    linarith

theorem landing_past_iff {edge : ℤ} : 20 * edge < landing low high fraction ↔
    ticks edge + 500 ≤ ticks low + fraction * ticks (high - low) := by
  have hthousands : (ticks low : K) + fraction * ticks (high - low)
      = 1000 * (20 * (low + fraction * (high - low))) := by
    rw [ticks, ticks]
    push_cast
    ring
  have hpast : 20 * edge + 1 ≤ landing low high fraction ↔
      ((20 * edge + 1 : ℤ) : K) ≤ 20 * (low + fraction * (high - low)) + 1 / 2 := Int.le_floor
  rw [← Int.add_one_le_iff, hpast, hthousands, ticks]
  push_cast
  constructor
  · intro h
    linarith
  · intro h
    linarith

end Landing

/-! ## The handle -/

section Handle

variable [IsStrictOrderedRing K] {plan : RetirementPlan K} {fraction : K}

theorem drag_eq (h0 : 0 ≤ plan.profile.currentSpending)
    (hmost : plan.profile.currentSpending ≤ 1000000000) (fraction : K) :
    drag plan fraction
      = (landing (floorTicks plan.profile.currentSalary plan.profile.currentSpending)
          (topTicks plan.profile.currentSalary plan.profile.currentSpending) fraction : K)
        * 1000 := by
  obtain ⟨hmin, hmax⟩ := leverRange_spending h0 hmost
  have hstep : (leverRange .spending plan).step = 1000 := rfl
  simp only [drag, hmin, hmax, hstep, mathRound, landing]
  congr 4
  rw [ticks, ticks]
  ring

omit [IsStrictOrderedRing K] in
/-- Once a landing leaves the plan where it was, so does each later one. -/
theorem settles_iff (plan : RetirementPlan K) (fraction : K) :
    (∀ n : ℕ, ((dragged fraction)^[n + 1] plan).profile.currentSpending = drag plan fraction) ↔
      drag (dragged fraction plan) fraction = drag plan fraction := by
  constructor
  · intro h
    exact h 1
  · intro hsecond n
    have hfixed : Function.IsFixedPt (dragged fraction) (dragged fraction plan) := by
      rw [Function.IsFixedPt, dragged, hsecond]
      rfl
    rw [Function.iterate_succ_apply, (hfixed.iterate n).eq]
    rfl

theorem floorTicks_landing (salary : K) (thousands : ℤ) :
    floorTicks salary ((thousands : K) * 1000) = min (bottomTicks salary) (thousands / 20) := by
  have hlow : ((thousands / 20 : ℤ) : K) * 20 ≤ thousands := by
    exact_mod_cast (by omega : thousands / 20 * 20 ≤ thousands)
  have hhigh : (thousands : K) < ((thousands / 20 + 1 : ℤ) : K) * 20 := by
    exact_mod_cast (by omega : thousands < (thousands / 20 + 1) * 20)
  have hfloor : ⌊(thousands : K) * 1000 / 20000⌋ = thousands / 20 := by
    rw [Int.floor_eq_iff, le_div_iff₀ (by norm_num), div_lt_iff₀ (by norm_num)]
    push_cast at hhigh
    exact ⟨by linarith, by linarith⟩
  rw [floorTicks, hfloor]

theorem ticks_thousands {thousands edge : ℤ} :
    (thousands : K) * 1000 ≤ ticks edge ↔ thousands ≤ 20 * edge := by
  have hticks : (ticks edge : K) = ((20 * edge : ℤ) : K) * 1000 := by
    rw [ticks]
    push_cast
    ring
  rw [hticks, mul_le_mul_iff_left₀ (by norm_num), Int.cast_le]

theorem lt_bandCount_landing (salary : K) (thousands : ℤ) {bands : ℤ} (h : 1 ≤ bands) :
    bands < bandCount salary ((thousands : K) * 1000) ↔
      20 * (bandTicks salary * bands) < thousands := by
  rw [lt_bandCount_iff salary _ h, ← not_le, ticks_thousands, not_le]

/-! ## When it settles -/

/-- Where a handle at a fraction of a plan's track settles after one move. -/
structure SettlesAt (salary spending fraction : K) : Prop where
  /-- On an axis that begins below the bottom of the band, it lands in the first tick, or so near
  the end of the track that the axis from the bottom ends at the same thousand. -/
  low : spending < ticks (bottomTicks salary) →
    fraction * ticks (bandTicks salary - ⌊spending / 20000⌋) < 19500 ∨
      ⌈(1 - fraction) * (20 * (bandTicks salary - ⌊spending / 20000⌋)) - 1 / 2⌉
        = ⌈(1 - fraction) * (20 * (bandTicks salary - bottomTicks salary)) - 1 / 2⌉
  /-- On an axis of several bands, it lands in the last one, or so near the start of the track
  that the axis of one band has the same thousand. -/
  bands : ticks (bandTicks salary) < spending →
    ticks (bandTicks salary * (bandCount salary spending - 1)) + 500
        ≤ ticks (bottomTicks salary)
          + fraction * ticks (topTicks salary spending - bottomTicks salary) ∨
      ⌊fraction * (20 * (topTicks salary spending - bottomTicks salary)) + 1 / 2⌋
        = ⌊fraction * (20 * (bandTicks salary - bottomTicks salary)) + 1 / 2⌋

variable {salary spending : K}

/-- Spending that one band holds has an axis of one band. -/
theorem topTicks_of_le (hsalary : salary ≤ 1000000000) (h : spending ≤ ticks (bandTicks salary)) :
    topTicks salary spending = bandTicks salary := by
  have hone : bandCount salary spending = 1 := by
    have hmore := lt_bandCount_iff salary spending le_rfl
    rw [mul_one] at hmore
    have hleast := one_le_bandCount salary spending
    have hnot : ¬ 1 < bandCount salary spending := fun hlt => absurd (hmore.mp hlt) (not_lt.mpr h)
    omega
  rw [topTicks, hone, mul_one]
  exact min_eq_right (bandTicks_le hsalary)

/-- The axis a landing leaves has the handle where it was, in the terms of the plan before. -/
theorem second_landing_iff (hsalary : salary ≤ 1000000000) (hspending : 0 ≤ spending)
    (hmost : spending ≤ 1000000000) (h0 : 0 ≤ fraction) (h1 : fraction ≤ 1) {first : ℤ}
    (hfirst : landing (floorTicks salary spending) (topTicks salary spending) fraction = first) :
    landing (floorTicks salary ((first : K) * 1000)) (topTicks salary ((first : K) * 1000)) fraction
        = first ↔ SettlesAt salary spending fraction := by
  have hbottom := one_le_bottomTicks salary
  have hhalf := two_mul_bottomTicks_le salary
  have hfloor : 0 ≤ ⌊spending / 20000⌋ := Int.floor_nonneg.mpr (by positivity)
  have hrange := floorTicks_le_topTicks salary hmost
  have hfrom := le_landing h0 hrange
  have hto := landing_le h1 hrange
  rw [hfirst] at hfrom hto
  rw [floorTicks_landing]
  rcases lt_or_ge spending (ticks (bottomTicks salary)) with hbelow | habove
  · -- One band, from below its bottom.
    have hunder : spending ≤ ticks (bandTicks salary) :=
      hbelow.le.trans (ticks_le_ticks.mpr (by omega))
    have htick : ⌊spending / 20000⌋ < bottomTicks salary := by
      rw [← not_le, ← ticks_le_iff]
      exact not_le.mpr hbelow
    have hlow : floorTicks salary spending = ⌊spending / 20000⌋ := min_eq_right htick.le
    have hhigh := topTicks_of_le hsalary hunder
    rw [hlow, hhigh] at hfirst
    rw [hhigh] at hto
    rw [topTicks_of_le hsalary (ticks_thousands.mpr hto)]
    have hiff := landing_floor_iff h0 hfloor htick hhalf
    rw [hfirst] at hiff
    rw [hiff, ← hfirst, landing_near_low_iff, landing_eq_high, landing_eq_high, sub_right_inj]
    constructor
    · intro h
      exact ⟨fun _ => h, fun hbands => absurd hbands (not_lt.mpr hunder)⟩
    · intro h
      exact h.low hbelow
  · have hlow : floorTicks salary spending = bottomTicks salary :=
      min_eq_left (ticks_le_iff.mp habove)
    rw [hlow] at hfirst hfrom
    have hlow' : min (bottomTicks salary) (first / 20) = bottomTicks salary := by omega
    rw [hlow']
    rcases le_or_gt spending (ticks (bandTicks salary)) with hunder | hover
    · -- One band, from its bottom.
      have hhigh := topTicks_of_le hsalary hunder
      rw [hhigh] at hfirst hto
      rw [topTicks_of_le hsalary (ticks_thousands.mpr hto)]
      exact iff_of_true hfirst ⟨fun hbelow => absurd hbelow (not_lt.mpr habove),
        fun hbands => absurd hbands (not_lt.mpr hunder)⟩
    · -- Several bands.
      have hcount : 1 < bandCount salary spending := by
        rw [lt_bandCount_iff salary spending le_rfl, mul_one]
        exact hover
      have hlast : bandTicks salary * (bandCount salary spending - 1) < 50000 := by
        have hunder := (lt_bandCount_iff salary spending (by omega)).mp
          (sub_one_lt (bandCount salary spending))
        have hcap : spending ≤ ticks 50000 := hmost.trans_eq (by norm_num [ticks])
        exact ticks_lt_ticks.mp (hunder.trans_le hcap)
      have hiff := landing_top_iff h1 hbottom hhalf hcount hlast
        (one_le_bandCount salary ((first : K) * 1000)) (fun bands hbands => by
          rw [lt_bandCount_landing salary first hbands, ← topTicks, hfirst])
      rw [← topTicks, ← topTicks, hfirst] at hiff
      rw [hiff, ← hfirst, landing_past_iff, landing_eq_low, landing_eq_low, add_right_inj]
      constructor
      · intro h
        exact ⟨fun hbelow => absurd hbelow (not_lt.mpr habove), fun _ => h⟩
      · intro h
        exact h.bands hover

/-- Wherever a handle lands, a plan may spend. -/
theorem landing_mem (hspending : 0 ≤ spending) (hmost : spending ≤ 1000000000) (h0 : 0 ≤ fraction)
    (h1 : fraction ≤ 1) :
    0 ≤ (landing (floorTicks salary spending) (topTicks salary spending) fraction : K) * 1000 ∧
      (landing (floorTicks salary spending) (topTicks salary spending) fraction : K) * 1000
        ≤ 1000000000 := by
  have hrange := floorTicks_le_topTicks salary hmost
  have hfrom := le_landing h0 hrange
  have hto := landing_le h1 hrange
  have hfloor : 0 ≤ floorTicks salary spending :=
    le_min (Int.zero_lt_one.le.trans (one_le_bottomTicks salary))
      (Int.floor_nonneg.mpr (div_nonneg hspending (by norm_num)))
  have htop : topTicks salary spending ≤ 50000 := min_le_left _ _
  refine ⟨mul_nonneg (Int.cast_nonneg (by omega)) (by norm_num), ?_⟩
  have hcap : (ticks 50000 : K) = 1000000000 := by norm_num [ticks]
  rw [← hcap]
  exact ticks_thousands.mpr (by omega)

/-- Repeated landings of a stored plan's handle all write what the first one did just where the
handle settles. -/
theorem drag_settles_iff {value : Option (Json K)} {plan : RetirementPlan K}
    (hstored : retirementPlanSchema value = .ok plan) {fraction : K} (h0 : 0 ≤ fraction)
    (h1 : fraction ≤ 1) :
    (∀ n : ℕ, ((dragged fraction)^[n + 1] plan).profile.currentSpending
        = (dragged fraction plan).profile.currentSpending) ↔
      SettlesAt plan.profile.currentSalary plan.profile.currentSpending fraction := by
  have h := retirementPlanSchema_stored hstored
  have hspending : 0 ≤ plan.profile.currentSpending ∧
    plan.profile.currentSpending ≤ 1000000000 := h.profile.currentSpending
  have hsalary : plan.profile.currentSalary ≤ 1000000000 := h.profile.currentSalary.2
  set salary := plan.profile.currentSalary with hsalaryEq
  set spending := plan.profile.currentSpending with hspendingEq
  set first := landing (floorTicks salary spending) (topTicks salary spending) fraction
  have hfirst : drag plan fraction = (first : K) * 1000 :=
    drag_eq hspending.1 hspending.2 fraction
  have hwritten : (dragged fraction plan).profile.currentSpending = (first : K) * 1000 := hfirst
  have hkept : (dragged fraction plan).profile.currentSalary = salary := rfl
  obtain ⟨hnonneg, hcap⟩ : 0 ≤ (first : K) * 1000 ∧ (first : K) * 1000 ≤ 1000000000 :=
    landing_mem hspending.1 hspending.2 h0 h1
  have hsecond : drag (dragged fraction plan) fraction
      = (landing (floorTicks salary ((first : K) * 1000)) (topTicks salary ((first : K) * 1000))
          fraction : K) * 1000 := by
    rw [drag_eq (hwritten ▸ hnonneg) (hwritten ▸ hcap), hwritten, hkept]
  have hsettles : (∀ n : ℕ, ((dragged fraction)^[n + 1] plan).profile.currentSpending
      = (dragged fraction plan).profile.currentSpending) ↔ _ := settles_iff plan fraction
  rw [hsettles, hsecond, hfirst, ← second_landing_iff hsalary hspending.1 hspending.2 h0 h1 rfl,
    mul_left_inj' (by norm_num), Int.cast_inj]

/-- From $200,000, three quarters of the track from $20,000 to $240,000 are $185,000, in the last
of its bands: the third landing is where the first was. -/
theorem drag_settles_iff_lastBand :
    (dragged (3 / 4) (householdSpending 200000 1)).profile.currentSpending = 185000 ∧
      ((dragged (3 / 4))^[3] (householdSpending 200000 1)).profile.currentSpending
        = (dragged (3 / 4) (householdSpending 200000 1)).profile.currentSpending := by
  have hplan : retirementPlanSchema (some (planJson (householdSpending 200000 1)))
      = .ok (householdSpending 200000 1) := stored_of_test (by decide +kernel)
  refine ⟨by decide +kernel,
    (drag_settles_iff hplan (by norm_num) (by norm_num)).mpr ⟨fun hbelow => ?_, fun _ => ?_⟩ 2⟩
  · exact absurd hbelow (by decide +kernel)
  · exact .inl (by decide +kernel)

/-- From $200,000 the middle of the track is $130,000, and then $100,000. -/
theorem drag_walks : ∃ (value : Option (Json ℚ)) (plan : RetirementPlan ℚ),
    retirementPlanSchema value = .ok plan ∧
      ¬ ∀ n : ℕ, ((dragged (1 / 2))^[n + 1] plan).profile.currentSpending
        = (dragged (1 / 2) plan).profile.currentSpending := by
  have hplan : retirementPlanSchema (some (planJson (householdSpending 200000 1)))
      = .ok (householdSpending 200000 1) := stored_of_test (by decide +kernel)
  have hwalk : ((dragged (1 / 2))^[2] (householdSpending 200000 1)).profile.currentSpending
      ≠ (dragged (1 / 2) (householdSpending 200000 1)).profile.currentSpending := by
    decide +kernel
  exact ⟨_, _, hplan, fun hsettled => hwalk (hsettled 1)⟩

end Handle

end RetirementPlanner.Web
