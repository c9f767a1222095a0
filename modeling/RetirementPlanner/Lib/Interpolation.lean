import Mathlib.Tactic
import Mathlib.Topology.Algebra.Order.Field
import RetirementPlanner.Lib.Numerals

/-!
# Climbing in steps

A function that climbs by a height over each of some intervals and stays level between
them (`climb`), such as the inverse of a distribution spread evenly over buckets.

* `climb_mono`, `continuous_climb`: it never falls and never jumps;
* `climb_le`: it climbs no higher than all of its heights together;
* `climb_of_before`: a step that lies ahead adds nothing.
-/

namespace Interpolation

variable {K : Type*} [Field K] [LinearOrder K]

/-- How far `x` has come from `lo` to `hi`. -/
def position (lo hi x : K) : K := min (max ((x - lo) / (hi - lo)) 0) 1

/-- A climb by `height` between `lo` and `hi`. -/
structure Step (K : Type*) where
  lo : K
  hi : K
  height : K

def climb (steps : List (Step K)) (x : K) : K :=
  (steps.map fun s => position s.lo s.hi x * s.height).sum

@[simp] theorem climb_nil (x : K) : climb ([] : List (Step K)) x = 0 := rfl

@[simp] theorem climb_cons (s : Step K) (steps : List (Step K)) (x : K) :
    climb (s :: steps) x = position s.lo s.hi x * s.height + climb steps x := by
  simp [climb]

theorem position_le_one (lo hi x : K) : position lo hi x ≤ 1 := min_le_right _ _

/-- The steps are taken upwards. -/
structure Step.Rising (s : Step K) : Prop where
  lo_lt_hi : s.lo < s.hi
  height_nonneg : 0 ≤ s.height

variable [IsStrictOrderedRing K]

theorem position_nonneg (lo hi x : K) : 0 ≤ position lo hi x :=
  le_min (le_max_right _ _) zero_le_one

theorem position_of_between {lo hi x : K} (hlo : lo ≤ x) (hhi : x ≤ hi) (h : lo < hi) :
    position lo hi x = (x - lo) / (hi - lo) := by
  have hwidth : 0 < hi - lo := sub_pos.mpr h
  rw [position, max_eq_left (div_nonneg (sub_nonneg.mpr hlo) hwidth.le), min_eq_left]
  rw [div_le_one hwidth]
  linarith

theorem position_of_past {lo hi x : K} (hhi : hi ≤ x) (h : lo < hi) : position lo hi x = 1 := by
  have hwidth : 0 < hi - lo := sub_pos.mpr h
  refine min_eq_right (le_max_of_le_left ?_)
  rw [one_le_div hwidth]
  linarith

theorem position_of_before {lo hi x : K} (hlo : x ≤ lo) (h : lo < hi) : position lo hi x = 0 := by
  have hwidth : 0 < hi - lo := sub_pos.mpr h
  rw [position, max_eq_right (div_nonpos_of_nonpos_of_nonneg (sub_nonpos.mpr hlo) hwidth.le),
    min_eq_left zero_le_one]

theorem position_mono {lo hi : K} (h : lo < hi) : Monotone (position lo hi) := fun x y hxy => by
  have hwidth : 0 < hi - lo := sub_pos.mpr h
  exact min_le_min_right _ (max_le_max_right _
    (div_le_div_of_nonneg_right (sub_le_sub_right hxy lo) hwidth.le))

theorem continuous_position [TopologicalSpace K] [OrderTopology K] (lo hi : K) :
    Continuous (position lo hi) := by
  have hdiff : Continuous fun x : K => (x - lo) / (hi - lo) :=
    (continuous_id.sub continuous_const).div_const _
  exact (hdiff.max continuous_const).min continuous_const

/-! ## Climbs -/

theorem climb_mono {steps : List (Step K)} (h : ∀ s ∈ steps, s.Rising) :
    Monotone (climb steps) := by
  intro x y hxy
  induction steps with
  | nil => exact le_rfl
  | cons s steps ih =>
    have hs := h s List.mem_cons_self
    rw [climb_cons, climb_cons]
    exact add_le_add
      (mul_le_mul_of_nonneg_right (position_mono hs.lo_lt_hi hxy) hs.height_nonneg)
      (ih fun s hs => h s (List.mem_cons_of_mem _ hs))

theorem continuous_climb [TopologicalSpace K] [OrderTopology K] (steps : List (Step K)) :
    Continuous (climb steps) := by
  induction steps with
  | nil => exact continuous_const
  | cons s steps ih =>
    simp only [funext (climb_cons s steps)]
    exact ((continuous_position s.lo s.hi).mul continuous_const).add ih

theorem climb_le {steps : List (Step K)} (h : ∀ s ∈ steps, s.Rising) (x : K) :
    climb steps x ≤ (steps.map (·.height)).sum := by
  refine List.sum_le_sum fun s hs => ?_
  exact mul_le_of_le_one_left (h s hs).height_nonneg (position_le_one _ _ _)

theorem climb_of_before {steps : List (Step K)} (h : ∀ s ∈ steps, s.Rising) {x : K}
    (hx : ∀ s ∈ steps, x ≤ s.lo) : climb steps x = 0 := by
  refine List.sum_eq_zero fun w hw => ?_
  obtain ⟨s, hs, rfl⟩ := List.mem_map.mp hw
  rw [position_of_before (hx s hs) (h s hs).lo_lt_hi, zero_mul]

end Interpolation
