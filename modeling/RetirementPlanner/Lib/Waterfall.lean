import Mathlib.Tactic
import Mathlib.Algebra.Order.Field.Basic
import RetirementPlanner.Lib.Numerals

/-!
# Waterfalls

An amount poured over stages in a fixed order, each taking what it can hold of
what the stages before it let through. A stage is described by the capacity in
front of it and its own (`stage`), so that nothing depends on how the pouring is
computed:

* `stage_add`: consecutive stages are one stage of their joint capacity;
* `stage_mono`, `stage_sub_le`: a stage takes more of a larger amount, and not
  more than the difference;
* `stage_antitone`: a stage takes less with more capacity in front of it.
-/

namespace Waterfall

variable {K : Type*} [Field K] [LinearOrder K]

/-- What a stage of the given capacity takes of an amount, with `before` of
capacity in front of it. -/
def stage (before capacity amount : K) : K := min (max (amount - before) 0) capacity

theorem stage_le_capacity (before capacity amount : K) : stage before capacity amount ≤ capacity :=
  min_le_right _ _

theorem stage_nonneg (before : K) {capacity : K} (h : 0 ≤ capacity) (amount : K) :
    0 ≤ stage before capacity amount :=
  le_min (le_max_right _ _) h

theorem stage_zero_capacity (before amount : K) : stage before 0 amount = 0 :=
  min_eq_right (le_max_right _ _)

variable [IsStrictOrderedRing K]

theorem stage_of_le {before capacity amount : K} (hc : 0 ≤ capacity) (h : amount ≤ before) :
    stage before capacity amount = 0 := by
  rw [stage, max_eq_right (by linarith), min_eq_left hc]

theorem stage_eq_capacity {before capacity amount : K} (hc : 0 ≤ capacity)
    (h : before + capacity ≤ amount) : stage before capacity amount = capacity := by
  rw [stage, max_eq_left (by linarith), min_eq_right (by linarith)]

omit [IsStrictOrderedRing K] in
theorem stage_before_add {capacity amount : K} (before : K) (h : 0 ≤ amount)
    (hc : amount ≤ capacity) : stage before capacity (before + amount) = amount := by
  rw [stage, add_sub_cancel_left, max_eq_left h, min_eq_left hc]

theorem stage_mono (before capacity : K) {a a' : K} (h : a ≤ a') :
    stage before capacity a ≤ stage before capacity a' :=
  min_le_min (max_le_max (by linarith) le_rfl) le_rfl

theorem stage_antitone (capacity amount : K) {b b' : K} (h : b ≤ b') :
    stage b' capacity amount ≤ stage b capacity amount :=
  min_le_min (max_le_max (by linarith) le_rfl) le_rfl

theorem stage_sub_le (before capacity : K) {a a' : K} (h : a ≤ a') :
    stage before capacity a' - stage before capacity a ≤ a' - a := by
  have hmax : max (a' - before) 0 ≤ max (a - before) 0 + (a' - a) :=
    max_le (by linarith [le_max_left (a - before) 0]) (by linarith [le_max_right (a - before) 0])
  rw [sub_le_iff_le_add]
  simp only [stage]
  rcases min_choice (max (a - before) 0) capacity with hm | hm <;> rw [hm]
  · exact (min_le_left _ _).trans (by linarith)
  · exact (min_le_right _ _).trans (by linarith)

/-- Two consecutive stages take what one stage of their joint capacity takes. -/
theorem stage_add (before : K) {c c' : K} (hc : 0 ≤ c) (hc' : 0 ≤ c') (amount : K) :
    stage before c amount + stage (before + c) c' amount = stage before (c + c') amount := by
  rcases le_total amount before with h | h
  · rw [stage_of_le hc h, stage_of_le hc' (by linarith), stage_of_le (by linarith) h, add_zero]
  rw [stage, stage, stage, max_eq_left (by linarith : 0 ≤ amount - before)]
  rcases le_total amount (before + c) with hb | hb
  · rw [max_eq_right (by linarith : amount - (before + c) ≤ 0), min_eq_left (by linarith),
      min_eq_left hc', min_eq_left (by linarith), add_zero]
  · rw [max_eq_left (by linarith : 0 ≤ amount - (before + c)), min_eq_right (by linarith)]
    rcases le_total amount (before + c + c') with ht | ht
    · rw [min_eq_left (by linarith), min_eq_left (by linarith)]
      ring
    · rw [min_eq_right (by linarith), min_eq_right (by linarith)]

/-- What is left for the stages after one is the amount past its capacity. -/
theorem sub_stage {before capacity amount : K} (hc : 0 ≤ capacity) :
    max (amount - before) 0 - stage before capacity amount
      = max (amount - (before + capacity)) 0 := by
  rcases le_total amount before with h | h
  · rw [stage_of_le hc h, max_eq_right (by linarith), max_eq_right (by linarith), sub_zero]
  rw [stage, max_eq_left (by linarith : 0 ≤ amount - before)]
  rcases le_total amount (before + capacity) with hb | hb
  · rw [min_eq_left (by linarith), max_eq_right (by linarith), sub_self]
  · rw [min_eq_right (by linarith), max_eq_left (by linarith)]
    ring

end Waterfall
