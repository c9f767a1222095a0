import Mathlib.Tactic
import Mathlib.Algebra.Order.Field.Basic
import RetirementPlanner.Lib.Numerals

/-!
# Piecewise linear schedules

A function that is zero before its first kink and changes slope at each kink,
such as a tax on marginal rates: a list of kinks, each a threshold and the
change in slope there (`value`).

* `value_mono`: with no downward kink, the schedule is monotone;
* `value_add_sub_mono`: with no downward kink it is convex, so a step of fixed
  width costs more the higher it starts;
* `slope_le`: a bound on the slope, from a bound on the running sum of the kinks
  (`SlopesLE`).
-/

namespace Schedule

variable {K : Type*} [Field K] [LinearOrder K]

/-- How far `x` is past the threshold `t`. -/
def ramp (t x : K) : K := max (x - t) 0

/-- The schedule with the given kinks, at `x`. -/
def value (kinks : List (K × K)) (x : K) : K := (kinks.map fun k => k.2 * ramp k.1 x).sum

@[simp] theorem value_nil (x : K) : value ([] : List (K × K)) x = 0 := rfl

@[simp] theorem value_cons (k : K × K) (ks : List (K × K)) (x : K) :
    value (k :: ks) x = k.2 * ramp k.1 x + value ks x := by
  simp [value]

theorem value_append (ks ks' : List (K × K)) (x : K) :
    value (ks ++ ks') x = value ks x + value ks' x := by
  simp [value]

theorem ramp_nonneg (t x : K) : 0 ≤ ramp t x := le_max_right _ _

variable [IsStrictOrderedRing K]

/-! ## Ramps -/

theorem ramp_of_le {t x : K} (h : x ≤ t) : ramp t x = 0 := max_eq_right (by linarith)

theorem ramp_of_ge {t x : K} (h : t ≤ x) : ramp t x = x - t := max_eq_left (by linarith)

theorem ramp_mono (t : K) {x y : K} (h : x ≤ y) : ramp t x ≤ ramp t y :=
  max_le_max (by linarith) le_rfl

theorem ramp_sub_le (t : K) {x y : K} (h : x ≤ y) : ramp t y - ramp t x ≤ y - x := by
  rcases le_total y t with hy | hy
  · rw [ramp_of_le hy, ramp_of_le (h.trans hy)]
    linarith
  · have := le_max_left (x - t) 0
    rw [ramp_of_ge hy, ramp]
    linarith

/-- What a unit step covers of a ramp: the part of the step past the threshold. -/
theorem ramp_unit_step (t x : K) :
    ramp t (x + 1) - ramp t x = min (max (x + 1 - max x t) 0) 1 := by
  rcases le_total t x with h | h
  · rw [ramp_of_ge (by linarith), ramp_of_ge h, max_eq_left h, max_eq_left (by linarith),
      min_eq_right (by linarith)]
    ring
  · rw [ramp_of_le h, max_eq_right h, sub_zero, ramp, min_eq_left]
    exact max_le (by linarith) zero_le_one

omit [IsStrictOrderedRing K] in
/-- The unit steps from `m` on cover what the ramp gains from `m`. -/
theorem sum_unit_steps (t : K) {m n : ℕ} (h : m ≤ n) :
    ∑ k ∈ Finset.range n, (if m ≤ k then ramp t (k + 1) - ramp t k else 0)
      = ramp t n - ramp t m := by
  induction n, h using Nat.le_induction with
  | base =>
    rw [sub_self]
    exact Finset.sum_eq_zero fun k hk => if_neg (not_le.mpr (Finset.mem_range.mp hk))
  | succ n hn ih =>
    rw [Finset.sum_range_succ, ih, if_pos hn]
    push_cast
    ring

/-- A ramp is convex: a step of fixed width covers more of it the higher it
starts. -/
theorem ramp_add_sub_mono (t : K) {x y q : K} (h : x ≤ y) (hq : 0 ≤ q) :
    ramp t (x + q) - ramp t x ≤ ramp t (y + q) - ramp t y := by
  rcases le_total t y with hy | hy
  · rw [ramp_of_ge hy, ramp_of_ge (by linarith : t ≤ y + q)]
    have := ramp_sub_le t (by linarith : x ≤ x + q)
    linarith
  · rw [ramp_of_le hy, ramp_of_le (h.trans hy)]
    have := ramp_mono t (by linarith : x + q ≤ y + q)
    linarith

/-! ## Monotone and convex schedules -/

theorem value_eq_zero {ks : List (K × K)} {x : K} (h : ∀ k ∈ ks, x ≤ k.1) : value ks x = 0 := by
  induction ks with
  | nil => rfl
  | cons k ks ih =>
    rw [value_cons, ramp_of_le (h k List.mem_cons_self), mul_zero, zero_add]
    exact ih fun k' hk' => h k' (List.mem_cons_of_mem _ hk')

/-- No kink turns the schedule downwards. -/
def Upward (ks : List (K × K)) : Prop := ∀ k ∈ ks, 0 ≤ k.2

theorem value_nonneg {ks : List (K × K)} (h : Upward ks) (x : K) : 0 ≤ value ks x := by
  refine List.sum_nonneg fun v hv => ?_
  obtain ⟨k, hk, rfl⟩ := List.mem_map.mp hv
  exact mul_nonneg (h k hk) (ramp_nonneg _ _)

theorem value_mono {ks : List (K × K)} (h : Upward ks) {x y : K} (hxy : x ≤ y) :
    value ks x ≤ value ks y :=
  List.sum_le_sum fun k hk => mul_le_mul_of_nonneg_left (ramp_mono _ hxy) (h k hk)

theorem value_add_sub_mono {ks : List (K × K)} (h : Upward ks) {x y q : K} (hxy : x ≤ y)
    (hq : 0 ≤ q) : value ks (x + q) - value ks x ≤ value ks (y + q) - value ks y := by
  induction ks with
  | nil => simp
  | cons k ks ih =>
    have hk := mul_le_mul_of_nonneg_left (ramp_add_sub_mono k.1 hxy hq) (h k List.mem_cons_self)
    have hks := ih fun k' hk' => h k' (List.mem_cons_of_mem _ hk')
    simp only [value_cons]
    linarith

/-! ## Slopes -/

/-- The slope `s` before the first kink and after each of them is at most `c`, and
the kinks are in order. -/
def SlopesLE (c : K) : K → List (K × K) → Prop
  | s, [] => s ≤ c
  | s, k :: ks => s ≤ c ∧ (∀ k' ∈ ks, k.1 ≤ k'.1) ∧ SlopesLE c (s + k.2) ks

theorem slope_le_from {c s : K} {ks : List (K × K)} (h : SlopesLE c s ks) {x y : K} (hxy : x ≤ y) :
    s * (y - x) + (value ks y - value ks x) ≤ c * (y - x) := by
  induction ks generalizing s x y with
  | nil =>
    rw [value_nil, value_nil, sub_zero, add_zero]
    exact mul_le_mul_of_nonneg_right h (sub_nonneg.mpr hxy)
  | cons k ks ih =>
    obtain ⟨hs, hsorted, htail⟩ := h
    -- Before the kink the schedule is flat, and past it the tail's bound applies.
    have before {x y : K} (hxy : x ≤ y) (hy : y ≤ k.1) :
        s * (y - x) + (value (k :: ks) y - value (k :: ks) x) ≤ c * (y - x) := by
      have hflat {z : K} (hz : z ≤ k.1) : value (k :: ks) z = 0 :=
        value_eq_zero fun k' hk' => by
          rcases List.mem_cons.mp hk' with rfl | hk'
          · exact hz
          · exact hz.trans (hsorted k' hk')
      rw [hflat hy, hflat (hxy.trans hy), sub_zero, add_zero]
      exact mul_le_mul_of_nonneg_right hs (sub_nonneg.mpr hxy)
    have past {x y : K} (hxy : x ≤ y) (hx : k.1 ≤ x) :
        s * (y - x) + (value (k :: ks) y - value (k :: ks) x) ≤ c * (y - x) := by
      have := ih htail hxy
      rw [value_cons, value_cons, ramp_of_ge hx, ramp_of_ge (hx.trans hxy)]
      linarith
    rcases le_total y k.1 with hy | hy
    · exact before hxy hy
    rcases le_total k.1 x with hx | hx
    · exact past hxy hx
    have h1 := before hx le_rfl
    have h2 := past hy le_rfl
    linarith

/-- A schedule whose running slopes are at most `c` rises by at most `c` a unit. -/
theorem slope_le {c : K} {ks : List (K × K)} (h : SlopesLE c 0 ks) {x y : K} (hxy : x ≤ y) :
    value ks y - value ks x ≤ c * (y - x) := by
  have := slope_le_from h hxy
  linarith

end Schedule
