import Mathlib.Algebra.Order.BigOperators.Group.Finset
import Mathlib.Tactic
import Mathlib.Algebra.Order.Field.Basic
import RetirementPlanner.Lib.Numerals

/-!
# Settling an amount that feeds back on itself

An amount `g y` that has to be raised by a sale `y` which itself adds to the amount: the
sales are `y₀ = 0` and `yₙ₊₁ = g yₙ`, up to what there is to sell (`sale`).

* `sale_le_succ`: the sales only grow;
* `growth_le_pow`, `growth_le_cap`: where a unit of sale adds at most `rate` to the amount, the
  amount grows geometrically less from one sale to the next, and no more than what is left to sell
  adds;
* `sale_eq`: where each unit adds `rate`, the sales are the partial sums of a geometric series;
* `sale_sub_le`: the sales for two amounts are apart by what the amounts are, and what a unit of
  sale multiplies that by.
-/

namespace Iteration

variable {K : Type*} [Field K] [LinearOrder K]

/-- The sale after some rounds, of at most `cap`. -/
def sale (g : K → K) (cap : K) : ℕ → K
  | 0 => 0
  | n + 1 => min (g (sale g cap n)) cap

/-- An amount that is never negative and does not fall as the sale grows. -/
structure Rises (g : K → K) : Prop where
  zero_nonneg : 0 ≤ g 0
  mono : ∀ {y y' : K}, 0 ≤ y → y ≤ y' → g y ≤ g y'

/-- A unit of a sale of up to `cap` adds at most `rate` to the amount. -/
def AtMost (g : K → K) (cap rate : K) : Prop :=
  ∀ y y', 0 ≤ y → y ≤ y' → y' ≤ cap → g y' - g y ≤ rate * (y' - y)

/-- Each unit of a sale of up to `cap` adds `rate` to the amount. -/
def Exactly (g : K → K) (cap rate : K) : Prop :=
  ∀ y y', 0 ≤ y → y ≤ y' → y' ≤ cap → g y' - g y = rate * (y' - y)

variable {g : K → K} {rate cap : K}

theorem Rises.nonneg (h : Rises g) {y : K} (hy : 0 ≤ y) : 0 ≤ g y :=
  h.zero_nonneg.trans (h.mono le_rfl hy)

theorem sale_nonneg (h : Rises g) (hcap : 0 ≤ cap) (n : ℕ) : 0 ≤ sale g cap n := by
  induction n with
  | zero => exact le_rfl
  | succ n ih => exact le_min (h.nonneg ih) hcap

theorem sale_le_cap (g : K → K) (hcap : 0 ≤ cap) (n : ℕ) : sale g cap n ≤ cap := by
  cases n with
  | zero => exact hcap
  | succ n => exact min_le_right _ _

theorem sale_le_succ (h : Rises g) (hcap : 0 ≤ cap) (n : ℕ) :
    sale g cap n ≤ sale g cap (n + 1) := by
  induction n with
  | zero => exact sale_nonneg h hcap 1
  | succ n ih => exact min_le_min_right cap (h.mono (sale_nonneg h hcap n) ih)

variable [IsStrictOrderedRing K]

/-- A cap never widens a gap. -/
theorem min_sub_min_le {a b : K} (h : a ≤ b) (c : K) : min b c - min a c ≤ b - a := by
  rcases le_total a c with hc | hc
  · rw [min_eq_left hc]
    linarith [min_le_left b c]
  · rw [min_eq_right hc, min_eq_right (hc.trans h)]
    linarith

omit [IsStrictOrderedRing K] in
/-- The growth from one sale to the next, by what the sale grows. -/
theorem AtMost.growth_le (hrate : AtMost g cap rate) (h : Rises g) (hcap : 0 ≤ cap) (n : ℕ) :
    g (sale g cap (n + 1)) - g (sale g cap n) ≤ rate * (sale g cap (n + 1) - sale g cap n) :=
  hrate _ _ (sale_nonneg h hcap n) (sale_le_succ h hcap n) (sale_le_cap g hcap (n + 1))

/-- From one sale to the next the amount grows by at most a power of the rate. -/
theorem AtMost.growth_le_pow (hrate : AtMost g cap rate) (h : Rises g) (hnonneg : 0 ≤ rate)
    (hcap : 0 ≤ cap) (n : ℕ) :
    g (sale g cap (n + 1)) - g (sale g cap n) ≤ rate ^ (n + 1) * g 0 := by
  refine (hrate.growth_le h hcap n).trans ?_
  rw [pow_succ', mul_assoc]
  refine mul_le_mul_of_nonneg_left ?_ hnonneg
  induction n with
  | zero =>
    rw [pow_zero, one_mul]
    exact (sub_zero _).le.trans (min_le_left _ _)
  | succ n ih =>
    have hmono := h.mono (sale_nonneg h hcap n) (sale_le_succ h hcap n)
    refine (min_sub_min_le hmono cap).trans ((hrate.growth_le h hcap n).trans ?_)
    rw [pow_succ', mul_assoc]
    exact mul_le_mul_of_nonneg_left ih hnonneg

/-- After the first sale the amount grows by no more than what is left to sell adds. -/
theorem AtMost.growth_le_cap (hrate : AtMost g cap rate) (h : Rises g) (hnonneg : 0 ≤ rate)
    (hcap : 0 ≤ cap) (n : ℕ) :
    g (sale g cap (n + 2)) - g (sale g cap (n + 1)) ≤ rate * max (cap - g 0) 0 := by
  refine (hrate.growth_le h hcap (n + 1)).trans (mul_le_mul_of_nonneg_left ?_ hnonneg)
  have hfirst : min (g 0) cap ≤ sale g cap (n + 1) :=
    min_le_min_right cap (h.mono le_rfl (sale_nonneg h hcap n))
  have hlast := sale_le_cap g hcap (n + 2)
  rcases min_choice (g 0) cap with hmin | hmin <;> rw [hmin] at hfirst
  · exact le_max_of_le_left (by linarith)
  · exact le_max_of_le_right (by linarith)

/-- Where each unit adds `rate`, the sales are the partial sums of a geometric series, up to
what there is to sell. -/
theorem Exactly.sale_eq (hrate : Exactly g cap rate) (h : Rises g) (hnonneg : 0 ≤ rate)
    (hcap : 0 ≤ cap) (n : ℕ) :
    sale g cap n = min (g 0 * ∑ i ∈ Finset.range n, rate ^ i) cap := by
  induction n with
  | zero => simp [sale, hcap]
  | succ n ih =>
    have hnext := hrate 0 (sale g cap n) le_rfl (sale_nonneg h hcap n) (sale_le_cap g hcap n)
    rcases le_total (g 0 * ∑ i ∈ Finset.range n, rate ^ i) cap with hroom | hnone
    · rw [min_eq_left hroom] at ih
      have hg : g (sale g cap n) = g 0 * ∑ i ∈ Finset.range (n + 1), rate ^ i := by
        rw [Finset.sum_range_succ', pow_zero]
        simp only [pow_succ, ← Finset.sum_mul]
        rw [ih] at hnext ⊢
        linear_combination hnext
      rw [sale, hg]
    · -- All was sold before.
      rw [min_eq_right hnone] at ih
      have hmore : cap ≤ g 0 * ∑ i ∈ Finset.range (n + 1), rate ^ i := by
        rw [Finset.sum_range_succ, mul_add]
        exact le_add_of_le_of_nonneg hnone (mul_nonneg h.zero_nonneg (pow_nonneg hnonneg n))
      rw [min_eq_right hmore]
      exact le_antisymm (sale_le_cap g hcap _) (ih.symm.trans_le (sale_le_succ h hcap n))

omit [IsStrictOrderedRing K] in
theorem Exactly.growth_eq (hrate : Exactly g cap rate) (h : Rises g) (hcap : 0 ≤ cap) (n : ℕ) :
    g (sale g cap (n + 1)) - g (sale g cap n) = rate * (sale g cap (n + 1) - sale g cap n) :=
  hrate _ _ (sale_nonneg h hcap n) (sale_le_succ h hcap n) (sale_le_cap g hcap (n + 1))

/-! ## Two amounts -/

variable {g' : K → K}

omit [IsStrictOrderedRing K] in
/-- More to raise takes a larger sale. -/
theorem sale_le_sale (h : Rises g) (h' : Rises g') (hcap : 0 ≤ cap) (hle : ∀ y, 0 ≤ y → g y ≤ g' y)
    (n : ℕ) : sale g cap n ≤ sale g' cap n := by
  induction n with
  | zero => exact le_rfl
  | succ n ih =>
    have hnonneg := sale_nonneg h hcap n
    exact min_le_min_right cap ((hle _ hnonneg).trans (h'.mono hnonneg ih))

/-- Where a unit of sale adds at most `rate`, amounts that differ by `d` take sales that differ by
at most `d` for each part of a unit that is not taken again. -/
theorem sale_sub_le (h : Rises g) (h' : Rises g') (hcap : 0 ≤ cap) (hle : ∀ y, 0 ≤ y → g y ≤ g' y)
    {d : K} (hd : 0 ≤ d) (hnonneg : 0 ≤ rate) (hrate : rate ≤ 1)
    (hdiff : ∀ y y', 0 ≤ y → y ≤ y' → y' ≤ cap → g' y' - g y ≤ d + rate * (y' - y)) (n : ℕ) :
    (1 - rate) * (sale g' cap n - sale g cap n) ≤ d := by
  induction n with
  | zero => simpa [sale] using hd
  | succ n ih =>
    have hsale := sale_nonneg h hcap n
    have hmore := sale_le_sale h h' hcap hle n
    have hgrows := (hle _ hsale).trans (h'.mono hsale hmore)
    have hbetween : sale g' cap (n + 1) - sale g cap (n + 1)
        ≤ d + rate * (sale g' cap n - sale g cap n) :=
      (min_sub_min_le hgrows cap).trans (hdiff _ _ hsale hmore (sale_le_cap g' hcap n))
    calc (1 - rate) * (sale g' cap (n + 1) - sale g cap (n + 1))
        ≤ (1 - rate) * (d + rate * (sale g' cap n - sale g cap n)) :=
          mul_le_mul_of_nonneg_left hbetween (sub_nonneg.mpr hrate)
      _ = (1 - rate) * d + rate * ((1 - rate) * (sale g' cap n - sale g cap n)) := by ring
      _ ≤ (1 - rate) * d + rate * d := add_le_add_right (mul_le_mul_of_nonneg_left ih hnonneg) _
      _ = d := by ring

end Iteration
