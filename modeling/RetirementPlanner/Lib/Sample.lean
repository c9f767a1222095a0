import Mathlib.Tactic
import Mathlib.Algebra.Order.Field.Basic
import Mathlib.Algebra.BigOperators.Group.List.Basic
import RetirementPlanner.Lib.Numerals

/-!
# Samples

Order statistics and means of a list of values.

* `isOrderStatistic_of_sorted`: the entry at a rank of the sorted list is the order
  statistic of that rank;
* `mean_le`, `mean_eq`: a mean keeps a bound, and a value, its members share;
* `sum_mul_mean`: the mean of a linear combination of columns is the combination of
  their means.
-/

namespace Sample

variable {K : Type*} [Field K] [LinearOrder K]

/-! ## Order statistics -/

/-- `v` has the given rank, counted from zero, among the values: no more than `rank`
are below it, and more than `rank` are not above it. -/
def IsOrderStatistic (values : List K) (rank : ℕ) (v : K) : Prop :=
  values.countP (fun x => decide (x < v)) ≤ rank ∧ rank < values.countP fun x => decide (x ≤ v)

omit [Field K] in
theorem IsOrderStatistic.of_perm {values values' : List K} (hperm : values.Perm values')
    {rank : ℕ} {v : K} (h : IsOrderStatistic values rank v) : IsOrderStatistic values' rank v := by
  rw [IsOrderStatistic, hperm.countP_eq, hperm.countP_eq] at h
  exact h

omit [Field K] in
theorem isOrderStatistic_of_sorted {values : List K} (hsorted : values.Pairwise (· ≤ ·))
    {rank : ℕ} (hrank : rank < values.length) :
    IsOrderStatistic values rank values[rank] := by
  have hle (i j : ℕ) (hj : j < values.length) (hij : i ≤ j) : values[i] ≤ values[j] := by
    rcases hij.eq_or_lt with rfl | hlt
    · exact le_rfl
    · exact List.pairwise_iff_getElem.mp hsorted i j _ hj hlt
  constructor
  · have hsplit := congrArg (List.countP fun x => decide (x < values[rank]))
      (List.take_append_drop rank values)
    have hdrop : (values.drop rank).countP (fun x => decide (x < values[rank])) = 0 := by
      refine List.countP_eq_zero.mpr fun x hx => ?_
      obtain ⟨k, hk, rfl⟩ := List.getElem_of_mem hx
      rw [List.length_drop] at hk
      rw [List.getElem_drop, decide_eq_true_iff, not_lt]
      exact hle _ _ _ (Nat.le_add_right _ _)
    rw [← hsplit, List.countP_append, hdrop, add_zero]
    exact List.countP_le_length.trans (List.length_take_le _ _)
  · have htake : (values.take (rank + 1)).countP (fun x => decide (x ≤ values[rank]))
        = rank + 1 := by
      rw [List.countP_eq_length.mpr, List.length_take, min_eq_left hrank]
      intro x hx
      obtain ⟨k, hk, rfl⟩ := List.getElem_of_mem hx
      rw [List.length_take] at hk
      rw [List.getElem_take, decide_eq_true_iff]
      exact hle _ _ _ (by omega)
    have hle := (List.take_sublist (rank + 1) values).countP_le
      (p := fun x => decide (x ≤ values[rank]))
    omega

/-! ## Means -/

def mean (values : List K) : K := values.sum / values.length

variable [IsStrictOrderedRing K]

theorem mean_le {values : List K} (hne : values ≠ []) {bound : K} (h : ∀ x ∈ values, x ≤ bound) :
    mean values ≤ bound := by
  have hlength : (0 : K) < values.length := Nat.cast_pos.mpr (List.length_pos_iff.mpr hne)
  rw [mean, div_le_iff₀ hlength, mul_comm, ← nsmul_eq_mul]
  exact List.sum_le_card_nsmul values bound h

theorem mean_eq {values : List K} (hne : values ≠ []) {value : K} (h : ∀ x ∈ values, x = value) :
    mean values = value := by
  have hlength : (0 : K) < values.length := Nat.cast_pos.mpr (List.length_pos_iff.mpr hne)
  rw [mean, List.sum_eq_card_nsmul values value h, nsmul_eq_mul, mul_div_cancel_left₀ _ hlength.ne']

omit [LinearOrder K] [IsStrictOrderedRing K] in
theorem sum_mul_mean {α ι : Type*} [Fintype ι] (rows : List α) (column : ι → α → K)
    (weight : ι → K) :
    ∑ i, weight i * mean (rows.map (column i))
      = mean (rows.map fun row => ∑ i, weight i * column i row) := by
  have hsum : ∑ i, weight i * (rows.map (column i)).sum
      = (rows.map fun row => ∑ i, weight i * column i row).sum := by
    induction rows with
    | nil => simp
    | cons row rows ih =>
      simp only [List.map_cons, List.sum_cons, mul_add, Finset.sum_add_distrib, ih]
  simp only [mean, List.length_map, ← hsum, Finset.sum_div, mul_div_assoc]

end Sample
