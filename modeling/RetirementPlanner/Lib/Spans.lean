import Mathlib.Data.List.Sort
import Mathlib.Data.List.Dedup
import Mathlib.Tactic

/-!
# Samples that span an interval

Sample points of an interval: in order, inside it, and from the one end to the other. Points in
order and inside span the interval just when both ends are among them (`spans_iff`). The least
power of two that is large enough for a width divides both ends just when some power that is
large enough does (`least_pow_dvd_iff`).
-/

namespace Sampling

/-! ## Points in order -/

section Points

variable {α : Type*} [LinearOrder α]

/-- The points increase, stay within two ends, and begin and end there. -/
structure Spans (points : List α) (low high : α) : Prop where
  increasing : points.Pairwise (· < ·)
  within : ∀ x ∈ points, low ≤ x ∧ x ≤ high
  first : points.head? = some low
  last : points.getLast? = some high

variable {points : List α} {low high : α}

theorem head?_of_mem (hincreasing : points.Pairwise (· < ·)) (hlow : ∀ x ∈ points, low ≤ x)
    (hmem : low ∈ points) : points.head? = some low := by
  cases points with
  | nil => cases hmem
  | cons first rest =>
    rcases List.mem_cons.mp hmem with rfl | hrest
    · rfl
    · have hlt : first < low := List.rel_of_pairwise_cons hincreasing hrest
      exact absurd hlt (not_lt.mpr (hlow first List.mem_cons_self))

theorem getLast?_of_mem (hincreasing : points.Pairwise (· < ·)) (hhigh : ∀ x ∈ points, x ≤ high)
    (hmem : high ∈ points) : points.getLast? = some high := by
  induction points with
  | nil => cases hmem
  | cons first rest ih =>
    cases rest with
    | nil =>
      cases List.mem_singleton.mp hmem
      rfl
    | cons second rest =>
      rw [List.getLast?_cons_cons]
      refine ih hincreasing.of_cons (fun x hx => hhigh x (List.mem_cons_of_mem _ hx)) ?_
      rcases List.mem_cons.mp hmem with rfl | hrest
      · have hlt : high < second := List.rel_of_pairwise_cons hincreasing List.mem_cons_self
        exact absurd hlt (not_lt.mpr (hhigh second (by simp)))
      · exact hrest

theorem spans_iff (hincreasing : points.Pairwise (· < ·))
    (hwithin : ∀ x ∈ points, low ≤ x ∧ x ≤ high) :
    Spans points low high ↔ low ∈ points ∧ high ∈ points := by
  constructor
  · intro h
    exact ⟨List.mem_of_mem_head? h.first, List.mem_of_getLast? h.last⟩
  · rintro ⟨hlow, hhigh⟩
    exact ⟨hincreasing, hwithin, head?_of_mem hincreasing (fun x hx => (hwithin x hx).1) hlow,
      getLast?_of_mem hincreasing (fun x hx => (hwithin x hx).2) hhigh⟩

theorem pairwise_lt_insertionSort (hdistinct : points.Nodup) :
    (points.insertionSort (· ≤ ·)).Pairwise (· < ·) := by
  have hsorted := List.pairwise_insertionSort (· ≤ ·) points
  have hnodup : (points.insertionSort (· ≤ ·)).Nodup :=
    (List.perm_insertionSort _ _).nodup_iff.mpr hdistinct
  exact hsorted.imp₂ (fun _ _ hle hne => lt_of_le_of_ne hle hne) hnodup

end Points

/-! ## Powers of two -/

theorem least_pow_dvd_iff {low high : ℤ} {count doublings : ℕ}
    (hfits : high - low ≤ count * 2 ^ doublings)
    (hleast : ∀ fewer < doublings, (count : ℤ) * 2 ^ fewer < high - low) :
    2 ^ doublings ∣ low ∧ 2 ^ doublings ∣ high ↔
      ∃ e : ℕ, 2 ^ e ∣ low ∧ 2 ^ e ∣ high ∧ high - low ≤ count * 2 ^ e := by
  constructor
  · rintro ⟨hlow, hhigh⟩
    exact ⟨doublings, hlow, hhigh, hfits⟩
  · rintro ⟨e, hlow, hhigh, hlarge⟩
    have hle : doublings ≤ e := by
      by_contra hlt
      exact absurd hlarge (not_le.mpr (hleast e (not_le.mp hlt)))
    have hdvd : (2 : ℤ) ^ doublings ∣ 2 ^ e := pow_dvd_pow 2 hle
    exact ⟨hdvd.trans hlow, hdvd.trans hhigh⟩

end Sampling
