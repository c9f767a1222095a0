import Mathlib.Tactic
import Mathlib.Algebra.Order.Field.Basic
import RetirementPlanner.Lib.Numerals

/-!
# Searching for the first good point

A predicate on an ordered field is searched in two phases. The first probes
points that double up to a top (`probe`); the second bisects a bracket whose low
end is bad and whose high end is good (`bisect`), and may stop early.

* `probe_eq_top`: the probes reach the top;
* `bisect_iterate`: bisection keeps the bracket, and each step that does not stop
  halves it.

Nothing here needs the predicate to be monotone: without it the search still ends
at a good point next to a bad one, but may miss the good points between probes.
-/

namespace Search

variable {K : Type*} [Field K] [LinearOrder K]

/-- The points of the first phase: doubling from `first`, never past `top`. -/
def probe (top first : K) : ℕ → K
  | 0 => first
  | k + 1 => min top (probe top first k * 2)

/-- One step of the second phase on the bracket `(low, high)`. -/
def bisect (good stop : K → Prop) [DecidablePred good] [DecidablePred stop] (b : K × K) : K × K :=
  if stop b.2 then b
  else if good ((b.1 + b.2) / 2) then (b.1, (b.1 + b.2) / 2)
  else ((b.1 + b.2) / 2, b.2)

/-- A bad low end and a good high end. -/
structure Brackets (good : K → Prop) (b : K × K) : Prop where
  low_bad : ¬good b.1
  high_good : good b.2
  low_le_high : b.1 ≤ b.2

theorem probe_le_top {top first : K} (h : first ≤ top) (k : ℕ) : probe top first k ≤ top := by
  cases k with
  | zero => exact h
  | succ k => exact min_le_left _ _

variable [IsStrictOrderedRing K]

theorem min_top_pow_le_probe {top first : K} (htop : 0 ≤ top) (h : min top 1 ≤ first) (k : ℕ) :
    min top (2 ^ k) ≤ probe top first k := by
  induction k with
  | zero => simpa [probe] using h
  | succ k ih =>
    refine le_min (min_le_left _ _) ?_
    rw [pow_succ]
    refine le_trans ?_ (mul_le_mul_of_nonneg_right ih zero_le_two)
    rcases le_total top (2 ^ k) with hk | hk
    · rw [min_eq_left hk]
      exact (min_le_left _ _).trans (by linarith)
    · rw [min_eq_right hk]
      exact min_le_right _ _

/-- Once the doubling passes the top, the probes stay there. -/
theorem probe_eq_top {top first : K} (htop : 0 ≤ top) (h : min top 1 ≤ first) (hle : first ≤ top)
    {k : ℕ} (hk : top ≤ 2 ^ k) : probe top first k = top :=
  le_antisymm (probe_le_top hle k)
    ((min_eq_left hk).symm.le.trans (min_top_pow_le_probe htop h k))

theorem probe_nonneg {top first : K} (htop : 0 ≤ top) (h : min top 1 ≤ first) (k : ℕ) :
    0 ≤ probe top first k :=
  (le_min htop (by positivity)).trans (min_top_pow_le_probe htop h k)

/-- A probe at the top is followed by the top. -/
theorem probe_stays {top first : K} (htop : 0 ≤ top) {k : ℕ} (hk : probe top first k = top) :
    ∀ j, k ≤ j → probe top first j = top := by
  intro j hj
  induction j, hj using Nat.le_induction with
  | base => exact hk
  | succ j _ ih =>
    rw [probe, ih]
    exact min_eq_left (by linarith)

variable (good stop : K → Prop) [DecidablePred good] [DecidablePred stop]

theorem bisect_brackets {b : K × K} (h : Brackets good b) :
    Brackets good (bisect good stop b) ∧ b.1 ≤ (bisect good stop b).1 ∧
      (bisect good stop b).2 ≤ b.2 ∧
      (stop (bisect good stop b).2 ∨
        (bisect good stop b).2 - (bisect good stop b).1 = (b.2 - b.1) / 2) ∧
      (stop b.2 → bisect good stop b = b) := by
  obtain ⟨hlow, hhigh, hle⟩ := h
  by_cases hs : stop b.2
  · rw [bisect, if_pos hs]
    exact ⟨⟨hlow, hhigh, hle⟩, le_rfl, le_rfl, .inl hs, fun _ => rfl⟩
  by_cases hg : good ((b.1 + b.2) / 2)
  · rw [bisect, if_neg hs, if_pos hg]
    refine ⟨⟨hlow, hg, ?_⟩, le_rfl, ?_, .inr ?_, fun h => absurd h hs⟩ <;> simp only <;> linarith
  · rw [bisect, if_neg hs, if_neg hg]
    refine ⟨⟨hg, hhigh, ?_⟩, ?_, le_rfl, .inr ?_, fun h => absurd h hs⟩ <;> simp only <;> linarith

/-- After `n` steps the bracket stands, inside the one it started from; unless the
search stopped it is narrower by `2 ^ n`. -/
theorem bisect_iterate {b : K × K} (h : Brackets good b) (n : ℕ) :
    Brackets good ((bisect good stop)^[n] b) ∧ b.1 ≤ ((bisect good stop)^[n] b).1 ∧
      ((bisect good stop)^[n] b).2 ≤ b.2 ∧
      (stop ((bisect good stop)^[n] b).2 ∨
        ((bisect good stop)^[n] b).2 - ((bisect good stop)^[n] b).1 = (b.2 - b.1) / 2 ^ n) := by
  induction n with
  | zero => exact ⟨h, le_rfl, le_rfl, .inr (by simp)⟩
  | succ n ih =>
    obtain ⟨hb, hlow, hhigh, hwidth⟩ := ih
    obtain ⟨hb', hlow', hhigh', hwidth', hstay⟩ := bisect_brackets good stop hb
    rw [Function.iterate_succ_apply']
    refine ⟨hb', hlow.trans hlow', hhigh'.trans hhigh, ?_⟩
    rcases hwidth with hs | hw
    · rw [hstay hs]
      exact .inl hs
    · refine hwidth'.imp_right fun he => ?_
      rw [he, hw, pow_succ]
      ring

end Search
