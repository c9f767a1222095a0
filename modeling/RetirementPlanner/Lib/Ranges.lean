import Mathlib.Tactic

/-!
# Consecutive ranges

Lists of half-open ranges of natural numbers that follow one another without a gap.

* `Tiles.flatMap_range'`: the ranges, one after the other, are the numbers they cover;
* `Tiles.mem_bounds`: a range lies within what the list covers.
-/

namespace Ranges

/-- The ranges are not empty, and each starts where the one before it ends, from `a`
up to `b`. -/
def Tiles : ℕ → ℕ → List (ℕ × ℕ) → Prop
  | a, b, [] => a = b
  | a, b, range :: ranges => range.1 = a ∧ range.1 < range.2 ∧ Tiles range.2 b ranges

instance decidableTiles : (a b : ℕ) → (ranges : List (ℕ × ℕ)) → Decidable (Tiles a b ranges)
  | a, b, [] => inferInstanceAs (Decidable (a = b))
  | a, b, range :: ranges =>
    have := decidableTiles range.2 b ranges
    inferInstanceAs (Decidable (range.1 = a ∧ range.1 < range.2 ∧ Tiles range.2 b ranges))

theorem Tiles.le {a b : ℕ} {ranges : List (ℕ × ℕ)} (h : Tiles a b ranges) : a ≤ b := by
  induction ranges generalizing a with
  | nil => exact le_of_eq h
  | cons range ranges ih =>
    obtain ⟨rfl, hlt, hrest⟩ := h
    exact hlt.le.trans (ih hrest)

/-- The numbers of the ranges, in order, are those from `a` up to `b`. -/
theorem Tiles.flatMap_range' {a b : ℕ} {ranges : List (ℕ × ℕ)} (h : Tiles a b ranges) :
    (ranges.flatMap fun range => List.range' range.1 (range.2 - range.1))
      = List.range' a (b - a) := by
  induction ranges generalizing a with
  | nil =>
    cases h
    rw [List.flatMap_nil, Nat.sub_self, List.range'_zero]
  | cons range ranges ih =>
    obtain ⟨rfl, hlt, hrest⟩ := h
    have hend : range.2 = range.1 + (range.2 - range.1) := by omega
    have hlength : b - range.1 = range.2 - range.1 + (b - range.2) := by
      have hle := hrest.le
      omega
    rw [List.flatMap_cons, ih hrest, hlength]
    nth_rewrite 2 [hend]
    rw [List.range'_append_1]

/-- A range of the list lies within what the list covers. -/
theorem Tiles.mem_bounds {a b : ℕ} {ranges : List (ℕ × ℕ)} (h : Tiles a b ranges)
    {range : ℕ × ℕ} (hmem : range ∈ ranges) : a ≤ range.1 ∧ range.1 < range.2 ∧ range.2 ≤ b := by
  induction ranges generalizing a with
  | nil => cases hmem
  | cons first ranges ih =>
    obtain ⟨rfl, hlt, hrest⟩ := h
    rcases List.mem_cons.mp hmem with rfl | hmem
    · exact ⟨le_rfl, hlt, hrest.le⟩
    · obtain ⟨hstart, hrange, hend⟩ := ih hrest hmem
      exact ⟨hlt.le.trans hstart, hrange, hend⟩

end Ranges
