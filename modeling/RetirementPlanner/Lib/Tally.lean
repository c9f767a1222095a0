import Mathlib.Data.List.Basic
import RetirementPlanner.Lib.Ranges

/-!
# Tallies

For each of a list of items, how many of a list of values it accepts. A loop that counts
as it goes computes the tally (`foldl_step`), tallies of two lists add up to that of the
lists one after the other (`zipWith_tally`), and so a tally may be cut into ranges and
added up in any order (`foldl_tally`, `foldl_tally_ranges`).
-/

namespace Tally

open Ranges

variable {σ α : Type*} (accepts : σ → α → Bool) (items : List σ)

def tally (values : List α) : List ℕ := items.map fun item => values.countP (accepts item)

/-- One value, counted by each item that accepts it. -/
def step (counts : List ℕ) (value : α) : List ℕ :=
  List.zipWith (fun item count => if accepts item value then count + 1 else count) items counts

/-- Add the counts of two tallies, item by item. -/
def add (left right : List ℕ) : List ℕ := List.zipWith (· + ·) left right

@[simp] theorem tally_nil : tally accepts items [] = List.replicate items.length 0 := by
  simp only [tally, List.countP_nil, List.map_const']

@[simp] theorem length_tally (values : List α) : (tally accepts items values).length
    = items.length := List.length_map _

theorem add_map (f g : σ → ℕ) :
    add (items.map f) (items.map g) = items.map fun item => f item + g item := by
  rw [add, List.zipWith_map, List.zipWith_self]

theorem step_map (f : σ → ℕ) (value : α) :
    step accepts items (items.map f) value
      = items.map fun item => f item + [value].countP (accepts item) := by
  rw [step, List.zipWith_map_right, List.zipWith_self]
  refine List.map_congr_left fun item _ => ?_
  rw [List.countP_singleton]
  split <;> rfl

theorem add_tally (values values' : List α) :
    add (tally accepts items values) (tally accepts items values')
      = tally accepts items (values ++ values') := by
  rw [tally, tally, add_map]
  refine List.map_congr_left fun item _ => ?_
  rw [List.countP_append]

/-- The loop that counts, from any counts of the items. -/
theorem foldl_step_map (f : σ → ℕ) (values : List α) :
    values.foldl (step accepts items) (items.map f)
      = items.map fun item => f item + values.countP (accepts item) := by
  induction values generalizing f with
  | nil => simp only [List.foldl_nil, List.countP_nil, Nat.add_zero]
  | cons value values ih =>
    rw [List.foldl_cons, step_map, ih]
    refine List.map_congr_left fun item _ => ?_
    rw [Nat.add_assoc, ← List.countP_append, List.singleton_append]

/-- The loop that counts, from zero. -/
theorem foldl_step (values : List α) :
    values.foldl (step accepts items) (List.replicate items.length 0)
      = tally accepts items values := by
  rw [← List.map_const', foldl_step_map]
  simp only [Nat.zero_add]
  rfl

/-- The tallies of the parts add up to the tally of the whole. -/
theorem foldl_tally (before : List α) (parts : List (List α)) :
    (parts.map (tally accepts items)).foldl add (tally accepts items before)
      = tally accepts items (before ++ parts.flatten) := by
  induction parts generalizing before with
  | nil => simp
  | cons part parts ih =>
    rw [List.map_cons, List.foldl_cons, add_tally, ih, List.flatten_cons, List.append_assoc]

/-- However a range is cut, the tallies of the pieces add up to that of the range. -/
theorem foldl_tally_ranges (accepts : σ → ℕ → Bool) {a b : ℕ} {ranges : List (ℕ × ℕ)}
    (h : Tiles a b ranges) :
    (ranges.map fun range => tally accepts items (List.range' range.1 (range.2 - range.1))).foldl
        add (List.replicate items.length 0)
      = tally accepts items (List.range' a (b - a)) := by
  rw [← tally_nil accepts items, ← h.flatMap_range', List.flatMap_def, ← List.nil_append
    (List.flatten _), ← foldl_tally, List.map_map]
  rfl

/-- Items that accept the same values have the same tally. -/
theorem tally_congr {accepts accepts' : σ → α → Bool} {values : List α}
    (h : ∀ item ∈ items, ∀ value ∈ values, accepts item value = accepts' item value) :
    tally accepts items values = tally accepts' items values :=
  List.map_congr_left fun item hitem => List.countP_congr fun value hvalue => by
    rw [h item hitem value hvalue]

end Tally
