import Mathlib.Data.List.Basic

/-!
# Refilled readers

A reader hands out the items of one block at a time: a cursor moves through the block
at hand, and the next block is sampled when the cursor is past its end. The blocks need
not be of one length, only not empty:

* `after_start`: what a reader holds once it has read into a block;
* `read_blocks`, `read_eq_take`: the items it hands out are the blocks one after another.
-/

namespace Refill

variable {σ α : Type*}

/-- The source that is left, the block at hand, and how much of it has been read. -/
@[ext] structure Reader (σ α : Type*) where
  source : σ
  block : List α
  index : ℕ

variable (sample : σ → List α × σ)

/-- The source once `count` blocks have been sampled. -/
def sourceAfter (source : σ) : ℕ → σ
  | 0 => source
  | count + 1 => (sample (sourceAfter source count)).2

/-- The block sampled after `count` others. -/
def block (source : σ) (count : ℕ) : List α := (sample (sourceAfter sample source count)).1

/-- The first `count` blocks, one after another. -/
def blocks (source : σ) (count : ℕ) : List α := (List.range count).flatMap (block sample source)

namespace Reader

/-- A reader samples its first block at once. -/
def start (source : σ) : Reader σ α := ⟨(sample source).2, (sample source).1, 0⟩

/-- The next item, out of a new block if the one at hand is used up. -/
def next (default : α) (reader : Reader σ α) : α × Reader σ α :=
  if reader.block.length ≤ reader.index then
    ((sample reader.source).1.getD 0 default,
      ⟨(sample reader.source).2, (sample reader.source).1, 1⟩)
  else
    (reader.block.getD reader.index default, { reader with index := reader.index + 1 })

variable (default : α)

/-- The reader once `count` items have been read. -/
def after (reader : Reader σ α) : ℕ → Reader σ α
  | 0 => reader
  | count + 1 => ((after reader count).next sample default).2

/-- The next `count` items. -/
def read (reader : Reader σ α) (count : ℕ) : List α :=
  (List.range count).map fun position =>
    ((reader.after sample default position).next sample default).1

/-- A reader at a position of the block sampled after `count` others. -/
def within (source : σ) (count index : ℕ) : Reader σ α :=
  ⟨sourceAfter sample source (count + 1), Refill.block sample source count, index⟩

end Reader

section Run

variable {sample} (default : α)

theorem length_blocks_succ (source : σ) (count : ℕ) :
    (blocks sample source (count + 1)).length
      = (blocks sample source count).length + (block sample source count).length := by
  rw [blocks, List.range_succ, List.flatMap_append, List.length_append, List.flatMap_singleton]
  rfl

/-- A reader moves through the block at hand. -/
theorem next_within {source : σ} {count index : ℕ}
    (h : index < (block sample source count).length) :
    (Reader.within sample source count index).next sample default
      = ((block sample source count).getD index default,
          Reader.within sample source count (index + 1)) :=
  if_neg (Nat.not_le.mpr h)

/-- At the end of a block it goes on as at the start of the next one. -/
theorem next_within_end {source : σ} {count : ℕ} (h : block sample source (count + 1) ≠ []) :
    (Reader.within sample source count (block sample source count).length).next sample default
      = (Reader.within sample source (count + 1) 0).next sample default := by
  rw [next_within default (List.length_pos_of_ne_nil h)]
  exact if_pos (Nat.le_refl _)

/-- A reader that starts on a block goes through it. -/
theorem next_through {source : σ} {reader : Reader σ α} {count before : ℕ}
    (hstart : (reader.after sample default before).next sample default
      = (Reader.within sample source count 0).next sample default) {index : ℕ}
    (h : index < (block sample source count).length) :
    (reader.after sample default (before + index)).next sample default
      = (Reader.within sample source count index).next sample default := by
  induction index with
  | zero => exact hstart
  | succ index ih =>
    have hnext := ih (Nat.lt_of_succ_lt h)
    rw [next_within default (Nat.lt_of_succ_lt h)] at hnext
    rw [← Nat.add_assoc, Reader.after, hnext]

variable (hne : ∀ source, (sample source).1 ≠ [])
include hne

/-- Once the blocks before it are read, a reader starts on a block. -/
theorem next_start (source : σ) (count : ℕ) :
    ((Reader.start sample source).after sample default
        (blocks sample source count).length).next sample default
      = (Reader.within sample source count 0).next sample default := by
  induction count with
  | zero => rfl
  | succ count ih =>
    obtain ⟨last, hlast⟩ := Nat.exists_eq_add_one.mpr (List.length_pos_of_ne_nil
      (hne (sourceAfter sample source count)))
    have hlt : last < (block sample source count).length := by
      rw [block, hlast]
      exact Nat.lt_add_one _
    have hthrough := next_through default ih hlt
    rw [next_within default hlt] at hthrough
    rw [length_blocks_succ, ← next_within_end default (hne _)]
    rw [block, hlast, ← Nat.add_assoc, Reader.after, hthrough]

/-- What a reader holds once it has read into a block: no later block has been sampled. -/
theorem after_start (source : σ) (count : ℕ) {index : ℕ}
    (h : index < (block sample source count).length) :
    (Reader.start sample source).after sample default
        ((blocks sample source count).length + (index + 1))
      = Reader.within sample source count (index + 1) := by
  rw [← Nat.add_assoc, Reader.after, next_through default (next_start default hne source count) h,
    next_within default h]

/-- The items a reader hands out are the blocks, one after another. -/
theorem read_blocks (source : σ) (count : ℕ) :
    (Reader.start sample source).read sample default (blocks sample source count).length
      = blocks sample source count := by
  induction count with
  | zero => rfl
  | succ count ih =>
    have hblock : ((List.range (block sample source count).length).map fun index =>
        (((Reader.start sample source).after sample default
          ((blocks sample source count).length + index)).next sample default).1)
        = block sample source count := by
      refine List.ext_getElem (by rw [List.length_map, List.length_range]) fun index _ h => ?_
      rw [List.getElem_map, List.getElem_range,
        next_through default (next_start default hne source count) h, next_within default h]
      exact (List.getElem_eq_getD default).symm
    rw [Reader.read, length_blocks_succ, List.range_add, List.map_append, List.map_map]
    rw [Reader.read] at ih
    rw [ih]
    refine (congrArg _ hblock).trans ?_
    rw [blocks, blocks, List.range_succ, List.flatMap_append, List.flatMap_singleton]

/-- However many items are read, they are the first of the blocks sampled so far. -/
theorem read_eq_take (source : σ) {count items : ℕ}
    (h : items ≤ (blocks sample source count).length) :
    (Reader.start sample source).read sample default items
      = (blocks sample source count).take items := by
  rw [← read_blocks default hne source count, Reader.read, Reader.read, ← List.map_take,
    List.take_range, Nat.min_eq_left h]

end Run

end Refill
