import Mathlib.Data.List.Sort
import Mathlib.Algebra.Order.BigOperators.Group.List
import Mathlib.Algebra.Order.Monoid.Unbundled.Pow

/-!
# The largest values of a list

What the largest `count` values of a list weigh (`topSum`), for a weight that is monotone
and nonnegative. It is the most that as many values of the list can weigh
(`sum_le_topSum`), so it does not depend on their order (`topSum_perm`), and it rises with
every value (`topSum_mono`) and with every further value (`topSum_le_append`).
-/

namespace TopSum

variable {α M : Type*} [LinearOrder α] [AddCommMonoid M]

def topSum (weight : α → M) (count : ℕ) (values : List α) : M :=
  (((values.mergeSort (fun a b => decide (b ≤ a))).take count).map weight).sum

theorem sorted_values (values : List α) :
    (values.mergeSort (fun a b => decide (b ≤ a))).Pairwise (· ≥ ·) :=
  List.pairwise_mergeSort' (· ≥ ·) values

theorem topSum_perm (weight : α → M) (count : ℕ) {values values' : List α}
    (h : values.Perm values') : topSum weight count values = topSum weight count values' := by
  have hsorted : values.mergeSort (fun a b => decide (b ≤ a))
      = values'.mergeSort (fun a b => decide (b ≤ a)) :=
    ((List.mergeSort_perm _ _).trans (h.trans (List.mergeSort_perm _ _).symm)).eq_of_pairwise'
      (sorted_values values) (sorted_values values')
  rw [topSum, hsorted, topSum]

variable [PartialOrder M] [IsOrderedAddMonoid M] {weight : α → M}

/-- In a descending list nothing of its size weighs more than its front. -/
theorem sum_le_take (hmono : Monotone weight) (hnonneg : ∀ a, 0 ≤ weight a)
    {values chosen : List α} (hsorted : values.Pairwise (· ≥ ·)) (hchosen : chosen.Sublist values)
    {count : ℕ} (hcount : chosen.length ≤ count) :
    (chosen.map weight).sum ≤ ((values.take count).map weight).sum := by
  induction values generalizing chosen count with
  | nil => simp [List.sublist_nil.mp hchosen]
  | cons top values ih =>
    obtain ⟨htop, hsorted⟩ := List.pairwise_cons.mp hsorted
    cases chosen with
    | nil =>
      refine List.sum_nonneg fun w hw => ?_
      obtain ⟨a, -, rfl⟩ := List.mem_map.mp hw
      exact hnonneg a
    | cons first chosen =>
      cases count with
      | zero => simp at hcount
      | succ count =>
        have hfirst : first ≤ top := by
          rcases List.mem_cons.mp (hchosen.subset List.mem_cons_self) with rfl | hmem
          · exact le_rfl
          · exact htop first hmem
        rw [List.take_succ_cons, List.map_cons, List.map_cons, List.sum_cons, List.sum_cons]
        exact add_le_add (hmono hfirst) (ih hsorted hchosen.tail (Nat.le_of_succ_le_succ hcount))

theorem sum_le_topSum (hmono : Monotone weight) (hnonneg : ∀ a, 0 ≤ weight a)
    {values chosen : List α} (hchosen : chosen.Subperm values) {count : ℕ}
    (hcount : chosen.length ≤ count) : (chosen.map weight).sum ≤ topSum weight count values := by
  obtain ⟨chosen', hperm, hsublist⟩ :=
    hchosen.trans (List.mergeSort_perm values fun a b => decide (b ≤ a)).symm.subperm
  rw [← (hperm.map weight).sum_eq]
  exact sum_le_take hmono hnonneg (sorted_values values) hsublist (hperm.length_eq.trans_le hcount)

/-- A list of values as large, one by one, has largest values that weigh as much. -/
theorem topSum_mono (hmono : Monotone weight) (hnonneg : ∀ a, 0 ≤ weight a) (count : ℕ)
    {values values' : List α} (h : List.Forall₂ (· ≤ ·) values values') :
    topSum weight count values ≤ topSum weight count values' := by
  -- The larger values in the order that sorts the smaller ones.
  obtain ⟨aligned, haligned, hperm⟩ :=
    List.perm_comp_forall₂ (List.mergeSort_perm values fun a b => decide (b ≤ a)) h
  have hfront : List.Forall₂ (· ≤ ·)
      (((values.mergeSort fun a b => decide (b ≤ a)).take count).map weight)
      ((aligned.take count).map weight) := by
    rw [List.forall₂_map_left_iff, List.forall₂_map_right_iff]
    exact (List.forall₂_take count haligned).imp fun _ _ hle => hmono hle
  refine hfront.sum_le_sum.trans (sum_le_topSum hmono hnonneg ?_ (List.length_take_le _ _))
  exact (List.take_sublist _ _).subperm.trans hperm.subperm

theorem topSum_le_append (hmono : Monotone weight) (hnonneg : ∀ a, 0 ≤ weight a) (count : ℕ)
    (values further : List α) :
    topSum weight count values ≤ topSum weight count (values ++ further) := by
  refine sum_le_topSum hmono hnonneg ?_ (List.length_take_le _ _)
  have hsorted := List.mergeSort_perm values fun a b => decide (b ≤ a)
  exact ((List.take_sublist _ _).subperm.trans hsorted.subperm).trans
    (List.sublist_append_left values further).subperm

/-- Where no value weighs more than `top`, the largest ones weigh no more than as many
times that. -/
theorem topSum_le_nsmul {top : M} (htop : ∀ a, weight a ≤ top) (h : 0 ≤ top) (count : ℕ)
    (values : List α) : topSum weight count values ≤ count • top := by
  have hle := List.sum_le_card_nsmul
    (((values.mergeSort fun a b => decide (b ≤ a)).take count).map weight) top fun w hw => by
      obtain ⟨a, -, rfl⟩ := List.mem_map.mp hw
      exact htop a
  refine hle.trans (nsmul_le_nsmul_left h ?_)
  rw [List.length_map]
  exact List.length_take_le _ _

end TopSum
