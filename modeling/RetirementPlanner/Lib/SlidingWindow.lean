import Mathlib.Algebra.Order.Group.Basic
import Mathlib.Algebra.Order.BigOperators.Group.List
import Mathlib.Tactic.Linarith

/-!
# Spending in every span of a length

Amounts are spent at times, and every span of one length may hold no more than a limit
(`Limited`).

* `Limited.append`: it is enough to look back from each spending over one length;
* `total_le_of_sublist`: what is only part of a record comes to no more than the record.
-/

namespace SlidingWindow

variable {K : Type*} [AddCommGroup K] [LinearOrder K]

/-- The spendings of the span of a length that starts at `t`. -/
def inSpan (length t : K) (spendings : List (K × K)) : List (K × K) :=
  spendings.filter fun s => t < s.1 ∧ s.1 ≤ t + length

/-- The spendings of the last length of time. -/
def recent (length now : K) (spendings : List (K × K)) : List (K × K) :=
  spendings.filter fun s => now - length < s.1

def total (spendings : List (K × K)) : K := (spendings.map (·.2)).sum

/-- No span in which anything is spent holds more than the limit. -/
def Limited (length limit : K) (spendings : List (K × K)) : Prop :=
  ∀ t, inSpan length t spendings ≠ [] → total (inSpan length t spendings) ≤ limit

theorem limited_nil (length limit : K) : Limited length limit [] := fun _ h => absurd rfl h

omit [LinearOrder K] in
theorem total_append (spendings later : List (K × K)) :
    total (spendings ++ later) = total spendings + total later := by
  rw [total, List.map_append, List.sum_append]
  rfl

variable [IsOrderedAddMonoid K]

theorem total_le_of_sublist {part record : List (K × K)} (h : part.Sublist record)
    (hcosts : ∀ s ∈ record, 0 ≤ s.2) : total part ≤ total record := by
  refine (h.map (·.2)).sum_le_sum fun cost hcost => ?_
  obtain ⟨s, hs, rfl⟩ := List.mem_map.mp hcost
  exact hcosts s hs

/-- A span that holds the new spending reaches back no further than one length before it. -/
theorem Limited.append {length limit now cost : K} {spendings : List (K × K)}
    (h : Limited length limit spendings) (hcosts : ∀ s ∈ spendings, 0 ≤ s.2)
    (hfits : total (recent length now spendings) + cost ≤ limit) :
    Limited length limit (spendings ++ [(now, cost)]) := by
  intro t hnonempty
  rw [inSpan, List.filter_append] at hnonempty ⊢
  by_cases hin : t < now ∧ now ≤ t + length
  · have hpart : (inSpan length t spendings).Sublist (recent length now spendings) := by
      refine List.monotone_filter_right spendings fun s hs => ?_
      simp only [decide_eq_true_eq] at hs ⊢
      exact (sub_le_iff_le_add.mpr hin.2).trans_lt hs.1
    have hlast : [(now, cost)].filter (fun s => decide (t < s.1 ∧ s.1 ≤ t + length))
        = [(now, cost)] := by
      rw [List.filter_cons_of_pos (by simpa using hin), List.filter_nil]
    have hrecent : ∀ s ∈ recent length now spendings, 0 ≤ s.2 :=
      fun s hs => hcosts s (List.mem_of_mem_filter hs)
    rw [hlast, total_append]
    calc total (inSpan length t spendings) + total [(now, cost)]
        ≤ total (recent length now spendings) + cost :=
          add_le_add (total_le_of_sublist hpart hrecent) (by simp [total])
      _ ≤ limit := hfits
  · have hlast : [(now, cost)].filter (fun s => decide (t < s.1 ∧ s.1 ≤ t + length)) = [] := by
      rw [List.filter_cons_of_neg (by simpa using hin), List.filter_nil]
    rw [hlast, List.append_nil] at hnonempty ⊢
    exact h t hnonempty

end SlidingWindow
