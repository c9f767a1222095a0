import Mathlib.Algebra.Order.BigOperators.Group.List
import Mathlib.Algebra.Order.Group.Unbundled.Basic
import Mathlib.Tactic.Abel

/-!
# Draining amounts in a fixed order

An amount due is taken out of amounts held under keys, key after key, each giving what it
holds or what is still due. Nothing goes below zero (`drain_nonneg`), and when the keys hold
as much as is due, as much is taken (`sum_drain`).
-/

namespace Drain

variable {ι K : Type*} [DecidableEq ι] [AddCommGroup K] [LinearOrder K]

/-- What is left under each key once `due` is taken from the keys in order. -/
def drain (amounts : ι → K) (due : K) : List ι → ι → K
  | [] => amounts
  | key :: keys =>
    let applied := min due (amounts key)
    drain (Function.update amounts key (amounts key - applied)) (due - applied) keys

theorem drain_of_notMem {amounts : ι → K} {due : K} {keys : List ι} {key : ι} (h : key ∉ keys) :
    drain amounts due keys key = amounts key := by
  induction keys generalizing amounts due with
  | nil => rfl
  | cons first keys ih =>
    obtain ⟨hne, hmem⟩ := not_or.mp (mt List.mem_cons.mpr h)
    rw [drain, ih hmem, Function.update_of_ne hne]

variable [IsOrderedAddMonoid K]

/-- A key gives no more than it holds. -/
theorem update_nonneg {amounts : ι → K} (h : ∀ key, 0 ≤ amounts key) (due : K) (first key : ι) :
    0 ≤ Function.update amounts first (amounts first - min due (amounts first)) key := by
  by_cases hkey : key = first
  · rw [hkey, Function.update_self]
    exact sub_nonneg.mpr (min_le_right _ _)
  · rw [Function.update_of_ne hkey]
    exact h key

theorem drain_nonneg {amounts : ι → K} (h : ∀ key, 0 ≤ amounts key) (due : K) (keys : List ι)
    (key : ι) : 0 ≤ drain amounts due keys key := by
  induction keys generalizing amounts due with
  | nil => exact h key
  | cons first keys ih => exact ih (update_nonneg h due first) _

/-- What the keys hold together is less by what was due. -/
theorem sum_drain {amounts : ι → K} (h : ∀ key, 0 ≤ amounts key) {due : K} {keys : List ι}
    (hkeys : keys.Nodup) (hdue : 0 ≤ due) (hle : due ≤ (keys.map amounts).sum) :
    (keys.map (drain amounts due keys)).sum = (keys.map amounts).sum - due := by
  induction keys generalizing amounts due with
  | nil =>
    have hzero : due = 0 := le_antisymm hle hdue
    rw [hzero, sub_zero]
    rfl
  | cons key keys ih =>
    obtain ⟨hmem, hkeys⟩ := List.nodup_cons.mp hkeys
    rw [List.map_cons, List.sum_cons] at hle
    have hrest : keys.map (Function.update amounts key (amounts key - min due (amounts key)))
        = keys.map amounts :=
      List.map_congr_left fun other hother =>
        Function.update_of_ne (ne_of_mem_of_not_mem hother hmem) _ _
    have hleft : due - min due (amounts key) ≤ (keys.map amounts).sum := by
      rcases le_total due (amounts key) with hgives | hgives
      · rw [min_eq_left hgives, sub_self]
        exact List.sum_nonneg (List.forall_mem_map.mpr fun other _ => h other)
      · rw [min_eq_right hgives]
        exact sub_le_iff_le_add'.mpr hle
    have hsum := ih (update_nonneg h due key) hkeys (sub_nonneg.mpr (min_le_left _ _))
      (hrest.symm ▸ hleft)
    rw [List.map_cons, List.sum_cons, List.map_cons, List.sum_cons, drain, drain_of_notMem hmem,
      Function.update_self, hsum, hrest]
    abel

end Drain
