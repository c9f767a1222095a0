import Mathlib.Algebra.Order.Group.Defs
import Mathlib.Tactic.Set
import Mathlib.Algebra.BigOperators.Group.List.Basic

/-!
# Spending in fixed windows

A window opens with the first spending made while none is open, and lasts a fixed length.
What was spent is sorted into windows (`windows`), the latest first; a request is admitted
where its cost still fits in the window that is open (`admits`).

* `serve_within`: what is admitted never comes to more than the limit in any window;
* `serve_between`: nor to more than twice the limit in any stretch of time of one window's length.
-/

namespace FixedWindow

variable {K : Type*} [AddCommMonoid K] [LinearOrder K]

/-- When a window opened, and each amount spent in it, the latest first. -/
structure Window (K : Type*) where
  opened : K
  spent : List K
  deriving DecidableEq, Repr

/-- The window a request falls in: the latest while it is open, or a fresh one. -/
def current (length now : K) : List (Window K) → Window K
  | [] => ⟨now, []⟩
  | window :: _ => if now < window.opened + length then window else ⟨now, []⟩

/-- The windows before it. -/
def earlier (length now : K) : List (Window K) → List (Window K)
  | [] => []
  | window :: windows => if now < window.opened + length then windows else window :: windows

def spend (length now cost : K) (windows : List (Window K)) : List (Window K) :=
  ⟨(current length now windows).opened, cost :: (current length now windows).spent⟩
    :: earlier length now windows

/-- The windows of a list of times and costs, the latest first. -/
def windows (length : K) : List (K × K) → List (Window K)
  | [] => []
  | (now, cost) :: spendings => spend length now cost (windows length spendings)

/-- A cost fits in the window that is open. -/
def admits (length limit now cost : K) (windows : List (Window K)) : Prop :=
  (current length now windows).spent.sum + cost ≤ limit

instance (length limit now cost : K) (windows : List (Window K)) :
    Decidable (admits length limit now cost windows) :=
  inferInstanceAs (Decidable (_ ≤ _))

/-- The requests that are admitted, the latest first. -/
def serve (length limit : K) : List (K × K) → List (K × K)
  | [] => []
  | (now, cost) :: requests =>
    if admits length limit now cost (windows length (serve length limit requests)) then
      (now, cost) :: serve length limit requests
    else serve length limit requests

theorem earlier_subset {length now : K} {windows : List (Window K)} {window : Window K}
    (h : window ∈ earlier length now windows) : window ∈ windows := by
  cases windows with
  | nil => exact h
  | cons first windows =>
    rw [earlier] at h
    split at h
    · exact List.mem_cons_of_mem _ h
    · exact h

theorem spend_within {length limit now cost : K} {windows : List (Window K)}
    (h : ∀ window ∈ windows, window.spent.sum ≤ limit)
    (hfits : admits length limit now cost windows) :
    ∀ window ∈ spend length now cost windows, window.spent.sum ≤ limit := by
  intro window hwindow
  rcases List.mem_cons.mp hwindow with rfl | hwindow
  · rw [List.sum_cons, add_comm]
    exact hfits
  · exact h window (earlier_subset hwindow)

/-- No window of what is admitted comes to more than the limit. -/
theorem serve_within (length limit : K) (requests : List (K × K)) :
    ∀ window ∈ windows length (serve length limit requests), window.spent.sum ≤ limit := by
  induction requests with
  | nil =>
    intro window hwindow
    cases hwindow
  | cons request requests ih =>
    rw [serve]
    split
    · rename_i hfits
      exact spend_within ih hfits
    · exact ih

/-! ## Any stretch of time -/

section Stretch

variable [IsOrderedCancelAddMonoid K]

/-- The latest comes first. -/
def Ordered (requests : List (K × K)) : Prop :=
  requests.Pairwise fun later earlier => earlier.1 ≤ later.1

/-- What was spent from a time on. -/
def since (start : K) (spendings : List (K × K)) : K :=
  ((spendings.filter fun spending => start ≤ spending.1).map Prod.snd).sum

omit [IsOrderedCancelAddMonoid K] in
theorem since_cons (start now cost : K) (spendings : List (K × K)) :
    since start ((now, cost) :: spendings)
      = if start ≤ now then cost + since start spendings else since start spendings := by
  simp only [since, List.filter_cons, decide_eq_true_eq]
  split
  · rw [List.map_cons, List.sum_cons]
  · rfl

theorem since_cons_le {now cost : K} (hcost : 0 ≤ cost) (start : K) (spendings : List (K × K)) :
    since start ((now, cost) :: spendings) ≤ cost + since start spendings := by
  rw [since_cons]
  split
  · exact le_rfl
  · exact le_add_of_nonneg_left hcost

omit [IsOrderedCancelAddMonoid K] in
theorem since_eq_zero {start : K} {spendings : List (K × K)}
    (h : ∀ spending ∈ spendings, spending.1 < start) : since start spendings = 0 := by
  have hnone : (spendings.filter fun spending => start ≤ spending.1) = [] :=
    List.filter_eq_nil_iff.mpr fun spending hmem => by simpa using h spending hmem
  rw [since, hnone, List.map_nil, List.sum_nil]

/-- The two latest windows hold what was spent since the earlier of them opened. -/
structure Latest (length : K) (spendings : List (K × K)) (window : Window K)
    (before : List (Window K)) : Prop where
  opened : ∃ spending ∈ spendings, spending.1 = window.opened
  running : ∀ spending ∈ spendings, spending.1 < window.opened + length
  since_opened : ∀ start, window.opened ≤ start → since start spendings ≤ window.spent.sum
  since_all : before = [] → ∀ start, since start spendings ≤ window.spent.sum
  since_before : ∀ previous earlier, before = previous :: earlier →
    previous.opened + length ≤ window.opened ∧ ∀ start, previous.opened ≤ start →
      since start spendings ≤ window.spent.sum + previous.spent.sum

theorem latest {length : K} (hlength : 0 < length) {spendings : List (K × K)}
    (hordered : Ordered spendings) (hcosts : ∀ spending ∈ spendings, 0 ≤ spending.2)
    {window : Window K} {before : List (Window K)}
    (h : windows length spendings = window :: before) :
    Latest length spendings window before := by
  induction spendings generalizing window before with
  | nil => cases h
  | cons spending spendings ih =>
    obtain ⟨now, cost⟩ := spending
    obtain ⟨hnow, hordered⟩ := List.pairwise_cons.mp hordered
    obtain ⟨hcost, hcosts⟩ := List.forall_mem_cons.mp hcosts
    rw [windows, spend] at h
    cases hwindows : windows length spendings with
    | nil =>
      rw [hwindows] at h
      cases h
      have hempty : spendings = [] := by
        cases spendings with
        | nil => rfl
        | cons spending spendings => cases hwindows
      subst hempty
      have hall : ∀ start, since start [(now, cost)] ≤ [cost].sum := fun start =>
        (since_cons_le hcost start []).trans (le_of_eq rfl)
      refine ⟨⟨_, List.mem_singleton_self _, rfl⟩, fun spending hmem => ?_,
        fun start _ => hall start, fun _ => hall, fun previous earlier hbefore => ?_⟩
      · cases List.mem_singleton.mp hmem
        exact lt_add_of_pos_right now hlength
      · cases hbefore
    | cons latest' earlier' =>
      have hlatest := ih hordered hcosts hwindows
      obtain ⟨spending, hspending, hopened⟩ := hlatest.opened
      by_cases hwithin : now < latest'.opened + length
      · -- The request falls in the open window.
        simp only [hwindows, current, earlier, if_pos hwithin] at h
        cases h
        have hmore : ∀ {start bound : K}, since start spendings ≤ bound →
            since start ((now, cost) :: spendings) ≤ cost + bound := fun hbound =>
          (since_cons_le hcost _ _).trans (add_le_add_right hbound cost)
        refine ⟨⟨spending, List.mem_cons_of_mem _ hspending, hopened⟩,
          List.forall_mem_cons.mpr ⟨hwithin, hlatest.running⟩, fun start hstart => ?_,
          fun hbefore start => ?_, fun previous earlier hbefore => ?_⟩
        · rw [List.sum_cons]
          exact hmore (hlatest.since_opened start hstart)
        · rw [List.sum_cons]
          exact hmore (hlatest.since_all hbefore start)
        · obtain ⟨hapart, hsince⟩ := hlatest.since_before previous earlier hbefore
          refine ⟨hapart, fun start hstart => ?_⟩
          rw [List.sum_cons, add_assoc]
          exact hmore (hsince start hstart)
      · -- It opens another.
        simp only [hwindows, current, earlier, if_neg hwithin] at h
        cases h
        have hover : latest'.opened + length ≤ now := not_lt.mp hwithin
        refine ⟨⟨_, List.mem_cons_self, rfl⟩,
          List.forall_mem_cons.mpr ⟨lt_add_of_pos_right now hlength, fun other hother => ?_⟩,
          fun start hstart => ?_, fun hbefore => ?_, fun previous earlier hbefore => ?_⟩
        · exact (hnow other hother).trans_lt (lt_add_of_pos_right now hlength)
        · have hnone : since start spendings = 0 := since_eq_zero fun other hother =>
            ((hlatest.running other hother).trans_le hover).trans_le hstart
          refine (since_cons_le hcost start spendings).trans ?_
          rw [hnone, List.sum_singleton, add_zero]
        · cases hbefore
        · cases hbefore
          refine ⟨hover, fun start hstart => ?_⟩
          rw [List.sum_singleton]
          exact (since_cons_le hcost start spendings).trans
            (add_le_add_right (hlatest.since_opened start hstart) cost)

omit [IsOrderedCancelAddMonoid K] in
theorem serve_sublist (length limit : K) (requests : List (K × K)) :
    (serve length limit requests).Sublist requests := by
  induction requests with
  | nil => exact .slnil
  | cons request requests ih =>
    rw [serve]
    split
    · exact ih.cons_cons request
    · exact ih.cons request

omit [IsOrderedCancelAddMonoid K] in
/-- What came before a time was served without what came after. -/
theorem serve_before (length limit stop : K) {requests : List (K × K)} (h : Ordered requests) :
    (serve length limit requests).filter (fun spending => spending.1 < stop)
      = serve length limit (requests.filter fun request => request.1 < stop) := by
  induction requests with
  | nil => rfl
  | cons request requests ih =>
    obtain ⟨hnow, hordered⟩ := List.pairwise_cons.mp h
    by_cases hstop : request.1 < stop
    · have hall : ∀ other ∈ request :: requests, decide (other.1 < stop) = true :=
        List.forall_mem_cons.mpr ⟨decide_eq_true hstop, fun other hother =>
          decide_eq_true ((hnow other hother).trans_lt hstop)⟩
      rw [List.filter_eq_self.mpr hall, List.filter_eq_self.mpr fun other hother =>
        hall other ((serve_sublist length limit _).subset hother)]
    · rw [List.filter_cons_of_neg (by simpa using hstop), ← ih hordered, serve]
      split
      · rw [List.filter_cons_of_neg (by simpa using hstop)]
      · rfl

/-- No stretch of one window's length meets more than two windows. -/
theorem serve_between {length limit : K} (hlength : 0 < length) (hlimit : 0 ≤ limit)
    {requests : List (K × K)} (hordered : Ordered requests)
    (hcosts : ∀ request ∈ requests, 0 ≤ request.2) (start : K) :
    (((serve length limit requests).filter fun spending =>
      start ≤ spending.1 ∧ spending.1 < start + length).map Prod.snd).sum ≤ limit + limit := by
  set early := requests.filter fun request => request.1 < start + length with hearly
  have hsince : (((serve length limit requests).filter fun spending =>
      start ≤ spending.1 ∧ spending.1 < start + length).map Prod.snd).sum
        = since start (serve length limit early) := by
    rw [since, hearly, ← serve_before length limit (start + length) hordered, List.filter_filter]
    simp only [Bool.decide_and]
  have hsub : (serve length limit early).Sublist requests :=
    (serve_sublist length limit early).trans List.filter_sublist
  rw [hsince]
  cases hwindows : windows length (serve length limit early) with
  | nil =>
    have hempty : serve length limit early = [] := by
      cases hserve : serve length limit early with
      | nil => rfl
      | cons spending spendings =>
        rw [hserve] at hwindows
        cases hwindows
    rw [hempty]
    exact add_nonneg hlimit hlimit
  | cons window before =>
    have hlatest := latest hlength (hordered.sublist hsub)
      (fun spending hmem => hcosts spending (hsub.subset hmem)) hwindows
    have hfits := serve_within length limit early
    rw [hwindows] at hfits
    obtain ⟨hwindow, hbefore⟩ := List.forall_mem_cons.mp hfits
    cases before with
    | nil =>
      exact ((hlatest.since_all rfl start).trans hwindow).trans (le_add_of_nonneg_right hlimit)
    | cons previous earlier =>
      obtain ⟨hapart, hsince'⟩ := hlatest.since_before previous earlier rfl
      obtain ⟨spending, hspending, hopened⟩ := hlatest.opened
      have hlate : spending.1 < start + length := by
        have hmem := (serve_sublist length limit early).subset hspending
        simpa using (List.mem_filter.mp hmem).2
      rw [hopened] at hlate
      have hstart : previous.opened ≤ start :=
        (lt_of_add_lt_add_right (hapart.trans_lt hlate)).le
      exact (hsince' start hstart).trans
        (add_le_add hwindow (hbefore previous List.mem_cons_self))

end Stretch

end FixedWindow
