import Mathlib.Logic.Relation
import Mathlib.Order.Basic

/-!
# Runs of a transition system

A system is a relation between a state and the next; its runs are the reflexive and
transitive closure. What every step keeps, every run keeps (`invariant`), and where each step
of one system is a run of another, so is each run (`simulates`).
-/

namespace Runs

variable {σ ε : Type*} {next : σ → σ → Prop} {s t : σ}

/-- The steps of a partial function on states and events, where `may` allows them. -/
def Next (step : σ → ε → Option σ) (may : σ → ε → Prop) (s t : σ) : Prop :=
  ∃ event, may s event ∧ step s event = some t

/-- `t` is reached from `s`. -/
abbrev Reaches (next : σ → σ → Prop) : σ → σ → Prop := Relation.ReflTransGen next

theorem invariant (Inv : σ → Prop) (hstep : ∀ {s t}, next s t → Inv s → Inv t)
    (hs : Inv s) (hrun : Reaches next s t) : Inv t := by
  induction hrun with
  | refl => exact hs
  | tail _ hnext ih => exact hstep hnext ih

/-- A forward simulation, `R` relating the states of the two systems. -/
theorem simulates {τ : Type*} {next' : τ → τ → Prop} (R : σ → τ → Prop)
    (hstep : ∀ {s t a}, next s t → R s a → ∃ b, Reaches next' a b ∧ R t b) {a : τ}
    (hs : R s a) (hrun : Reaches next s t) : ∃ b, Reaches next' a b ∧ R t b := by
  induction hrun with
  | refl => exact ⟨a, .refl, hs⟩
  | tail _ hnext ih =>
    obtain ⟨b, hreaches, hb⟩ := ih
    obtain ⟨c, hreaches', hc⟩ := hstep hnext hb
    exact ⟨c, hreaches.trans hreaches', hc⟩

/-- A run through given events, where each of them may happen and is enabled. -/
def run (step : σ → ε → Option σ) (may : σ → ε → Bool) (s : σ) : List ε → Option σ
  | [] => some s
  | event :: events =>
    if may s event then (step s event).bind fun t => run step may t events else none

theorem reaches_of_run {step : σ → ε → Option σ} {may : σ → ε → Bool} {events : List ε}
    (h : run step may s events = some t) :
    Reaches (Next step fun s event => may s event = true) s t := by
  induction events generalizing s with
  | nil =>
    cases h
    exact .refl
  | cons event events ih =>
    unfold run at h
    split at h
    · rename_i hmay
      obtain ⟨u, hstep, hrun⟩ := Option.bind_eq_some_iff.mp h
      exact .head ⟨event, hmay, hstep⟩ (ih hrun)
    · cases h

theorem reachable_of_run {step : σ → ε → Option σ} {may : σ → ε → Bool} {events : List ε}
    (h : run step may s events = some t) : Reaches (Next step fun _ _ => True) s t := by
  refine Relation.ReflTransGen.mono ?_ _ _ (reaches_of_run h)
  rintro _ _ ⟨event, -, hstep⟩
  exact ⟨event, trivial, hstep⟩

end Runs
