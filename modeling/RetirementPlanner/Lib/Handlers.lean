import Mathlib.Algebra.Order.Monoid.Defs
import Mathlib.Algebra.BigOperators.Group.List.Basic
import Mathlib.Tactic.Abel
import RetirementPlanner.Lib.InFlight
import RetirementPlanner.Lib.Runs

/-!
# Handlers over shared state

Each request has a handler, which comes to its answer in steps. The handlers share a state, and
their steps come in any order, with events of other kinds in between.

* `Keeps.reaches`: what each step keeps of the shared state and of every handler, any run keeps;
* `Accounts.reaches`: where each step is granted what it takes, all that was used and all that the
  handlers still hold is covered by what was granted.
-/

namespace Handlers

/-- How a request's handler begins, the step it takes where the calls it makes come out as
`outcome`, and what else happens. -/
structure Model (σ κ τ ο ε : Type*) where
  start : κ → τ
  advance : σ → τ → ο → Option (σ × τ)
  happens : σ → ε → Option σ

structure State (σ τ : Type*) where
  shared : σ
  jobs : List τ

inductive Event (κ ο ε : Type*)
  | arrive (call : κ)
  | run (index : ℕ) (outcome : ο)
  | happen (event : ε)

variable {σ κ τ ο ε : Type*}

def Model.step (model : Model σ κ τ ο ε) (state : State σ τ) :
    Event κ ο ε → Option (State σ τ)
  | .arrive call => some { state with jobs := state.jobs ++ [model.start call] }
  | .run index outcome =>
    state.jobs[index]?.bind fun job =>
      (model.advance state.shared job outcome).map fun next =>
        ⟨next.1, state.jobs.set index next.2⟩
  | .happen event => (model.happens state.shared event).map fun shared => ⟨shared, state.jobs⟩

/-- The steps that lead to where `during` holds. -/
def Model.Next (model : Model σ κ τ ο ε) (during : σ → Prop) (state state' : State σ τ) : Prop :=
  ∃ event, model.step state event = some state' ∧ during state'.shared

/-- A run through given events. -/
def Model.run (model : Model σ κ τ ο ε) (during : σ → Bool) (state : State σ τ) :
    List (Event κ ο ε) → Option (State σ τ)
  | [] => some state
  | event :: events =>
    (model.step state event).bind fun state' =>
      if during state'.shared then model.run during state' events else none

theorem Model.reaches_of_run {model : Model σ κ τ ο ε} {during : σ → Bool}
    {state state' : State σ τ} {events : List (Event κ ο ε)}
    (h : model.run during state events = some state') :
    Runs.Reaches (model.Next fun s => during s = true) state state' := by
  induction events generalizing state with
  | nil =>
    cases h
    exact .refl
  | cons event events ih =>
    obtain ⟨next, hstep, h⟩ := Option.bind_eq_some_iff.mp h
    split at h
    · rename_i hduring
      exact .head ⟨event, hstep, hduring⟩ (ih h)
    · cases h

theorem Model.step_run {model : Model σ κ τ ο ε} {state state' : State σ τ} {index : ℕ}
    {outcome : ο} (h : model.step state (.run index outcome) = some state') :
    ∃ before job after job', state.jobs = before ++ job :: after ∧
      model.advance state.shared job outcome = some (state'.shared, job') ∧
      state'.jobs = before ++ job' :: after := by
  obtain ⟨job, hjob, h⟩ := Option.bind_eq_some_iff.mp h
  obtain ⟨⟨shared, job'⟩, hadvance, rfl⟩ := Option.map_eq_some_iff.mp h
  obtain ⟨before, after, hjobs, hset, -⟩ := InFlight.split hjob
  exact ⟨before, job, after, job', hjobs, hadvance, hset job'⟩

theorem Model.step_happen {model : Model σ κ τ ο ε} {state state' : State σ τ} {event : ε}
    (h : model.step state (.happen event) = some state') :
    model.happens state.shared event = some state'.shared ∧ state'.jobs = state.jobs := by
  obtain ⟨shared, hshared, rfl⟩ := Option.map_eq_some_iff.mp h
  exact ⟨hshared, rfl⟩

/-! ## What every step keeps -/

/-- `Inv` of the shared state and `Sound` of every handler are kept by each step, the handlers that
do not take it among them. -/
structure Keeps (model : Model σ κ τ ο ε) (during : σ → Prop) (Inv : σ → Prop)
    (Sound : σ → τ → Prop) : Prop where
  start : ∀ {s : σ} (call : κ), Inv s → Sound s (model.start call)
  advance : ∀ {s s' : σ} {job job' : τ} {outcome : ο}, Inv s → Sound s job → during s' →
    model.advance s job outcome = some (s', job') → Inv s' ∧ Sound s' job' ∧
      ∀ other, Sound s other → Sound s' other
  happens : ∀ {s s' : σ} {event : ε}, Inv s → during s' → model.happens s event = some s' →
    Inv s' ∧ ∀ other, Sound s other → Sound s' other

/-- All of a state is in order. -/
structure Holds (Inv : σ → Prop) (Sound : σ → τ → Prop) (state : State σ τ) : Prop where
  inv : Inv state.shared
  sound : ∀ job ∈ state.jobs, Sound state.shared job

variable {model : Model σ κ τ ο ε} {during Inv : σ → Prop} {Sound : σ → τ → Prop}

theorem Keeps.next (keeps : Keeps model during Inv Sound) {state state' : State σ τ}
    (hnext : model.Next during state state') (h : Holds Inv Sound state) :
    Holds Inv Sound state' := by
  obtain ⟨event, hstep, hduring⟩ := hnext
  cases event with
  | arrive call =>
    cases hstep
    refine ⟨h.inv, fun job hjob => ?_⟩
    rcases List.mem_append.mp hjob with hold | hnew
    · exact h.sound job hold
    · cases List.mem_singleton.mp hnew
      exact keeps.start call h.inv
  | run index outcome =>
    obtain ⟨before, job, after, job', hjobs, hadvance, hjobs'⟩ := Model.step_run hstep
    have hmem : job ∈ state.jobs := by
      rw [hjobs]
      exact List.mem_append_right _ List.mem_cons_self
    obtain ⟨hinv, hsound, hothers⟩ :=
      keeps.advance h.inv (h.sound job hmem) hduring hadvance
    refine ⟨hinv, fun other hother => ?_⟩
    rw [hjobs'] at hother
    rcases InFlight.mem_replaced job hother with hold | rfl
    · rw [← hjobs] at hold
      exact hothers other (h.sound other hold)
    · exact hsound
  | happen event =>
    obtain ⟨hhappens, hjobs⟩ := Model.step_happen hstep
    obtain ⟨hinv, hothers⟩ := keeps.happens h.inv hduring hhappens
    refine ⟨hinv, fun job hjob => ?_⟩
    rw [hjobs] at hjob
    exact hothers job (h.sound job hjob)

theorem Keeps.reaches (keeps : Keeps model during Inv Sound) {state state' : State σ τ}
    (h : Holds Inv Sound state) (hrun : Runs.Reaches (model.Next during) state state') :
    Holds Inv Sound state' :=
  Runs.invariant (Holds Inv Sound) keeps.next h hrun

/-! ## What was granted -/

variable {M : Type*} [AddCommMonoid M] [PartialOrder M] [IsOrderedAddMonoid M]

/-- A step that uses something up, or leaves it with its handler, had it or is granted it. -/
structure Accounts (model : Model σ κ τ ο ε) (during Inv : σ → Prop) (Sound : σ → τ → Prop)
    (spent used : σ → M) (held : τ → M) : Prop where
  start : ∀ call, held (model.start call) = 0
  advance : ∀ {s s' : σ} {job job' : τ} {outcome : ο}, Inv s → Sound s job → during s' →
    model.advance s job outcome = some (s', job') →
      ∃ granted, granted + spent s ≤ spent s' ∧ used s' + held job' ≤ granted + (used s + held job)
  happens : ∀ {s s' : σ} {event : ε}, Inv s → during s' → model.happens s event = some s' →
    used s' ≤ used s ∧ spent s ≤ spent s'

/-- What was used and what the handlers hold was granted. -/
def Covered (spent used : σ → M) (held : τ → M) (state : State σ τ) : Prop :=
  used state.shared + (state.jobs.map held).sum ≤ spent state.shared

variable {spent used : σ → M} {held : τ → M}

theorem Accounts.next (accounts : Accounts model during Inv Sound spent used held)
    {state state' : State σ τ} (hnext : model.Next during state state')
    (h : Holds Inv Sound state) (hcovered : Covered spent used held state) :
    Covered spent used held state' := by
  obtain ⟨event, hstep, hduring⟩ := hnext
  cases event with
  | arrive call =>
    cases hstep
    show _ + ((state.jobs ++ [model.start call]).map held).sum ≤ _
    rw [List.map_append, List.sum_append, List.map_singleton, List.sum_singleton,
      accounts.start call, add_zero]
    exact hcovered
  | run index outcome =>
    obtain ⟨before, job, after, job', hjobs, hadvance, hjobs'⟩ := Model.step_run hstep
    have hmem : job ∈ state.jobs := by
      rw [hjobs]
      exact List.mem_append_right _ List.mem_cons_self
    obtain ⟨granted, hspent, hused⟩ :=
      accounts.advance h.inv (h.sound job hmem) hduring hadvance
    -- What the other handlers hold is the same before and after.
    have hsum : ∀ this, ((before ++ this :: after).map held).sum
        = held this + ((before ++ after).map held).sum := by
      intro this
      simp only [List.map_append, List.map_cons, List.sum_append, List.sum_cons]
      abel
    rw [Covered, hjobs, hsum] at hcovered
    rw [Covered, hjobs', hsum]
    calc used state'.shared + (held job' + ((before ++ after).map held).sum)
        = (used state'.shared + held job') + ((before ++ after).map held).sum := by abel
      _ ≤ (granted + (used state.shared + held job)) + ((before ++ after).map held).sum :=
          add_le_add_left hused _
      _ = granted + (used state.shared + (held job + ((before ++ after).map held).sum)) := by abel
      _ ≤ granted + spent state.shared := add_le_add_right hcovered _
      _ ≤ spent state'.shared := hspent
  | happen event =>
    obtain ⟨hhappens, hjobs⟩ := Model.step_happen hstep
    obtain ⟨hused, hspent⟩ := accounts.happens h.inv hduring hhappens
    rw [Covered, hjobs]
    exact ((add_le_add_left hused _).trans hcovered).trans hspent

theorem Accounts.reaches (accounts : Accounts model during Inv Sound spent used held)
    (keeps : Keeps model during Inv Sound) {state state' : State σ τ}
    (h : Holds Inv Sound state) (hcovered : Covered spent used held state)
    (hrun : Runs.Reaches (model.Next during) state state') : Covered spent used held state' := by
  have hall := Runs.invariant
    (fun state => Holds Inv Sound state ∧ Covered spent used held state)
    (fun hnext hboth => ⟨keeps.next hnext hboth.1, accounts.next hnext hboth.1 hboth.2⟩)
    ⟨h, hcovered⟩ hrun
  exact hall.2

end Handlers
