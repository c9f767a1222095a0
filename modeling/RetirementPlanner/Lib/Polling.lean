import Mathlib.Data.List.Basic

/-!
# Computations that poll a token

A computation that looks, at points of its own, whether it has been cancelled (`Polled`). The
token is set from outside, once and for all, so what a computation comes to depends on which of
its polls come after that. A computation that fails may give up where it finds the token set
(`ensureActive`).

* `uncancelled_bind`, `uncancelled_mapM`, `uncancelled_foldlM`: where no poll finds the token
  set, such a computation is the one without its polls.
* `Aborts`, `Prompt`: how soon a cancelled computation ends.
-/

namespace Polling

inductive Polled (α : Type*)
  | done (result : α)
  /-- Goes on by whether it finds the token set. -/
  | poll (active cancelled : Polled α)

namespace Polled

section

variable {α β : Type*}

def bind (computation : Polled α) (rest : α → Polled β) : Polled β :=
  match computation with
  | .done result => rest result
  | .poll active cancelled => .poll (active.bind rest) (cancelled.bind rest)

/-- What it comes to where no poll finds the token set. -/
def uncancelled : Polled α → α
  | .done result => result
  | .poll active _ => active.uncancelled

/-- The next poll, if there is one. -/
def next (token : Bool) : Polled α → Option (Polled α)
  | .done _ => none
  | .poll active cancelled => some (if token then cancelled else active)

/-- The most polls on any path. -/
def depth : Polled α → ℕ
  | .done _ => 0
  | .poll active cancelled => max active.depth cancelled.depth + 1

/-- The polls from a set token on. -/
def cancelledPolls : Polled α → ℕ
  | .done _ => 0
  | .poll _ cancelled => cancelled.cancelledPolls + 1

/-- Wherever the token is set, it ends after `n` more polls at most. -/
def Prompt (n : ℕ) : Polled α → Prop
  | .done _ => True
  | .poll active cancelled => cancelled.cancelledPolls < n ∧ active.Prompt n

theorem Prompt.cancelledPolls_le {n : ℕ} {computation : Polled α} (h : computation.Prompt n) :
    computation.cancelledPolls ≤ n := by
  cases computation with
  | done result => exact Nat.zero_le n
  | poll active cancelled => exact h.1

theorem Prompt.mono {m n : ℕ} {computation : Polled α} (h : computation.Prompt m) (hle : m ≤ n) :
    computation.Prompt n := by
  induction computation with
  | done result => trivial
  | poll active cancelled iha ihc => exact ⟨Nat.lt_of_lt_of_le h.1 hle, iha h.2⟩

theorem uncancelled_bind_polled (computation : Polled α) (rest : α → Polled β) :
    (computation.bind rest).uncancelled = (rest computation.uncancelled).uncancelled := by
  induction computation with
  | done result => rfl
  | poll active cancelled iha ihc => exact iha

theorem next_uncancelled {computation goesOn : Polled α}
    (h : computation.next false = some goesOn) : goesOn.uncancelled = computation.uncancelled := by
  cases computation with
  | done result => cases h
  | poll active cancelled =>
    obtain rfl := Option.some.inj h
    rfl

theorem next_depth {token : Bool} {computation goesOn : Polled α}
    (h : computation.next token = some goesOn) : goesOn.depth < computation.depth := by
  cases computation with
  | done result => cases h
  | poll active cancelled =>
    obtain rfl := Option.some.inj h
    simp only [depth]
    split <;> omega

theorem next_prompt {n : ℕ} {computation goesOn : Polled α} (hprompt : computation.Prompt n)
    (h : computation.next false = some goesOn) : goesOn.Prompt n := by
  cases computation with
  | done result => cases h
  | poll active cancelled =>
    obtain rfl := Option.some.inj h
    exact hprompt.2

theorem next_cancelledPolls {computation goesOn : Polled α}
    (h : computation.next true = some goesOn) :
    goesOn.cancelledPolls + 1 = computation.cancelledPolls := by
  cases computation with
  | done result => cases h
  | poll active cancelled =>
    obtain rfl := Option.some.inj h
    rfl

theorem cancelledPolls_bind {n : ℕ} (computation : Polled α) {rest : α → Polled β}
    (hrest : ∀ a, (rest a).cancelledPolls ≤ n) :
    (computation.bind rest).cancelledPolls ≤ computation.cancelledPolls + n := by
  induction computation with
  | done result => exact Nat.le_trans (hrest result) (Nat.le_add_left ..)
  | poll active cancelled iha ihc =>
    simp only [bind, cancelledPolls]
    omega

/-- A cancelled computation and then what it goes on with, itself cancelled from the start. -/
theorem Prompt.bind {m n k : ℕ} {computation : Polled α} {rest : α → Polled β}
    (h : computation.Prompt m) (hrest : ∀ a, (rest a).Prompt n)
    (hpolls : ∀ a, (rest a).cancelledPolls ≤ k) (hle : m + k ≤ n) :
    (computation.bind rest).Prompt n := by
  induction computation with
  | done result => exact hrest result
  | poll active cancelled iha ihc =>
    have hcancelled := cancelledPolls_bind cancelled hpolls
    have hfew := h.1
    exact ⟨by omega, iha h.2⟩

end

instance : Monad Polled where
  pure := .done
  bind := bind

instance : LawfulMonad Polled := LawfulMonad.mk' Polled
  (fun computation => by
    induction computation with
    | done result => rfl
    | poll active cancelled iha ihc => exact congrArg₂ Polled.poll iha ihc)
  (fun _ _ => rfl)
  (fun computation first second => by
    induction computation with
    | done result => rfl
    | poll active cancelled iha ihc => exact congrArg₂ Polled.poll iha ihc)

end Polled

/-! ## Computations that fail -/

universe u

abbrev Cancellable (ε : Type u) := ExceptT ε Polled

variable {ε α β : Type u}

/-- Gives up with an error where it finds the token set. -/
def ensureActive (cancelled : ε) : Cancellable ε PUnit :=
  Polled.poll (.done (.ok ⟨⟩)) (.done (.error cancelled))

def Cancellable.uncancelled (computation : Cancellable ε α) : Except ε α :=
  Polled.uncancelled computation.run

namespace Cancellable

@[simp] theorem uncancelled_pure (result : α) :
    (pure result : Cancellable ε α).uncancelled = .ok result := rfl

@[simp] theorem uncancelled_throw (error : ε) :
    (throw error : Cancellable ε α).uncancelled = .error error := rfl

@[simp] theorem uncancelled_ensureActive (cancelled : ε) :
    (ensureActive cancelled).uncancelled = .ok ⟨⟩ := rfl

@[simp] theorem uncancelled_liftExcept (result : Except ε α) :
    (liftExcept result : Cancellable ε α).uncancelled = result := by
  cases result <;> rfl

@[simp] theorem uncancelled_bind (computation : Cancellable ε α) (rest : α → Cancellable ε β) :
    (computation >>= rest).uncancelled =
      computation.uncancelled.bind fun a => (rest a).uncancelled := by
  refine (Polled.uncancelled_bind_polled _ _).trans ?_
  change Polled.uncancelled (ExceptT.bindCont rest computation.uncancelled) = _
  cases computation.uncancelled <;> rfl

theorem uncancelled_mapM {f : α → Cancellable ε β} {g : α → β} {values : List α}
    (h : ∀ a ∈ values, (f a).uncancelled = .ok (g a)) :
    (values.mapM f).uncancelled = .ok (values.map g) := by
  induction values with
  | nil => rfl
  | cons a values ih =>
    rw [List.mapM_cons, uncancelled_bind, h a (List.mem_cons_self ..)]
    change ((values.mapM f) >>= fun rest => pure (g a :: rest)).uncancelled = _
    rw [uncancelled_bind, ih fun b hb => h b (List.mem_cons_of_mem _ hb)]
    rfl

theorem uncancelled_foldlM {f : β → α → Cancellable ε β} {g : β → α → β} {values : List α}
    (h : ∀ b a, (f b a).uncancelled = .ok (g b a)) (b : β) :
    (values.foldlM f b).uncancelled = .ok (values.foldl g b) := by
  induction values generalizing b with
  | nil => rfl
  | cons a values ih =>
    rw [List.foldlM_cons, uncancelled_bind, h b a]
    exact ih (g b a)

/-! ### Giving up at once -/

/-- Every poll that finds the token set is the last, and ends in an error. -/
def Aborts (computation : Cancellable ε α) : Prop := go computation.run
where
  go : Polled (Except ε α) → Prop
    | .done _ => True
    | .poll active cancelled => (∃ error, cancelled = .done (.error error)) ∧ go active

theorem Aborts.prompt {computation : Cancellable ε α} (h : computation.Aborts) :
    Polled.Prompt 1 computation.run := by
  change Aborts.go computation.run at h
  generalize computation.run = polled at h ⊢
  induction polled with
  | done result => trivial
  | poll active cancelled iha ihc =>
    obtain ⟨⟨error, rfl⟩, hactive⟩ := h
    exact ⟨Nat.zero_lt_one, iha hactive⟩

theorem aborts_pure (result : α) : (pure result : Cancellable ε α).Aborts := trivial

theorem aborts_throw (error : ε) : (throw error : Cancellable ε α).Aborts := trivial

theorem aborts_liftExcept (result : Except ε α) :
    (liftExcept result : Cancellable ε α).Aborts := by
  cases result <;> trivial

theorem aborts_ensureActive (cancelled : ε) : (ensureActive cancelled).Aborts :=
  ⟨⟨cancelled, rfl⟩, trivial⟩

theorem Aborts.bind {computation : Cancellable ε α} {rest : α → Cancellable ε β}
    (h : computation.Aborts) (hrest : ∀ a, (rest a).Aborts) : (computation >>= rest).Aborts := by
  change Aborts.go (Polled.bind computation.run (ExceptT.bindCont rest))
  change Aborts.go computation.run at h
  generalize computation.run = polled at h ⊢
  induction polled with
  | done result =>
    cases result with
    | ok a => exact hrest a
    | error e => trivial
  | poll active cancelled iha ihc =>
    obtain ⟨⟨error, rfl⟩, hactive⟩ := h
    exact ⟨⟨error, rfl⟩, iha hactive⟩

theorem aborts_mapM {f : α → Cancellable ε β} (h : ∀ a, (f a).Aborts) (values : List α) :
    (values.mapM f).Aborts := by
  induction values with
  | nil => trivial
  | cons a values ih =>
    rw [List.mapM_cons]
    exact (h a).bind fun b => ih.bind fun rest => aborts_pure _

theorem aborts_foldlM {f : β → α → Cancellable ε β} (h : ∀ b a, (f b a).Aborts)
    (values : List α) (b : β) : (values.foldlM f b).Aborts := by
  induction values generalizing b with
  | nil => trivial
  | cons a values ih =>
    rw [List.foldlM_cons]
    exact (h b a).bind ih

end Cancellable

end Polling
