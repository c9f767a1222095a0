import RetirementPlanner.Web.World

/-!
# Histories of a profile

What a history says about the profiles on the server and about the clients that save
them: the revision stored after it, whether a client's last load succeeded, whether it
has received a conflict since. In a lawful history (`LawfulHistory`) each commit is of a
save made against the stored revision, so its writer made or loaded what it overwrites
(`LawfulHistory.overwritten`).
-/

namespace RetirementPlanner.Web

open Schema

variable {ι K : Type} [DecidableEq ι]

/-! ## Reading a history -/

/-- The revision of an owner's row after a history, where it was `initial` before. -/
def storedRevision (initial : String → Option ℤ) (owner : String) :
    List (Observation ι K) → Option ℤ
  | [] => initial owner
  | .committed _ u _ revision _ :: earlier =>
    if u = owner then some revision else storedRevision initial owner earlier
  | _ :: earlier => storedRevision initial owner earlier

/-- The client whose save an owner's row holds, if it was committed in the history. -/
def lastWriter (owner : String) : List (Observation ι K) → Option ι
  | [] => none
  | .committed c u _ _ _ :: earlier => if u = owner then some c else lastWriter owner earlier
  | _ :: earlier => lastWriter owner earlier

/-- Whether the last load of a client that ended was a success. -/
def online (client : ι) : List (Observation ι K) → Bool
  | [] => false
  | .loaded c _ _ _ :: earlier => if c = client then true else online client earlier
  | .loadFailed c :: earlier => if c = client then false else online client earlier
  | _ :: earlier => online client earlier

/-- Whether a client has received a conflict on an owner's profile since it loaded it. -/
def conflicting (client : ι) (owner : String) : List (Observation ι K) → Bool
  | [] => false
  | .loaded c u _ _ :: earlier =>
    if c = client ∧ u = some owner then false else conflicting client owner earlier
  | .conflicted c u :: earlier =>
    if c = client ∧ u = owner then true else conflicting client owner earlier
  | _ :: earlier => conflicting client owner earlier

/-- The client has loaded a revision of an owner's row. -/
def HasLoaded (client : ι) (owner : String) (revision : ℤ) (history : List (Observation ι K)) :
    Prop :=
  ∃ settings, .loaded client (some owner) (some revision) settings ∈ history

/-- The client has committed a revision of an owner's row. -/
def HasCommitted (client : ι) (owner : String) (revision : ℤ)
    (history : List (Observation ι K)) : Prop :=
  ∃ base settings, .committed client owner base revision settings ∈ history

/-- The revision that a save against `base` creates. -/
def nextRevision (base : Option ℤ) : ℤ := base.elim 0 (· + 1)

/-! ## Lawful histories -/

/-- What may be observed after a history. -/
def Lawful (initial : String → Option ℤ) (earlier : List (Observation ι K)) :
    Observation ι K → Prop
  | .saveSent client _ _ => online client earlier = true
  | .committed client owner base revision _ =>
    base = storedRevision initial owner earlier ∧ revision = nextRevision base ∧
      (∀ r, base = some r →
        HasLoaded client owner r earlier ∨ HasCommitted client owner r earlier) ∧
      .saveSent client owner base ∈ earlier ∧ conflicting client owner earlier = false
  | .refused _ owner base => base ≠ storedRevision initial owner earlier
  | _ => True

def LawfulHistory (initial : String → Option ℤ) : List (Observation ι K) → Prop
  | [] => True
  | seen :: earlier => Lawful initial earlier seen ∧ LawfulHistory initial earlier

/-! ## What does not change a history's reading -/

omit [DecidableEq ι] in
def Observation.isCommit : Observation ι K → Bool
  | .committed _ _ _ _ _ => true
  | _ => false

/-- A load of the client ended, or it received a conflict. -/
def Observation.settles (client : ι) : Observation ι K → Bool
  | .loaded c _ _ _ | .loadFailed c | .conflicted c _ => decide (c = client)
  | _ => false

variable {initial : String → Option ℤ} {client : ι} {owner : String}
  {seen : Observation ι K} {seens history : List (Observation ι K)}

omit [DecidableEq ι] in
theorem storedRevision_append (h : ∀ seen ∈ seens, seen.isCommit = false) :
    storedRevision initial owner (seens ++ history) = storedRevision initial owner history := by
  induction seens with
  | nil => rfl
  | cons seen seens ih =>
    obtain ⟨hseen, hseens⟩ := List.forall_mem_cons.mp h
    rw [← ih hseens]
    cases seen with
    | committed => cases hseen
    | _ => rfl

theorem online_append (h : ∀ seen ∈ seens, seen.settles client = false) :
    online client (seens ++ history) = online client history := by
  induction seens with
  | nil => rfl
  | cons seen seens ih =>
    obtain ⟨hseen, hseens⟩ := List.forall_mem_cons.mp h
    rw [← ih hseens]
    cases seen with
    | loaded c | loadFailed c => exact if_neg (of_decide_eq_false hseen)
    | _ => rfl

theorem conflicting_append (h : ∀ seen ∈ seens, seen.settles client = false) :
    conflicting client owner (seens ++ history) = conflicting client owner history := by
  induction seens with
  | nil => rfl
  | cons seen seens ih =>
    obtain ⟨hseen, hseens⟩ := List.forall_mem_cons.mp h
    rw [← ih hseens]
    cases seen with
    | loaded c | conflicted c => exact if_neg fun heq => of_decide_eq_false hseen heq.1
    | _ => rfl

/-! ## Commits of one owner -/

/-- Revisions only grow, so the last commit is the only one of its revision. -/
theorem LawfulHistory.commits (h : LawfulHistory initial history)
    {base : Option ℤ} {revision : ℤ} {settings : Settings K}
    (hmem : .committed client owner base revision settings ∈ history) :
    ∃ stored, storedRevision initial owner history = some stored ∧ revision ≤ stored ∧
      (revision = stored → lastWriter owner history = some client) := by
  induction history with
  | nil => cases hmem
  | cons seen earlier ih =>
    obtain ⟨hseen, hearlier⟩ := h
    obtain rfl | hmem := List.mem_cons.mp hmem
    · exact ⟨revision, if_pos rfl, le_refl _, fun _ => if_pos rfl⟩
    · obtain ⟨stored, hstored, hle, hlast⟩ := ih hearlier hmem
      cases seen with
      | committed c u base' revision' settings' =>
        by_cases hu : u = owner
        · subst hu
          obtain ⟨hbase, hnext, -⟩ := hseen
          have hadvance : revision' = stored + 1 := by
            rw [hnext, hbase, hstored]
            rfl
          exact ⟨revision', if_pos rfl, by omega, fun heq => by omega⟩
        · exact ⟨stored, (if_neg hu).trans hstored, hle, fun heq => (if_neg hu).trans (hlast heq)⟩
      | _ => exact ⟨stored, hstored, hle, hlast⟩

omit [DecidableEq ι] in
theorem storedRevision_of_lastWriter {writer : ι} (h : lastWriter owner history = some writer) :
    ∃ stored, storedRevision initial owner history = some stored := by
  induction history with
  | nil => cases h
  | cons seen earlier ih =>
    cases seen with
    | committed c u base revision settings =>
      by_cases hu : u = owner
      · exact ⟨revision, if_pos hu⟩
      · obtain ⟨stored, hstored⟩ := ih ((if_neg hu).symm.trans h)
        exact ⟨stored, (if_neg hu).trans hstored⟩
    | _ => exact ih h

/-- A commit overwrites what its writer has committed itself or loaded. -/
theorem LawfulHistory.overwritten {base : Option ℤ} {revision : ℤ} {settings : Settings K}
    (h : LawfulHistory initial (.committed client owner base revision settings :: history))
    {writer : ι} (hwriter : lastWriter owner history = some writer) :
    writer = client ∨ ∃ r, base = some r ∧ HasLoaded client owner r history := by
  obtain ⟨⟨hbase, -, hknown, -⟩, hearlier⟩ := h
  obtain ⟨stored, hstored⟩ := storedRevision_of_lastWriter hwriter
  rw [hstored] at hbase
  obtain hloaded | ⟨base', settings', hcommitted⟩ := hknown stored hbase
  · exact .inr ⟨stored, hbase, hloaded⟩
  · obtain ⟨stored', hstored', -, hlast⟩ := hearlier.commits hcommitted
    have heq : stored = stored' := Option.some.inj (hstored.symm.trans hstored')
    have hlast := hlast heq
    rw [hwriter] at hlast
    exact .inl (Option.some.inj hlast)

theorem LawfulHistory.append (h : LawfulHistory initial history)
    (hseens : ∀ seen ∈ seens, ∀ earlier, Lawful initial earlier seen) :
    LawfulHistory initial (seens ++ history) := by
  induction seens with
  | nil => exact h
  | cons seen seens ih =>
    obtain ⟨hseen, hseens⟩ := List.forall_mem_cons.mp hseens
    exact ⟨hseen _, ih hseens⟩

/-- Every part of a lawful history is one. -/
theorem LawfulHistory.after {later earlier : List (Observation ι K)}
    (h : LawfulHistory initial (later ++ seen :: earlier)) :
    LawfulHistory initial (seen :: earlier) := by
  induction later with
  | nil => exact h
  | cons _ later ih => exact ih h.2

end RetirementPlanner.Web
