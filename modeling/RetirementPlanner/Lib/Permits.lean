import Mathlib.Algebra.BigOperators.Group.Finset.Piecewise
import Mathlib.Algebra.GroupWithZero.Nat
import RetirementPlanner.Lib.Polling
import RetirementPlanner.Lib.Runs

/-!
# Jobs under permits

Callers of a service with so many permits. A call waits in turn for a permit, and its job then
runs on its own and gives the permit back where it ends. A caller that leaves is not answered:
it leaves the queue, or the token of its job is set. Callers, and the polls of their jobs, come
in any order.

* `Inv.step`: what every step keeps, so that a job's token is set just where its caller left,
  and an answer comes from a job whose token no poll found set.
* `run_length`, `Inv.comes_to_rest`: every run ends, and left to itself the pool answers every
  caller that stays.
-/

namespace Permits

open Polling

structure Job (ι R : Type*) where
  client : ι
  work : Polled R
  /-- Its token. -/
  cancelled : Bool

inductive Caller (R : Type*)
  | absent
  | queued
  /-- Its job runs. -/
  | waiting
  | answered (reply : R)
  | gone

structure Pool (ι R : Type*) where
  permits : ℕ
  queue : List ι
  jobs : List (Job ι R)
  callers : ι → Caller R

inductive Event (ι : Type*)
  | call (client : ι)
  /-- The head of the queue takes a permit. -/
  | acquire
  /-- A job polls its token. -/
  | poll (index : ℕ)
  | finish (index : ℕ)
  | leave (client : ι)
  deriving DecidableEq, Repr

/-- No caller takes part in it. -/
def Event.Internal {ι : Type*} : Event ι → Prop
  | .call _ | .leave _ => False
  | .acquire | .poll _ | .finish _ => True

/-- It is answered, or will be. -/
def Caller.Stays {R : Type*} : Caller R → Prop
  | .absent | .gone => False
  | .queued | .waiting | .answered _ => True

variable {ι R : Type*} [DecidableEq ι]

/-- Sets the token of a caller's job. -/
def Job.cancelFor (client : ι) (job : Job ι R) : Job ι R :=
  if job.client = client then { job with cancelled := true } else job

namespace Pool

/-- Before any call. -/
def start (permits : ℕ) : Pool ι R := ⟨permits, [], [], fun _ => .absent⟩

def put (pool : Pool ι R) (client : ι) (caller : Caller R) : Pool ι R :=
  { pool with callers := Function.update pool.callers client caller }

/-- The caller of a job that ended, if it is still there, is answered. -/
def deliver (pool : Pool ι R) (client : ι) (reply : R) : Pool ι R :=
  match pool.callers client with
  | .waiting => pool.put client (.answered reply)
  | _ => pool

/-- A call is answered at once or has work to do. -/
def step (enter : ι → Except R (Polled R)) (pool : Pool ι R) : Event ι → Option (Pool ι R)
  | .call client =>
    match pool.callers client with
    | .absent =>
      match enter client with
      | .error reply => some (pool.put client (.answered reply))
      | .ok _ => some { pool.put client .queued with queue := pool.queue ++ [client] }
    | _ => none
  | .acquire =>
    match pool.queue, pool.permits with
    | client :: queue, permits + 1 =>
      match enter client with
      | .error _ => none
      | .ok work =>
        some { pool.put client .waiting with
          permits, queue, jobs := pool.jobs ++ [⟨client, work, false⟩] }
    | _, _ => none
  | .poll index =>
    pool.jobs[index]?.bind fun job => (job.work.next job.cancelled).map fun work =>
      { pool with jobs := pool.jobs.set index { job with work } }
  | .finish index =>
    match pool.jobs[index]? with
    | some ⟨client, .done reply, _⟩ =>
      some { pool.deliver client reply with
        permits := pool.permits + 1, jobs := pool.jobs.eraseIdx index }
    | _ => none
  | .leave client =>
    match pool.callers client with
    | .queued => some { pool.put client .gone with queue := pool.queue.filter (· ≠ client) }
    | .waiting => some { pool.put client .gone with jobs := pool.jobs.map (Job.cancelFor client) }
    | _ => none

end Pool

/-! ## What every step keeps -/

/-- What a call comes to where nothing cancels it. -/
def answer (enter : ι → Except R (Polled R)) (client : ι) : R :=
  match enter client with
  | .error reply => reply
  | .ok work => work.uncancelled

/-- A job that runs for its caller, or that its caller left. -/
inductive Sound (enter : ι → Except R (Polled R)) (n : ℕ) (callers : ι → Caller R) :
    Job ι R → Prop
  | awaited {client : ι} {work : Polled R} (hcaller : callers client = .waiting)
      (hwork : work.uncancelled = answer enter client) (hprompt : work.Prompt n) :
      Sound enter n callers ⟨client, work, false⟩
  | left {client : ι} {work : Polled R} (hcaller : callers client = .gone)
      (hpolls : work.cancelledPolls ≤ n) : Sound enter n callers ⟨client, work, true⟩

structure Inv (enter : ι → Except R (Polled R)) (n permits : ℕ) (pool : Pool ι R) : Prop where
  conserved : pool.permits + pool.jobs.length = permits
  queued : ∀ client, client ∈ pool.queue ↔ pool.callers client = .queued
  queue_nodup : pool.queue.Nodup
  enters : ∀ client ∈ pool.queue, ∃ work, enter client = .ok work
  jobs : ∀ job ∈ pool.jobs, Sound enter n pool.callers job
  jobs_nodup : (pool.jobs.map (·.client)).Nodup
  waiting : ∀ client, pool.callers client = .waiting → client ∈ pool.jobs.map (·.client)
  answered : ∀ client reply, pool.callers client = .answered reply → reply = answer enter client

variable {enter : ι → Except R (Polled R)} {n permits : ℕ} {pool next : Pool ι R}

omit [DecidableEq ι] in
theorem inv_start (permits : ℕ) : Inv enter n permits (Pool.start permits) where
  conserved := rfl
  queued _ := by simp [Pool.start]
  queue_nodup := List.nodup_nil
  enters _ h := by cases h
  jobs _ h := by cases h
  jobs_nodup := List.nodup_nil
  waiting _ h := by cases h
  answered _ _ h := by cases h

section Step

omit [DecidableEq ι] in
theorem Sound.of_callers {callers callers' : ι → Caller R} {job : Job ι R}
    (h : Sound enter n callers job) (heq : callers' job.client = callers job.client) :
    Sound enter n callers' job := by
  cases h with
  | awaited hcaller hwork hprompt => exact .awaited (heq.trans hcaller) hwork hprompt
  | left hcaller hpolls => exact .left (heq.trans hcaller) hpolls

omit [DecidableEq ι] in
theorem Sound.caller {callers : ι → Caller R} {job : Job ι R} (h : Sound enter n callers job) :
    callers job.client = .waiting ∨ callers job.client = .gone := by
  cases h with
  | awaited hcaller => exact .inl hcaller
  | left hcaller => exact .inr hcaller

/-- A caller without a job goes from one place to another that needs none. -/
theorem Inv.put (h : Inv enter n permits pool) {client : ι} {caller : Caller R} {queue : List ι}
    (hidle : pool.callers client = .absent ∨ pool.callers client = .queued)
    (hnew : caller ≠ .waiting) (hanswered : ∀ reply, caller = .answered reply →
      reply = answer enter client)
    (hqueue : ∀ other, other ∈ queue ↔
      if other = client then caller = .queued else other ∈ pool.queue)
    (hnodup : queue.Nodup) (henters : ∀ other ∈ queue, ∃ work, enter other = .ok work) :
    Inv enter n permits { pool.put client caller with queue } where
  conserved := h.conserved
  queued other := by
    rw [hqueue]
    by_cases hother : other = client
    · simp [Pool.put, hother]
    · simp [Pool.put, hother, h.queued]
  queue_nodup := hnodup
  enters := henters
  jobs job hjob := by
    refine (h.jobs job hjob).of_callers (Function.update_of_ne ?_ _ _)
    rintro rfl
    rcases (h.jobs job hjob).caller with hcaller | hcaller <;>
      rcases hidle with hidle | hidle <;> rw [hcaller] at hidle <;> cases hidle
  jobs_nodup := h.jobs_nodup
  waiting other hother := by
    by_cases heq : other = client
    · subst heq
      exact absurd ((Function.update_self ..).symm.trans hother) hnew
    · exact h.waiting other ((Function.update_of_ne heq ..).symm.trans hother)
  answered other reply hreply := by
    by_cases heq : other = client
    · subst heq
      simp only [Pool.put, Function.update_self] at hreply
      exact hanswered reply hreply
    · exact h.answered other reply ((Function.update_of_ne heq ..).symm.trans hreply)

theorem Inv.call (h : Inv enter n permits pool) {client : ι}
    (hstep : pool.step enter (.call client) = some next) : Inv enter n permits next := by
  simp only [Pool.step] at hstep
  split at hstep
  · rename_i habsent
    have hnot : client ∉ pool.queue := fun hmem => by
      rw [(h.queued client).mp hmem] at habsent
      cases habsent
    split at hstep
    · rename_i reply hreply
      obtain rfl := Option.some.inj hstep
      refine h.put (.inl habsent) (by simp) (fun other hother => ?_) (fun other => ?_)
        h.queue_nodup h.enters
      · obtain rfl := Caller.answered.inj hother
        simp [answer, hreply]
      · split
        · rename_i heq
          simp [heq, hnot]
        · rfl
    · rename_i work hwork
      obtain rfl := Option.some.inj hstep
      refine h.put (.inl habsent) (by simp) (by simp) (fun other => ?_) ?_ fun other hother => ?_
      · by_cases heq : other = client
        · simp [heq]
        · simp [heq]
      · exact List.nodup_append.mpr ⟨h.queue_nodup, List.nodup_singleton _,
          fun a ha b hb hab => hnot (by rwa [← List.mem_singleton.mp hb, ← hab])⟩
      · rcases List.mem_append.mp hother with hother | hother
        · exact h.enters other hother
        · rw [List.mem_singleton.mp hother]
          exact ⟨work, hwork⟩
  · cases hstep

theorem Inv.acquire (h : Inv enter n permits pool)
    (hprompt : ∀ client work, enter client = .ok work → work.Prompt n)
    (hstep : pool.step enter .acquire = some next) : Inv enter n permits next := by
  simp only [Pool.step] at hstep
  split at hstep
  · rename_i client queue left hqueue hpermits
    split at hstep
    · cases hstep
    · rename_i work hwork
      obtain rfl := Option.some.inj hstep
      have hmine : pool.callers client = .queued :=
        (h.queued client).mp (by rw [hqueue]; exact List.mem_cons_self ..)
      have hnodup := h.queue_nodup
      rw [hqueue] at hnodup
      obtain ⟨hnot, hnodup⟩ := List.nodup_cons.mp hnodup
      have hnew : ∀ job ∈ pool.jobs, job.client ≠ client := by
        rintro job hjob rfl
        rcases (h.jobs job hjob).caller with hcaller | hcaller <;>
          rw [hcaller] at hmine <;> cases hmine
      exact
        { conserved := by
            have := h.conserved
            simp only [hpermits, List.length_append, List.length_singleton] at this ⊢
            omega
          queued := fun other => by
            by_cases heq : other = client
            · simp [Pool.put, heq, hnot]
            · have := h.queued other
              rw [hqueue, List.mem_cons] at this
              simpa [Pool.put, heq] using this
          queue_nodup := hnodup
          enters := fun other hother => h.enters other (by
            rw [hqueue]
            exact List.mem_cons_of_mem _ hother)
          jobs := fun job hjob => by
            rcases List.mem_append.mp hjob with hjob | hjob
            · exact (h.jobs job hjob).of_callers (Function.update_of_ne (hnew job hjob) _ _)
            · rw [List.mem_singleton.mp hjob]
              exact .awaited (Function.update_self ..) (by simp [answer, hwork])
                (hprompt client work hwork)
          jobs_nodup := by
            rw [List.map_append]
            refine List.nodup_append.mpr ⟨h.jobs_nodup, List.nodup_singleton _,
              fun a ha b hb hab => ?_⟩
            obtain ⟨job, hjob, rfl⟩ := List.mem_map.mp ha
            exact hnew job hjob (hab.trans (List.mem_singleton.mp hb))
          waiting := fun other hother => by
            rw [List.map_append, List.mem_append]
            by_cases heq : other = client
            · exact .inr (List.mem_singleton.mpr heq)
            · exact .inl (h.waiting other ((Function.update_of_ne heq ..).symm.trans hother))
          answered := fun other reply hreply => by
            by_cases heq : other = client
            · subst heq
              simp [Pool.put] at hreply
            · exact h.answered other reply ((Function.update_of_ne heq ..).symm.trans hreply) }
  · cases hstep

omit [DecidableEq ι] in
theorem exists_split {jobs : List (Job ι R)} {index : ℕ} {job : Job ι R}
    (h : jobs[index]? = some job) : ∃ before after, jobs = before ++ job :: after ∧
      jobs.eraseIdx index = before ++ after ∧
      ∀ job', jobs.set index job' = before ++ job' :: after := by
  induction jobs generalizing index with
  | nil => simp at h
  | cons first jobs ih =>
    cases index with
    | zero =>
      obtain rfl : first = job := by simpa using h
      exact ⟨[], jobs, rfl, rfl, fun _ => rfl⟩
    | succ index =>
      obtain ⟨before, after, hjobs, herase, hset⟩ := ih (by simpa using h)
      refine ⟨first :: before, after, ?_, ?_, fun job' => ?_⟩
      · rw [hjobs]
        rfl
      · rw [List.eraseIdx_cons_succ, herase]
        rfl
      · rw [List.set_cons_succ, hset]
        rfl

theorem Inv.poll (h : Inv enter n permits pool) {index : ℕ}
    (hstep : pool.step enter (.poll index) = some next) : Inv enter n permits next := by
  simp only [Pool.step] at hstep
  obtain ⟨job, hjob, hnext⟩ := Option.bind_eq_some_iff.mp hstep
  obtain ⟨work, hwork, rfl⟩ := Option.map_eq_some_iff.mp hnext
  have hclients : (pool.jobs.set index { job with work }).map (·.client) =
      pool.jobs.map (·.client) := by
    obtain ⟨before, after, hjobs, -, hset⟩ := exists_split hjob
    rw [hset, hjobs, List.map_append, List.map_append, List.map_cons, List.map_cons]
  have hruns := h.jobs job (List.mem_of_getElem? hjob)
  exact
    { conserved := by simpa using h.conserved
      queued := h.queued
      queue_nodup := h.queue_nodup
      enters := h.enters
      jobs := fun other hother => by
        rcases List.mem_or_eq_of_mem_set hother with hother | rfl
        · exact h.jobs other hother
        · cases hruns with
          | awaited hcaller hanswer hprompt =>
            exact .awaited hcaller ((Polled.next_uncancelled hwork).trans hanswer)
              (Polled.next_prompt hprompt hwork)
          | @left client polling hcaller hpolls =>
            have hfewer : work.cancelledPolls + 1 = polling.cancelledPolls :=
              Polled.next_cancelledPolls hwork
            exact .left hcaller (by omega)
      jobs_nodup := by
        rw [hclients]
        exact h.jobs_nodup
      waiting := fun client hclient => by
        rw [hclients]
        exact h.waiting client hclient
      answered := h.answered }

/-- A job that ends where its caller waits, or left it. -/
theorem deliver_cases {client : ι} {reply : R} {token : Bool}
    (h : Sound enter n pool.callers ⟨client, .done reply, token⟩) :
    (∀ other, other ≠ client →
      (pool.deliver client reply).callers other = pool.callers other) ∧
      ((pool.deliver client reply).callers client = .gone ∨
        (pool.deliver client reply).callers client = .answered (answer enter client)) := by
  unfold Pool.deliver
  cases h with
  | awaited hcaller hwork =>
    rw [hcaller]
    refine ⟨fun other hother => Function.update_of_ne hother _ _, .inr ?_⟩
    rw [← hwork]
    exact Function.update_self ..
  | left hcaller =>
    rw [hcaller]
    exact ⟨fun _ _ => rfl, .inl hcaller⟩

theorem Inv.finish (h : Inv enter n permits pool) {index : ℕ}
    (hstep : pool.step enter (.finish index) = some next) : Inv enter n permits next := by
  simp only [Pool.step] at hstep
  split at hstep
  · rename_i client reply token hjob
    obtain rfl := Option.some.inj hstep
    obtain ⟨before, after, hjobs, herase, -⟩ := exists_split hjob
    have hmem : ∀ job, job ∈ before ++ after → job ∈ pool.jobs := fun job hjob => by
      rw [hjobs]
      rcases List.mem_append.mp hjob with hjob | hjob
      · exact List.mem_append_left _ hjob
      · exact List.mem_append_right _ (List.mem_cons_of_mem _ hjob)
    have hruns := h.jobs _ (List.mem_of_getElem? hjob)
    obtain ⟨hothers, hmine⟩ := deliver_cases hruns
    have hnodup := h.jobs_nodup
    rw [hjobs, List.map_append, List.map_cons, List.nodup_middle, List.nodup_cons,
      ← List.map_append] at hnodup
    have hnew : ∀ job ∈ before ++ after, job.client ≠ client := fun job hjob heq =>
      hnodup.1 (List.mem_map.mpr ⟨job, hjob, heq⟩)
    have hqueue : (pool.deliver client reply).queue = pool.queue := by
      unfold Pool.deliver
      split <;> rfl
    have hqueued : pool.callers client ≠ .queued := fun hcaller => by
      rcases hruns.caller with hbusy | hbusy <;> rw [hcaller] at hbusy <;> cases hbusy
    exact
      { conserved := by
          have := h.conserved
          rw [hjobs, List.length_append, List.length_cons] at this
          change pool.permits + 1 + (pool.jobs.eraseIdx index).length = permits
          rw [herase, List.length_append]
          omega
        queued := fun other => by
          rw [hqueue]
          by_cases heq : other = client
          · subst heq
            rw [h.queued]
            rcases hmine with hmine | hmine <;> simp [hmine, hqueued]
          · rw [h.queued, hothers other heq]
        queue_nodup := by
          rw [hqueue]
          exact h.queue_nodup
        enters := by
          rw [hqueue]
          exact h.enters
        jobs := fun job hjob => by
          rw [herase] at hjob
          exact (h.jobs job (hmem job hjob)).of_callers (hothers _ (hnew job hjob))
        jobs_nodup := by
          rw [herase]
          exact hnodup.2
        waiting := fun other hother => by
          rw [herase]
          by_cases heq : other = client
          · subst heq
            rcases hmine with hmine | hmine <;> rw [hmine] at hother <;> cases hother
          · have hwas := h.waiting other ((hothers other heq).symm.trans hother)
            rw [hjobs, List.map_append, List.map_cons] at hwas
            rw [List.map_append]
            rcases List.mem_append.mp hwas with hwas | hwas
            · exact List.mem_append_left _ hwas
            · exact List.mem_append_right _ ((List.mem_cons.mp hwas).resolve_left heq)
        answered := fun other given hreply => by
          by_cases heq : other = client
          · subst heq
            rcases hmine with hmine | hmine <;> rw [hmine] at hreply
            · cases hreply
            · exact (Caller.answered.inj hreply).symm
          · exact h.answered other given ((hothers other heq).symm.trans hreply) }
  · cases hstep

theorem Inv.leave (h : Inv enter n permits pool) {client : ι}
    (hstep : pool.step enter (.leave client) = some next) : Inv enter n permits next := by
  simp only [Pool.step] at hstep
  split at hstep
  · rename_i hqueued
    obtain rfl := Option.some.inj hstep
    refine h.put (.inr hqueued) (by simp) (by simp) (fun other => ?_)
      (h.queue_nodup.filter _) fun other hother => h.enters other (List.mem_filter.mp hother).1
    by_cases heq : other = client
    · simp [heq]
    · simp [heq]
  · rename_i hwaiting
    obtain rfl := Option.some.inj hstep
    have hclients : (pool.jobs.map (Job.cancelFor client)).map (·.client) =
        pool.jobs.map (·.client) := by
      rw [List.map_map]
      refine List.map_congr_left fun job _ => ?_
      simp only [Function.comp_apply, Job.cancelFor]
      split <;> rfl
    exact
      { conserved := by simpa [Pool.put] using h.conserved
        queued := fun other => by
          by_cases heq : other = client
          · subst heq
            simp [Pool.put, h.queued, hwaiting]
          · simp [Pool.put, heq, h.queued]
        queue_nodup := h.queue_nodup
        enters := h.enters
        jobs := fun job hjob => by
          obtain ⟨running, hrunning, rfl⟩ := List.mem_map.mp hjob
          have hruns := h.jobs running hrunning
          unfold Job.cancelFor
          split
          · rename_i heq
            cases hruns with
            | awaited hcaller hwork hprompt =>
              obtain rfl := heq
              exact .left (Function.update_self ..) hprompt.cancelledPolls_le
            | left hcaller hpolls =>
              obtain rfl := heq
              rw [hwaiting] at hcaller
              cases hcaller
          · rename_i hne
            exact hruns.of_callers (Function.update_of_ne hne _ _)
        jobs_nodup := by
          rw [hclients]
          exact h.jobs_nodup
        waiting := fun other hother => by
          rw [hclients]
          by_cases heq : other = client
          · subst heq
            exact h.waiting other hwaiting
          · exact h.waiting other ((Function.update_of_ne heq ..).symm.trans hother)
        answered := fun other reply hreply => by
          by_cases heq : other = client
          · subst heq
            simp [Pool.put] at hreply
          · exact h.answered other reply ((Function.update_of_ne heq ..).symm.trans hreply) }
  · cases hstep

end Step

theorem Inv.step (h : Inv enter n permits pool)
    (hprompt : ∀ client work, enter client = .ok work → work.Prompt n) {event : Event ι}
    (hstep : pool.step enter event = some next) : Inv enter n permits next := by
  cases event with
  | call client => exact h.call hstep
  | acquire => exact h.acquire hprompt hstep
  | poll index => exact h.poll hstep
  | finish index => exact h.finish hstep
  | leave client => exact h.leave hstep

/-- What every run reaches. -/
theorem inv_of_reaches (hprompt : ∀ client work, enter client = .ok work → work.Prompt n)
    (h : Runs.Reaches (Runs.Next (Pool.step enter) fun _ _ => True) (Pool.start permits) pool) :
    Inv enter n permits pool :=
  Runs.invariant (Inv enter n permits) (fun ⟨_, _, hstep⟩ hinv => hinv.step hprompt hstep)
    (inv_start permits) h

/-! ## Every run ends -/

section Runs

variable (enter)

/-- What a caller has before it, its job apart. -/
def callerWeight (callers : ι → Caller R) (client : ι) : ℕ :=
  match callers client, enter client with
  | .absent, .ok work => work.depth + 4
  | .absent, .error _ => 1
  | .queued, .ok work => work.depth + 3
  | .queued, .error _ => 1
  | .waiting, _ => 1
  | _, _ => 0

def jobsWeight (jobs : List (Job ι R)) : ℕ := (jobs.map fun job => job.work.depth + 1).sum

def Pool.weight [Fintype ι] (pool : Pool ι R) : ℕ :=
  ∑ client, callerWeight enter pool.callers client + jobsWeight pool.jobs

theorem sum_callerWeight_update [Fintype ι] (callers : ι → Caller R) (client : ι)
    (caller : Caller R) :
    ∑ other, callerWeight enter (Function.update callers client caller) other +
        callerWeight enter callers client =
      ∑ other, callerWeight enter callers other +
        callerWeight enter (Function.update callers client caller) client := by
  have hweights : callerWeight enter (Function.update callers client caller) =
      Function.update (callerWeight enter callers) client
        (callerWeight enter (Function.update callers client caller) client) := by
    funext other
    by_cases heq : other = client
    · subst heq
      rw [Function.update_self]
    · rw [Function.update_of_ne heq, callerWeight, callerWeight, Function.update_of_ne heq]
  have hsplit := Finset.sum_sdiff (f := callerWeight enter callers)
    (Finset.subset_univ ({client} : Finset ι))
  rw [Finset.sum_singleton] at hsplit
  rw [hweights, Finset.sum_update_of_mem (Finset.mem_univ client), Function.update_self, ← hsplit]
  omega

variable {enter}

theorem weight_lt [Fintype ι] {client : ι} {caller : Caller R}
    (hcallers : next.callers = Function.update pool.callers client caller)
    (h : callerWeight enter next.callers client + jobsWeight next.jobs <
      callerWeight enter pool.callers client + jobsWeight pool.jobs) :
    next.weight enter < pool.weight enter := by
  have hsum := sum_callerWeight_update enter pool.callers client caller
  rw [hcallers] at h
  rw [Pool.weight, Pool.weight, hcallers]
  omega

omit [DecidableEq ι] in
theorem jobsWeight_append (jobs jobs' : List (Job ι R)) :
    jobsWeight (jobs ++ jobs') = jobsWeight jobs + jobsWeight jobs' := by
  rw [jobsWeight, List.map_append, List.sum_append]
  rfl

omit [DecidableEq ι] in
theorem jobsWeight_split {jobs before after : List (Job ι R)} {job : Job ι R}
    (h : jobs = before ++ job :: after) :
    jobsWeight jobs = jobsWeight (before ++ after) + (job.work.depth + 1) := by
  rw [h, jobsWeight_append, jobsWeight_append]
  simp only [jobsWeight, List.map_cons, List.sum_cons]
  omega

theorem Inv.step_weight [Fintype ι] (h : Inv enter n permits pool) {event : Event ι}
    (hstep : pool.step enter event = some next) : next.weight enter < pool.weight enter := by
  cases event with
  | call client =>
    simp only [Pool.step] at hstep
    split at hstep
    · rename_i habsent
      split at hstep
      · rename_i reply hreply
        obtain rfl := Option.some.inj hstep
        exact weight_lt rfl (by simp [Pool.put, callerWeight, habsent, hreply])
      · rename_i work hwork
        obtain rfl := Option.some.inj hstep
        exact weight_lt rfl (by simp [Pool.put, callerWeight, habsent, hwork])
    · cases hstep
  | acquire =>
    simp only [Pool.step] at hstep
    split at hstep
    · rename_i client queue left hqueue hpermits
      split at hstep
      · cases hstep
      · rename_i work hwork
        obtain rfl := Option.some.inj hstep
        have hqueued : pool.callers client = .queued :=
          (h.queued client).mp (by rw [hqueue]; exact List.mem_cons_self ..)
        refine weight_lt rfl ?_
        rw [jobsWeight_append]
        simp only [Pool.put, callerWeight, Function.update_self, hqueued, hwork, jobsWeight,
          List.map_cons, List.map_nil, List.sum_cons, List.sum_nil]
        omega
    · cases hstep
  | poll index =>
    simp only [Pool.step] at hstep
    obtain ⟨job, hjob, hnext⟩ := Option.bind_eq_some_iff.mp hstep
    obtain ⟨work, hwork, rfl⟩ := Option.map_eq_some_iff.mp hnext
    obtain ⟨before, after, hjobs, -, hset⟩ := exists_split hjob
    have hdepth := Polled.next_depth hwork
    simp only [Pool.weight, jobsWeight_split hjobs, jobsWeight_split (hset { job with work })]
    omega
  | finish index =>
    simp only [Pool.step] at hstep
    split at hstep
    · rename_i client reply token hjob
      obtain rfl := Option.some.inj hstep
      obtain ⟨before, after, hjobs, herase, -⟩ := exists_split hjob
      have hweight := jobsWeight_split hjobs
      have hfewer : jobsWeight (pool.jobs.eraseIdx index) < jobsWeight pool.jobs := by
        rw [herase, hweight]
        omega
      unfold Pool.deliver
      split
      · rename_i hwaiting
        refine weight_lt rfl ?_
        simpa [Pool.put, callerWeight, hwaiting] using Nat.lt_add_left 1 hfewer
      · simp only [Pool.weight]
        omega
    · cases hstep
  | leave client =>
    simp only [Pool.step] at hstep
    split at hstep
    · rename_i hqueued
      obtain rfl := Option.some.inj hstep
      obtain ⟨work, hwork⟩ := h.enters client ((h.queued client).mpr hqueued)
      exact weight_lt rfl (by simp [Pool.put, callerWeight, hqueued, hwork])
    · rename_i hwaiting
      obtain rfl := Option.some.inj hstep
      have hjobs : jobsWeight (pool.jobs.map (Job.cancelFor client)) = jobsWeight pool.jobs := by
        rw [jobsWeight, jobsWeight, List.map_map]
        refine congrArg List.sum (List.map_congr_left fun job _ => ?_)
        simp only [Function.comp_apply, Job.cancelFor]
        split <;> rfl
      refine weight_lt rfl ?_
      simp [Pool.put, callerWeight, hwaiting, hjobs]
    · cases hstep

/-- Callers that stay until they are answered: however a run goes, it ends. -/
theorem run_length [Fintype ι]
    (hprompt : ∀ client work, enter client = .ok work → work.Prompt n)
    (h : Inv enter n permits pool) {events : List (Event ι)}
    (hrun : Runs.run (Pool.step enter) (fun _ _ => true) pool events = some next) :
    events.length + next.weight enter ≤ pool.weight enter := by
  induction events generalizing pool with
  | nil =>
    obtain rfl := Option.some.inj hrun
    simp
  | cons event events ih =>
    rw [Runs.run, if_pos rfl] at hrun
    obtain ⟨middle, hstep, hrest⟩ := Option.bind_eq_some_iff.mp hrun
    have hlt := h.step_weight hstep
    have hle := ih (h.step hprompt hstep) hrest
    rw [List.length_cons]
    omega

/-- Some event that no caller takes part in. -/
theorem Inv.can_go_on (h : Inv enter n permits pool) (hpermits : 0 < permits)
    (hbusy : pool.queue ≠ [] ∨ pool.jobs ≠ []) :
    ∃ event : Event ι, event.Internal ∧ (pool.step enter event).isSome = true := by
  cases hjobs : pool.jobs with
  | nil =>
    have hconserved := h.conserved
    rw [hjobs, List.length_nil] at hconserved
    obtain ⟨left, hleft⟩ : ∃ left, pool.permits = left + 1 :=
      Nat.exists_eq_succ_of_ne_zero (by omega)
    cases hqueue : pool.queue with
    | nil => simp [hqueue, hjobs] at hbusy
    | cons head queue =>
      obtain ⟨work, hwork⟩ := h.enters head (by rw [hqueue]; exact List.mem_cons_self ..)
      exact ⟨.acquire, trivial, by simp [Pool.step, hqueue, hleft, hwork]⟩
  | cons job jobs =>
    obtain ⟨first, work, token⟩ := job
    cases work with
    | done reply => exact ⟨.finish 0, trivial, by simp [Pool.step, hjobs]⟩
    | poll active cancelled => exact ⟨.poll 0, trivial, by simp [Pool.step, hjobs, Polled.next]⟩

/-- What no caller takes part in leaves those that stay in their place, or answers them. -/
theorem step_stays {event : Event ι} (hinternal : event.Internal)
    (hstep : pool.step enter event = some next) {client : ι}
    (hstays : (pool.callers client).Stays) : (next.callers client).Stays := by
  have hput : ∀ other (caller : Caller R), caller.Stays →
      ((pool.put other caller).callers client).Stays := fun other caller hcaller => by
    by_cases heq : client = other
    · subst heq
      simpa [Pool.put] using hcaller
    · simpa [Pool.put, heq] using hstays
  cases event with
  | call => exact hinternal.elim
  | leave => exact hinternal.elim
  | acquire =>
    simp only [Pool.step] at hstep
    split at hstep
    · split at hstep
      · cases hstep
      · obtain rfl := Option.some.inj hstep
        exact hput _ .waiting trivial
    · cases hstep
  | poll index =>
    simp only [Pool.step] at hstep
    obtain ⟨job, hjob, hnext⟩ := Option.bind_eq_some_iff.mp hstep
    obtain ⟨work, hwork, rfl⟩ := Option.map_eq_some_iff.mp hnext
    exact hstays
  | finish index =>
    simp only [Pool.step] at hstep
    split at hstep
    · rename_i other reply token hjob
      obtain rfl := Option.some.inj hstep
      show ((pool.deliver other reply).callers client).Stays
      unfold Pool.deliver
      split
      · exact hput _ (.answered reply) trivial
      · exact hstays
    · cases hstep

/-- Left to itself, the pool comes to rest: every permit is back, and every caller that stays is
answered. -/
theorem Inv.comes_to_rest [Fintype ι] (h : Inv enter n permits pool)
    (hprompt : ∀ client work, enter client = .ok work → work.Prompt n) (hpermits : 0 < permits) :
    ∃ rest, Runs.Reaches (Runs.Next (Pool.step enter) fun _ event => event.Internal) pool rest ∧
      Inv enter n permits rest ∧ rest.permits = permits ∧
      ∀ client, (pool.callers client).Stays → ∃ reply, rest.callers client = .answered reply := by
  induction hweight : pool.weight enter using Nat.strong_induction_on generalizing pool with
  | _ weight ih =>
    by_cases hbusy : pool.queue ≠ [] ∨ pool.jobs ≠ []
    · obtain ⟨event, hinternal, hsome⟩ := h.can_go_on hpermits hbusy
      obtain ⟨next, hstep⟩ := Option.isSome_iff_exists.mp hsome
      obtain ⟨rest, hreaches, hinv, hfree, hanswered⟩ :=
        ih _ (hweight ▸ h.step_weight hstep) (h.step hprompt hstep) rfl
      exact ⟨rest, .head ⟨event, hinternal, hstep⟩ hreaches, hinv, hfree, fun client hstays =>
        hanswered client (step_stays hinternal hstep hstays)⟩
    · rw [not_or, not_not, not_not] at hbusy
      obtain ⟨hqueue, hjobs⟩ := hbusy
      refine ⟨pool, .refl, h, ?_, fun client hstays => ?_⟩
      · have hconserved := h.conserved
        rwa [hjobs] at hconserved
      · cases hcaller : pool.callers client with
        | answered reply => exact ⟨reply, rfl⟩
        | queued =>
          have := (h.queued client).mpr hcaller
          rw [hqueue] at this
          cases this
        | waiting =>
          have := h.waiting client hcaller
          rw [hjobs] at this
          cases this
        | absent =>
          rw [hcaller] at hstays
          exact hstays.elim
        | gone =>
          rw [hcaller] at hstays
          exact hstays.elim

end Runs

end Permits
