import Mathlib.Algebra.Order.Group.Multiset
import RetirementPlanner.Proof.Admission
import RetirementPlanner.Proof.Quota
import RetirementPlanner.Web.Edge

/-!
# Steps at the edge

What each step of a handler changes (`SimulationStep`, `SyncStep`), and from it what every run keeps
of what the handlers share (`Inv`) and of what each of them has found out (`Sound`): `edge_keeps`.
-/

namespace RetirementPlanner.Web.Edge

open Schema FixedWindow

variable {K : Type}

/-! ## Bodies -/

theorem readChunks_ok {maxBytes totalBytes : ℕ} (chunks : List ℕ) (h : totalBytes ≤ maxBytes) :
    readChunks maxBytes totalBytes chunks = .ok () ↔ totalBytes + chunks.sum ≤ maxBytes := by
  induction chunks generalizing totalBytes with
  | nil => simpa [readChunks] using h
  | cons chunk chunks ih =>
    rw [readChunks, List.sum_cons, ← add_assoc]
    split
    · rename_i hover
      refine iff_of_false (fun heq => by cases heq) ?_
      omega
    · rename_i hfits
      exact ih (not_lt.mp hfits)

/-- However a body is cut into chunks, it is read if it fits and is JSON. -/
theorem readLimitedJson_ok {α : Type} {body : Body α} {maxBytes : ℕ} {json : α} :
    readLimitedJson body maxBytes = .ok json ↔
      (∀ length ∈ body.declaredLength, length ≤ maxBytes) ∧ body.chunks.sum ≤ maxBytes ∧
        body.json = some json := by
  have hchunks := readChunks_ok body.chunks (Nat.zero_le maxBytes)
  rw [zero_add] at hchunks
  have hdeclared : (body.declaredLength.any fun length => decide (maxBytes < length)) = true ↔
      ¬∀ length ∈ body.declaredLength, length ≤ maxBytes := by
    cases body.declaredLength <;> simp
  rw [readLimitedJson]
  split
  · rename_i hover
    exact iff_of_false (fun heq => by cases heq) fun h => hdeclared.mp hover h.1
  · rename_i hfits
    rw [hdeclared, not_not] at hfits
    cases hread : readChunks maxBytes 0 body.chunks with
    | error error =>
      have hover : ¬body.chunks.sum ≤ maxBytes := fun hle => by
        rw [hchunks.mpr hle] at hread
        cases hread
      exact iff_of_false (fun heq => by cases heq) fun h => hover h.2.1
    | ok _ =>
      have hle := hchunks.mp hread
      cases body.json with
      | none => simp [bind, Except.bind]
      | some json' =>
        simp only [bind, Except.bind, Except.ok.injEq, Option.some.injEq]
        exact ⟨fun heq => ⟨hfits, hle, heq⟩, fun h => h.2.2⟩

/-! ## Quota calls -/

section Quota

variable [Field K] [LinearOrder K]

/-- The call is one of the runs of the quota object. -/
theorem charge_step {run : QuotaRun K} {now : K} (hclock : run.clock ≤ now) (key : String)
    (cost : K) (budget : Budget K) :
    run.step (.consume now key cost budget) = some (charge run now key cost budget).2 :=
  QuotaRun.step_consume.mpr ⟨hclock, rfl⟩

/-- The latest call comes first, and none after the clock. -/
structure Timed (run : QuotaRun K) : Prop where
  ordered : run.calls.Pairwise fun later earlier => earlier.now ≤ later.now
  past : ∀ call ∈ run.calls, call.now ≤ run.clock

theorem timed_step {may : QuotaRun K → QuotaEvent K → Prop} {run run' : QuotaRun K}
    (hnext : Runs.Next QuotaRun.step may run run') (h : Timed run) : Timed run' := by
  obtain ⟨event, -, hstep⟩ := hnext
  cases event with
  | consume now key cost budget =>
    obtain ⟨hclock, rfl⟩ := QuotaRun.step_consume.mp hstep
    refine ⟨List.pairwise_cons.mpr ⟨fun call hcall => (h.past call hcall).trans hclock, h.ordered⟩,
      List.forall_mem_cons.mpr ⟨le_rfl, fun call hcall => (h.past call hcall).trans hclock⟩⟩
  | alarm now =>
    obtain ⟨-, -, ⟨hclock, -⟩, rfl⟩ := QuotaRun.step_alarm.mp hstep
    exact ⟨h.ordered, fun call hcall => (h.past call hcall).trans hclock⟩

theorem timed_of_run {may : QuotaRun K → QuotaEvent K → Prop} {clock : K} {run : QuotaRun K}
    (hrun : Runs.Reaches (Runs.Next QuotaRun.step may) (.start clock) run) : Timed run := by
  refine Runs.invariant Timed timed_step ⟨.nil, fun call hcall => ?_⟩ hrun
  cases hcall

omit [Field K] in
theorem callsTo_ordered {run : QuotaRun K} (h : Timed run) (key : String) :
    Ordered (callsTo key run.calls) :=
  (List.pairwise_map.mpr (h.ordered.imp id)).sublist (List.filter_sublist.map _)

variable [IsStrictOrderedRing K]

/-- What a key is granted in any stretch of one window's length, or a part of it. -/
theorem grants_between {budget : String → Budget K} {clock : K} {run : QuotaRun K}
    (hrun : Runs.Reaches (Runs.Next QuotaRun.step fun _ event => event.Within budget)
      (.start clock) run) {key : String} (hlength : 0 < (budget key).windowMs)
    (hlimit : 0 ≤ (budget key).limit) (hcosts : ∀ call ∈ run.calls, 0 ≤ call.cost)
    {used : Multiset (K × K)} (hused : used ≤ (grantsTo key run.calls : Multiset (K × K)))
    (start : K) :
    ((used.filter fun spending => start ≤ spending.1 ∧
      spending.1 < start + (budget key).windowMs).map Prod.snd).sum
        ≤ (budget key).limit + (budget key).limit := by
  have htracks := tracks_of_run hrun key
  have hcosts' : ∀ request ∈ callsTo key run.calls, 0 ≤ request.2 := by
    intro request hrequest
    obtain ⟨call, hcall, rfl⟩ := List.mem_map.mp hrequest
    exact hcosts call (List.mem_of_mem_filter hcall)
  have hgranted := serve_between hlength hlimit (callsTo_ordered (timed_of_run hrun) key) hcosts'
    start
  rw [← htracks.granted] at hgranted
  obtain ⟨unused, hsplit⟩ := Multiset.le_iff_exists_add.mp hused
  have hnonneg : 0 ≤ ((unused.filter fun spending => start ≤ spending.1 ∧
      spending.1 < start + (budget key).windowMs).map Prod.snd).sum := by
    refine Multiset.sum_nonneg fun cost hcost => ?_
    obtain ⟨spending, hspending, rfl⟩ := Multiset.mem_map.mp hcost
    have hmem : spending ∈ (grantsTo key run.calls : Multiset (K × K)) := by
      rw [hsplit]
      exact Multiset.mem_add.mpr (.inr (Multiset.mem_of_mem_filter hspending))
    obtain ⟨call, hcall, rfl⟩ := List.mem_map.mp (Multiset.mem_coe.mp hmem)
    exact hcosts call (List.mem_of_mem_filter hcall)
  calc ((used.filter _).map Prod.snd).sum
      ≤ ((used.filter _).map Prod.snd).sum + ((unused.filter _).map Prod.snd).sum :=
        le_add_of_nonneg_right hnonneg
    _ = (((grantsTo key run.calls : Multiset (K × K)).filter fun spending =>
          start ≤ spending.1 ∧ spending.1 < start + (budget key).windowMs).map Prod.snd).sum := by
        rw [hsplit, Multiset.filter_add, Multiset.map_add, Multiset.sum_add]
    _ ≤ _ := by
        simpa only [Multiset.filter_coe, Multiset.map_coe, Multiset.sum_coe] using hgranted

end Quota

/-! ## Payloads -/

section Payloads

variable [Field K] [LinearOrder K] [FloorRing K] [IsStrictOrderedRing K]

/-- What is read of a body costs something. -/
theorem read_paths {endpoint : Endpoint K} {payload : Payload K}
    (h : endpoint.read = .ok payload) : 0 ≤ payload.paths := by
  cases endpoint with
  | monteCarlo body =>
    simp only [Endpoint.read] at h
    split at h
    · cases h
    · split at h
      · cases h
      · rename_i request hrequest
        cases h
        simp only [monteCarloRequestSchema, bind_ok, object_ok, field_ok] at hrequest
        obtain ⟨_, -, plan, -, config, hconfig, heq⟩ := hrequest
        cases heq
        have hpaths := (simulationConfigSchema_admitted hconfig).paths.1
        show 0 ≤ config.paths
        omega
  | batch body =>
    simp only [Endpoint.read] at h
    split at h
    · cases h
    · split at h
      · cases h
      · rename_i request hrequest
        cases h
        simp only [batchRequestSchema, bind_ok, under_ok] at hrequest
        obtain ⟨mode, -, bodies, -, simulations, hsimulations, hrequest⟩ := hrequest
        split_ifs at hrequest with hcount htotal
        swap
        · cases hrequest
        cases hrequest
        refine List.sum_nonneg fun paths hpaths => ?_
        obtain ⟨simulation, hmem, rfl⟩ := List.mem_map.mp hpaths
        have hadmitted := (batchSimulationsFrom_admitted hsimulations).1 simulation hmem
        exact (by omega : (0 : ℤ) ≤ 1).trans hadmitted.config.paths.1

end Payloads

/-! ## What a step does -/

section Steps

variable [Field K] [LinearOrder K] [FloorRing K]

/-- The steps of a simulation's handler, by what they change. -/
inductive SimulationStep (s : Shared K) (call : SimulationCall K) :
    SimulationStage K → Shared K → SimulationStage K → Prop
  | answer {stage : SimulationStage K} (response : Response) :
    SimulationStep s call stage s (.answered response)
  | count {uid : String} (huid : call.uid = some uid)
      (hsuccess : (charge s.simulation s.clock ("simulate:" ++ uid) 1
        simulationBudget).1.success = true) :
    SimulationStep s call .arrived { s with simulation :=
      (charge s.simulation s.clock ("simulate:" ++ uid) 1 simulationBudget).2 }
      (.counted uid s.clock)
  /-- Refused, or charged and rejected. -/
  | countOnly {uid : String} (response : Response) :
    SimulationStep s call .arrived { s with simulation :=
      (charge s.simulation s.clock ("simulate:" ++ uid) 1 simulationBudget).2 }
      (.answered response)
  | hit {uid : String} {time : K} (hcached : s.cached call.place uid = true) :
    SimulationStep s call (.counted uid time) s (.admitted uid)
  | miss {uid : String} {time : K} :
    SimulationStep s call (.counted uid time) s (.uncached uid time)
  | ask {uid : String} {time : K} (hrow : uid ∈ s.users) :
    SimulationStep s call (.uncached uid time) (s.ask uid time) (.registered uid)
  | askOnly {uid : String} {time : K} (response : Response) :
    SimulationStep s call (.uncached uid time) (s.ask uid time) (.answered response)
  | remember {uid : String} :
    SimulationStep s call (.registered uid) (s.remember call.place uid) (.admitted uid)
  | forgotten {uid : String} : SimulationStep s call (.registered uid) s (.admitted uid)
  | parse {uid : String} {payload : Payload K} (hread : call.endpoint.read = .ok payload) :
    SimulationStep s call (.admitted uid) s (.parsed uid payload)
  | charge {uid : String} {payload : Payload K}
      (hsuccess : (charge s.simulation s.clock ("simulate-paths:" ++ uid) payload.paths
        simulationPathBudget).1.success = true) :
    SimulationStep s call (.parsed uid payload) { s with simulation :=
      (charge s.simulation s.clock ("simulate-paths:" ++ uid) payload.paths
        simulationPathBudget).2 } (.charged uid payload s.clock)
  | chargeOnly {uid : String} {payload : Payload K} (response : Response) :
    SimulationStep s call (.parsed uid payload) { s with simulation :=
      (charge s.simulation s.clock ("simulate-paths:" ++ uid) payload.paths
        simulationPathBudget).2 } (.answered response)
  | send {uid : String} {payload : Payload K} {time : K} (response : Response) :
    SimulationStep s call (.charged uid payload time) (s.send call uid payload time)
      (.answered response)

theorem advanceSimulation_step {s s' : Shared K} {call : SimulationCall K}
    {stage stage' : SimulationStage K} {outcome : Outcome}
    (h : advanceSimulation s call stage outcome = some (s', stage')) :
    SimulationStep s call stage s' stage' := by
  cases stage with
  | arrived =>
    cases huid : call.uid with
    | none =>
      cases outcome <;> simp only [advanceSimulation, huid] at h <;> cases h
      exact .answer _
    | some uid =>
      cases outcome with
      | done =>
        simp only [advanceSimulation, huid] at h
        split at h
        · rename_i hsuccess
          cases h
          exact .count huid hsuccess
        · cases h
          exact .countOnly _
      | fails error aborted =>
        simp only [advanceSimulation, huid] at h
        cases h
        exact .answer _
      | lost error aborted =>
        simp only [advanceSimulation, huid] at h
        cases h
        exact .countOnly _
      | replies status =>
        simp only [advanceSimulation, huid] at h
        cases h
  | counted uid time =>
    cases outcome with
    | done =>
      simp only [advanceSimulation] at h
      split at h
      · rename_i hcached
        cases h
        exact .hit hcached
      · cases h
        exact .miss
    | fails error aborted =>
      cases h
      exact .miss
    | lost error aborted => cases h
    | replies status => cases h
  | uncached uid time =>
    cases outcome with
    | done =>
      simp only [advanceSimulation] at h
      split at h
      · rename_i hrow
        cases h
        exact .ask hrow
      · cases h
        exact .askOnly _
    | fails error aborted =>
      cases h
      exact .askOnly _
    | lost error aborted => cases h
    | replies status => cases h
  | registered uid =>
    cases outcome with
    | done =>
      cases h
      exact .remember
    | fails error aborted =>
      cases h
      exact .forgotten
    | lost error aborted =>
      cases h
      exact .remember
    | replies status => cases h
  | admitted uid =>
    cases outcome with
    | done =>
      simp only [advanceSimulation] at h
      cases hread : call.endpoint.read with
      | error response =>
        rw [hread] at h
        cases h
        exact .answer _
      | ok payload =>
        rw [hread] at h
        cases h
        exact .parse hread
    | fails error aborted =>
      cases h
      exact .answer _
    | lost error aborted => cases h
    | replies status => cases h
  | parsed uid payload =>
    cases outcome with
    | done =>
      simp only [advanceSimulation] at h
      split at h
      · rename_i hsuccess
        cases h
        exact .charge hsuccess
      · cases h
        exact .chargeOnly _
    | fails error aborted =>
      cases h
      exact .answer _
    | lost error aborted =>
      cases h
      exact .chargeOnly _
    | replies status => cases h
  | charged uid payload time =>
    cases outcome with
    | done => cases h
    | fails error aborted =>
      cases h
      exact .answer _
    | lost error aborted =>
      cases h
      exact .send _
    | replies status =>
      cases h
      exact .send _
  | answered response => cases outcome <;> cases h

variable {D : Type} [DecidableEq D] (digest : String → D) (inviteCodes : List String)

/-- An attempt with a code, as it is counted. -/
def tried (s : Shared K) (call : SyncCall K) : Shared K :=
  { s with
    signup := (charge s.signup s.clock ("invite:" ++ call.clientIp) 1 inviteRateLimit).2
    attempts := (call.clientIp, s.clock) :: s.attempts }

/-- The steps of a sign-up's handler, by what they change. -/
inductive SyncStep (s : Shared K) (call : SyncCall K) : SyncStage → Shared K → SyncStage → Prop
  | keep {stage stage' : SyncStage} (hstage : ∀ uid, stage' ≠ .invited uid) :
    SyncStep s call stage s stage'
  /-- Refused, or charged and rejected. -/
  | countOnly {stage : SyncStage} (response : Response) :
    SyncStep s call stage { s with
      signup := (charge s.signup s.clock ("invite:" ++ call.clientIp) 1 inviteRateLimit).2 }
      (.answered response)
  | wrong {stage : SyncStage} (response : Response)
      (hsuccess : (charge s.signup s.clock ("invite:" ++ call.clientIp) 1
        inviteRateLimit).1.success = true) :
    SyncStep s call stage (tried s call) (.answered response)
  | invite {uid code : String} (hcode : verifyInviteCode digest inviteCodes (some code) = true)
      (hsuccess : (charge s.signup s.clock ("invite:" ++ call.clientIp) 1
        inviteRateLimit).1.success = true) :
    SyncStep s call (.unknown uid (some code))
      { tried s call with invited := (uid, code) :: s.invited } (.invited uid)
  | insert {uid : String} (response : Response) :
    SyncStep s call (.invited uid) { s with users := s.users.insert uid } (.answered response)

theorem advanceSync_step {s s' : Shared K} {call : SyncCall K} {stage stage' : SyncStage}
    {outcome : Outcome}
    (h : advanceSync digest inviteCodes s call stage outcome = some (s', stage')) :
    SyncStep digest inviteCodes s call stage s' stage' := by
  cases stage with
  | arrived =>
    cases outcome with
    | done =>
      cases h
      refine .keep fun uid => ?_
      split <;> try simp
      split <;> try simp
      split <;> simp
    | fails error aborted =>
      cases h
      exact .keep fun uid => by simp
    | lost error aborted => cases h
    | replies status => cases h
  | read uid inviteCode =>
    cases outcome with
    | done =>
      cases h
      refine .keep fun uid' => ?_
      split <;> simp
    | fails error aborted =>
      cases h
      exact .keep fun uid => by simp
    | lost error aborted => cases h
    | replies status => cases h
  | unknown uid inviteCode =>
    cases outcome with
    | done =>
      simp only [advanceSync] at h
      split at h
      · rename_i hsuccess
        cases inviteCode with
        | none =>
          cases h
          exact .wrong _ hsuccess
        | some code =>
          dsimp only at h
          split at h
          · rename_i hcode
            cases h
            exact .invite hcode hsuccess
          · cases h
            exact .wrong _ hsuccess
      · cases h
        exact .countOnly _
    | fails error aborted =>
      cases h
      exact .keep fun uid => by simp
    | lost error aborted =>
      cases h
      exact .countOnly _
    | replies status => cases h
  | invited uid =>
    cases outcome with
    | done =>
      cases h
      exact .insert _
    | fails error aborted =>
      cases h
      exact .keep fun uid => by simp
    | lost error aborted =>
      cases h
      exact .insert _
    | replies status => cases h
  | answered response => cases outcome <;> cases h

end Steps

/-! ## What every step keeps -/

section Keeps

variable [Field K] [LinearOrder K]

/-- A run of a quota object up to a time, none of whose calls costs less than nothing. -/
structure Metered (budget : String → Budget K) (clock now : K) (run : QuotaRun K) : Prop where
  reached : Runs.Reaches (Runs.Next QuotaRun.step fun _ event => event.Within budget)
    (.start clock) run
  clock_le : run.clock ≤ now
  costs : ∀ call ∈ run.calls, 0 ≤ call.cost

theorem Metered.start (budget : String → Budget K) (clock : K) :
    Metered budget clock clock (.start clock) := by
  refine ⟨.refl, le_rfl, fun call hcall => ?_⟩
  cases hcall

theorem Metered.charge {budget : String → Budget K} {clock now : K} {run : QuotaRun K}
    (h : Metered budget clock now run) {key : String} {cost : K} (hcost : 0 ≤ cost)
    {given : Budget K} (hgiven : given = budget key) :
    Metered budget clock now (charge run now key cost given).2 :=
  ⟨h.reached.tail ⟨.consume now key cost given, hgiven, charge_step h.clock_le key cost given⟩,
    le_rfl, List.forall_mem_cons.mpr ⟨hcost, h.costs⟩⟩

theorem Metered.alarm {budget : String → Budget K} {clock now : K} {run run' : QuotaRun K}
    (h : Metered budget clock now run) (hstep : run.step (.alarm now) = some run') :
    Metered budget clock now run' := by
  refine ⟨h.reached.tail ⟨.alarm now, trivial, hstep⟩, ?_, ?_⟩
  · obtain ⟨-, -, -, rfl⟩ := QuotaRun.step_alarm.mp hstep
    exact le_rfl
  · obtain ⟨-, -, -, rfl⟩ := QuotaRun.step_alarm.mp hstep
    exact h.costs

/-- The budget of each key of the simulation shard. -/
def simulationBudgetOf (key : String) : Budget K :=
  if "simulate-paths:".toList <+: key.toList then simulationPathBudget else simulationBudget

omit [LinearOrder K] in
theorem simulationBudgetOf_count (uid : String) :
    (simulationBudget : Budget K) = simulationBudgetOf ("simulate:" ++ uid) := by
  have hother : ¬"simulate-paths:".toList <+: ("simulate:" ++ uid).toList := by
    rw [String.toList_append]
    rintro ⟨rest, hrest⟩
    have hhead := congrArg (List.take 9) hrest
    revert hhead
    simp
  rw [simulationBudgetOf, if_neg hother]

omit [LinearOrder K] in
theorem simulationBudgetOf_paths (uid : String) :
    (simulationPathBudget : Budget K) = simulationBudgetOf ("simulate-paths:" ++ uid) := by
  have hprefix : "simulate-paths:".toList <+: ("simulate-paths:" ++ uid).toList := by
    rw [String.toList_append]
    exact List.prefix_append _ _
  rw [simulationBudgetOf, if_pos hprefix]

/-- An account that was there at first, or that a code was given for. -/
def Member (users : List String) (invited : List (String × String)) (uid : String) : Prop :=
  uid ∈ users ∨ ∃ code, (uid, code) ∈ invited

theorem Member.mono {users : List String} {invited invited' : List (String × String)} {uid : String}
    (h : Member users invited uid) (hsub : invited ⊆ invited') : Member users invited' uid :=
  h.imp_right fun ⟨code, hcode⟩ => ⟨code, hsub hcode⟩

variable [FloorRing K] {D : Type} [DecidableEq D] (digest : String → D) (inviteCodes : List String)
  (clock : K) (users : List String)

/-- What holds of the shared state. -/
structure Inv (s : Shared K) : Prop where
  signup : Metered (fun _ => inviteRateLimit) clock s.clock s.signup
  simulation : Metered simulationBudgetOf clock s.clock s.simulation
  expires : ∀ entry expires, s.cache entry = some expires → expires ≤ s.clock + membershipTtl
  cached : ∀ entry expires, s.cache entry = some expires → Member users s.invited entry.2
  rows : ∀ uid ∈ s.users, Member users s.invited uid
  invited : ∀ entry ∈ s.invited, verifyInviteCode digest inviteCodes (some entry.2) = true
  sent : ∀ sent ∈ s.sent, sent.call.uid = some sent.uid ∧
    sent.call.endpoint.read = .ok sent.payload ∧ Member users s.invited sent.uid

/-- What a handler has found out so far. -/
def SimulationSound (invited : List (String × String)) (call : SimulationCall K) :
    SimulationStage K → Prop
  | .arrived | .answered _ => True
  | .counted uid _ | .uncached uid _ => call.uid = some uid
  | .registered uid | .admitted uid => call.uid = some uid ∧ Member users invited uid
  | .parsed uid payload | .charged uid payload _ =>
    call.uid = some uid ∧ call.endpoint.read = .ok payload ∧ Member users invited uid

def Sound (s : Shared K) : Job K → Prop
  | .simulation call stage => SimulationSound users s.invited call stage
  | .sync _ (.invited uid) => Member users s.invited uid
  | .sync _ _ => True

theorem Sound.mono {users : List String} {s s' : Shared K} (hsub : s.invited ⊆ s'.invited)
    {job : Job K} (h : Sound users s job) : Sound users s' job := by
  cases job with
  | simulation call stage =>
    cases stage with
    | arrived => trivial
    | counted uid time => exact h
    | uncached uid time => exact h
    | registered uid => exact ⟨h.1, h.2.mono hsub⟩
    | admitted uid => exact ⟨h.1, h.2.mono hsub⟩
    | parsed uid payload => exact ⟨h.1, h.2.1, h.2.2.mono hsub⟩
    | charged uid payload time => exact ⟨h.1, h.2.1, h.2.2.mono hsub⟩
    | answered response => trivial
  | sync call stage =>
    cases stage with
    | invited uid => exact Member.mono h hsub
    | arrived => trivial
    | read uid code => trivial
    | unknown uid code => trivial
    | answered response => trivial

variable {digest inviteCodes clock users} [IsStrictOrderedRing K]

theorem Inv.simulationStep {s s' : Shared K} {call : SimulationCall K}
    {stage stage' : SimulationStage K} (h : Inv digest inviteCodes clock users s)
    (hsound : SimulationSound users s.invited call stage)
    (hstep : SimulationStep s call stage s' stage') :
    Inv digest inviteCodes clock users s' ∧ SimulationSound users s'.invited call stage' ∧
      s.invited ⊆ s'.invited := by
  have hcount : ∀ uid, Inv digest inviteCodes clock users { s with simulation :=
      (charge s.simulation s.clock ("simulate:" ++ uid) 1 simulationBudget).2 } := fun uid =>
    { h with simulation := h.simulation.charge zero_le_one (simulationBudgetOf_count uid) }
  cases hstep with
  | answer response => exact ⟨h, trivial, List.Subset.refl _⟩
  | count huid hsuccess => exact ⟨hcount _, huid, List.Subset.refl _⟩
  | countOnly response => exact ⟨hcount _, trivial, List.Subset.refl _⟩
  | @hit uid time hcached =>
    refine ⟨h, ⟨hsound, ?_⟩, List.Subset.refl _⟩
    simp only [Shared.cached, Option.any_eq_true] at hcached
    obtain ⟨expires, hentry, -⟩ := hcached
    exact h.cached (call.place, uid) expires hentry
  | miss => exact ⟨h, hsound, List.Subset.refl _⟩
  | ask hrow => exact ⟨{ h with }, ⟨hsound, h.rows _ hrow⟩, List.Subset.refl _⟩
  | askOnly response => exact ⟨{ h with }, trivial, List.Subset.refl _⟩
  | @remember uid =>
    have hentries : ∀ entry expires, (s.remember call.place uid).cache entry = some expires →
        expires = s.clock + membershipTtl ∧ entry = (call.place, uid) ∨
          s.cache entry = some expires := by
      intro entry expires hentry
      by_cases heq : entry = (call.place, uid)
      · subst heq
        simp only [Shared.remember, Function.update_self, Option.some.injEq] at hentry
        exact .inl ⟨hentry.symm, rfl⟩
      · simp only [Shared.remember, Function.update_of_ne heq] at hentry
        exact .inr hentry
    have hexpires : ∀ entry expires, (s.remember call.place uid).cache entry = some expires →
        expires ≤ s.clock + membershipTtl := by
      intro entry expires hentry
      rcases hentries entry expires hentry with ⟨rfl, -⟩ | hold
      · exact le_rfl
      · exact h.expires entry expires hold
    have hcached : ∀ entry expires, (s.remember call.place uid).cache entry = some expires →
        Member users s.invited entry.2 := by
      intro entry expires hentry
      rcases hentries entry expires hentry with ⟨-, rfl⟩ | hold
      · exact hsound.2
      · exact h.cached entry expires hold
    exact ⟨{ h with expires := hexpires, cached := hcached }, hsound, List.Subset.refl _⟩
  | forgotten => exact ⟨h, hsound, List.Subset.refl _⟩
  | parse hread => exact ⟨h, ⟨hsound.1, hread, hsound.2⟩, List.Subset.refl _⟩
  | @charge uid payload hsuccess =>
    have hcost : (0 : K) ≤ payload.paths := by exact_mod_cast read_paths hsound.2.1
    exact ⟨{ h with simulation := h.simulation.charge hcost (simulationBudgetOf_paths uid) },
      hsound, List.Subset.refl _⟩
  | @chargeOnly uid payload response =>
    have hcost : (0 : K) ≤ payload.paths := by exact_mod_cast read_paths hsound.2.1
    exact ⟨{ h with simulation := h.simulation.charge hcost (simulationBudgetOf_paths uid) },
      trivial, List.Subset.refl _⟩
  | send response =>
    exact ⟨{ h with sent := List.forall_mem_cons.mpr ⟨hsound, h.sent⟩ }, trivial,
      List.Subset.refl _⟩

omit [IsStrictOrderedRing K] in
theorem Inv.syncStep {s s' : Shared K} {call : SyncCall K} {stage stage' : SyncStage}
    (h : Inv digest inviteCodes clock users s) (hsound : Sound users s (.sync call stage))
    (hstep : SyncStep digest inviteCodes s call stage s' stage') :
    Inv digest inviteCodes clock users s' ∧ Sound users s' (.sync call stage') ∧
      s.invited ⊆ s'.invited := by
  have hcharge : Metered (fun _ => inviteRateLimit) clock s.clock
      (charge s.signup s.clock ("invite:" ++ call.clientIp) 1 inviteRateLimit).2 :=
    h.signup.charge zero_le_one rfl
  cases hstep with
  | keep hstage =>
    refine ⟨h, ?_, List.Subset.refl _⟩
    cases stage' with
    | invited uid => exact absurd rfl (hstage uid)
    | arrived => trivial
    | read uid code => trivial
    | unknown uid code => trivial
    | answered response => trivial
  | countOnly response => exact ⟨{ h with signup := hcharge }, trivial, List.Subset.refl _⟩
  | wrong response hsuccess => exact ⟨{ h with signup := hcharge }, trivial, List.Subset.refl _⟩
  | @invite uid code hcode hsuccess =>
    have hsub : s.invited ⊆ (uid, code) :: s.invited := List.subset_cons_self _ _
    refine ⟨?_, .inr ⟨code, List.mem_cons_self⟩, hsub⟩
    exact
      { signup := hcharge
        simulation := h.simulation
        expires := h.expires
        cached := fun entry expires hentry => (h.cached entry expires hentry).mono hsub
        rows := fun uid hrow => (h.rows uid hrow).mono hsub
        invited := List.forall_mem_cons.mpr ⟨hcode, h.invited⟩
        sent := fun sent hsent =>
          let ⟨huid, hread, hmember⟩ := h.sent sent hsent
          ⟨huid, hread, hmember.mono hsub⟩ }
  | insert response =>
    refine ⟨{ h with rows := fun uid hrow => ?_ }, trivial, List.Subset.refl _⟩
    rcases List.mem_insert_iff.mp hrow with rfl | hold
    · exact hsound
    · exact h.rows uid hold

omit [FloorRing K] [IsStrictOrderedRing K] in
/-- Nothing that happens besides turns the clock back or tells a cache anything. -/
theorem happens_cache {s s' : Shared K} {happening : Happening K}
    (h : happens s happening = some s') :
    s.clock ≤ s'.clock ∧
      ∀ entry expires, s'.cache entry = some expires → s.cache entry = some expires := by
  cases happening with
  | elapse now =>
    simp only [Edge.happens] at h
    split at h
    · rename_i hnow
      cases h
      exact ⟨hnow, fun entry expires hentry => hentry⟩
    · cases h
  | signupAlarm =>
    obtain ⟨signup, -, rfl⟩ := Option.map_eq_some_iff.mp h
    exact ⟨le_rfl, fun entry expires hentry => hentry⟩
  | simulationAlarm =>
    obtain ⟨simulation, -, rfl⟩ := Option.map_eq_some_iff.mp h
    exact ⟨le_rfl, fun entry expires hentry => hentry⟩
  | remove uid =>
    cases h
    exact ⟨le_rfl, fun entry expires hentry => hentry⟩
  | evict place uid =>
    cases h
    refine ⟨le_rfl, fun entry expires hentry => ?_⟩
    dsimp only at hentry
    by_cases heq : entry = (place, uid)
    · subst heq
      rw [Function.update_self] at hentry
      cases hentry
    · rwa [Function.update_of_ne heq] at hentry

theorem Inv.happens {s s' : Shared K} {happening : Happening K}
    (h : Inv digest inviteCodes clock users s) (hhappens : happens s happening = some s') :
    Inv digest inviteCodes clock users s' ∧ s.invited ⊆ s'.invited := by
  cases happening with
  | elapse now =>
    simp only [Edge.happens] at hhappens
    split at hhappens
    · rename_i hnow
      cases hhappens
      exact ⟨{ h with
        signup := ⟨h.signup.reached, h.signup.clock_le.trans hnow, h.signup.costs⟩
        simulation := ⟨h.simulation.reached, h.simulation.clock_le.trans hnow, h.simulation.costs⟩
        expires := fun entry expires hentry =>
          (h.expires entry expires hentry).trans (add_le_add_left hnow _) }, List.Subset.refl _⟩
    · cases hhappens
  | signupAlarm =>
    obtain ⟨signup, hstep, rfl⟩ := Option.map_eq_some_iff.mp hhappens
    exact ⟨{ h with signup := h.signup.alarm hstep }, List.Subset.refl _⟩
  | simulationAlarm =>
    obtain ⟨simulation, hstep, rfl⟩ := Option.map_eq_some_iff.mp hhappens
    exact ⟨{ h with simulation := h.simulation.alarm hstep }, List.Subset.refl _⟩
  | remove uid =>
    cases hhappens
    exact ⟨{ h with rows := fun other hrow => h.rows other (List.mem_of_mem_filter hrow) },
      List.Subset.refl _⟩
  | evict place uid =>
    have hentries := (happens_cache hhappens).2
    cases hhappens
    exact ⟨{ h with
      expires := fun entry expires hentry => h.expires entry expires (hentries _ _ hentry)
      cached := fun entry expires hentry => h.cached entry expires (hentries _ _ hentry) },
      List.Subset.refl _⟩

theorem edge_keeps (during : Shared K → Prop) :
    Handlers.Keeps (edge digest inviteCodes) during (Inv digest inviteCodes clock users)
      (Sound users) where
  start := by
    intro s call h
    cases call <;> trivial
  advance := by
    intro s s' job job' outcome h hsound _ hadvance
    cases job with
    | simulation call stage =>
      obtain ⟨next, hnext, heq⟩ := Option.map_eq_some_iff.mp hadvance
      cases heq
      obtain ⟨hinv, hsound', hinvited⟩ := h.simulationStep hsound (advanceSimulation_step hnext)
      exact ⟨hinv, hsound', fun other hother => hother.mono hinvited⟩
    | sync call stage =>
      obtain ⟨next, hnext, heq⟩ := Option.map_eq_some_iff.mp hadvance
      cases heq
      obtain ⟨hinv, hsound', hinvited⟩ :=
        h.syncStep hsound (advanceSync_step digest inviteCodes hnext)
      exact ⟨hinv, hsound', fun other hother => hother.mono hinvited⟩
  happens := by
    intro s s' happening h _ hhappens
    obtain ⟨hinv, hinvited⟩ := h.happens hhappens
    exact ⟨hinv, fun other hother => hother.mono hinvited⟩

omit [IsStrictOrderedRing K] in
theorem holds_start : Handlers.Holds (Inv digest inviteCodes clock users) (Sound users)
    ⟨.start clock users, []⟩ := by
  refine ⟨⟨.start _ clock, .start _ clock, ?_, ?_, fun uid huid => .inl huid, ?_, ?_⟩, ?_⟩
  · intro entry expires hentry
    cases hentry
  · intro entry expires hentry
    cases hentry
  · intro entry hentry
    cases hentry
  · intro sent hsent
    cases hsent
  · intro job hjob
    cases hjob

end Keeps

end RetirementPlanner.Web.Edge
