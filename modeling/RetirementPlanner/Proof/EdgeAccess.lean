import Mathlib.Algebra.Order.Monoid.Prod
import RetirementPlanner.Proof.Edge
import RetirementPlanner.Proof.MainRun

/-!
# Who is served at the edge, and how much

* `compute_bounded`: what the requests charged to an account in a minute can cost the database and
  the native service, and how many codes an address can try;
* `sent_members`: what is sent was asked for by a verified member;
* `removed_account`: an account that is removed is refused within a minute.
-/

namespace RetirementPlanner.Web.Edge

open Schema FixedWindow

variable {K : Type}

/-! ## What was granted -/

section Grants

variable [Field K] [LinearOrder K]

/-- What was granted, the latest first, a call more. -/
theorem grantsTo_charge {run : QuotaRun K} {now : K} {key : String} {cost : K} {budget : Budget K}
    (hsuccess : (charge run now key cost budget).1.success = true) :
    ((grantsTo key (charge run now key cost budget).2.calls : List (K × K)) : Multiset (K × K))
      = {(now, cost)} + (grantsTo key run.calls : Multiset (K × K)) := by
  rw [charge, grantsTo_cons, if_pos ⟨rfl, hsuccess⟩]
  rfl

theorem grantsTo_charge_le (run : QuotaRun K) (now : K) (key key' : String) (cost : K)
    (budget : Budget K) :
    (grantsTo key run.calls : Multiset (K × K))
      ≤ (grantsTo key (charge run now key' cost budget).2.calls : List (K × K)) := by
  rw [charge, grantsTo_cons]
  split
  · exact Multiset.le_cons_self _ _
  · exact le_rfl

theorem grantsTo_alarm {run run' : QuotaRun K} {now : K} (hstep : run.step (.alarm now) = some run')
    (key : String) : grantsTo key run'.calls = grantsTo key run.calls := by
  obtain ⟨-, -, -, rfl⟩ := QuotaRun.step_alarm.mp hstep
  rfl

/-- The queries made for an account, with the times their requests were charged. -/
def queriesFor (uid : String) (queries : List (String × K)) : List (K × K) :=
  (queries.filter fun query => query.1 = uid).map fun query => (query.2, 1)

/-- What was sent for an account, with the times it was charged. -/
def sentFor (uid : String) (sent : List (Sent K)) : List (K × K) :=
  (sent.filter fun sent => sent.uid = uid).map fun sent => (sent.time, (sent.payload.paths : K))

/-- What an account was charged: for requests, and for paths. -/
def granted (uid : String) (s : Shared K) : Multiset (K × K) × Multiset (K × K) :=
  (grantsTo ("simulate:" ++ uid) s.simulation.calls,
    grantsTo ("simulate-paths:" ++ uid) s.simulation.calls)

/-- What was done for it: queries, and payloads sent. -/
def used (uid : String) (s : Shared K) : Multiset (K × K) × Multiset (K × K) :=
  (queriesFor uid s.queries, sentFor uid s.sent)

/-- What a handler was charged for, and may yet do. -/
def held (uid : String) : Job K → Multiset (K × K) × Multiset (K × K)
  | .simulation _ (.counted uid' time) | .simulation _ (.uncached uid' time) =>
    if uid' = uid then ({(time, 1)}, 0) else 0
  | .simulation _ (.charged uid' payload time) =>
    if uid' = uid then (0, {(time, (payload.paths : K))}) else 0
  | _ => 0

/-- The attempts with a code from an address. -/
def attemptsFrom (ip : String) (attempts : List (String × K)) : List (K × K) :=
  (attempts.filter fun attempt => attempt.1 = ip).map fun attempt => (attempt.2, 1)

omit [LinearOrder K] in
theorem used_ask (uid : String) (s : Shared K) (uid' : String) (time : K) :
    used uid (s.ask uid' time) = (if uid' = uid then ({(time, 1)}, 0) else 0) + used uid s := by
  rw [used, Shared.ask, queriesFor, List.filter_cons]
  simp only [decide_eq_true_eq]
  split
  · rw [Prod.ext_iff]
    exact ⟨rfl, (zero_add _).symm⟩
  · rw [zero_add]
    rfl

omit [LinearOrder K] in
theorem used_send (uid : String) (s : Shared K) (call : SimulationCall K) (uid' : String)
    (payload : Payload K) (time : K) :
    used uid (s.send call uid' payload time)
      = (if uid' = uid then (0, {(time, (payload.paths : K))}) else 0) + used uid s := by
  rw [used, Shared.send, sentFor, List.filter_cons]
  simp only [decide_eq_true_eq]
  split
  · rw [Prod.ext_iff]
    exact ⟨(zero_add _).symm, rfl⟩
  · rw [zero_add]
    rfl

theorem granted_charge_le (uid : String) (s : Shared K) (key : String) (cost : K)
    (budget : Budget K) :
    granted uid s ≤ granted uid { s with
      simulation := (charge s.simulation s.clock key cost budget).2 } :=
  ⟨grantsTo_charge_le _ _ _ _ _ _, grantsTo_charge_le _ _ _ _ _ _⟩

/-- What other steps leave alone. -/
structure SameCompute (s s' : Shared K) : Prop where
  granted : ∀ key, grantsTo key s'.simulation.calls = grantsTo key s.simulation.calls
  queries : s'.queries = s.queries
  sent : s'.sent = s.sent

variable [FloorRing K] {D : Type} [DecidableEq D] {digest : String → D} {inviteCodes : List String}

omit [FloorRing K] in
theorem SyncStep.sameCompute {s s' : Shared K} {call : SyncCall K} {stage stage' : SyncStage}
    (h : SyncStep digest inviteCodes s call stage s' stage') : SameCompute s s' := by
  cases h <;> exact ⟨fun key => rfl, rfl, rfl⟩

theorem SimulationStep.signup {s s' : Shared K} {call : SimulationCall K}
    {stage stage' : SimulationStage K} (h : SimulationStep s call stage s' stage') :
    s'.signup = s.signup ∧ s'.attempts = s.attempts := by
  cases h <;> exact ⟨rfl, rfl⟩

omit [FloorRing K] in
theorem happens_granted {s s' : Shared K} {happening : Happening K}
    (h : Edge.happens s happening = some s') :
    SameCompute s s' ∧ (∀ key, grantsTo key s'.signup.calls = grantsTo key s.signup.calls) ∧
      s'.attempts = s.attempts := by
  cases happening with
  | elapse now =>
    simp only [Edge.happens] at h
    split at h
    · cases h
      exact ⟨⟨fun key => rfl, rfl, rfl⟩, fun key => rfl, rfl⟩
    · cases h
  | signupAlarm =>
    obtain ⟨signup, hstep, rfl⟩ := Option.map_eq_some_iff.mp h
    exact ⟨⟨fun key => rfl, rfl, rfl⟩, grantsTo_alarm hstep, rfl⟩
  | simulationAlarm =>
    obtain ⟨simulation, hstep, rfl⟩ := Option.map_eq_some_iff.mp h
    exact ⟨⟨grantsTo_alarm hstep, rfl, rfl⟩, fun key => rfl, rfl⟩
  | remove uid =>
    cases h
    exact ⟨⟨fun key => rfl, rfl, rfl⟩, fun key => rfl, rfl⟩
  | evict place uid =>
    cases h
    exact ⟨⟨fun key => rfl, rfl, rfl⟩, fun key => rfl, rfl⟩

/-- A query is made for a request that was charged, and what is sent was charged. -/
theorem SimulationStep.accounts {s s' : Shared K} {call : SimulationCall K}
    {stage stage' : SimulationStage K} (h : SimulationStep s call stage s' stage') (uid : String) :
    ∃ more, more + granted uid s ≤ granted uid s' ∧
      used uid s' + held uid (.simulation call stage')
        ≤ more + (used uid s + held uid (.simulation call stage)) := by
  -- Most steps are granted nothing and do nothing.
  have hidle : ∀ {held held' : Multiset (K × K) × Multiset (K × K)}, held' ≤ held →
      granted uid s ≤ granted uid s' → used uid s' = used uid s →
        ∃ more, more + granted uid s ≤ granted uid s' ∧
          used uid s' + held' ≤ more + (used uid s + held) := by
    intro held held' hheld hgranted hused
    refine ⟨0, by rwa [zero_add], ?_⟩
    rw [zero_add, hused]
    exact add_le_add_right hheld _
  have hnone : ∀ held : Multiset (K × K) × Multiset (K × K), 0 ≤ held := fun held =>
    ⟨Multiset.zero_le _, Multiset.zero_le _⟩
  cases h with
  | answer response => exact hidle (hnone _) le_rfl rfl
  | @count uid' huid hsuccess =>
    by_cases hsame : uid' = uid
    · subst hsame
      refine ⟨({(s.clock, 1)}, 0), ⟨(grantsTo_charge hsuccess).ge, ?_⟩, ?_⟩
      · exact (zero_add _).trans_le (grantsTo_charge_le _ _ _ _ _ _)
      · simp only [held, if_true, add_zero]
        rw [add_comm]
        exact le_rfl
    · refine hidle ?_ (granted_charge_le _ _ _ _ _) rfl
      simp only [held, if_neg hsame]
      exact le_rfl
  | countOnly response => exact hidle (hnone _) (granted_charge_le _ _ _ _ _) rfl
  | hit hcached => exact hidle (hnone _) le_rfl rfl
  | miss => exact hidle le_rfl le_rfl rfl
  | ask hrow =>
    refine ⟨0, (zero_add _).le, ?_⟩
    rw [used_ask, zero_add, add_comm (ite _ _ _)]
    exact (add_zero _).le
  | askOnly response =>
    refine ⟨0, (zero_add _).le, ?_⟩
    rw [used_ask, zero_add, add_comm (ite _ _ _)]
    exact (add_zero _).le
  | remember => exact hidle le_rfl le_rfl rfl
  | forgotten => exact hidle le_rfl le_rfl rfl
  | parse hread => exact hidle le_rfl le_rfl rfl
  | @charge uid' payload hsuccess =>
    by_cases hsame : uid' = uid
    · subst hsame
      refine ⟨(0, {(s.clock, (payload.paths : K))}), ⟨?_, (grantsTo_charge hsuccess).ge⟩, ?_⟩
      · exact (zero_add _).trans_le (grantsTo_charge_le _ _ _ _ _ _)
      · simp only [held, if_true, add_zero]
        rw [add_comm]
        exact le_rfl
    · refine hidle ?_ (granted_charge_le _ _ _ _ _) rfl
      simp only [held, if_neg hsame]
      exact le_rfl
  | chargeOnly response => exact hidle le_rfl (granted_charge_le _ _ _ _ _) rfl
  | send response =>
    refine ⟨0, (zero_add _).le, ?_⟩
    rw [used_send, zero_add, add_comm (ite _ _ _)]
    exact (add_zero _).le

omit [FloorRing K] in
/-- A code is tried in a call that was granted. -/
theorem SyncStep.attempts {s s' : Shared K} {call : SyncCall K} {stage stage' : SyncStage}
    (h : SyncStep digest inviteCodes s call stage s' stage') (ip : String) :
    ∃ more : Multiset (K × K),
      more + (grantsTo ("invite:" ++ ip) s.signup.calls : Multiset (K × K))
          ≤ (grantsTo ("invite:" ++ ip) s'.signup.calls : List (K × K)) ∧
        (attemptsFrom ip s'.attempts : Multiset (K × K))
          ≤ more + (attemptsFrom ip s.attempts : Multiset (K × K)) := by
  have htried : (charge s.signup s.clock ("invite:" ++ call.clientIp) 1
      inviteRateLimit).1.success = true →
      ∃ more : Multiset (K × K),
        more + (grantsTo ("invite:" ++ ip) s.signup.calls : Multiset (K × K))
          ≤ (grantsTo ("invite:" ++ ip) (tried s call).signup.calls : List (K × K)) ∧
        (attemptsFrom ip (tried s call).attempts : Multiset (K × K))
          ≤ more + (attemptsFrom ip s.attempts : Multiset (K × K)) := by
    intro hsuccess
    by_cases hip : call.clientIp = ip
    · subst hip
      refine ⟨{(s.clock, 1)}, (grantsTo_charge hsuccess).ge, ?_⟩
      simp only [tried, attemptsFrom, List.filter_cons, decide_true, if_true]
      exact le_rfl
    · refine ⟨0, ?_, ?_⟩
      · rw [zero_add]
        exact grantsTo_charge_le _ _ _ _ _ _
      · rw [zero_add]
        simp only [tried, attemptsFrom, List.filter_cons, hip, decide_false, Bool.false_eq_true,
          if_false]
        exact le_rfl
  cases h with
  | keep hstage => exact ⟨0, by rw [zero_add], by rw [zero_add]⟩
  | countOnly response =>
    refine ⟨0, ?_, by rw [zero_add]⟩
    rw [zero_add]
    exact grantsTo_charge_le _ _ _ _ _ _
  | wrong response hsuccess => exact htried hsuccess
  | invite hcode hsuccess => exact htried hsuccess
  | insert response => exact ⟨0, by rw [zero_add], by rw [zero_add]⟩

variable {clock : K} {users : List String}

theorem edge_accounts (during : Shared K → Prop) (uid : String) :
    Handlers.Accounts (edge digest inviteCodes) during (Inv digest inviteCodes clock users)
      (Sound users) (granted uid) (used uid) (held uid) where
  start := by
    intro call
    cases call <;> rfl
  advance := by
    intro s s' job job' outcome _ _ _ hadvance
    cases job with
    | simulation call stage =>
      obtain ⟨next, hnext, heq⟩ := Option.map_eq_some_iff.mp hadvance
      cases heq
      exact (advanceSimulation_step hnext).accounts uid
    | sync call stage =>
      obtain ⟨next, hnext, heq⟩ := Option.map_eq_some_iff.mp hadvance
      cases heq
      have hsame := (advanceSync_step digest inviteCodes hnext).sameCompute
      refine ⟨0, ?_, ?_⟩
      · rw [zero_add, granted, granted, hsame.granted, hsame.granted]
      · rw [zero_add, used, used, hsame.queries, hsame.sent]
        exact le_rfl
  happens := by
    intro s s' happening _ _ hhappens
    have hsame := (happens_granted hhappens).1
    refine ⟨?_, ?_⟩
    · rw [used, used, hsame.queries, hsame.sent]
    · rw [granted, granted, hsame.granted, hsame.granted]

theorem attempts_accounts (during : Shared K → Prop) (ip : String) :
    Handlers.Accounts (edge digest inviteCodes) during (Inv digest inviteCodes clock users)
      (Sound users)
      (fun s => (grantsTo ("invite:" ++ ip) s.signup.calls : Multiset (K × K)))
      (fun s => (attemptsFrom ip s.attempts : Multiset (K × K))) (fun _ => 0) where
  start := fun call => rfl
  advance := by
    intro s s' job job' outcome _ _ _ hadvance
    cases job with
    | simulation call stage =>
      obtain ⟨next, hnext, heq⟩ := Option.map_eq_some_iff.mp hadvance
      cases heq
      obtain ⟨hsignup, hattempts⟩ := (advanceSimulation_step hnext).signup
      refine ⟨0, ?_, ?_⟩
      · rw [zero_add, hsignup]
      · rw [zero_add, hattempts]
    | sync call stage =>
      obtain ⟨next, hnext, heq⟩ := Option.map_eq_some_iff.mp hadvance
      cases heq
      obtain ⟨more, hgranted, hattempts⟩ :=
        (advanceSync_step digest inviteCodes hnext).attempts ip
      exact ⟨more, hgranted, by simpa only [add_zero] using hattempts⟩
  happens := by
    intro s s' happening _ _ hhappens
    obtain ⟨-, hgranted, hattempts⟩ := happens_granted hhappens
    exact ⟨by rw [hattempts], by rw [hgranted]⟩

end Grants

/-! ## A day at the edge -/

/-- The main run of a household, as it is posted. -/
def mainCall (uid : String) : SimulationCall ℚ where
  place := "AMS"
  uid := some uid
  endpoint := .monteCarlo ⟨some 1000, [600, 400],
    some (monteCarloRequestJson (MainRun.mainRequest (householdSpending 30000 1)))⟩

/-- Signs up with the code, then posts the main run. -/
def firstDay : List (Handlers.Event (Call ℚ) Outcome (Happening ℚ)) :=
  [.arrive (.sync ⟨"203.0.113.7", some ("u", some "u@example.com"),
      some ⟨none, [30], some (.obj [("inviteCode", .str "welcome")])⟩⟩)]
    ++ List.replicate 4 (.run 0 .done) ++ [.arrive (.simulation (mainCall "u"))]
    ++ List.replicate 6 (.run 1 .done) ++ [.run 1 (.replies 200)]

theorem firstDay_runs : ∃ state : Handlers.State (Shared ℚ) (Job ℚ),
    Runs.Reaches ((edge id ["welcome"]).Next fun _ => True) ⟨.start 0 [], []⟩ state ∧
      (edge id ["welcome"]).run (fun _ => true) ⟨.start 0 [], []⟩ firstDay = some state ∧
      state.shared.sent.map (fun sent => (sent.uid, sent.payload.paths)) = [("u", 5000)] := by
  have hruns : ((edge id ["welcome"]).run (fun _ => true) ⟨.start 0 [], []⟩ firstDay).any
      (fun state => decide
        (state.shared.sent.map (fun sent => (sent.uid, sent.payload.paths)) = [("u", 5000)]))
      = true := by
    decide +kernel
  obtain ⟨state, hrun, hsent⟩ := Option.any_eq_true _ _ |>.mp hruns
  have hreaches := Handlers.Model.reaches_of_run hrun
  simp only at hreaches
  exact ⟨state, hreaches, hrun, of_decide_eq_true hsent⟩

/-! ## Bounds -/

section Bounds

variable [Field K] [LinearOrder K]

variable [IsStrictOrderedRing K]

/-- What was done of what a key was granted, in a stretch of one window's length. -/
theorem Metered.between {budget : String → Budget K} {clock now : K} {run : QuotaRun K}
    (h : Metered budget clock now run) {key : String} {given : Budget K}
    (hgiven : given = budget key) (hlength : 0 < given.windowMs) (hlimit : 0 ≤ given.limit)
    {α : Type} {done : List α} {p : α → Prop} [DecidablePred p] {time cost : α → K}
    (hdone : ((done.filter p).map fun a => (time a, cost a) : Multiset (K × K))
      ≤ (grantsTo key run.calls : List (K × K))) (start : K) :
    ((done.filter fun a => p a ∧ start ≤ time a ∧ time a < start + given.windowMs).map cost).sum
      ≤ given.limit + given.limit := by
  subst hgiven
  have hbound := grants_between h.reached hlength hlimit h.costs hdone start
  rw [Multiset.filter_coe, Multiset.map_coe, Multiset.sum_coe, List.filter_map, List.map_map,
    List.filter_filter] at hbound
  refine le_of_eq_of_le ?_ hbound
  congr 2
  refine List.filter_congr fun a _ => ?_
  simp only [Function.comp_apply, Bool.decide_and, Bool.and_comm]

theorem Metered.count_between {budget : String → Budget K} {clock now : K} {run : QuotaRun K}
    (h : Metered budget clock now run) {key : String} {given : Budget K}
    (hgiven : given = budget key) (hlength : 0 < given.windowMs) (hlimit : 0 ≤ given.limit)
    {α : Type} {done : List α} {p : α → Prop} [DecidablePred p] {time : α → K}
    (hdone : (((done.filter p).map fun a => (time a, (1 : K)) : List (K × K)) : Multiset (K × K))
      ≤ (grantsTo key run.calls : List (K × K))) (start : K) :
    ((done.filter fun a => p a ∧ start ≤ time a ∧ time a < start + given.windowMs).length : K)
      ≤ given.limit + given.limit := by
  have hbound := h.between hgiven hlength hlimit hdone start
  rwa [List.map_const', List.sum_replicate, nsmul_one] at hbound

variable [FloorRing K] {D : Type} [DecidableEq D] {digest : String → D}
  {inviteCodes : List String} {clock : K} {users : List String}
  {state : Handlers.State (Shared K) (Job K)}

theorem covered_of_reached (hrun : Runs.Reaches ((edge digest inviteCodes).Next fun _ => True)
    ⟨.start clock users, []⟩ state) :
    Handlers.Holds (Inv digest inviteCodes clock users) (Sound users) state ∧
      (∀ uid, used uid state.shared ≤ granted uid state.shared) ∧
      ∀ ip, (attemptsFrom ip state.shared.attempts : Multiset (K × K))
        ≤ (grantsTo ("invite:" ++ ip) state.shared.signup.calls : List (K × K)) := by
  refine ⟨(edge_keeps _).reaches holds_start hrun, fun uid => ?_, fun ip => ?_⟩
  · have hcovered := (edge_accounts _ uid).reaches (edge_keeps _) holds_start (le_of_eq rfl) hrun
    refine (le_trans ?_ hcovered)
    exact le_add_of_nonneg_right (List.sum_nonneg fun more _ =>
      ⟨Multiset.zero_le _, Multiset.zero_le _⟩)
  · have hcovered := (attempts_accounts _ ip).reaches (edge_keeps _) holds_start (le_of_eq rfl) hrun
    exact (le_add_of_nonneg_right (Multiset.zero_le _)).trans hcovered

/-- **Nobody gets more than the budgets allow**, however requests interleave and whatever fails. The
requests of an account that are charged in one minute, whenever they go on, cost the database at
most 600 membership queries, registered or not, and the native service at most four million paths;
in any hour an address tries at most 20 codes. -/
theorem compute_bounded (hrun : Runs.Reaches ((edge digest inviteCodes).Next fun _ => True)
    ⟨.start clock users, []⟩ state) (uid ip : String) (start : K) :
    (state.shared.queries.filter fun query =>
        query.1 = uid ∧ start ≤ query.2 ∧ query.2 < start + 60 * 1000).length ≤ 600 ∧
      ((state.shared.sent.filter fun sent =>
        sent.uid = uid ∧ start ≤ sent.time ∧ sent.time < start + 60 * 1000).map
          fun sent => sent.payload.paths).sum ≤ 4000000 ∧
      (state.shared.attempts.filter fun attempt =>
        attempt.1 = ip ∧ start ≤ attempt.2 ∧ attempt.2 < start + 60 * 60 * 1000).length ≤ 20 := by
  obtain ⟨⟨hinv, -⟩, hused, hattempts⟩ := covered_of_reached hrun
  have hsmall : (0 : K) < 60 * 1000 ∧ (0 : K) < 60 * 60 * 1000 := by constructor <;> norm_num
  have hlimits : (0 : K) ≤ 300 ∧ (0 : K) ≤ 2000000 ∧ (0 : K) ≤ 10 := by
    refine ⟨?_, ?_, ?_⟩ <;> norm_num
  refine ⟨?_, ?_, ?_⟩
  · have hbound := hinv.simulation.count_between (simulationBudgetOf_count uid) hsmall.1 hlimits.1
      (hused uid).1 start
    refine (Nat.cast_le (α := K)).mp (hbound.trans ?_)
    show (300 : K) + 300 ≤ (600 : ℕ)
    norm_num
  · have hbound := hinv.simulation.between (simulationBudgetOf_paths uid) hsmall.1 hlimits.2.1
      (hused uid).2 start
    have hcast : ∀ sent : List (Sent K), (sent.map fun sent => (sent.payload.paths : K)).sum
        = ((sent.map fun sent => sent.payload.paths).sum : ℤ) := by
      intro sent
      rw [Int.cast_list_sum, List.map_map]
      rfl
    rw [hcast] at hbound
    refine (Int.cast_le (R := K)).mp (hbound.trans ?_)
    show (2000000 : K) + 2000000 ≤ (4000000 : ℤ)
    norm_num
  · have hbound := hinv.signup.count_between rfl hsmall.2 hlimits.2.2 (hattempts ip) start
    refine (Nat.cast_le (α := K)).mp (hbound.trans ?_)
    show (10 : K) + 10 ≤ (20 : ℕ)
    norm_num

theorem compute_bounded_firstDay : ∃ state : Handlers.State (Shared ℚ) (Job ℚ),
    state.shared.sent.map (fun sent => (sent.uid, sent.payload.paths)) = [("u", 5000)] ∧
      ((state.shared.sent.filter fun sent =>
        sent.uid = "u" ∧ 0 ≤ sent.time ∧ sent.time < 0 + 60 * 1000).map
          fun sent => sent.payload.paths).sum ≤ 4000000 := by
  obtain ⟨state, hreaches, -, hsent⟩ := firstDay_runs
  exact ⟨state, hsent, (compute_bounded hreaches "u" "203.0.113.7" 0).2.1⟩

/-! ## Who is served -/

theorem verifyInviteCode_some {code : String} :
    verifyInviteCode digest inviteCodes (some code) = true ↔
      code ≠ "" ∧ ∃ valid ∈ inviteCodes, digest code = digest valid := by
  have hfold : ∀ (codes : List String) (matched : Bool),
      codes.foldl (fun matched valid => decide (digest code = digest valid) || matched) matched
        = true ↔ matched = true ∨ ∃ valid ∈ codes, digest code = digest valid := by
    intro codes
    induction codes with
    | nil => simp
    | cons valid codes ih =>
      intro matched
      rw [List.foldl_cons, ih, Bool.or_eq_true, decide_eq_true_eq]
      simp only [List.mem_cons, exists_eq_or_imp]
      tauto
  simp only [verifyInviteCode, Bool.and_eq_true, ne_eq, hfold, Bool.false_eq_true, false_or,
    decide_eq_true_eq]

/-- **What is sent to the native service was asked for by a verified member.** The body of the
request was read as what is sent, and the account is one of the first or signed up with a valid
code; and the service takes every single simulation. -/
theorem sent_members (hrun : Runs.Reaches ((edge digest inviteCodes).Next fun _ => True)
    ⟨.start clock users, []⟩ state) {sent : Sent K} (hsent : sent ∈ state.shared.sent) :
    sent.call.uid = some sent.uid ∧ sent.call.endpoint.read = .ok sent.payload ∧
      (sent.uid ∈ users ∨ ∃ code, (sent.uid, code) ∈ state.shared.invited ∧
        ∃ valid ∈ inviteCodes, digest code = digest valid) ∧
      ∀ request, sent.payload = .monteCarlo request →
        admitSimulate request = .ok ⟨request.plan.engine, request.config.engine⟩ := by
  have hinv := ((edge_keeps _).reaches holds_start hrun).inv
  obtain ⟨huid, hread, hmember⟩ := hinv.sent sent hsent
  refine ⟨huid, hread, ?_, fun request hrequest => ?_⟩
  · rcases hmember with hfirst | ⟨code, hcode⟩
    · exact .inl hfirst
    · exact .inr ⟨code, hcode, (verifyInviteCode_some.mp (hinv.invited _ hcode)).2⟩
  · rw [hrequest] at hread
    cases hendpoint : sent.call.endpoint with
    | monteCarlo body =>
      simp only [hendpoint, Endpoint.read] at hread
      split at hread
      · cases hread
      · split at hread
        · cases hread
        · rename_i parsed hparsed
          cases hread
          exact admitSimulate_admitted hparsed
    | batch body =>
      simp only [hendpoint, Endpoint.read] at hread
      split at hread
      · cases hread
      · split at hread
        · cases hread
        · cases hread

theorem sent_members_firstDay : ∃ (state : Handlers.State (Shared ℚ) (Job ℚ)) (sent : Sent ℚ),
    sent ∈ state.shared.sent ∧ sent.call.uid = some sent.uid ∧
      ∃ code, (sent.uid, code) ∈ state.shared.invited := by
  obtain ⟨state, hreaches, -, hsent⟩ := firstDay_runs
  have hmem : ∃ sent, sent ∈ state.shared.sent := by
    cases hlist : state.shared.sent with
    | nil =>
      rw [hlist] at hsent
      cases hsent
    | cons sent _ => exact ⟨sent, List.mem_cons_self⟩
  obtain ⟨sent, hmem⟩ := hmem
  obtain ⟨huid, -, hmember, -⟩ := sent_members hreaches hmem
  rcases hmember with hnone | ⟨code, hcode, -⟩
  · cases hnone
  · exact ⟨state, sent, hmem, huid, code, hcode⟩

/-! ## Accounts that are removed -/

/-- It has passed the membership check, and nothing is sent for it yet. -/
def Job.Passed (uid : String) : Job K → Bool
  | .simulation _ (.admitted uid') | .simulation _ (.parsed uid' _)
  | .simulation _ (.charged uid' _ _) => uid' = uid
  | _ => false

/-- The account is gone, and no cache knows it for longer than until `bound`. -/
structure Gone (uid : String) (bound low : K) (s : Shared K) : Prop where
  removed : uid ∉ s.users
  expires : ∀ place expires, s.cache (place, uid) = some expires → expires ≤ bound
  clock : low ≤ s.clock

/-- No answer about the account is on its way to a cache. -/
def Settled (uid : String) (_ : Shared K) : Job K → Prop
  | .simulation _ (.registered uid') => uid' ≠ uid
  | _ => True

omit [IsStrictOrderedRing K] in
theorem gone_keeps (uid : String) (bound low : K) :
    Handlers.Keeps (edge digest inviteCodes) (fun s => uid ∉ s.users) (Gone uid bound low)
      (Settled uid) where
  start := by
    intro s call h
    cases call <;> trivial
  advance := by
    intro s s' job job' outcome h hsettled hduring hadvance
    cases job with
    | simulation call stage =>
      obtain ⟨next, hnext, heq⟩ := Option.map_eq_some_iff.mp hadvance
      cases heq
      have hstep := advanceSimulation_step hnext
      generalize next.1 = s' at hstep hduring ⊢
      generalize next.2 = stage' at hstep ⊢
      cases hstep with
      | remember =>
        rename_i uid'
        refine ⟨⟨h.removed, fun place expires hentry => ?_, h.clock⟩, trivial,
          fun other hother => hother⟩
        have hother : (place, uid) ≠ (call.place, uid') := fun heq =>
          hsettled (Prod.ext_iff.mp heq).2.symm
        simp only [Shared.remember, Function.update_of_ne hother] at hentry
        exact h.expires place expires hentry
      | ask hrow =>
        refine ⟨⟨h.removed, h.expires, h.clock⟩, fun heq => ?_, fun other hother => hother⟩
        subst heq
        exact h.removed hrow
      | _ => exact ⟨⟨h.removed, h.expires, h.clock⟩, trivial, fun other hother => hother⟩
    | sync call stage =>
      obtain ⟨next, hnext, heq⟩ := Option.map_eq_some_iff.mp hadvance
      cases heq
      have hstep := advanceSync_step digest inviteCodes hnext
      generalize next.1 = s' at hstep hduring ⊢
      generalize next.2 = stage' at hstep
      refine ⟨⟨hduring, ?_, ?_⟩, trivial, fun other hother => hother⟩
      · cases hstep <;> exact h.expires
      · cases hstep <;> exact h.clock
  happens := by
    intro s s' happening h hduring hhappens
    obtain ⟨hclock, hentries⟩ := happens_cache hhappens
    exact ⟨⟨hduring, fun place expires hentry => h.expires place expires (hentries _ _ hentry),
      h.clock.trans hclock⟩, fun other hother => hother⟩

/-- How much was sent for an account, and may yet be. -/
def served (uid : String) (state : Handlers.State (Shared K) (Job K)) : ℕ :=
  (state.shared.sent.filter fun sent => sent.uid = uid).length
    + state.jobs.countP (Job.Passed uid)

omit [IsStrictOrderedRing K] in
/-- Once every cache has forgotten the account, no request of it passes the check. -/
theorem gone_accounts (uid : String) (bound : K) (n : ℕ) :
    Handlers.Accounts (edge digest inviteCodes) (fun s => uid ∉ s.users) (Gone uid bound bound)
      (Settled uid) (fun _ => n) (fun s => (s.sent.filter fun sent => sent.uid = uid).length)
      (fun job => if job.Passed uid then 1 else 0) where
  start := by
    intro call
    cases call <;> rfl
  advance := by
    intro s s' job job' outcome h hsettled _ hadvance
    refine ⟨0, (zero_add n).le, ?_⟩
    rw [zero_add]
    cases job with
    | simulation call stage =>
      obtain ⟨next, hnext, heq⟩ := Option.map_eq_some_iff.mp hadvance
      cases heq
      have hstep := advanceSimulation_step hnext
      generalize next.1 = s' at hstep ⊢
      generalize next.2 = stage' at hstep ⊢
      cases hstep with
      | hit hcached =>
        rename_i uid' time
        have hother : uid' ≠ uid := by
          rintro rfl
          simp only [Shared.cached, Option.any_eq_true, decide_eq_true_eq] at hcached
          obtain ⟨expires, hentry, hlive⟩ := hcached
          exact absurd (hlive.trans_le (h.expires _ _ hentry)) (not_lt.mpr h.clock)
        simp [Job.Passed, hother]
      | remember => simp [Job.Passed, Shared.remember, show _ ≠ uid from hsettled]
      | forgotten => simp [Job.Passed, show _ ≠ uid from hsettled]
      | send response =>
        rename_i uid' payload time
        by_cases hsame : uid' = uid
        · simp [Job.Passed, Shared.send, hsame]
        · simp [Job.Passed, Shared.send, hsame]
      | _ => simp [Job.Passed, Shared.ask]
    | sync call stage =>
      obtain ⟨next, hnext, heq⟩ := Option.map_eq_some_iff.mp hadvance
      cases heq
      rw [(advanceSync_step digest inviteCodes hnext).sameCompute.sent]
      exact le_rfl
  happens := by
    intro s s' happening _ _ hhappens
    rw [(happens_granted hhappens).1.sent]
    exact ⟨le_rfl, le_rfl⟩

/-- **An account that is removed is refused within a minute**: from then on nothing is sent for it
but for the requests that had already passed the check. -/
theorem removed_account (hrun : Runs.Reaches ((edge digest inviteCodes).Next fun _ => True)
    ⟨.start clock users, []⟩ state) {uid : String} (hremoved : uid ∉ state.shared.users)
    (hsettled : ∀ call, Job.simulation call (.registered uid) ∉ state.jobs)
    {later latest : Handlers.State (Shared K) (Job K)}
    (hlater : Runs.Reaches ((edge digest inviteCodes).Next fun s => uid ∉ s.users) state later)
    (hminute : state.shared.clock + membershipTtl ≤ later.shared.clock)
    (hlatest : Runs.Reaches ((edge digest inviteCodes).Next fun s => uid ∉ s.users) later latest) :
    served uid latest ≤ served uid later := by
  have hinv := ((edge_keeps _).reaches holds_start hrun).inv
  have hstart : Handlers.Holds (Gone uid (state.shared.clock + membershipTtl) state.shared.clock)
      (Settled uid) state := by
    refine ⟨⟨hremoved, fun place expires => hinv.expires (place, uid) expires, le_rfl⟩,
      fun job hjob => ?_⟩
    cases job with
    | simulation call stage =>
      cases stage with
      | registered uid' =>
        rintro rfl
        exact hsettled call hjob
      | _ => trivial
    | sync call stage => trivial
  have hgone := (gone_keeps uid _ _).reaches hstart hlater
  have hminuteGone : Handlers.Holds (Gone uid (state.shared.clock + membershipTtl)
      (state.shared.clock + membershipTtl)) (Settled uid) later :=
    ⟨⟨hgone.inv.removed, hgone.inv.expires, hminute⟩, hgone.sound⟩
  have hcount : ∀ jobs : List (Job K), (jobs.map fun job => if job.Passed uid then 1 else 0).sum
      = jobs.countP (Job.Passed uid) := by
    intro jobs
    induction jobs with
    | nil => rfl
    | cons job jobs ih =>
      rw [List.map_cons, List.sum_cons, ih, List.countP_cons, add_comm]
  have hcovered := (gone_accounts uid _ (served uid later)).reaches (gone_keeps uid _ _) hminuteGone
    (le_of_eq (by rw [hcount]; rfl)) hlatest
  rw [Handlers.Covered, hcount] at hcovered
  exact hcovered

/-- The account is removed, a minute passes, and it posts another run. -/
theorem removed_account_firstDay : ∃ later latest : Handlers.State (Shared ℚ) (Job ℚ),
    latest.jobs.length = 3 ∧ served "u" latest ≤ served "u" later := by
  have hruns : ((edge id ["welcome"]).run (fun _ => true) ⟨.start 0 [], []⟩
      (firstDay ++ [.happen (.remove "u")])).any (fun state =>
        decide ("u" ∉ state.shared.users ∧ state.shared.clock = 0) &&
        state.jobs.all (fun job => match job with
          | .simulation _ (.registered _) => false
          | _ => true) &&
        ((edge id ["welcome"]).run (fun s => decide ("u" ∉ s.users)) state
          [.happen (.elapse 60000)]).any fun later => decide (later.shared.clock = 60000) &&
            ((edge id ["welcome"]).run (fun s => decide ("u" ∉ s.users)) later
              ([.arrive (.simulation (mainCall "u"))] ++ List.replicate 3 (.run 2 .done))).any
                fun latest => decide (latest.jobs.length = 3)) = true := by
    decide +kernel
  obtain ⟨state, hrun, hstate⟩ := Option.any_eq_true _ _ |>.mp hruns
  simp only [Bool.and_eq_true, decide_eq_true_eq, Option.any_eq_true, List.all_eq_true] at hstate
  obtain ⟨⟨⟨hremoved, hzero⟩, hjobs⟩, later, hlater, hclock, latest, hlatest, hlength⟩ := hstate
  have hreaches := Handlers.Model.reaches_of_run hrun
  have hreachesLater := Handlers.Model.reaches_of_run hlater
  have hreachesLatest := Handlers.Model.reaches_of_run hlatest
  simp only [decide_eq_true_eq] at hreaches hreachesLater hreachesLatest
  have hsettled : ∀ call, Job.simulation call (.registered "u") ∉ state.jobs := fun call hmem =>
    absurd (hjobs _ hmem) Bool.false_ne_true
  refine ⟨later, latest, hlength, removed_account hreaches hremoved hsettled hreachesLater ?_
    hreachesLatest⟩
  rw [hzero, hclock]
  show (0 : ℚ) + 60 * 1000 ≤ 60000
  norm_num

end Bounds

end RetirementPlanner.Web.Edge
