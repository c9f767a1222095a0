import RetirementPlanner.Engine.Server
import RetirementPlanner.Proof.Cancellation
import RetirementPlanner.Proof.Safety
import RetirementPlanner.Proof.Sweep

/-!
# What the service answers

Requests come and go in any order, with any number of compute slots. A request that is
answered gets what it is due, whatever became of the others (`service_answers`); every slot is
free or held by one job, whose token is set where its request was dropped and nowhere else
(`service_slots`); and however a run goes, it ends with every slot free and no request left
waiting (`service_ends`).
-/

namespace RetirementPlanner.Engine

open Polling Polling.Cancellable Permits

variable {K : Type} [Field K] [LinearOrder K] [FloorRing K] (log : NaturalLog K)
  (source : RandomSource K)

/-! ## What a request is due -/

/-- A point of a sweep has the success probability of a full run of its scenario. -/
structure SummaryOf (simulation : BatchSimulationRequest K)
    (summary : BatchSimulationSummaryResponse K) : Prop where
  id : summary.id = simulation.id
  probability : ∃ result, runSimulation log source simulation.plan simulation.config = .ok result ∧
    summary.successProbability = result.successProbability

structure ResultOf (simulation : BatchSimulationRequest K) (response : BatchSimulationResponse K) :
    Prop where
  id : response.id = simulation.id
  result : runSimulation log source simulation.plan simulation.config = .ok response.result

/-- A request that is not valid is due its error, and any other all of its results. -/
inductive Due : ServiceRequest K → Reply K → Prop
  | invalid {request : SimulationRequest K} {message : String}
      (h : validateSimulationRequest request = .error message) :
      Due (.simulate request) (.badRequest message)
  | simulation {request : SimulationRequest K} {result : SimulationResult K}
      (hvalid : validateSimulationRequest request = .ok ())
      (h : runSimulation log source request.plan request.config = .ok result) :
      Due (.simulate request) (.simulation result)
  | invalidBatch {simulations : List (BatchSimulationRequest K)} {responseMode : BatchResponseMode}
      {message : String} (h : validateBatchSimulations simulations = .error message) :
      Due (.batch simulations responseMode) (.badRequest message)
  | batchSummary {simulations : List (BatchSimulationRequest K)}
      {results : List (BatchSimulationSummaryResponse K)} {totalPaths : ℕ}
      (hvalid : validateBatchSimulations simulations = .ok totalPaths)
      (h : List.Forall₂ (SummaryOf log source) simulations results) :
      Due (.batch simulations .summary) (.batchSummary results)
  | batch {simulations : List (BatchSimulationRequest K)}
      {results : List (BatchSimulationResponse K)} {totalPaths : ℕ}
      (hvalid : validateBatchSimulations simulations = .ok totalPaths)
      (h : List.Forall₂ (ResultOf log source) simulations results) :
      Due (.batch simulations .full) (.batch results)

/-! ## How soon a job ends -/

theorem simulateWork_prompt (request : SimulationRequest K) :
    (simulateWork log source request).Prompt 1 := by
  refine Polled.Prompt.bind (runSimulationCancellable_aborts log source _ _).prompt
    (k := 0) (fun result => ?_) (fun result => ?_) le_rfl
  · cases result <;> trivial
  · cases result <;> exact le_rfl

theorem batchSummaryWork_prompt (simulations : List (BatchSimulationRequest K))
    (split : WorkSplit) : (batchSummaryWork log source simulations split).Prompt 1 := by
  refine Polled.Prompt.bind (runSweepCancellable_aborts log source _ _).prompt
    (k := 0) (fun result => ?_) (fun result => ?_) le_rfl
  · cases result <;> trivial
  · cases result <;> exact le_rfl

/-- A canceled full batch finds its token set once more, after the simulation that it gives up. -/
theorem fullResults_prompt (simulations : List (BatchSimulationRequest K)) :
    (fullResults log source simulations).Prompt 2 ∧
      (fullResults log source simulations).cancelledPolls ≤ 1 := by
  induction simulations with
  | nil => exact ⟨trivial, Nat.zero_le 1⟩
  | cons simulation simulations ih =>
    refine ⟨⟨Nat.zero_lt_two, ?_⟩, le_rfl⟩
    refine Polled.Prompt.bind (runSimulationCancellable_aborts log source _ _).prompt
      (k := 1) (fun result => ?_) (fun result => ?_) le_rfl
    · refine Polled.Prompt.bind (k := 0) ih.1 (fun rest => ?_) (fun rest => ?_) le_rfl
      · cases result <;> trivial
      · cases result <;> exact le_rfl
    · refine Polled.cancelledPolls_bind _ (fun rest => ?_) |>.trans (Nat.add_le_add_right ih.2 0)
      cases result <;> exact le_rfl

theorem fullBatchWork_prompt (simulations : List (BatchSimulationRequest K)) :
    (fullBatchWork log source simulations).Prompt 2 :=
  Polled.Prompt.bind (k := 0) (fullResults_prompt log source simulations).1 (fun _ => trivial)
    (fun _ => le_rfl) le_rfl

theorem enter_prompt (split : WorkSplit) {request : ServiceRequest K} {work : Polled (Reply K)}
    (h : request.enter log source split = .ok work) : work.Prompt 2 := by
  cases request with
  | simulate request =>
    simp only [ServiceRequest.enter] at h
    split at h
    · cases h
    · cases h
      exact (simulateWork_prompt log source request).mono one_le_two
  | batch simulations responseMode =>
    simp only [ServiceRequest.enter] at h
    split at h
    · cases h
    · cases responseMode with
      | summary =>
        cases h
        exact (batchSummaryWork_prompt log source simulations split).mono one_le_two
      | full =>
        cases h
        exact fullBatchWork_prompt log source simulations

/-! ## What a job comes to -/

theorem simulateWork_uncancelled {request : SimulationRequest K} {result : SimulationResult K}
    (h : runSimulation log source request.plan request.config = .ok result) :
    (simulateWork log source request).uncancelled = .simulation result := by
  have hrun : (runSimulationCancellable log source request.plan request.config).run.uncancelled =
      .ok result := by
    refine (runSimulationCancellable_uncancelled log source _ _).trans ?_
    rw [h]
    rfl
  refine (Polled.uncancelled_bind_polled _ _).trans ?_
  rw [hrun]
  rfl

theorem batchSummaryWork_uncancelled {simulations : List (BatchSimulationRequest K)}
    {split : WorkSplit} {results : List (BatchSimulationSummaryResponse K)}
    (h : runSweep log source simulations split = .ok results) :
    (batchSummaryWork log source simulations split).uncancelled = .batchSummary results := by
  have hrun : (runSweepCancellable log source simulations split).run.uncancelled =
      .ok results := by
    refine (runSweepCancellable_uncancelled log source _ _).trans ?_
    rw [h]
    rfl
  refine (Polled.uncancelled_bind_polled _ _).trans ?_
  rw [hrun]
  rfl

theorem fullResults_uncancelled {simulations : List (BatchSimulationRequest K)}
    {responses : List (BatchSimulationResponse K)}
    (h : List.Forall₂ (ResultOf log source) simulations responses) :
    (fullResults log source simulations).uncancelled = responses.map .ok := by
  induction h with
  | nil => rfl
  | @cons simulation response simulations responses hresponse hrest ih =>
    have hrun : (runSimulationCancellable log source simulation.plan
        simulation.config).run.uncancelled = .ok response.result := by
      refine (runSimulationCancellable_uncancelled log source _ _).trans ?_
      rw [hresponse.result]
      rfl
    refine (Polled.uncancelled_bind_polled _ _).trans ?_
    rw [hrun]
    refine (Polled.uncancelled_bind_polled _ _).trans ?_
    rw [ih, List.map_cons, ← hresponse.id]
    rfl

omit [Field K] [LinearOrder K] [FloorRing K] in
theorem fullReply_ok (responses : List (BatchSimulationResponse K)) :
    fullReply (responses.map .ok) = .batch responses := by
  simp only [fullReply, List.filterMap_map, Function.comp_def, Except.toOption, List.filterMap_some,
    List.filterMap_none, List.isEmpty_nil, if_true]

theorem fullBatchWork_uncancelled {simulations : List (BatchSimulationRequest K)}
    {responses : List (BatchSimulationResponse K)}
    (h : List.Forall₂ (ResultOf log source) simulations responses) :
    (fullBatchWork log source simulations).uncancelled = .batch responses := by
  refine (Polled.uncancelled_bind_polled _ _).trans ?_
  rw [fullResults_uncancelled log source h]
  exact fullReply_ok responses

/-! ## Accepted batches -/

omit [FloorRing K] in
theorem validateSimulationRequest_ok {request : SimulationRequest K} :
    validateSimulationRequest request = .ok () ↔
      validateConfig request.config.paths request.config.blockSize = .ok () ∧
        validatePlan request.plan = .ok () := by
  unfold validateSimulationRequest
  cases validateConfig request.config.paths request.config.blockSize with
  | error message => exact ⟨fun h => (nomatch h), fun h => (nomatch h.1)⟩
  | ok => exact ⟨fun h => ⟨rfl, h⟩, fun h => h.2⟩

omit [FloorRing K] in
theorem validSimulations_of_loop {simulations : List (BatchSimulationRequest K)}
    {totalPaths total : ℕ} (h : validateBatchLoop totalPaths simulations = .ok total) :
    ∀ simulation ∈ simulations, ValidSimulation simulation := by
  induction simulations generalizing totalPaths with
  | nil => simp
  | cons simulation rest ih =>
    obtain ⟨hvalid, -, hrest⟩ := validateBatchLoop_cons.mp h
    exact List.forall_mem_cons.mpr ⟨hvalid, ih hrest⟩

omit [FloorRing K] in
theorem validSimulations_of_ok {simulations : List (BatchSimulationRequest K)} {totalPaths : ℕ}
    (h : validateBatchSimulations simulations = .ok totalPaths) :
    simulations ≠ [] ∧ ∀ simulation ∈ simulations, ValidSimulation simulation := by
  rw [validateBatchSimulations] at h
  split at h
  · cases h
  · rename_i hlimits
    refine ⟨fun hnil => hlimits (.inl hnil), ?_⟩
    split at h
    · cases h
    · rename_i total hloop
      exact validSimulations_of_loop hloop

omit [FloorRing K] [LinearOrder K] [Field K] in
theorem paths_le_maxPaths {simulations : List (BatchSimulationRequest K)}
    {simulation : BatchSimulationRequest K} (h : simulation ∈ simulations) :
    simulation.config.paths ≤ (simulations.map (·.config.paths)).foldl max 0 := by
  have hmem : simulation.config.paths ∈ simulations.map (·.config.paths) :=
    List.mem_map.mpr ⟨simulation, h, rfl⟩
  rw [List.foldl_max_eq_max (List.ne_nil_of_mem hmem)]
  exact le_max_of_le_right (List.le_max_of_mem hmem)

omit [FloorRing K] in
/-- The plans of an accepted batch can all be prepared. -/
theorem exists_prepareAll {simulations : List (BatchSimulationRequest K)}
    (hvalid : ∀ simulation ∈ simulations, ValidSimulation simulation) :
    ∃ prepared, prepareAll simulations = .ok prepared := by
  induction simulations with
  | nil => exact ⟨[], rfl⟩
  | cons simulation simulations ih =>
    obtain ⟨hfirst, hrest⟩ := List.forall_mem_cons.mp hvalid
    obtain ⟨first, hnew⟩ := exists_prepared hfirst.plan
    obtain ⟨rest, hprepared⟩ := ih hrest
    refine ⟨first :: rest, ?_⟩
    rw [prepareAll, newOrError_ok hnew, hprepared]
    rfl

/-- A sweep counts the paths of every scenario up to its own number of paths. -/
theorem countP_sweepCounted (scenario : PreparedPlan K × BatchSimulationRequest K) {maxPaths : ℕ}
    (h : scenario.2.config.paths ≤ maxPaths) :
    (List.range maxPaths).countP (sweepCounted log source scenario) =
      (List.range scenario.2.config.paths).countP (succeeds log source scenario) := by
  obtain ⟨more, rfl⟩ := Nat.exists_eq_add_of_le h
  rw [List.range_add, List.countP_append]
  have hmore : ((List.range more).map (scenario.2.config.paths + ·)).countP
      (sweepCounted log source scenario) = 0 := by
    rw [List.countP_eq_zero]
    intro path hpath
    obtain ⟨extra, -, rfl⟩ := List.mem_map.mp hpath
    simp [sweepCounted]
  rw [hmore, Nat.add_zero]
  refine List.countP_congr fun path hpath => ?_
  rw [sweepCounted, decide_eq_true (List.mem_range.mp hpath), Bool.true_and]

section Accepted

variable [IsStrictOrderedRing K]

theorem summaryOf_counts {simulations : List (BatchSimulationRequest K)}
    {prepared : List (PreparedPlan K)} {maxPaths : ℕ}
    (hvalid : ∀ simulation ∈ simulations, ValidSimulation simulation)
    (hpaths : ∀ simulation ∈ simulations, simulation.config.paths ≤ maxPaths)
    (h : List.Forall₂ (fun simulation prepared =>
      PreparedPlan.newOrError simulation.plan = .ok prepared) simulations prepared) :
    List.Forall₂ (SummaryOf log source) simulations (sweepSummaries simulations
      (Tally.tally (sweepCounted log source) (prepared.zip simulations)
        (List.range maxPaths))) := by
  induction h with
  | nil => exact .nil
  | @cons simulation first simulations prepared hfirst hrest ih =>
    obtain ⟨hsimulation, hsimulations⟩ := List.forall_mem_cons.mp hvalid
    obtain ⟨hmax, hmaxes⟩ := List.forall_mem_cons.mp hpaths
    have hpositive := (validateConfig_eq_ok.mp hsimulation.config).1.1
    obtain ⟨-, result, hresult, hprobability⟩ :=
      headlineCount log source hfirst (by omega : simulation.config.paths ≠ 0)
    refine .cons ⟨rfl, result, hresult, ?_⟩ (ih hsimulations hmaxes)
    rw [hprobability, ← countP_sweepCounted log source (first, simulation) hmax]

/-- Whatever the split of its paths, the sweep of an accepted batch has the headline of every
scenario. -/
theorem exists_runSweep {simulations : List (BatchSimulationRequest K)} (hne : simulations ≠ [])
    (hvalid : ∀ simulation ∈ simulations, ValidSimulation simulation) (split : WorkSplit) :
    ∃ results, runSweep log source simulations split = .ok results ∧
      List.Forall₂ (SummaryOf log source) simulations results := by
  obtain ⟨prepared, hprepared⟩ := exists_prepareAll hvalid
  refine ⟨_, ?_, summaryOf_counts log source hvalid (fun _ => paths_le_maxPaths)
    (prepareAll_ok hprepared)⟩
  rw [runSweep, List.isEmpty_eq_false_iff.mpr hne, if_neg Bool.false_ne_true, sweepCounts,
    hprepared, List.range_eq_range', ← Nat.sub_zero (List.foldl ..),
    ← WorkSplit.counts_eq log source _ split (Nat.zero_le _)]
  rfl

theorem exists_results {simulations : List (BatchSimulationRequest K)}
    (hvalid : ∀ simulation ∈ simulations, ValidSimulation simulation) :
    ∃ responses, List.Forall₂ (ResultOf log source) simulations responses := by
  induction simulations with
  | nil => exact ⟨[], .nil⟩
  | cons simulation simulations ih =>
    obtain ⟨hsimulation, hsimulations⟩ := List.forall_mem_cons.mp hvalid
    obtain ⟨prepared, hnew⟩ := exists_prepared hsimulation.plan
    obtain ⟨result, hresult⟩ := exists_runSimulation log source hnew
      (validateConfig_eq_ok.mp hsimulation.config).1.1
    obtain ⟨responses, hresponses⟩ := ih hsimulations
    exact ⟨⟨simulation.id, result⟩ :: responses, .cons ⟨rfl, hresult⟩ hresponses⟩

/-! ## Every answer -/

variable {ι : Type} (requests : ι → ServiceRequest K) (splits : ι → WorkSplit)

/-- What becomes of the request of each client; how the pool splits its paths is free. -/
def enterAll (client : ι) : Except (Reply K) (Polled (Reply K)) :=
  (requests client).enter log source (splits client)

theorem answer_due (client : ι) :
    Due log source (requests client) (answer (enterAll log source requests splits) client) := by
  unfold answer enterAll
  cases requests client with
  | simulate request =>
    simp only [ServiceRequest.enter]
    cases hvalid : validateSimulationRequest request with
    | error message => exact .invalid hvalid
    | ok =>
      obtain ⟨hconfig, hplan⟩ := validateSimulationRequest_ok.mp hvalid
      obtain ⟨prepared, hnew⟩ := exists_prepared hplan
      obtain ⟨result, hresult⟩ := exists_runSimulation log source hnew
        (validateConfig_eq_ok.mp hconfig).1.1
      simp only [simulateWork_uncancelled log source hresult]
      exact .simulation hvalid hresult
  | batch simulations responseMode =>
    simp only [ServiceRequest.enter]
    cases hvalid : validateBatchSimulations simulations with
    | error message => exact .invalidBatch hvalid
    | ok totalPaths =>
      obtain ⟨hne, hsimulations⟩ := validSimulations_of_ok hvalid
      cases responseMode with
      | summary =>
        obtain ⟨results, hsweep, hresults⟩ :=
          exists_runSweep log source hne hsimulations (splits client)
        simp only [batchSummaryWork_uncancelled log source hsweep]
        exact .batchSummary hvalid hresults
      | full =>
        obtain ⟨responses, hresponses⟩ := exists_results log source hsimulations
        simp only [fullBatchWork_uncancelled log source hresponses]
        exact .batch hvalid hresponses

variable [DecidableEq ι]

/-- The pools that are reached when each client calls once, and may leave, in any order. -/
abbrev Served (slots : ℕ) (pool : Pool ι (Reply K)) : Prop :=
  Runs.Reaches (Runs.Next (Pool.step (enterAll log source requests splits)) fun _ _ => True)
    (Pool.start slots) pool

variable {requests splits} {slots : ℕ} {pool : Pool ι (Reply K)}

omit [IsStrictOrderedRing K] in
theorem inv_of_served (h : Served log source requests splits slots pool) :
    Inv (enterAll log source requests splits) 2 slots pool :=
  inv_of_reaches (fun _ _ hwork => enter_prompt log source _ hwork) h

/-- Whatever the order in which requests come, run and are dropped, one that is answered is
answered in full: never with part of its results, nor with the error of a canceled run. -/
theorem service_answers (h : Served log source requests splits slots pool) {client : ι}
    {reply : Reply K} (hreply : pool.callers client = .answered reply) :
    Due log source (requests client) reply := by
  rw [(inv_of_served log source h).answered client reply hreply]
  exact answer_due log source requests splits client

omit [IsStrictOrderedRing K] in
/-- At any time every slot is free or held by one job, no two jobs are for one request, every
request past the queue has its job, and the jobs whose tokens are set are those of dropped
requests. -/
theorem service_slots (h : Served log source requests splits slots pool) :
    pool.permits + pool.jobs.length = slots ∧ (pool.jobs.map (·.client)).Nodup ∧
      (∀ client, pool.callers client = .waiting → client ∈ pool.jobs.map (·.client)) ∧
      ∀ job ∈ pool.jobs, (job.cancelled = true ↔ pool.callers job.client = .gone) ∧
        (job.cancelled = false ↔ pool.callers job.client = .waiting) := by
  have hinv := inv_of_served log source h
  refine ⟨hinv.conserved, hinv.jobs_nodup, hinv.waiting, fun job hjob => ?_⟩
  cases hinv.jobs job hjob with
  | awaited hcaller => simp [hcaller]
  | left hcaller => simp [hcaller]

/-- With a slot at all, every run ends. From wherever it has got to, the service left to itself
comes to have every slot free and every request answered that was not dropped. -/
theorem service_ends [Fintype ι] (hslots : 0 < slots) :
    (∃ most, ∀ (events : List (Event ι)) (pool : Pool ι (Reply K)),
      Runs.run (Pool.step (enterAll log source requests splits)) (fun _ _ => true)
        (Pool.start slots) events = some pool → events.length ≤ most) ∧
      ∀ pool, Served log source requests splits slots pool →
        ∃ rest, Runs.Reaches (Runs.Next (Pool.step (enterAll log source requests splits))
            fun _ event => event.Internal) pool rest ∧ rest.permits = slots ∧
          ∀ client, (pool.callers client).Stays → ∃ reply,
            rest.callers client = .answered reply ∧ Due log source (requests client) reply := by
  have hprompt : ∀ client work, enterAll log source requests splits client = .ok work →
      work.Prompt 2 := fun _ _ hwork => enter_prompt log source _ hwork
  refine ⟨⟨(Pool.start slots).weight (enterAll log source requests splits),
    fun events pool hrun => ?_⟩, fun pool h => ?_⟩
  · have hlength := run_length hprompt (inv_start slots) hrun
    exact (Nat.le_add_right ..).trans hlength
  · obtain ⟨rest, hreaches, hinv, hfree, hanswered⟩ :=
      (inv_of_served log source h).comes_to_rest hprompt hslots
    refine ⟨rest, hreaches, hfree, fun client hstays => ?_⟩
    obtain ⟨reply, hreply⟩ := hanswered client hstays
    refine ⟨reply, hreply, ?_⟩
    rw [hinv.answered client reply hreply]
    exact answer_due log source requests splits client

end Accepted

/-! ## Three requests for two slots -/

/-- Two clients run a household's plan, and the third sends a batch of no simulations. -/
def threeRequests : Fin 3 → ServiceRequest ℚ
  | 0 | 1 => .simulate ⟨largeBenefitPlan, ⟨3, 42, true, 5⟩⟩
  | 2 => .batch [] .summary

/-- Both runs have their slots when the second client leaves. -/
def secondLeaves : List (Event (Fin 3)) :=
  [.call 0, .call 1, .call 2, .acquire, .acquire, .leave 1]

/-- Of two calls with work and one without, the second is left while both jobs run. -/
theorem secondLeaves_run {R : Type} {enter : Fin 3 → Except R (Polled R)} {work : Polled R}
    {reply : R} (hfirst : enter 0 = .ok work) (hsecond : enter 1 = .ok work)
    (hthird : enter 2 = .error reply) :
    ∃ pool, Runs.run (Pool.step enter) (fun _ _ => true) (Pool.start 2) secondLeaves = some pool ∧
      pool.jobs = [⟨0, work, false⟩, ⟨1, work, true⟩] ∧ pool.callers 0 = .waiting ∧
      pool.callers 1 = .gone ∧ pool.callers 2 = .answered reply := by
  simp [secondLeaves, Runs.run, Pool.step, Pool.start, Pool.put, Job.cancelFor, hfirst, hsecond,
    hthird]

theorem householdRun_valid :
    validateSimulationRequest (K := ℚ) ⟨largeBenefitPlan, ⟨3, 42, true, 5⟩⟩ = .ok () :=
  validateSimulationRequest_ok.mpr ⟨by decide, largeBenefitPlan_valid⟩

theorem threeRequests_served : ∃ pool, Served NaturalLog.flat countingSource threeRequests
    (fun _ => .fold) 2 pool ∧ pool.jobs.map (·.cancelled) = [false, true] ∧
      pool.callers 0 = .waiting ∧ pool.callers 1 = .gone ∧
      pool.callers 2 = .answered (.badRequest "Batch must contain 1 to 40 simulations") := by
  have henter : ∀ client : Fin 3, client ≠ 2 →
      enterAll NaturalLog.flat countingSource threeRequests (fun _ => .fold) client =
        .ok (simulateWork NaturalLog.flat countingSource
          ⟨largeBenefitPlan, ⟨3, 42, true, 5⟩⟩) := by
    intro client hclient
    match client with
    | 0 | 1 => simp only [enterAll, threeRequests, ServiceRequest.enter, householdRun_valid]
    | 2 => exact absurd rfl hclient
  obtain ⟨pool, hrun, hjobs, hcallers⟩ :=
    secondLeaves_run (henter 0 (by decide)) (henter 1 (by decide)) rfl
  exact ⟨pool, Runs.reachable_of_run hrun, by rw [hjobs]; rfl, hcallers⟩

/-- After the second client has left, the first one's run goes on to its result; the third
one's batch was refused. -/
theorem service_answers_dropped : ∃ pool rest : Pool (Fin 3) (Reply ℚ), pool.callers 1 = .gone ∧
    Runs.Reaches (Runs.Next (Pool.step (enterAll NaturalLog.flat countingSource threeRequests
      fun _ => .fold)) fun _ event => event.Internal) pool rest ∧
    (∃ result, rest.callers 0 = .answered (.simulation result) ∧
      Due NaturalLog.flat countingSource (threeRequests 0) (.simulation result)) ∧
    Due NaturalLog.flat countingSource (threeRequests 2)
      (.badRequest "Batch must contain 1 to 40 simulations") := by
  obtain ⟨pool, hserved, -, hwaiting, hgone, hrefused⟩ := threeRequests_served
  obtain ⟨rest, hreaches, -, -, hanswered⟩ := (inv_of_served _ _ hserved).comes_to_rest
    (fun _ _ hwork => enter_prompt _ _ _ hwork) Nat.two_pos
  obtain ⟨reply, hreply⟩ := hanswered 0 (by rw [hwaiting]; trivial)
  have hrest : Served NaturalLog.flat countingSource threeRequests (fun _ => .fold) 2 rest := by
    refine hserved.trans (Relation.ReflTransGen.mono ?_ _ _ hreaches)
    rintro _ _ ⟨event, -, hstep⟩
    exact ⟨event, trivial, hstep⟩
  refine ⟨pool, rest, hgone, hreaches, ?_,
    service_answers NaturalLog.flat countingSource hserved hrefused⟩
  have hdue := service_answers NaturalLog.flat countingSource hrest hreply
  cases hdue with
  | invalid h => exact absurd (h.symm.trans householdRun_valid) (by simp)
  | simulation hvalid h => exact ⟨_, hreply, .simulation hvalid h⟩

/-- Both slots are taken, and only the token of the dropped request is set. -/
theorem service_slots_dropped : ∃ pool : Pool (Fin 3) (Reply ℚ),
    pool.callers 0 = .waiting ∧ pool.callers 1 = .gone ∧
      pool.jobs.map (·.cancelled) = [false, true] ∧ pool.permits + pool.jobs.length = 2 ∧
      ∀ job ∈ pool.jobs, job.cancelled = true ↔ pool.callers job.client = .gone := by
  obtain ⟨pool, hserved, htokens, hwaiting, hgone, -⟩ := threeRequests_served
  obtain ⟨hslots, -, -, hjobs⟩ := service_slots NaturalLog.flat countingSource hserved
  exact ⟨pool, hwaiting, hgone, htokens, hslots, fun job hjob => (hjobs job hjob).1⟩

/-- Left to itself, the service frees both slots, that of the dropped request too. -/
theorem service_ends_dropped : ∃ pool rest : Pool (Fin 3) (Reply ℚ),
    pool.callers 0 = .waiting ∧ pool.callers 1 = .gone ∧ rest.permits = 2 ∧
      ∃ reply, rest.callers 0 = .answered reply ∧
        Due NaturalLog.flat countingSource (threeRequests 0) reply := by
  obtain ⟨pool, hserved, -, hwaiting, hgone, -⟩ := threeRequests_served
  obtain ⟨rest, -, hfree, hrest⟩ :=
    (service_ends NaturalLog.flat countingSource Nat.two_pos).2 pool hserved
  exact ⟨pool, rest, hwaiting, hgone, hfree, hrest 0 (by rw [hwaiting]; trivial)⟩

end RetirementPlanner.Engine
