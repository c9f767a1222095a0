import RetirementPlanner.Proof.SimulationRequest

/-!
# Admitted at the edge, accepted by the engine

Every request the edge admits passes the service's deserializers and checks, but for one
field: the edge measures the `id` of a batched simulation in UTF-16 code units, the service
in bytes of UTF-8 (`FitsEngine`).

* `admitBatch_iff`: an admitted batch is accepted when its ids fit;
* `admittedRequests_accepted_iff`: both kinds of requests;
* `accentedBody`: a batch that is admitted, charged and refused.
-/

namespace RetirementPlanner.Web

open Schema

variable {K : Type}

/-! ## Ids -/

/-- An id the service reads, and takes for one of at most 64 characters. -/
def FitsEngine (id : JsString) : Prop :=
  ∃ chars, decodeUtf16 id = some chars ∧ (String.ofList chars).utf8ByteSize ≤ 64

theorem decodeUtf16_ne_nil {id : JsString} {chars : List Char}
    (h : decodeUtf16 id = some chars) (hne : id ≠ []) : chars ≠ [] := by
  rintro rfl
  cases id with
  | nil => exact hne rfl
  | cons unit rest =>
    rw [decodeUtf16.eq_def] at h
    simp only at h
    split_ifs at h
    · split at h
      · split_ifs at h
        simp at h
      · cases h
    · simp at h

theorem utf8ByteSize_pos {chars : List Char} (h : chars ≠ []) :
    (String.ofList chars).utf8ByteSize ≠ 0 := by
  rw [Ne, String.utf8ByteSize_eq_zero_iff, String.ofList_eq_empty_iff]
  exact h

/-! ## Simulations of a batch -/

variable [Field K] [LinearOrder K] [FloorRing K]

/-- A simulation of a batch as the engine holds it. -/
def BatchSimulation.engine (simulation : BatchSimulation K) : Engine.BatchSimulationRequest K where
  plan := simulation.plan.engine
  config := simulation.config.engine
  id := String.ofList ((decodeUtf16 simulation.id).getD [])

structure AdmittedSimulation (simulation : BatchSimulation K) : Prop where
  id : 1 ≤ simulation.id.length
  plan : AdmittedPlan simulation.plan
  accounts : simulation.plan.accounts.length ≤ maxPlanAccounts
  config : AdmittedConfig simulation.config

variable [IsStrictOrderedRing K]

theorem batchSimulationSchema_admitted {body : BatchSimulationBody K}
    {simulation : BatchSimulation K} (h : batchSimulationSchema body = .ok simulation) :
    AdmittedSimulation simulation ∧ body.id = some simulation.id := by
  simp only [batchSimulationSchema, bind_ok, under_ok] at h
  obtain ⟨id, hid, plan, hplan, config, hconfig, heq⟩ := h
  cases heq
  obtain ⟨hadmitted, hcount⟩ := simulationPlanSchema_admitted hplan
  unfold batchId at hid
  split at hid
  · rename_i id' hbody
    split_ifs at hid with hlength
    · cases hid
      exact ⟨⟨hlength.1, hadmitted, hcount, simulationConfigSchema_admitted hconfig⟩, hbody⟩
    · cases hid
  · cases hid

theorem batchSimulationsFrom_admitted {bodies : List (BatchSimulationBody K)} {index : ℕ}
    {simulations : List (BatchSimulation K)}
    (h : batchSimulationsFrom index bodies = .ok simulations) :
    (∀ simulation ∈ simulations, AdmittedSimulation simulation) ∧
      bodies.map (·.id) = simulations.map fun simulation => some simulation.id := by
  induction bodies generalizing index simulations with
  | nil =>
    cases h
    exact ⟨fun simulation hmem => (nomatch hmem), rfl⟩
  | cons body bodies ih =>
    simp only [batchSimulationsFrom, bind_ok, under_ok] at h
    obtain ⟨simulation, hsimulation, rest, hrest, heq⟩ := h
    cases heq
    obtain ⟨hadmitted, hid⟩ := batchSimulationSchema_admitted hsimulation
    obtain ⟨hall, hids⟩ := ih hrest
    exact ⟨List.forall_mem_cons.mpr ⟨hadmitted, hall⟩, by rw [List.map_cons, List.map_cons, hid,
      hids]⟩

/-- The service reads a simulation whose id it can read. -/
theorem deserializeBatchSimulation_ok {simulation : BatchSimulation K}
    (h : AdmittedSimulation simulation) {request : Engine.BatchSimulationRequest K} :
    deserializeBatchSimulation simulation = .ok request ↔
      (∃ chars, decodeUtf16 simulation.id = some chars) ∧ request = simulation.engine := by
  simp only [deserializeBatchSimulation, bind_ok, under_ok, h.plan.read,
    deserializeConfig_json h.config, deserializeId]
  cases hchars : decodeUtf16 simulation.id with
  | none => simp [fail]
  | some chars => simp [BatchSimulation.engine, hchars, eq_comm]

theorem deserializeBatch_ok {simulations : List (BatchSimulation K)}
    (h : ∀ simulation ∈ simulations, AdmittedSimulation simulation)
    {requests : List (Engine.BatchSimulationRequest K)} :
    deserializeBatch simulations = .ok requests ↔
      (∀ simulation ∈ simulations, ∃ chars, decodeUtf16 simulation.id = some chars) ∧
        requests = simulations.map BatchSimulation.engine := by
  induction simulations generalizing requests with
  | nil => simp [deserializeBatch, eq_comm]
  | cons simulation simulations ih =>
    obtain ⟨hfirst, hrest⟩ := List.forall_mem_cons.mp h
    simp only [deserializeBatch, bind_ok, deserializeBatchSimulation_ok hfirst, ih hrest,
      List.forall_mem_cons, List.map_cons]
    constructor
    · rintro ⟨request, ⟨hid, rfl⟩, rest, ⟨hids, rfl⟩, heq⟩
      cases heq
      exact ⟨⟨hid, hids⟩, rfl⟩
    · rintro ⟨⟨hid, hids⟩, rfl⟩
      exact ⟨_, ⟨hid, rfl⟩, _, ⟨hids, rfl⟩, rfl⟩

/-! ## Batches -/

omit [FloorRing K] in
theorem validSimulation_iff {simulation : BatchSimulation K} (h : AdmittedSimulation simulation)
    {chars : List Char} (hchars : decodeUtf16 simulation.id = some chars) :
    Engine.ValidSimulation simulation.engine ↔ FitsEngine simulation.id := by
  have hid : simulation.engine.id = String.ofList chars := by
    simp only [BatchSimulation.engine, hchars, Option.getD_some]
  constructor
  · intro hvalid
    exact ⟨chars, hchars, hid ▸ hvalid.id.2⟩
  · rintro ⟨chars', hchars', hfits⟩
    cases hchars.symm.trans hchars'
    have hne : simulation.id ≠ [] := List.length_pos_iff.mp h.id
    refine ⟨?_, validateConfig_engine h.config,
      Engine.validatePlan_eq_ok.mpr (validPlan_engine h.plan h.accounts)⟩
    rw [hid]
    exact ⟨utf8ByteSize_pos (decodeUtf16_ne_nil hchars hne), hfits⟩

omit [FloorRing K] [IsStrictOrderedRing K] in
theorem sum_paths_engine {simulations : List (BatchSimulation K)}
    (h : ∀ simulation ∈ simulations, AdmittedSimulation simulation) :
    ((((simulations.map BatchSimulation.engine).map (·.config.paths)).sum : ℕ) : ℤ)
      = (simulations.map (·.config.paths)).sum := by
  induction simulations with
  | nil => rfl
  | cons simulation simulations ih =>
    obtain ⟨hfirst, hrest⟩ := List.forall_mem_cons.mp h
    have hpaths : ((simulation.engine.config.paths : ℕ) : ℤ) = simulation.config.paths :=
      Int.toNat_of_nonneg (by linarith [hfirst.config.paths.1])
    simp only [List.map_cons, List.sum_cons, Nat.cast_add, ih hrest, hpaths]

/-- The ids of a batch body. -/
def BatchBody.ids (body : BatchBody K) : List JsString :=
  (body.simulations.getD []).filterMap (·.id)

omit [Field K] [LinearOrder K] [FloorRing K] [IsStrictOrderedRing K] in
/-- The service reads every response mode there is. -/
theorem deserializeResponseMode_ok (responseMode : BatchResponseMode) :
    ∃ mode, deserializeResponseMode (K := K) (some (.str (responseModeText responseMode)))
      = .ok mode := by
  cases responseMode
  · exact ⟨.full, rfl⟩
  · exact ⟨.summary, rfl⟩

/-- The service accepts an admitted batch when it can read its ids and takes each for one of
at most 64 characters. -/
theorem admitBatch_iff {body : BatchBody K} {request : BatchRequest K}
    (h : batchRequestSchema body = .ok request) :
    (∃ batch, admitBatch request = .ok batch) ↔ ∀ id ∈ body.ids, FitsEngine id := by
  simp only [batchRequestSchema, bind_ok, under_ok] at h
  obtain ⟨mode, -, bodies, hbodies, simulations, hsimulations, h⟩ := h
  split_ifs at h with hcount htotal
  swap
  · cases h
  cases h
  obtain ⟨hall, hids⟩ := batchSimulationsFrom_admitted hsimulations
  have hbody : body.ids = simulations.map (·.id) := by
    have hsome : body.simulations = some bodies := by
      cases hcase : body.simulations with
      | none =>
        rw [hcase] at hbodies
        cases hbodies
      | some bodies' =>
        rw [hcase] at hbodies
        cases hbodies
        rfl
    have hmap : bodies.filterMap (·.id) = (bodies.map (·.id)).filterMap id := by
      rw [List.filterMap_map]
      rfl
    rw [BatchBody.ids, hsome, Option.getD_some, hmap, hids, List.filterMap_map]
    exact congrFun List.filterMap_eq_map simulations
  have hlength : (simulations.map BatchSimulation.engine).length ≤ Engine.maxBatchSimulations := by
    rw [List.length_map]
    exact hcount.2
  have hne : simulations.map BatchSimulation.engine ≠ [] := by
    rw [← List.length_pos_iff, List.length_map]
    exact hcount.1
  have hsum : ((simulations.map BatchSimulation.engine).map (·.config.paths)).sum
      ≤ Engine.maxBatchPaths := by
    have hpaths := sum_paths_engine hall
    simp only [maxBatchTotalPaths] at htotal
    simp only [Engine.maxBatchPaths]
    omega
  have hchecks := Engine.validateBatchSimulations_ok hne hlength hsum
  obtain ⟨responseMode, hmode⟩ := deserializeResponseMode_ok (K := K) mode
  rw [hbody, List.forall_mem_map]
  constructor
  · rintro ⟨accepted, haccepted⟩ simulation hmem
    simp only [admitBatch, hmode, under, readable, bind, Except.bind] at haccepted
    cases hread : deserializeBatch simulations with
    | error issue =>
      rw [hread] at haccepted
      cases haccepted
    | ok requests =>
      obtain ⟨hchars, rfl⟩ := (deserializeBatch_ok hall).mp hread
      obtain ⟨chars, hchars⟩ := hchars simulation hmem
      rw [hread] at haccepted
      cases hcheck : Engine.validateBatchSimulations (simulations.map BatchSimulation.engine) with
      | error message =>
        simp only [hcheck, checked] at haccepted
        cases haccepted
      | ok total =>
        exact (validSimulation_iff (hall simulation hmem) hchars).mp
          (hchecks.mp ⟨total, hcheck⟩ _ (List.mem_map_of_mem hmem))
  · intro hfits
    have hread := (deserializeBatch_ok hall).mpr
      ⟨fun simulation hmem => (hfits simulation hmem).imp fun _ h => h.1, rfl⟩
    obtain ⟨total, hcheck⟩ := hchecks.mpr (by
      rw [List.forall_mem_map]
      intro simulation hmem
      obtain ⟨chars, hchars, hsize⟩ := hfits simulation hmem
      exact (validSimulation_iff (hall simulation hmem) hchars).mpr ⟨chars, hchars, hsize⟩)
    refine ⟨.batch (simulations.map BatchSimulation.engine) responseMode, ?_⟩
    simp only [admitBatch, hmode, under, hread, readable, bind, Except.bind, hcheck, checked]

/-- For every request the edge admits: a single request is read by the service for what it
is and passes its checks; a batch does exactly when the service can read each of its ids
and finds at most 64 bytes in it. -/
theorem admittedRequests_accepted_iff :
    (∀ (value : Option (Json K)) (request : MonteCarloRequest K),
      monteCarloRequestSchema value = .ok request →
        ∃ simulation, admitSimulate request = .ok simulation) ∧
    (∀ (body : BatchBody K) (request : BatchRequest K),
      batchRequestSchema body = .ok request →
        ((∃ batch, admitBatch request = .ok batch) ↔
          ∀ id ∈ body.ids, FitsEngine id)) :=
  ⟨fun _ _ h => ⟨_, admitSimulate_admitted h⟩, fun _ _ h => admitBatch_iff h⟩

/-! ## An accented id -/

/-- A household of sixty without accounts. -/
def plainPlan : SimulationPlan ℚ where
  schemaVersion := 8
  profile :=
    { birthDate := Engine.newYear 1965, state := .TX, filingStatus := .single,
      retirementAge := 65, currentSalary := 50000, salaryGrowthRate := 0, currentSpending := 30000,
      workingSpendingGrowthRate := 0, retirementSpending := 30000,
      retirementSpendingGrowthRate := 0, lifeExpectancy := 85, retirementHealthcare := ⟨0, 0, 0, 0⟩,
      longTermCare := ⟨false, 1⟩, asOfDate := Engine.newYear 2025 }
  accounts := []
  socialSecurity := ⟨true, none, 67, false⟩
  assumptions := ⟨42, .historical, 0, false, false, ⟨false, .bracket24⟩, false, 0⟩

/-- The id of a batch of one simulation of the plan. -/
def bodyWithId (id : JsString) : BatchBody ℚ where
  responseMode := none
  simulations := some
    [{ id := some id
       plan := some (simulationPlanJson plainPlan)
       config := some (simulationConfigJson ⟨1000, 42, none, none⟩) }]

/-- 33 letters é: 33 code units, 66 bytes. -/
def accentedBody : BatchBody ℚ := bodyWithId (List.replicate 33 0xE9)

/-- The edge admits the batch, and charges it, and the service refuses it. -/
theorem accentedBody_refused :
    ∃ request, batchRequestSchema accentedBody = .ok request ∧
      admitBatch request
        = .error (.badRequest "Simulation id must contain 1 to 64 characters") := by
  obtain ⟨request, hrequest, hrefused⟩ := exists_of_okAnd (by decide +kernel :
    okAnd (batchRequestSchema accentedBody) (fun request =>
      match admitBatch request with
      | .ok _ => false
      | .error refusal => decide
          (refusal = .badRequest "Simulation id must contain 1 to 64 characters")) = true)
  refine ⟨request, hrequest, ?_⟩
  split at hrefused
  · cases hrefused
  · rename_i refusal hcase
    rw [hcase, of_decide_eq_true hrefused]

theorem admittedRequests_accepted_iff_ascii :
    ∃ request, batchRequestSchema (bodyWithId [0x73, 0x73]) = .ok request ∧
      ∃ batch, admitBatch request = .ok batch := by
  obtain ⟨request, hrequest, -⟩ := exists_of_okAnd (by decide +kernel :
    okAnd (batchRequestSchema (bodyWithId [0x73, 0x73])) (fun _ => true) = true)
  refine ⟨request, hrequest, (admittedRequests_accepted_iff.2 _ _ hrequest).mpr ?_⟩
  intro id hid
  cases List.mem_singleton.mp hid
  exact ⟨['s', 's'], by decide, by decide⟩

end RetirementPlanner.Web
