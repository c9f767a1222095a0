import RetirementPlanner.Proof.Server
import RetirementPlanner.Proof.StoredPlans
import RetirementPlanner.Web.MainRun

/-!
# The main run returns the engine's result

What the engine writes of a result is what the browser reads (`simulationResultSchema_json`).

* `mainRun_engines`: whichever engine answers, the main run of a stored plan shows the result of the
  engine's run of that plan;
* `simulationExport_reproduces`: what is exported of it is enough to run it again.
-/

namespace RetirementPlanner.Web.MainRun

open Schema

variable {K : Type}

/-! ## Results on the wire -/

section Wire

variable [Field K]

def PathProjection.read (row : Engine.PathProjection K) : PathProjection K where
  year := row.year
  age := row.age
  portfolioValue := row.portfolioValue
  income := row.income
  spending := row.spending
  taxes := row.taxes
  savings := row.savings
  socialSecurityBenefit := row.socialSecurityBenefit
  isRetired := row.isRetired
  withdrawalTaxable := row.withdrawalTaxable
  withdrawalTraditional := row.withdrawalTraditional
  withdrawalRoth := row.withdrawalRoth
  rmdAmount := row.rmdAmount
  rothConversion := row.rothConversion
  depositTaxable := row.depositTaxable
  depositTraditional := row.depositTraditional
  depositRoth := row.depositRoth
  depositHSA := row.depositHsa
  withdrawalHSA := row.withdrawalHsa
  healthcareCost := row.healthcareCost
  longTermCareCost := row.longTermCareCost
  insufficientFunds := row.insufficientFunds

def YearlyProjection.read (row : Engine.YearlyProjection K) : YearlyProjection K :=
  { PathProjection.read row.base with
    p5 := row.p5, p10 := row.p10, p15 := row.p15, p25 := row.p25, p50 := row.p50, p75 := row.p75,
    p90 := row.p90 }

def readCashFlow (row : Engine.OutcomeCashFlowRow K) : OutcomeCashFlowRow K where
  age := row.age
  isRetired := row.isRetired
  income := row.income
  spending := row.spending
  taxes := row.taxes
  savings := row.savings
  socialSecurityBenefit := row.socialSecurityBenefit
  withdrawalTaxable := row.withdrawalTaxable
  withdrawalTraditional := row.withdrawalTraditional
  withdrawalRoth := row.withdrawalRoth
  withdrawalHSA := row.withdrawalHsa
  healthcareCost := some row.healthcareCost
  longTermCareCost := some row.longTermCareCost

def OutcomeBucket.read (bucket : Engine.OutcomeBucket K) : OutcomeBucket K where
  centerPercentile := bucket.centerPercentile
  lowerPercentile := bucket.lowerPercentile
  upperPercentile := bucket.upperPercentile
  successProbability := bucket.successProbability
  projections := bucket.projections.map readCashFlow

/-- An engine's result as the browser has it. -/
def SimulationResult.read (result : Engine.SimulationResult K) : SimulationResult K where
  successProbability := result.successProbability
  medianTerminalWealth := result.medianTerminalWealth
  medianAfterTaxTerminalWealth := result.medianAfterTaxTerminalWealth
  percentile5TerminalWealth := result.percentile5TerminalWealth
  percentile10TerminalWealth := result.percentile10TerminalWealth
  percentile90TerminalWealth := result.percentile90TerminalWealth
  yearlyProjections := result.yearlyProjections.map YearlyProjection.read
  outcomeBuckets := result.outcomeBuckets.map OutcomeBucket.read
  riskOfRuin := result.riskOfRuin

theorem yearlyProjectionSchema_json (row : Engine.YearlyProjection K) :
    yearlyProjectionSchema (some (yearlyProjectionJson row)) = .ok (YearlyProjection.read row) := by
  simp only [yearlyProjectionSchema, bind_ok]
  refine ⟨_, strict_obj (fun key hkey => hkey), PathProjection.read row.base, ?_, row.p5, rfl,
    row.p10, rfl, row.p15, rfl, row.p25, rfl, row.p50, rfl, row.p75, rfl, row.p90, rfl, rfl⟩
  rfl

theorem outcomeCashFlowRowSchema_json (row : Engine.OutcomeCashFlowRow K) :
    outcomeCashFlowRowSchema (some (outcomeCashFlowRowJson row)) = .ok (readCashFlow row) := by
  simp only [outcomeCashFlowRowSchema, bind_ok]
  refine ⟨_, strict_obj (fun key hkey => hkey), ?_⟩
  exact ⟨_, rfl, _, rfl, _, rfl, _, rfl, _, rfl, _, rfl, _, rfl, _, rfl, _, rfl, _, rfl, _, rfl, _,
    rfl, _, rfl, rfl⟩

theorem outcomeBucketSchema_json (bucket : Engine.OutcomeBucket K) :
    outcomeBucketSchema (some (outcomeBucketJson bucket)) = .ok (OutcomeBucket.read bucket) := by
  simp only [outcomeBucketSchema, bind_ok, field_ok]
  exact ⟨_, strict_obj (fun key hkey => hkey), _, rfl, _, rfl, _, rfl, _, rfl, _,
    array_encodeArray outcomeCashFlowRowSchema_json bucket.projections, rfl⟩

/-- A result with cohorts is read for what it is. -/
theorem simulationResultSchema_json {result : Engine.SimulationResult K}
    (h : result.outcomeBuckets ≠ []) :
    simulationResultSchema (some (simulationResultJson result))
      = .ok (SimulationResult.read result) := by
  have hbuckets : result.outcomeBuckets.isEmpty = false := List.isEmpty_eq_false_iff.mpr h
  simp only [simulationResultSchema, simulationResultJson, hbuckets, Bool.false_eq_true, if_false,
    bind_ok, field_ok]
  refine ⟨_, strict_obj (by simp), ?_⟩
  exact ⟨_, rfl, _, rfl, _, rfl, _, rfl, _, rfl, _, rfl, _,
    array_encodeArray yearlyProjectionSchema_json result.yearlyProjections, _,
    array_encodeArray outcomeBucketSchema_json result.outcomeBuckets, _, rfl, rfl⟩

/-- A result without them is refused. -/
theorem simulationResultSchema_outdated (result : Engine.SimulationResult K)
    {read : SimulationResult K} :
    simulationResultSchema (some (simulationResultJson { result with outcomeBuckets := [] }))
      ≠ .ok read := by
  intro h
  simp only [simulationResultSchema, simulationResultJson, List.isEmpty_nil, if_true, bind_ok,
    field_ok] at h
  obtain ⟨fields, hfields, -, -, -, -, -, -, -, -, -, -, -, -, -, -, buckets, hbuckets, -⟩ := h
  cases (strict_obj (by simp)).symm.trans hfields
  cases hbuckets

/-! ## Results in memory -/

theorem yearlyProjectionSchema_value (row : YearlyProjection K) :
    yearlyProjectionSchema (some row.value) = .ok row := by
  simp only [yearlyProjectionSchema, bind_ok]
  refine ⟨_, strict_obj (fun key hkey => hkey), row.toPathProjection, ?_, row.p5, rfl, row.p10, rfl,
    row.p15, rfl, row.p25, rfl, row.p50, rfl, row.p75, rfl, row.p90, rfl, rfl⟩
  rfl

theorem outcomeCashFlowRowSchema_value (row : Engine.OutcomeCashFlowRow K) :
    outcomeCashFlowRowSchema (some (cashFlowRowValue (readCashFlow row)))
      = .ok (readCashFlow row) := by
  simp only [outcomeCashFlowRowSchema, bind_ok]
  refine ⟨_, strict_obj (fun key hkey => hkey), ?_⟩
  exact ⟨_, rfl, _, rfl, _, rfl, _, rfl, _, rfl, _, rfl, _, rfl, _, rfl, _, rfl, _, rfl, _, rfl, _,
    rfl, _, rfl, rfl⟩

theorem outcomeBucketSchema_value (bucket : Engine.OutcomeBucket K) :
    outcomeBucketSchema (some (OutcomeBucket.read bucket).value)
      = .ok (OutcomeBucket.read bucket) := by
  have hrows : array outcomeCashFlowRowSchema
      (some (encodeArray (cashFlowRowValue ∘ readCashFlow) bucket.projections))
        = .ok (bucket.projections.map readCashFlow) :=
    array_encodeArray outcomeCashFlowRowSchema_value bucket.projections
  rw [encodeArray, ← List.map_map] at hrows
  simp only [outcomeBucketSchema, bind_ok, field_ok]
  exact ⟨_, strict_obj (fun key hkey => hkey), _, rfl, _, rfl, _, rfl, _, rfl, _, hrows, rfl⟩

/-- What was read of an engine's result passes the same schema once more. -/
theorem simulationResultSchema_value (result : Engine.SimulationResult K) :
    simulationResultSchema (some (SimulationResult.read result).value)
      = .ok (SimulationResult.read result) := by
  have hrows : array yearlyProjectionSchema (some (encodeArray YearlyProjection.value
      (SimulationResult.read result).yearlyProjections))
        = .ok ((SimulationResult.read result).yearlyProjections.map id) :=
    array_encodeArray yearlyProjectionSchema_value _
  rw [List.map_id] at hrows
  have hbuckets : array outcomeBucketSchema
      (some (encodeArray (OutcomeBucket.value ∘ OutcomeBucket.read) result.outcomeBuckets))
        = .ok (result.outcomeBuckets.map OutcomeBucket.read) :=
    array_encodeArray outcomeBucketSchema_value result.outcomeBuckets
  rw [encodeArray, ← List.map_map] at hbuckets
  simp only [simulationResultSchema, bind_ok, field_ok]
  exact ⟨_, strict_obj (fun key hkey => hkey), _, rfl, _, rfl, _, rfl, _, rfl, _, rfl, _, rfl, _,
    hrows, _, hbuckets, _, rfl, rfl⟩

end Wire

/-! ## The request -/

section Request

variable [Field K] [LinearOrder K] [FloorRing K] [IsStrictOrderedRing K] {plan : RetirementPlan K}

omit [FloorRing K] [IsStrictOrderedRing K] in
theorem mainConfig_admitted (h : StoredPlan plan) : AdmittedConfig (mainConfig plan) where
  paths := by
    show (1 : ℤ) ≤ 5000 ∧ (5000 : ℤ) ≤ 5000
    omega
  seed := h.assumptions.randomSeed
  blockSize := by
    intro n hn
    cases hn
    decide

theorem simulationConfigSchema_main (h : StoredPlan plan) :
    simulationConfigSchema (some (simulationConfigJson (mainConfig plan) : Json K))
      = .ok (mainConfig plan) := by
  have hpaths : integerBetween (K := K) 1 maxPaths none none (some (.num (mainPaths : ℤ)))
      = .ok mainPaths :=
    integerBetween_ok.mpr ⟨rfl, by decide⟩
  have hseed : integerBetween (K := K) 0 (2 ^ 32 - 1) none none (some (.num (baseSeed plan : ℤ)))
      = .ok (baseSeed plan) :=
    integerBetween_ok.mpr ⟨rfl, h.assumptions.randomSeed⟩
  have hblock : integerBetween (K := K) 1 10 none none (some (.num (monteCarloBlockSize : ℤ)))
      = .ok (monteCarloBlockSize : ℤ) :=
    integerBetween_ok.mpr ⟨rfl, by decide⟩
  simp only [simulationConfigSchema, bind_ok, object_ok, field_ok, optional_ok]
  exact ⟨_, rfl, _, hpaths, _, hseed, some (historicalBootstrapFor plan),
    .inr ⟨_, _, rfl, rfl, rfl⟩, some (monteCarloBlockSize : ℤ), .inr ⟨_, _, rfl, hblock, rfl⟩, rfl⟩

/-- What the engine reads of the body. -/
theorem deserializeRequest_main (h : StoredPlan plan) :
    deserializeRequest (some (monteCarloRequestJson (mainRequest plan)))
      = .ok ⟨toSimulationPlan plan, (mainConfig plan).engine⟩ := by
  have hversion : (0 : ℤ) ≤ 8 ∧ (8 : ℤ) ≤ 8 := by omega
  have hread : deserializePlan (some (simulationPlanJson (buildSimulationPlan plan)))
      = .ok (buildSimulationPlan plan).engine :=
    deserializePlan_json hversion h.profile h.socialSecurity h.assumptions
  rw [engine_buildSimulationPlan] at hread
  simp only [deserializeRequest, bind_ok, object_ok, field_ok]
  exact ⟨_, rfl, _, hread, _, deserializeConfig_json (mainConfig_admitted h), rfl⟩

/-- The edge forwards the body of a plan that runs, as the engine would have read it. -/
theorem forwarded_main (h : StoredPlan plan) (hruns : Runnable plan) :
    forwarded (monteCarloRequestJson (mainRequest plan))
      = .ok ⟨toSimulationPlan plan, (mainConfig plan).engine⟩ := by
  have hparse : monteCarloRequestSchema (some (monteCarloRequestJson (mainRequest plan)))
      = .ok (mainRequest plan) := by
    simp only [monteCarloRequestSchema, bind_ok, object_ok, field_ok]
    exact ⟨_, rfl, _, hruns.edge, _, simulationConfigSchema_main h, rfl⟩
  simp only [forwarded, bind_ok]
  exact ⟨_, hparse, deserializeRequest_main h⟩

/-- What the edge takes of the current version spends at most a billion in retirement and has
at most twenty accounts. -/
theorem simulationPlanSchema_current {plan : SimulationPlan K} {read : SimulationPlan K}
    (hversion : plan.schemaVersion = planSchemaVersion)
    (h : simulationPlanSchema (some (simulationPlanJson plan)) = .ok read) :
    plan.profile.retirementSpending ≤ 1000000000 ∧ plan.accounts.length ≤ maxPlanAccounts := by
  rw [simulationPlanSchema, refined_ok, union_ok, decide_eq_true_iff] at h
  obtain ⟨hcurrent | ⟨-, hlegacy⟩, hcount⟩ := h
  · simp only [currentSimulationPlanSchema, simulationProfileSchema, bind_ok, object_ok, field_ok,
      between_ok] at hcurrent
    obtain ⟨_, hfields, _, -, _, ⟨_, hprofile, -, -, -, -, -, -, -, -, -, -, -, -, -, -, -, -, -, -,
      -, -, -, -, -, -, -, -, target, ⟨htarget, hbound⟩, -⟩, accounts, haccounts, _, -, _, -,
      hread⟩ := hcurrent
    cases hfields
    cases hprofile
    cases htarget
    cases hread
    have hlength := array_length haccounts
    rw [List.length_map] at hlength
    exact ⟨hbound.2, hlength ▸ hcount⟩
  · simp only [legacySimulationPlanSchema, bind_ok, object_ok, field_ok, optional_ok,
      integerBetween_ok] at hlegacy
    obtain ⟨_, hfields, _, hschema, -⟩ := hlegacy
    cases hfields
    rcases hschema with ⟨hnone, -⟩ | ⟨json, n, hjson, ⟨hnum, hbound⟩, -⟩
    · cases hnone
    · have hcast : (n : K) = (planSchemaVersion : ℤ) := by
        rw [← hversion]
        cases hjson
        exact (Json.num.inj (Option.some.inj hnum)).symm
      have hn : n = planSchemaVersion := by exact_mod_cast hcast
      omega

omit [FloorRing K] [IsStrictOrderedRing K] in
theorem validateSimulationRequest_main (h : StoredPlan plan) :
    Engine.validateSimulationRequest ⟨toSimulationPlan plan, (mainConfig plan).engine⟩
      = Engine.validatePlan (toSimulationPlan plan) := by
  simp only [Engine.validateSimulationRequest, validateConfig_engine (mainConfig_admitted h), bind,
    Except.bind]

end Request

/-! ## The run -/

section Run

variable [Field K] [LinearOrder K] [FloorRing K] (log : Engine.NaturalLog K)
  (source : Engine.RandomSource K)

/-- How the native service is reached: what it answers of its own is what the forwarded request is
due. -/
inductive Answers (plan : RetirementPlan K) : MainCall K → Prop
  | unanswered : Answers plan .unanswered
  | answered {request : Engine.SimulationRequest K} {reply : Engine.Reply K}
      (hforwarded : forwarded (monteCarloRequestJson (mainRequest plan)) = .ok request)
      (hdue : Engine.Due log source (.simulate request) reply) : Answers plan (.answered reply)
  | outdated (result : Engine.SimulationResult K) : Answers plan (.outdated result)

theorem runSimulation_buckets {plan : Engine.RetirementPlan K} {config : Engine.MCConfig}
    {result : Engine.SimulationResult K}
    (h : Engine.runSimulation log source plan config = .ok result) :
    result.outcomeBuckets ≠ [] := by
  simp only [Engine.runSimulation, bind_ok] at h
  obtain ⟨prepared, -, h⟩ := h
  unfold Engine.aggregateResults at h
  split at h
  · cases h
  · simp only [bind_ok] at h
    obtain ⟨prepared', -, h⟩ := h
    split at h
    · cases h
    · cases h
      simp [Engine.outcomeCenters]

omit [LinearOrder K] [FloorRing K] in
theorem runMainOnServer_outdated (result : Engine.SimulationResult K) :
    runMainOnServer (.outdated result) = none := by
  have hrefused : (simulationResultSchema
      (some (simulationResultJson { result with outcomeBuckets := [] }))).toOption = none := by
    cases hparse : simulationResultSchema
        (some (simulationResultJson { result with outcomeBuckets := [] })) with
    | error issue => rfl
    | ok read => exact absurd hparse (simulationResultSchema_outdated result)
  simp only [runMainOnServer, MainCall.body, Option.bind_eq_bind, Option.bind_some, hrefused,
    Option.bind_none]

omit [LinearOrder K] [FloorRing K] in
theorem runMainOnServer_simulation {result : Engine.SimulationResult K}
    (h : result.outcomeBuckets ≠ []) :
    runMainOnServer (.answered (.simulation result))
      = some ⟨SimulationResult.read result, .server, none, none⟩ := by
  have hsome : (SimulationResult.read result).outcomeBuckets.isEmpty = false := by
    rw [List.isEmpty_eq_false_iff]
    simpa [SimulationResult.read] using h
  simp only [runMainOnServer, MainCall.body, Option.bind_eq_bind, Option.bind_some,
    simulationResultSchema_json h, Except.toOption, hsome, Bool.false_eq_true, if_false]

variable [IsStrictOrderedRing K] {plan : RetirementPlan K}

/-- The browser's engine reads the body, checks it and runs it. -/
theorem runRustSimulation_main (h : StoredPlan plan) {result : Engine.SimulationResult K}
    (hvalid : Engine.validatePlan (toSimulationPlan plan) = .ok ())
    (hrun : Engine.runSimulation log source (toSimulationPlan plan) (mainConfig plan).engine
      = .ok result) :
    runRustSimulation log source (monteCarloRequestJson (mainRequest plan))
      = some (SimulationResult.read result) := by
  have hchecked := (validateSimulationRequest_main h).trans hvalid
  have hbuckets := runSimulation_buckets log source hrun
  simp only [runRustSimulation, deserializeRequest_main h, Except.toOption, Option.bind_eq_bind,
    Option.bind_some, hchecked, hrun, simulationResultSchema_json hbuckets]

theorem runRustSimulation_refused (h : StoredPlan plan) {message : String}
    (hrefused : Engine.validatePlan (toSimulationPlan plan) = .error message) :
    runRustSimulation log source (monteCarloRequestJson (mainRequest plan)) = none := by
  have hchecked := (validateSimulationRequest_main h).trans hrefused
  simp only [runRustSimulation, deserializeRequest_main h, Except.toOption, Option.bind_eq_bind,
    Option.bind_some, hchecked, Option.bind_none]

omit [FloorRing K] [IsStrictOrderedRing K] in
theorem validatePlan_bounds (hvalid : Engine.validatePlan (toSimulationPlan plan) = .ok ()) :
    retirementSpendingOf plan.profile ≤ 1000000000 ∧
      plan.accounts.length ≤ maxPlanAccounts := by
  have hplan := Engine.validPlan_of_validatePlan hvalid
  have hamounts := hplan.amounts
  have haccounts := hplan.accounts_length_le
  simp only [Engine.UserProfile.hasValidAmounts, Bool.and_eq_true, decide_eq_true_eq] at hamounts
  simp only [toSimulationPlan, List.length_map] at haccounts
  exact ⟨hamounts.1.1.1.2.2, haccounts⟩

/-- A plan that does not run reaches no engine: the edge refuses its body. -/
theorem forwarded_bounds {request : Engine.SimulationRequest K}
    (hforwarded : forwarded (monteCarloRequestJson (mainRequest plan)) = .ok request) :
    retirementSpendingOf plan.profile ≤ 1000000000 ∧
      plan.accounts.length ≤ maxPlanAccounts := by
  simp only [forwarded, monteCarloRequestSchema, bind_ok, object_ok, field_ok] at hforwarded
  obtain ⟨_, ⟨_, hfields, read, hread, -⟩, -⟩ := hforwarded
  cases hfields
  obtain ⟨htarget, hcount⟩ := simulationPlanSchema_current rfl hread
  rw [mainRequest, buildSimulationPlan, List.length_map] at hcount
  exact ⟨htarget, hcount⟩

omit [LinearOrder K] [FloorRing K] [IsStrictOrderedRing K] in
theorem runMainOnServer_unanswered {server : Option (MainCall K)}
    (h : ∀ reply, server ≠ some (.answered reply)) : server.bind runMainOnServer = none := by
  cases server with
  | none => rfl
  | some call =>
    cases call with
    | unanswered => rfl
    | answered reply => exact absurd rfl (h reply)
    | outdated result => exact runMainOnServer_outdated result

/-- The native service has the same result to answer with. -/
theorem Answers.simulation (h : StoredPlan plan) (hruns : Runnable plan)
    {result : Engine.SimulationResult K}
    (hrun : Engine.runSimulation log source (toSimulationPlan plan) (mainConfig plan).engine
      = .ok result) {reply : Engine.Reply K}
    (hanswers : Answers log source plan (.answered reply)) : reply = .simulation result := by
  cases hanswers with
  | answered hforwarded hdue =>
    cases (forwarded_main h hruns).symm.trans hforwarded
    have hchecked := (validateSimulationRequest_main h).trans hruns.engine
    cases hdue with
    | invalid hinvalid => cases hchecked.symm.trans hinvalid
    | simulation _ hresult =>
      cases hrun.symm.trans hresult
      rfl

theorem runMainSimulation_runs (h : StoredPlan plan) (hruns : Runnable plan)
    {result : Engine.SimulationResult K}
    (hrun : Engine.runSimulation log source (toSimulationPlan plan) (mainConfig plan).engine
      = .ok result) (build : WasmBuild) {server : Option (MainCall K)}
    (hserver : ∀ call ∈ server, Answers log source plan call) :
    ∃ main, runMainSimulation log source build plan server = .ok main ∧
      main.toSimulationResult = SimulationResult.read result ∧
      (main.source = .server ↔ ∃ reply, server = some (.answered reply)) := by
  by_cases hanswered : ∃ reply, server = some (.answered reply)
  · obtain ⟨reply, rfl⟩ := hanswered
    have hreply := (hserver _ rfl).simulation log source h hruns hrun
    have hmain : runMainOnServer (.answered reply)
        = some ⟨SimulationResult.read result, .server, none, none⟩ := by
      rw [hreply]
      exact runMainOnServer_simulation (runSimulation_buckets log source hrun)
    refine ⟨⟨SimulationResult.read result, .server, none, none⟩, ?_, rfl,
      iff_of_true rfl ⟨reply, rfl⟩⟩
    simp only [runMainSimulation, Option.bind_some, hmain]
  · refine ⟨⟨SimulationResult.read result, .client, some build.engineVersion,
      some build.sourceRevision⟩, ?_, rfl, iff_of_false (fun hsame => ?_) hanswered⟩
    · simp only [runMainSimulation, runMainOnServer_unanswered (not_exists.mp hanswered),
        runMonteCarloSimulation, runRustSimulation_main log source h hruns.engine hrun]
    · cases hsame

/-- What is shown, an engine has taken. -/
theorem runMainSimulation_bounds (h : StoredPlan plan) (build : WasmBuild)
    {server : Option (MainCall K)} (hserver : ∀ call ∈ server, Answers log source plan call)
    {main : MainResult K} (hmain : runMainSimulation log source build plan server = .ok main) :
    retirementSpendingOf plan.profile ≤ 1000000000 ∧
      plan.accounts.length ≤ maxPlanAccounts := by
  by_cases hanswered : ∃ reply, server = some (.answered reply)
  · obtain ⟨reply, rfl⟩ := hanswered
    cases hserver _ rfl with
    | answered hforwarded hdue => exact forwarded_bounds hforwarded
  · rw [runMainSimulation, runMainOnServer_unanswered (not_exists.mp hanswered)] at hmain
    cases hvalid : Engine.validatePlan (toSimulationPlan plan) with
    | ok _ => exact validatePlan_bounds hvalid
    | error message =>
      simp only [runMonteCarloSimulation, runRustSimulation_refused log source h hvalid] at hmain
      cases hmain

/-- What the engine has for a plan that runs. -/
theorem exists_mainResult (hruns : Runnable plan) :
    ∃ result, Engine.runSimulation log source (toSimulationPlan plan) (mainConfig plan).engine
      = .ok result := by
  obtain ⟨prepared, hnew⟩ := Engine.exists_prepared hruns.engine
  refine Engine.exists_runSimulation log source hnew ?_
  show 1 ≤ mainPaths.toNat
  decide

/-- What is shown is the engine's result for a plan that runs. -/
theorem runMainSimulation_ok (h : StoredPlan plan) (build : WasmBuild)
    {server : Option (MainCall K)} (hserver : ∀ call ∈ server, Answers log source plan call)
    {main : MainResult K} (hmain : runMainSimulation log source build plan server = .ok main) :
    Runnable plan ∧ (∃ result, Engine.runSimulation log source (toSimulationPlan plan)
        (mainConfig plan).engine = .ok result ∧
      main.toSimulationResult = SimulationResult.read result) ∧
    (main.source = .server ↔ ∃ reply, server = some (.answered reply)) := by
  obtain ⟨htarget, hcount⟩ := runMainSimulation_bounds log source h build hserver hmain
  have hruns := (runs_iff h hcount).mpr htarget
  obtain ⟨result, hrun⟩ := exists_mainResult log source hruns
  obtain ⟨main', hmain', hread, hsource⟩ :=
    runMainSimulation_runs log source h hruns hrun build hserver
  cases hmain'.symm.trans hmain
  exact ⟨hruns, ⟨result, hrun, hread⟩, hsource⟩

variable {value : Option (Json K)}

/-- **The main run of a stored plan shows the engine's result**, whichever engine is asked and
however it answers, and shows none exactly when spending at retirement passes a billion dollars.
The native service is named where it answered. -/
theorem mainRun_engines (hstored : retirementPlanSchema value = .ok plan)
    (hcount : plan.accounts.length ≤ maxPlanAccounts) (build : WasmBuild)
    {server : Option (MainCall K)} (hserver : ∀ call ∈ server, Answers log source plan call) :
    ((∃ main, runMainSimulation log source build plan server = .ok main) ↔
        retirementSpendingOf plan.profile ≤ 1000000000) ∧
      ∀ main, runMainSimulation log source build plan server = .ok main →
        (∃ result, Engine.runSimulation log source (toSimulationPlan plan)
            (mainConfig plan).engine = .ok result ∧
          main.toSimulationResult = SimulationResult.read result) ∧
        (main.source = .server ↔ ∃ reply, server = some (.answered reply)) := by
  have h := retirementPlanSchema_stored hstored
  refine ⟨⟨fun ⟨main, hmain⟩ => ?_, fun htarget => ?_⟩, fun main hmain => ?_⟩
  · exact (runs_iff h hcount).mp (runMainSimulation_ok log source h build hserver hmain).1
  · have hruns := (runs_iff h hcount).mpr htarget
    obtain ⟨result, hrun⟩ := exists_mainResult log source hruns
    obtain ⟨main, hmain, -⟩ := runMainSimulation_runs log source h hruns hrun build hserver
    exact ⟨main, hmain⟩
  · exact (runMainSimulation_ok log source h build hserver hmain).2

/-- The native service may answer with the result, or with one without cohorts, or not at all. -/
theorem answers_each (h : StoredPlan plan) (hruns : Runnable plan)
    {result : Engine.SimulationResult K}
    (hrun : Engine.runSimulation log source (toSimulationPlan plan) (mainConfig plan).engine
      = .ok result) :
    ∀ call ∈ [MainCall.answered (.simulation result), .outdated result, .unanswered],
      ∀ served ∈ some call, Answers log source plan served := by
  rintro call hcall served ⟨⟩
  simp only [List.mem_cons, List.not_mem_nil, or_false] at hcall
  obtain rfl | rfl | rfl := hcall
  · exact .answered (forwarded_main h hruns)
      (.simulation ((validateSimulationRequest_main h).trans hruns.engine) hrun)
  · exact .outdated result
  · exact .unanswered

theorem mainRun_engines_modest : ∃ result : Engine.SimulationResult ℚ,
    ∀ call ∈ [MainCall.answered (.simulation result), .outdated result, .unanswered],
      ∃ main, runMainSimulation Engine.NaturalLog.flat Engine.countingSource ⟨"0.1.0", "source"⟩
          (householdSpending 30000 1) (some call) = .ok main ∧
        main.toSimulationResult = .read result ∧
        (main.source = .server ↔ ∃ reply, some call = some (.answered reply)) := by
  have h := retirementPlanSchema_stored modestHousehold_stored
  have hruns := (runs_iff h (by decide)).mpr (by decide +kernel)
  obtain ⟨result, hrun⟩ := exists_mainResult Engine.NaturalLog.flat Engine.countingSource hruns
  refine ⟨result, fun call hcall => ?_⟩
  obtain ⟨hshown, hresult⟩ := mainRun_engines Engine.NaturalLog.flat Engine.countingSource
    modestHousehold_stored (by decide) ⟨"0.1.0", "source"⟩
      (answers_each _ _ h hruns hrun call hcall)
  obtain ⟨main, hmain⟩ := hshown.mpr (by decide +kernel)
  obtain ⟨⟨result', hrun', hread⟩, hsource⟩ := hresult main hmain
  cases hrun.symm.trans hrun'
  exact ⟨main, hmain, hread, hsource⟩

/-! ## Exports -/

/-- The configuration that an export tells. -/
def SimulationExport.config (exported : SimulationExport K) : SimulationConfig where
  paths := exported.paths
  seed := exported.input.assumptions.randomSeed
  useHistoricalBootstrap := some (decide (exported.input.assumptions.simulationModel ≠ .parametric))
  blockSize := some monteCarloBlockSize

/-- **An export reproduces its result**: whatever is shown can be exported, and the engine finds the
exported output from the exported input, paths and seed alone. -/
theorem simulationExport_reproduces (hstored : retirementPlanSchema value = .ok plan)
    (build : WasmBuild) {server : Option (MainCall K)}
    (hserver : ∀ call ∈ server, Answers log source plan call)
    {main : MainResult K} (hmain : runMainSimulation log source build plan server = .ok main) :
    ∃ exported, buildSimulationExport plan main.toSimulationResult = .ok exported ∧
      exported.output = main.toSimulationResult ∧
      ∃ result, Engine.runSimulation log source exported.input.engine exported.config.engine
          = .ok result ∧
        exported.output = SimulationResult.read result := by
  obtain ⟨hruns, ⟨result, hrun, hread⟩, -⟩ := runMainSimulation_ok log source
    (retirementPlanSchema_stored hstored) build hserver hmain
  have hversion : refined integer (fun n => n = simulationExportVersion) none
      (some (.num (simulationExportVersion : K))) = .ok simulationExportVersion :=
    refined_ok.mpr ⟨integer_ok.mpr rfl, by decide⟩
  have hpaths : refined integer (fun n => 0 < n) none (some (.num (mainPaths : K)))
      = .ok mainPaths :=
    refined_ok.mpr ⟨integer_ok.mpr rfl, by decide⟩
  rw [hread]
  refine ⟨⟨simulationExportVersion, mainPaths, buildSimulationPlan plan, .read result⟩, ?_, rfl,
    result, ?_, rfl⟩
  · simp only [buildSimulationExport, simulationExportSchema, bind_ok, field_ok]
    exact ⟨_, simulationResultSchema_value result, _, strict_obj (fun key hkey => hkey), _,
      hversion, _, hpaths, _, hruns.schema, _, simulationResultSchema_value result, rfl⟩
  · rw [engine_buildSimulationPlan]
    exact hrun

theorem simulationExport_reproduces_modest : ∃ result : Engine.SimulationResult ℚ,
    ∀ call ∈ [MainCall.answered (.simulation result), .outdated result, .unanswered],
      ∃ main exported, runMainSimulation Engine.NaturalLog.flat Engine.countingSource
          ⟨"0.1.0", "source"⟩ (householdSpending 30000 1) (some call) = .ok main ∧
        buildSimulationExport (householdSpending 30000 1) main.toSimulationResult = .ok exported ∧
        exported.output = .read result := by
  have h := retirementPlanSchema_stored modestHousehold_stored
  have hruns := (runs_iff h (by decide)).mpr (by decide +kernel)
  obtain ⟨result, hrun⟩ := exists_mainResult Engine.NaturalLog.flat Engine.countingSource hruns
  refine ⟨result, fun call hcall => ?_⟩
  have hanswers := answers_each Engine.NaturalLog.flat Engine.countingSource h hruns hrun call hcall
  obtain ⟨main, hmain, hread, -⟩ := runMainSimulation_runs Engine.NaturalLog.flat
    Engine.countingSource h hruns hrun ⟨"0.1.0", "source"⟩ hanswers
  obtain ⟨exported, hexported, houtput, -⟩ := simulationExport_reproduces Engine.NaturalLog.flat
    Engine.countingSource modestHousehold_stored ⟨"0.1.0", "source"⟩ hanswers hmain
  exact ⟨main, exported, hmain, hexported, houtput.trans hread⟩

end Run

end RetirementPlanner.Web.MainRun
