import RetirementPlanner.Lib.Runs
import RetirementPlanner.Proof.Codec
import RetirementPlanner.Web.World

/-!
# A displayed result belongs to its plan

What of a session decides which result is shown is its `Display`: a plan, the results and
the plan they were computed from, the pending flags, the generations and the runs on
their way. Every event either leaves the display as it is, starts a run, settles one, or
replaces the plan by a valid one and invalidates all results (`handle_display`,
`receive_display`). `DisplayInv` holds of every reachable display
(`results_belong_to_plan`).
-/

namespace RetirementPlanner.Web

open Schema Runs

variable {K Result Sensitivities : Type} [Field K] [LinearOrder K] [FloorRing K]

/-! ## Displays -/

/-- The part of a session that decides which result is shown. -/
structure Display (K Result Sensitivities : Type) where
  plan : RetirementPlan K
  simulationResult : Option Result
  simulationPlan : Option (RetirementPlan K)
  analysisResults : Option Sensitivities
  simulationPending : Bool
  sensitivityPending : Bool
  mainSimGeneration : ℕ
  sensitivitySimGeneration : ℕ
  simulationController : ℕ
  mainRuns : List (RunTask K)
  sensitivityRuns : List (RunTask K)

def Session.display (session : Session K Result Sensitivities) :
    Display K Result Sensitivities where
  plan := session.state.plan
  simulationResult := session.state.simulationResult
  simulationPlan := session.state.simulationPlan
  analysisResults := session.state.analysisResults
  simulationPending := session.state.simulationPending
  sensitivityPending := session.state.sensitivityPending
  mainSimGeneration := session.mainSimGeneration
  sensitivitySimGeneration := session.sensitivitySimGeneration
  simulationController := session.simulationController
  mainRuns := session.mainRuns
  sensitivityRuns := session.sensitivityRuns

namespace Display

variable (d : Display K Result Sensitivities)

/-- A new plan, and all results stale. -/
def invalidate (plan : RetirementPlan K) : Display K Result Sensitivities :=
  { d with
    plan
    simulationPending := true
    sensitivityPending := true
    mainSimGeneration := d.mainSimGeneration + 1
    sensitivitySimGeneration := d.sensitivitySimGeneration + 1
    simulationController := d.simulationController + 1 }

def startMain (useServerSide : Bool) : Display K Result Sensitivities :=
  { d with
    simulationPending := true
    mainSimGeneration := d.mainSimGeneration + 1
    mainRuns := ⟨d.mainSimGeneration + 1, d.plan, useServerSide, d.simulationController⟩
      :: d.mainRuns }

def startSensitivity (useServerSide : Bool) : Display K Result Sensitivities :=
  { d with
    sensitivityPending := true
    sensitivitySimGeneration := d.sensitivitySimGeneration + 1
    sensitivityRuns := ⟨d.sensitivitySimGeneration + 1, d.plan, useServerSide,
      d.simulationController⟩ :: d.sensitivityRuns }

def showMain (result : Option (Result × RetirementPlan K)) : Display K Result Sensitivities :=
  { d with
    simulationResult := result.map (·.1)
    simulationPlan := result.map (·.2)
    simulationPending := false }

def showSensitivity (results : Option Sensitivities) : Display K Result Sensitivities :=
  { d with
    analysisResults := results
    sensitivityPending := false }

def dropMain (index : ℕ) : Display K Result Sensitivities :=
  { d with mainRuns := d.mainRuns.eraseIdx index }

def dropSensitivity (index : ℕ) : Display K Result Sensitivities :=
  { d with sensitivityRuns := d.sensitivityRuns.eraseIdx index }

end Display

/-- What the simulation service may answer to a plan, on either side. -/
structure Service (K Result Sensitivities : Type) where
  main : RetirementPlan K → Bool → Result → Prop
  sensitivities : RetirementPlan K → Bool → Sensitivities → Prop

variable (service : Service K Result Sensitivities)

/-- What a step can do to a display. -/
inductive DisplayStep :
    Display K Result Sensitivities → Display K Result Sensitivities → Prop
  | quiet (d) : DisplayStep d d
  | invalidate (d) (plan) (hvalid : ValidPlan plan) : DisplayStep d (d.invalidate plan)
  | startMain (d) (useServerSide) : DisplayStep d (d.startMain useServerSide)
  | startSensitivity (d) (useServerSide) : DisplayStep d (d.startSensitivity useServerSide)
  | mainStale (d) (index) : DisplayStep d (d.dropMain index)
  | mainSucceeded (d) (index run result) (hrun : d.mainRuns[index]? = some run)
      (hlive : run.generation = d.mainSimGeneration)
      (hanswer : service.main run.plan run.useServerSide result) :
      DisplayStep d ((d.dropMain index).showMain (some (result, run.plan)))
  | mainFailed (d) (index) : DisplayStep d ((d.dropMain index).showMain none)
  | sensitivityStale (d) (index) : DisplayStep d (d.dropSensitivity index)
  | sensitivitySucceeded (d) (index run results) (hrun : d.sensitivityRuns[index]? = some run)
      (hlive : run.generation = d.sensitivitySimGeneration)
      (hanswer : service.sensitivities run.plan run.useServerSide results) :
      DisplayStep d ((d.dropSensitivity index).showSensitivity (some results))
  | sensitivityFailed (d) (index) : DisplayStep d ((d.dropSensitivity index).showSensitivity none)

/-- The service answers a run for the plan the run was given. -/
def Admits (session : Session K Result Sensitivities) : Event K Result Sensitivities → Prop
  | .mainDone index (.ok result) =>
    ∀ run, session.mainRuns[index]? = some run → service.main run.plan run.useServerSide result
  | .sensitivityDone index (.ok results) =>
    ∀ run, session.sensitivityRuns[index]? = some run →
      service.sensitivities run.plan run.useServerSide results
  | _ => True

/-! ## Every plan of the store is valid -/

variable [IsStrictOrderedRing K]

theorem hydratePlan_valid {clock : Clock}
    {profile socialSecurity assumptions accounts : Option (Json K)} {plan : RetirementPlan K}
    (h : hydratePlan clock profile socialSecurity assumptions accounts = .ok plan) :
    ValidPlan plan := by
  obtain ⟨fields, -, hplan⟩ := hydratePlan_ok.mp h
  exact retirementPlanSchema_valid hplan

theorem hydrateLocalPlan_valid {bundle : Bundle K} {localProfile : Option (LocalProfileData K)}
    {localAccountState : Option (LocalAccountState K)} {plan : RetirementPlan K}
    (h : hydrateLocalPlan bundle localProfile localAccountState = .ok plan) :
    ValidPlan plan := by
  unfold hydrateLocalPlan at h
  split at h
  · exact retirementPlanSchema_valid h
  · exact hydratePlan_valid h

theorem loadedFromBrowser_valid {bundle : Bundle K} {browser : Except String
      (Option (LocalProfileData K) × Option (LocalAccountState K))} {plan : RetirementPlan K}
    (h : loadedFromBrowser bundle browser = .ok plan) : ValidPlan plan := by
  unfold loadedFromBrowser at h
  split at h
  · cases h
  · split at h
    · cases h
    · rename_i hlocal
      cases h
      exact hydrateLocalPlan_valid hlocal

theorem hydrateCloudPlan_valid {bundle : Bundle K} {dbProfile : Option (ProfileSettings K)}
    {cloudAccounts : List (Account K)} {plan : RetirementPlan K}
    (h : hydrateCloudPlan bundle dbProfile cloudAccounts = .ok plan) : ValidPlan plan := by
  unfold hydrateCloudPlan at h
  split at h
  · cases h
  · split at h
    · cases h
    · rename_i hcloud
      cases h
      exact hydratePlan_valid hcloud

/-- Whatever was stored, a bootstrap settles on a valid plan. -/
theorem loadPlan_valid (bundle : Bundle K)
    (cloud : Option (Option (ProfileSettings K) × List (Account K)))
    (browser : Except String (Option (LocalProfileData K) × Option (LocalAccountState K))) :
    ValidPlan (loadPlan bundle cloud browser).plan := by
  have hdefault := retirementPlanSchema_valid bundle.defaultPlan_ok
  unfold loadPlan
  split
  · split
    · rename_i hcloud
      exact hydrateCloudPlan_valid hcloud
    · split
      · rename_i hbrowser
        exact loadedFromBrowser_valid hbrowser
      · exact hdefault
  · split
    · rename_i hbrowser
      exact loadedFromBrowser_valid hbrowser
    · exact hdefault

theorem parseAccounts_valid {session : Session K Result Sensitivities}
    {accounts accounts' : List (Account K)} (h : session.parseAccounts accounts = .ok accounts') :
    ValidAccounts accounts' := by
  unfold Session.parseAccounts at h
  cases hparse : retirementPlanSchema
      (some (planJson { session.state.plan with accounts })) with
  | error issue =>
    rw [hparse] at h
    cases h
  | ok plan =>
    rw [hparse] at h
    cases h
    exact (retirementPlanSchema_valid hparse).accounts

omit [IsStrictOrderedRing K] [FloorRing K] in
/-- Accounts stay valid one by one. -/
theorem validAccounts_iff {accounts : List (Account K)} :
    ValidAccounts accounts ↔
      ∀ account ∈ accounts, accountSchema (some (accountJson account)) = .ok account := by
  have hitems : ∀ (accounts : List (Account K)) (index : ℕ),
      itemsFrom accountSchema index (accounts.map accountJson) = .ok accounts ↔
        ∀ account ∈ accounts, accountSchema (some (accountJson account)) = .ok account := by
    intro accounts
    induction accounts with
    | nil => simp [itemsFrom]
    | cons account accounts ih =>
      intro index
      simp only [List.map_cons, itemsFrom, bind_ok, under_ok, List.forall_mem_cons]
      constructor
      · rintro ⟨account', haccount, rest, hrest, heq⟩
        cases heq
        exact ⟨haccount, (ih _).mp hrest⟩
      · rintro ⟨haccount, hrest⟩
        exact ⟨account, haccount, accounts, (ih _).mpr hrest, rfl⟩
  exact hitems accounts 0

omit [IsStrictOrderedRing K] [FloorRing K] in
theorem ValidAccounts.filter {accounts : List (Account K)} (h : ValidAccounts accounts)
    (keep : Account K → Bool) : ValidAccounts (accounts.filter keep) := by
  rw [validAccounts_iff] at h ⊢
  intro account haccount
  exact h account (List.mem_filter.mp haccount).1

/-! ## What each function does to the display -/

variable {session : Session K Result Sensitivities}

variable (session) in
omit [IsStrictOrderedRing K] in
/-- A session whose plan is valid takes over valid accounts. -/
theorem applyLocalAccounts_display (hplan : ValidPlan session.state.plan)
    {accounts : List (Account K)} (haccounts : ValidAccounts accounts) :
    DisplayStep service session.display (session.applyLocalAccounts accounts).display :=
  .invalidate _ _ (hplan.withAccounts haccounts)

variable (session) in
theorem finishBootstrap_display (generation : ℕ) (ownerId : Option String)
    (cloudRequested : Bool) (cloud : Option (Option (ProfileSettings K) × List (Account K))) :
    DisplayStep service session.display
      (session.finishBootstrap generation ownerId cloudRequested cloud).display := by
  unfold Session.finishBootstrap
  split
  · exact .quiet _
  · exact .invalidate _ _ (loadPlan_valid _ _ _)

variable (session) in
theorem bootstrap_display (authUser : Option String) (cloudAccountReady : Bool) :
    DisplayStep service session.display
      (session.bootstrap authUser cloudAccountReady).1.display := by
  unfold Session.bootstrap
  split
  · exact .quiet _
  · exact finishBootstrap_display service
      (session.startBootstrap authUser cloudAccountReady) _ _ _ _

theorem updatePlan_display (updates : Session.PlanUpdates K) :
    DisplayStep service session.display (session.updatePlan updates).display := by
  unfold Session.updatePlan
  split
  · exact .quiet _
  · rename_i hplan
    exact .invalidate _ _ (retirementPlanSchema_valid hplan)

omit [IsStrictOrderedRing K] in
theorem flushProfileToDb_display :
    DisplayStep service session.display session.flushProfileToDb.1.display := by
  unfold Session.flushProfileToDb
  split
  · split
    · exact .quiet _
    · exact .quiet _
  · exact .quiet _

theorem createAccount_display (hplan : ValidPlan session.state.plan) (id : String)
    (data : CreateAccountData K) :
    DisplayStep service session.display (session.createAccount id data).1.display := by
  unfold Session.createAccount
  split
  · exact .quiet _
  · split
    · exact .quiet _
    · split
      · exact .quiet _
      · rename_i haccounts
        exact applyLocalAccounts_display service session.clearError hplan
          (parseAccounts_valid haccounts)

theorem updateAccount_display (hplan : ValidPlan session.state.plan) (id : String)
    (updates : UpdateAccountData K) :
    DisplayStep service session.display (session.updateAccount id updates).1.display := by
  unfold Session.updateAccount
  split
  · exact .quiet _
  · split
    · exact .quiet _
    · rename_i haccounts
      exact applyLocalAccounts_display service session.clearError hplan
        (parseAccounts_valid haccounts)

omit [IsStrictOrderedRing K] in
theorem deleteAccount_display (hplan : ValidPlan session.state.plan) (id : String) :
    DisplayStep service session.display (session.deleteAccount id).1.display := by
  unfold Session.deleteAccount
  split
  · exact .quiet _
  · exact applyLocalAccounts_display service session.clearError hplan
      (hplan.accounts.filter _)

theorem setCloudSyncEnabled_display (enabled : Bool) :
    DisplayStep service session.display (session.setCloudSyncEnabled enabled).1.display := by
  unfold Session.setCloudSyncEnabled
  split
  · exact .quiet _
  · split
    · exact bootstrap_display service (Session.persistPreferences
        { session with state := { session.state with cloudSyncEnabled := true } }) _ _
    · dsimp only
      split
      · exact bootstrap_display service (Session.persistPreferences
          { session with
            storage := (saveLocalPlan session.storage session.state.plan session.cacheOwner .user).1
            state := { session.state with cloudSyncEnabled := false } }) _ _
      · exact .quiet _

omit [IsStrictOrderedRing K] in
theorem simulationTimeout_display (hplan : ValidPlan session.state.plan) :
    DisplayStep service session.display session.simulationTimeout.display := by
  unfold Session.simulationTimeout
  split
  · -- The plan is valid, so the callback starts a run.
    rw [hplan.parse]
    exact .startMain _ _
  · exact .quiet _

omit [IsStrictOrderedRing K] in
theorem runSensitivityAnalyses_display :
    DisplayStep service session.display session.runSensitivityAnalyses.display := by
  unfold Session.runSensitivityAnalyses
  split
  · exact .quiet _
  · split
    · exact .quiet _
    · exact .startSensitivity _ _

omit [IsStrictOrderedRing K] in
theorem mainDone_display {index : ℕ} {outcome : Except String Result}
    (hadmits : Admits service session (.mainDone index outcome)) :
    DisplayStep service session.display (session.handle (.mainDone index outcome)).1.display := by
  cases hrun : session.mainRuns[index]? with
  | none =>
    simp only [Session.handle, hrun]
    exact .quiet _
  | some run =>
    cases outcome with
    | ok result =>
      simp only [Session.handle, hrun, Session.mainSucceeded]
      split_ifs with hlive
      · exact .mainStale _ index
      · exact .mainSucceeded _ index run result hrun (not_not.mp hlive) (hadmits run hrun)
    | error message =>
      simp only [Session.handle, hrun, Session.mainFailed]
      split_ifs
      · exact .mainStale _ index
      · exact .mainStale _ index
      · exact .mainFailed _ index

omit [IsStrictOrderedRing K] in
theorem sensitivityDone_display {index : ℕ} {outcome : Except String Sensitivities}
    (hadmits : Admits service session (.sensitivityDone index outcome)) :
    DisplayStep service session.display
      (session.handle (.sensitivityDone index outcome)).1.display := by
  cases hrun : session.sensitivityRuns[index]? with
  | none =>
    simp only [Session.handle, hrun]
    exact .quiet _
  | some run =>
    cases outcome with
    | ok results =>
      simp only [Session.handle, hrun, Session.sensitivitySucceeded]
      split_ifs with hlive
      · exact .sensitivityStale _ index
      · exact .sensitivitySucceeded _ index run results hrun (not_not.mp hlive) (hadmits run hrun)
    | error message =>
      simp only [Session.handle, hrun, Session.sensitivityFailed]
      split_ifs
      · exact .sensitivityStale _ index
      · exact .sensitivityStale _ index
      · exact .sensitivityFailed _ index

/-- What an event of the loop does to the display. -/
theorem handle_display (hplan : ValidPlan session.state.plan)
    {event : Event K Result Sensitivities} (hadmits : Admits service session event) :
    DisplayStep service session.display (session.handle event).1.display := by
  cases event with
  | bootstrap authUser cloudAccountReady => exact bootstrap_display service _ _ _
  | updatePlan updates => exact updatePlan_display service updates
  | flush =>
    simp only [Session.handle]
    split
    · exact flushProfileToDb_display service
    · exact .quiet _
  | createAccount id data => exact createAccount_display service hplan id data
  | updateAccount id updates => exact updateAccount_display service hplan id updates
  | deleteAccount id => exact deleteAccount_display service hplan id
  | setUseServerSideCalculations useServerSide => exact .invalidate _ _ hplan
  | setCloudSyncEnabled enabled => exact setCloudSyncEnabled_display service enabled
  | clearError => exact .quiet _
  | simulationTimeout => exact simulationTimeout_display service hplan
  | runMainSimulation => exact .startMain _ _
  | runSensitivityAnalyses => exact runSensitivityAnalyses_display service
  | mainDone index outcome => exact mainDone_display service hadmits
  | sensitivityDone index outcome => exact sensitivityDone_display service hadmits
  | storageChanged available fits => exact .quiet _

omit [IsStrictOrderedRing K] in
theorem flush_display (generation : ℕ) (ownerId : String) (revision : ℤ) :
    (session.flushSucceeded generation ownerId revision).display = session.display ∧
      (session.flushConflicted generation ownerId).display = session.display ∧
      (session.flushFailed generation ownerId).display = session.display := by
  unfold Session.flushSucceeded Session.flushConflicted Session.flushFailed
  refine ⟨?_, ?_, ?_⟩ <;> split <;> rfl

omit [IsStrictOrderedRing K] in
theorem accountFailed_display (ownerId message : String) :
    (session.accountFailed ownerId message).display = session.display := by
  unfold Session.accountFailed
  split <;> rfl

omit [FloorRing K] [IsStrictOrderedRing K] in
theorem parseCloudAccounts_valid {items : List (Json K)} {accounts : List (Account K)}
    (h : Session.parseCloudAccounts items = .ok accounts) : ValidAccounts accounts :=
  accountSchema_roundTrips.array h

/-- What an answer does to the display. -/
theorem receive_display (hplan : ValidPlan session.state.plan) (answer : Answer K) :
    DisplayStep service session.display (session.receive answer).1.display := by
  cases answer with
  | loaded generation ownerId dbProfile items =>
    simp only [Session.receive]
    split
    · exact finishBootstrap_display service _ _ _ _ _
    · exact finishBootstrap_display service _ _ _ _ _
  | loadFailed generation ownerId => exact finishBootstrap_display service _ _ _ _ _
  | saved generation ownerId response =>
    simp only [Session.receive]
    split
    · rw [(flush_display generation ownerId _).1]
      exact .quiet _
    · rw [(flush_display generation ownerId 0).2.1]
      exact .quiet _
    · rw [(flush_display generation ownerId 0).2.2]
      exact .quiet _
  | saveFailed generation ownerId =>
    simp only [Session.receive, (flush_display generation ownerId 0).2.2]
    exact .quiet _
  | accountWritten ownerId call response =>
    simp only [Session.receive]
    split
    · split
      · exact .quiet _
      · rw [accountFailed_display]
        exact .quiet _
    · exact .quiet _
    · rw [accountFailed_display]
      exact .quiet _
  | accountsListed ownerId items =>
    simp only [Session.receive]
    split
    · rename_i haccounts
      unfold Session.accountsListed
      split
      · exact .invalidate _ _ (hplan.withAccounts (parseCloudAccounts_valid haccounts))
      · exact .quiet _
    · rw [accountFailed_display]
      exact .quiet _
  | accountFailed ownerId message =>
    simp only [Session.receive, accountFailed_display]
    exact .quiet _

omit [IsStrictOrderedRing K] in
theorem DisplayStep.validPlan {d d' : Display K Result Sensitivities}
    (h : DisplayStep service d d') (hplan : ValidPlan d.plan) : ValidPlan d'.plan := by
  cases h with
  | invalidate plan hvalid => exact hvalid
  | _ => exact hplan

/-- A simulation service that may answer anything. -/
def anyService : Service K Result Sensitivities := ⟨fun _ _ _ => True, fun _ _ _ => True⟩

omit [IsStrictOrderedRing K] in
theorem admits_any (session : Session K Result Sensitivities)
    (event : Event K Result Sensitivities) : Admits anyService session event := by
  cases event with
  | mainDone index outcome => cases outcome <;> simp [Admits, anyService]
  | sensitivityDone index outcome => cases outcome <;> simp [Admits, anyService]
  | _ => trivial

/-- Whatever the simulation service answers, events and answers keep the plan valid. -/
theorem handle_validPlan (hplan : ValidPlan session.state.plan)
    (event : Event K Result Sensitivities) : ValidPlan (session.handle event).1.state.plan :=
  (handle_display anyService hplan (admits_any session event)).validPlan anyService hplan

theorem receive_validPlan (hplan : ValidPlan session.state.plan) (answer : Answer K) :
    ValidPlan (session.receive answer).1.state.plan :=
  (receive_display anyService hplan answer).validPlan anyService hplan

/-! ## The invariant -/

/-- Results belong to their plans, and only a run for the current plan may still be
shown. -/
structure DisplayInv (d : Display K Result Sensitivities) : Prop where
  plan : ValidPlan d.plan
  /-- A result was computed from the plan stored with it. -/
  paired : ∀ result, d.simulationResult = some result → ∃ plan useServerSide,
    d.simulationPlan = some plan ∧ service.main plan useServerSide result
  /-- Unless its replacement is on the way, that plan is the current one. -/
  current : d.simulationResult.isSome → d.simulationPending = false →
    d.simulationPlan = some d.plan
  analysis : ∀ results, d.analysisResults = some results → d.sensitivityPending = false →
    ∃ useServerSide, service.sensitivities d.plan useServerSide results
  mainRuns : ∀ run ∈ d.mainRuns, run.generation ≤ d.mainSimGeneration ∧
    (run.generation = d.mainSimGeneration → run.plan = d.plan)
  sensitivityRuns : ∀ run ∈ d.sensitivityRuns, run.generation ≤ d.sensitivitySimGeneration ∧
    (run.generation = d.sensitivitySimGeneration → run.plan = d.plan)

variable {service}

omit [Field K] [FloorRing K] [IsStrictOrderedRing K] in
/-- Runs of an earlier generation stay behind it. -/
theorem runs_behind {runs : List (RunTask K)} {generation : ℕ} {plan plan' : RetirementPlan K}
    (h : ∀ run ∈ runs, run.generation ≤ generation ∧
      (run.generation = generation → run.plan = plan)) :
    ∀ run ∈ runs, run.generation ≤ generation + 1 ∧
      (run.generation = generation + 1 → run.plan = plan') := by
  intro run hrun
  have hle := (h run hrun).1
  exact ⟨by omega, fun heq => by omega⟩

omit [IsStrictOrderedRing K] in
theorem DisplayStep.inv {d d' : Display K Result Sensitivities}
    (hstep : DisplayStep service d d') (h : DisplayInv service d) : DisplayInv service d' := by
  cases hstep with
  | quiet => exact h
  | invalidate plan hvalid =>
    exact ⟨hvalid, h.paired, fun _ hpending => (nomatch hpending),
      fun _ _ hpending => (nomatch hpending), runs_behind h.mainRuns, runs_behind h.sensitivityRuns⟩
  | startMain useServerSide =>
    refine ⟨h.plan, h.paired, fun _ hpending => (nomatch hpending), h.analysis, ?_,
      h.sensitivityRuns⟩
    intro run hrun
    obtain rfl | hrun := List.mem_cons.mp hrun
    · exact ⟨le_refl _, fun _ => rfl⟩
    · exact runs_behind h.mainRuns run hrun
  | startSensitivity useServerSide =>
    refine ⟨h.plan, h.paired, h.current, fun _ _ hpending => (nomatch hpending), h.mainRuns, ?_⟩
    intro run hrun
    obtain rfl | hrun := List.mem_cons.mp hrun
    · exact ⟨le_refl _, fun _ => rfl⟩
    · exact runs_behind h.sensitivityRuns run hrun
  | mainStale index =>
    exact ⟨h.plan, h.paired, h.current, h.analysis,
      fun run hrun => h.mainRuns run (List.mem_of_mem_eraseIdx hrun), h.sensitivityRuns⟩
  | mainSucceeded index run result hrun hlive hanswer =>
    have hplan := (h.mainRuns run (List.mem_of_getElem? hrun)).2 hlive
    refine ⟨h.plan, ?_, ?_, h.analysis,
      fun run hrun => h.mainRuns run (List.mem_of_mem_eraseIdx hrun), h.sensitivityRuns⟩
    · intro result' hresult
      cases hresult
      exact ⟨run.plan, run.useServerSide, rfl, hanswer⟩
    · intro _ _
      exact congrArg some hplan
  | mainFailed index =>
    exact ⟨h.plan, fun _ hresult => (nomatch hresult), fun hresult => (nomatch hresult), h.analysis,
      fun run hrun => h.mainRuns run (List.mem_of_mem_eraseIdx hrun), h.sensitivityRuns⟩
  | sensitivityStale index =>
    exact ⟨h.plan, h.paired, h.current, h.analysis, h.mainRuns,
      fun run hrun => h.sensitivityRuns run (List.mem_of_mem_eraseIdx hrun)⟩
  | sensitivitySucceeded index run results hrun hlive hanswer =>
    have hplan := (h.sensitivityRuns run (List.mem_of_getElem? hrun)).2 hlive
    refine ⟨h.plan, h.paired, h.current, ?_, h.mainRuns,
      fun run hrun => h.sensitivityRuns run (List.mem_of_mem_eraseIdx hrun)⟩
    intro results' hresults _
    cases hresults
    exact ⟨run.useServerSide, hplan ▸ hanswer⟩
  | sensitivityFailed index =>
    exact ⟨h.plan, h.paired, h.current, fun _ hresults => (nomatch hresults), h.mainRuns,
      fun run hrun => h.sensitivityRuns run (List.mem_of_mem_eraseIdx hrun)⟩

omit [IsStrictOrderedRing K] in
/-- A result and its plan stay, go, or are those of the plan of the store. -/
theorem DisplayStep.simulationResult {d d' : Display K Result Sensitivities}
    (hstep : DisplayStep service d d') (h : DisplayInv service d) :
    (d'.simulationResult = d.simulationResult ∧ d'.simulationPlan = d.simulationPlan) ∨
      (d'.simulationResult = none ∧ d'.simulationPlan = none) ∨
      ∃ useServerSide result, service.main d.plan useServerSide result ∧
        d'.simulationResult = some result ∧ d'.simulationPlan = some d.plan := by
  cases hstep with
  | mainSucceeded index run result hrun hlive hanswer =>
    have hplan := (h.mainRuns run (List.mem_of_getElem? hrun)).2 hlive
    exact .inr (.inr ⟨run.useServerSide, result, hplan ▸ hanswer, rfl, congrArg some hplan⟩)
  | mainFailed index => exact .inr (.inl ⟨rfl, rfl⟩)
  | _ => exact .inl ⟨rfl, rfl⟩

omit [IsStrictOrderedRing K] in
theorem DisplayStep.analysisResults {d d' : Display K Result Sensitivities}
    (hstep : DisplayStep service d d') (h : DisplayInv service d) :
    d'.analysisResults = d.analysisResults ∨ d'.analysisResults = none ∨
      ∃ useServerSide results, service.sensitivities d.plan useServerSide results ∧
        d'.analysisResults = some results := by
  cases hstep with
  | sensitivitySucceeded index run results hrun hlive hanswer =>
    have hplan := (h.sensitivityRuns run (List.mem_of_getElem? hrun)).2 hlive
    exact .inr (.inr ⟨run.useServerSide, results, hplan ▸ hanswer, rfl⟩)
  | sensitivityFailed index => exact .inr (.inl rfl)
  | _ => exact .inl rfl

/-! ## Runs of a session -/

variable (service) in
/-- A session takes one event of its loop, or one answer, whatever it says. -/
def Session.Next (s t : Session K Result Sensitivities) : Prop :=
  (∃ event, Admits service s event ∧ (s.handle event).1 = t) ∨ ∃ answer, (s.receive answer).1 = t

theorem Session.Next.display {s t : Session K Result Sensitivities} (h : s.Next service t)
    (hplan : ValidPlan s.state.plan) : DisplayStep service s.display t.display := by
  obtain ⟨event, hadmits, rfl⟩ | ⟨answer, rfl⟩ := h
  · exact handle_display service hplan hadmits
  · exact receive_display service hplan answer

theorem start_inv (bundle : Bundle K) (storage : Storage K) :
    DisplayInv service (Session.start bundle storage : Session K Result Sensitivities).display where
  plan := retirementPlanSchema_valid bundle.defaultPlan_ok
  paired _ hresult := nomatch hresult
  current hresult := nomatch hresult
  analysis _ hresults := nomatch hresults
  mainRuns _ hrun := nomatch hrun
  sensitivityRuns _ hrun := nomatch hrun

theorem reaches_inv {s t : Session K Result Sensitivities}
    (hs : DisplayInv service s.display) (hrun : Reaches (Session.Next service) s t) :
    DisplayInv service t.display :=
  invariant (fun s => DisplayInv service s.display)
    (fun hnext h => (hnext.display h.plan).inv h) hs hrun

/-! ## Superseded runs -/

/-- A step replaces the plan or aborts the work on its way. -/
def Display.Abandons (d d' : Display K Result Sensitivities) : Prop :=
  d'.plan ≠ d.plan ∨ d'.simulationController ≠ d.simulationController

/-- A step abandons the runs on their way or starts another main run. -/
def Display.SupersedesMain (d d' : Display K Result Sensitivities) : Prop :=
  d.Abandons d' ∨ ∃ run, d'.mainRuns = run :: d.mainRuns

/-- A step abandons the runs on their way or starts another sensitivity run. -/
def Display.SupersedesSensitivity (d d' : Display K Result Sensitivities) : Prop :=
  d.Abandons d' ∨ ∃ run, d'.sensitivityRuns = run :: d.sensitivityRuns

omit [Field K] [LinearOrder K] [FloorRing K] [IsStrictOrderedRing K] in
/-- Dropping a run never adds one. -/
theorem eraseIdx_ne_cons {runs : List (RunTask K)} {index : ℕ} {run : RunTask K} :
    runs.eraseIdx index ≠ run :: runs := by
  intro h
  have hlength := congrArg List.length h
  have hle := List.length_eraseIdx_le runs index
  simp only [List.length_cons] at hlength
  omega

omit [IsStrictOrderedRing K] in
theorem DisplayStep.mainSimGeneration {d d' : Display K Result Sensitivities}
    (h : DisplayStep service d d') : d.mainSimGeneration ≤ d'.mainSimGeneration ∧
      (d.SupersedesMain d' → d.mainSimGeneration < d'.mainSimGeneration) := by
  cases h with
  | invalidate | startMain => exact ⟨Nat.le_succ _, fun _ => Nat.lt_succ_self _⟩
  | quiet | startSensitivity | sensitivityStale | sensitivitySucceeded | sensitivityFailed =>
    refine ⟨le_refl _, ?_⟩
    rintro ((hplan | habort) | ⟨run, hrun⟩)
    · exact absurd rfl hplan
    · exact absurd rfl habort
    · exact absurd hrun.symm (List.cons_ne_self _ _)
  | mainStale | mainSucceeded | mainFailed =>
    refine ⟨le_refl _, ?_⟩
    rintro ((hplan | habort) | ⟨run, hrun⟩)
    · exact absurd rfl hplan
    · exact absurd rfl habort
    · exact absurd hrun eraseIdx_ne_cons

omit [IsStrictOrderedRing K] in
theorem DisplayStep.sensitivitySimGeneration {d d' : Display K Result Sensitivities}
    (h : DisplayStep service d d') :
    d.sensitivitySimGeneration ≤ d'.sensitivitySimGeneration ∧
      (d.SupersedesSensitivity d' →
        d.sensitivitySimGeneration < d'.sensitivitySimGeneration) := by
  cases h with
  | invalidate | startSensitivity => exact ⟨Nat.le_succ _, fun _ => Nat.lt_succ_self _⟩
  | quiet | startMain | mainStale | mainSucceeded | mainFailed =>
    refine ⟨le_refl _, ?_⟩
    rintro ((hplan | habort) | ⟨run, hrun⟩)
    · exact absurd rfl hplan
    · exact absurd rfl habort
    · exact absurd hrun.symm (List.cons_ne_self _ _)
  | sensitivityStale | sensitivitySucceeded | sensitivityFailed =>
    refine ⟨le_refl _, ?_⟩
    rintro ((hplan | habort) | ⟨run, hrun⟩)
    · exact absurd rfl hplan
    · exact absurd rfl habort
    · exact absurd hrun eraseIdx_ne_cons

/-- Generations never fall along a run. -/
theorem reaches_generations {s t : Session K Result Sensitivities}
    (hs : DisplayInv service s.display) (hrun : Reaches (Session.Next service) s t) :
    s.mainSimGeneration ≤ t.mainSimGeneration ∧
      s.sensitivitySimGeneration ≤ t.sensitivitySimGeneration := by
  induction hrun with
  | refl => exact ⟨le_refl _, le_refl _⟩
  | @tail u t hrun hnext ih =>
    have hstep := hnext.display (reaches_inv hs hrun).plan
    exact ⟨ih.1.trans hstep.mainSimGeneration.1, ih.2.trans hstep.sensitivitySimGeneration.1⟩

omit [IsStrictOrderedRing K] in
/-- The settlement of a run of an earlier generation changes nothing in the store. -/
theorem stale_main {session : Session K Result Sensitivities} {index : ℕ} {run : RunTask K}
    (hrun : session.mainRuns[index]? = some run)
    (hstale : run.generation ≠ session.mainSimGeneration) (outcome : Except String Result) :
    (session.handle (.mainDone index outcome)).1.state = session.state := by
  cases outcome <;>
    simp [Session.handle, hrun, Session.mainSucceeded, Session.mainFailed, hstale]

omit [IsStrictOrderedRing K] in
theorem stale_sensitivity {session : Session K Result Sensitivities} {index : ℕ}
    {run : RunTask K} (hrun : session.sensitivityRuns[index]? = some run)
    (hstale : run.generation ≠ session.sensitivitySimGeneration)
    (outcome : Except String Sensitivities) :
    (session.handle (.sensitivityDone index outcome)).1.state = session.state := by
  cases outcome <;>
    simp [Session.handle, hrun, Session.sensitivitySucceeded, Session.sensitivityFailed, hstale]

/-! ## The main result -/

variable (service) in
/-- What is displayed belongs to the plan it claims to. -/
structure ResultsBelong (state : PlanState K Result Sensitivities) : Prop where
  /-- A result was computed from exactly the stored simulation plan. -/
  paired : ∀ result, state.simulationResult = some result → ∃ plan useServerSide,
    state.simulationPlan = some plan ∧ service.main plan useServerSide result
  current : state.simulationResult.isSome → state.simulationPending = false →
    state.simulationPlan = some state.plan
  analysis : ∀ results, state.analysisResults = some results →
    state.sensitivityPending = false →
      ∃ useServerSide, service.sensitivities state.plan useServerSide results

/-- In every state a session reaches, what is displayed belongs to its plan; and a run
that has been superseded on the way no longer changes the store. -/
theorem results_belong_to_plan (bundle : Bundle K) (storage : Storage K)
    {s : Session K Result Sensitivities}
    (hs : Reaches (Session.Next service) (Session.start bundle storage) s) :
    ResultsBelong service s.state ∧
      (∀ t u, s.Next service t → Reaches (Session.Next service) t u →
        (s.display.SupersedesMain t.display → ∀ run ∈ s.mainRuns, ∀ index outcome,
          u.mainRuns[index]? = some run →
            (u.handle (.mainDone index outcome)).1.state = u.state) ∧
        (s.display.SupersedesSensitivity t.display → ∀ run ∈ s.sensitivityRuns,
          ∀ index outcome, u.sensitivityRuns[index]? = some run →
            (u.handle (.sensitivityDone index outcome)).1.state = u.state)) := by
  have hinv := reaches_inv (start_inv bundle storage) hs
  refine ⟨⟨hinv.paired, hinv.current, hinv.analysis⟩, fun t u hnext hrun => ?_⟩
  have hstep := hnext.display hinv.plan
  have hgenerations := reaches_generations (hstep.inv hinv) hrun
  refine ⟨fun hsuper run hmem index outcome hindex => stale_main hindex ?_ outcome,
    fun hsuper run hmem index outcome hindex => stale_sensitivity hindex ?_ outcome⟩
  · have hle := (hinv.mainRuns run hmem).1
    have hlt := hstep.mainSimGeneration.2 hsuper
    exact (hle.trans_lt (hlt.trans_le hgenerations.1)).ne
  · have hle := (hinv.sensitivityRuns run hmem).1
    have hlt := hstep.sensitivitySimGeneration.2 hsuper
    exact (hle.trans_lt (hlt.trans_le hgenerations.2)).ne

/-- A service whose main result is the plan's spending in retirement. -/
def spendingService : Service ℚ ℚ Unit where
  main plan _ result := result = retirementSpendingOf plan.profile
  sensitivities _ _ _ := True

/-- A browser that starts a main run, starts another, and shows the second one. -/
def firstRun : Session ℚ ℚ Unit :=
  ((Session.start newYearBundle emptyStorage).handle .runMainSimulation).1

def secondRun : Session ℚ ℚ Unit := (firstRun.handle .runMainSimulation).1

def secondShown : Session ℚ ℚ Unit := (secondRun.handle (.mainDone 0 (.ok 60000))).1

/-- The second result belongs to the plan, and the first run may settle as it likes. -/
theorem results_belong_to_plan_secondRun :
    secondShown.state.simulationResult = some 60000 ∧
      ResultsBelong spendingService secondShown.state ∧
      (secondShown.handle (.mainDone 0 (.error "late"))).1.state = secondShown.state := by
  have hfirst : Reaches (Session.Next spendingService)
      (Session.start newYearBundle emptyStorage) firstRun :=
    .single (.inl ⟨.runMainSimulation, trivial, rfl⟩)
  have hsecond : Session.Next spendingService firstRun secondRun :=
    .inl ⟨.runMainSimulation, trivial, rfl⟩
  have hshown : Session.Next spendingService secondRun secondShown := by
    refine .inl ⟨.mainDone 0 (.ok 60000), ?_, rfl⟩
    rintro run ⟨⟩
    have hspending :
        (60000 : ℚ) = retirementSpendingOf newYearBundle.defaultPlan.profile := by decide +kernel
    exact hspending
  have hbelong := results_belong_to_plan newYearBundle emptyStorage
    ((hfirst.tail hsecond).tail hshown)
  have hstale := (results_belong_to_plan newYearBundle emptyStorage hfirst).2 secondRun secondShown
    hsecond (.single hshown)
  exact ⟨rfl, hbelong.1, hstale.1 (.inr ⟨_, rfl⟩) _ (List.mem_singleton_self _) 0 _ rfl⟩

end RetirementPlanner.Web
