import Mathlib.Data.Rat.Floor
import RetirementPlanner.Web.Persistence
import RetirementPlanner.Web.Server

/-!
# The plan store

`state/usePlan.ts`: the store's fields, the module's variables around it, and one
function for each stretch of code that runs without awaiting. An async function is cut
at its awaits, and what follows an await is a function of what it still holds there.

`Result` and `Sensitivities` stand for the answers of the simulation service.
-/

namespace RetirementPlanner.Web

open Schema
open Engine (AccountType)

variable {K Result Sensitivities : Type} [Field K] [LinearOrder K] [FloorRing K]

/-! ## State -/

inductive DataMode
  | localMode
  | cloud
  deriving DecidableEq, Repr

/-- Why stored data could not be used. -/
inductive LoadError
  | message (text : String)
  | schema (issue : Issue)
  deriving DecidableEq, Repr

/-- What the store shows as an error. -/
inductive PlanError
  /-- `Plan change was not applied: …` -/
  | notApplied (issue : Issue)
  /-- `Projection could not run: …` -/
  | couldNotRun (issue : Issue)
  /-- `Projection could not be updated: …` -/
  | couldNotUpdate (message : String)
  | simulation (message : String)
  /-- `Cloud plan data is invalid: …`, and the browser fallback's own error if it is
  `also invalid`. -/
  | cloudInvalid (cause : LoadError) (browser : Option LoadError)
  /-- The text of a failed load itself, or `Browser plan data is invalid: …`. -/
  | browserInvalid (cause : LoadError)
  /-- `Browser storage is unavailable. …` -/
  | localPersistence
  /-- `Cloud data is temporarily unavailable. …` -/
  | cloudUnavailable
  /-- `Profile changed in another browser. Reload before saving again.` -/
  | profileConflict
  /-- `A plan may contain at most 20 accounts` -/
  | accountLimit
  | invalidAccounts (issue : Issue)
  | request (message : String)
  deriving DecidableEq, Repr

structure PlanState (K Result Sensitivities : Type) where
  plan : RetirementPlan K
  authUser : Option String
  cloudAccountReady : Bool
  cloudAvailable : Bool
  cloudSyncEnabled : Bool
  useServerSideCalculations : Bool
  profileRevision : Option ℤ
  localPlanOrigin : LocalPlanOrigin
  localPersistenceAvailable : Bool
  /-- The last completed run. Kept while a new one computes. -/
  simulationResult : Option Result
  /-- The plan `simulationResult` was computed from. -/
  simulationPlan : Option (RetirementPlan K)
  simulationError : Option PlanError
  /-- The four analysis results, which are always written together. -/
  analysisResults : Option Sensitivities
  isSimulatingMain : Bool
  isSimulatingSensitivities : Bool
  simulationPending : Bool
  sensitivityPending : Bool
  bootstrapped : Bool
  error : Option PlanError

omit [Field K] [LinearOrder K] [FloorRing K] in
def PlanState.dataMode (state : PlanState K Result Sensitivities) : DataMode :=
  if state.authUser.isSome && state.cloudAccountReady && state.cloudAvailable
      && state.cloudSyncEnabled then .cloud
  else .localMode

omit [Field K] [LinearOrder K] [FloorRing K] in
/-- Whether this session may run simulations on the server. -/
def cloudComputeEnabled (state : PlanState K Result Sensitivities) : Bool :=
  state.useServerSideCalculations && state.authUser.isSome && state.cloudAccountReady

/-- `defaultPlan`, as the module builds it. -/
def defaultPlanJson (clock : Clock) : Json K :=
  .obj [("profile", .obj (defaultProfile clock)), ("accounts", .arr starterAccounts),
    ("socialSecurity", .obj defaultSocialSecurity), ("assumptions", .obj defaultAssumptions)]

/-- The module's constants, fixed while it is loaded. -/
structure Bundle (K : Type) [Field K] [LinearOrder K] [FloorRing K] where
  clock : Clock
  defaultPlan : RetirementPlan K
  defaultPlan_ok : retirementPlanSchema (some (defaultPlanJson clock)) = .ok defaultPlan

/-- The module as a browser loads it on the first day of 2025. -/
def newYearBundle : Bundle ℚ where
  clock := newYear
  defaultPlan := okValue (retirementPlanSchema (some (defaultPlanJson newYear))) (by decide +kernel)
  defaultPlan_ok := eq_okValue _

/-! ## Sessions -/

/-- A run of the simulation service on its way: what the function that awaits it holds. -/
structure RunTask (K : Type) where
  generation : ℕ
  plan : RetirementPlan K
  useServerSide : Bool
  signal : ℕ

structure Session (K Result Sensitivities : Type) [Field K] [LinearOrder K] [FloorRing K] where
  bundle : Bundle K
  state : PlanState K Result Sensitivities
  storage : Storage K
  /-- Whether `simulationTimeoutId` is set. -/
  simulationTimer : Bool
  mainSimGeneration : ℕ
  sensitivitySimGeneration : ℕ
  /-- The number of `activeSimulationController`: those before it are aborted. -/
  simulationController : ℕ
  mainRuns : List (RunTask K)
  sensitivityRuns : List (RunTask K)
  profileDirty : Bool
  profileSaveInFlight : Bool
  profileConflictDetected : Bool
  bootstrapGeneration : ℕ
  /-- Whether `dbSaveIntervalId` is set. -/
  autoSave : Bool

/-- The module as it is loaded, on the storage of its browser. -/
def Session.start (bundle : Bundle K) (storage : Storage K) :
    Session K Result Sensitivities where
  bundle
  state :=
    { plan := bundle.defaultPlan
      authUser := none
      cloudAccountReady := false
      cloudAvailable := false
      cloudSyncEnabled := (loadUserPreferences storage).elim true (·.cloudSyncEnabled)
      useServerSideCalculations :=
        (loadUserPreferences storage).elim true (·.useServerSideCalculations)
      profileRevision := none
      localPlanOrigin := .starter
      localPersistenceAvailable := true
      simulationResult := none
      simulationPlan := none
      simulationError := none
      analysisResults := none
      isSimulatingMain := false
      isSimulatingSensitivities := false
      simulationPending := false
      sensitivityPending := false
      bootstrapped := false
      error := none }
  storage
  simulationTimer := false
  mainSimGeneration := 0
  sensitivitySimGeneration := 0
  simulationController := 0
  mainRuns := []
  sensitivityRuns := []
  profileDirty := false
  profileSaveInFlight := false
  profileConflictDetected := false
  bootstrapGeneration := 0
  autoSave := false

namespace Session

variable (session : Session K Result Sensitivities)

/-! ## Simulations -/

/-- Cancel obsolete work and reschedule the primary result. -/
def invalidateResults : Session K Result Sensitivities :=
  { session with
    simulationController := session.simulationController + 1
    mainSimGeneration := session.mainSimGeneration + 1
    sensitivitySimGeneration := session.sensitivitySimGeneration + 1
    simulationTimer := true
    state := { session.state with
      simulationError := none
      simulationPending := true
      sensitivityPending := true
      isSimulatingMain := false
      isSimulatingSensitivities := false } }

/-- `runMainSimulation`, up to its call of the service. -/
def runMainSimulation : Session K Result Sensitivities :=
  { session with
    mainSimGeneration := session.mainSimGeneration + 1
    mainRuns :=
      { generation := session.mainSimGeneration + 1
        plan := session.state.plan
        useServerSide := cloudComputeEnabled session.state
        signal := session.simulationController } :: session.mainRuns
    state := { session.state with
      isSimulatingMain := true
      simulationError := none
      simulationPending := true } }

/-- `runMainSimulation`, after the service answered. -/
def mainSucceeded (run : RunTask K) (result : Result) : Session K Result Sensitivities :=
  if run.generation ≠ session.mainSimGeneration then session
  else
    { session with state := { session.state with
        simulationResult := some result
        simulationPlan := some run.plan
        simulationError := none
        isSimulatingMain := false
        simulationPending := false } }

/-- `runMainSimulation`, after the service threw. -/
def mainFailed (run : RunTask K) (message : String) : Session K Result Sensitivities :=
  if run.generation ≠ session.mainSimGeneration then session
  else if run.signal ≠ session.simulationController then session
  else
    { session with state := { session.state with
        isSimulatingMain := false
        simulationPending := false
        simulationResult := none
        simulationPlan := none
        simulationError := some (.simulation message)
        error := some (.couldNotUpdate message) } }

/-- `runSensitivityAnalyses`, up to its call of the service. -/
def runSensitivityAnalyses : Session K Result Sensitivities :=
  if session.state.isSimulatingSensitivities then session
  else
    match retirementPlanSchema (some (planJson session.state.plan)) with
    | .error _ => session
    | .ok _ =>
      { session with
        sensitivitySimGeneration := session.sensitivitySimGeneration + 1
        sensitivityRuns :=
          { generation := session.sensitivitySimGeneration + 1
            plan := session.state.plan
            useServerSide := cloudComputeEnabled session.state
            signal := session.simulationController } :: session.sensitivityRuns
        state := { session.state with
          isSimulatingSensitivities := true
          sensitivityPending := true } }

/-- `runSensitivityAnalyses`, after the service answered. -/
def sensitivitySucceeded (run : RunTask K) (results : Sensitivities) :
    Session K Result Sensitivities :=
  if run.generation ≠ session.sensitivitySimGeneration then session
  else
    { session with state := { session.state with
        analysisResults := some results
        isSimulatingSensitivities := false
        sensitivityPending := false } }

/-- `runSensitivityAnalyses`, after the service threw. -/
def sensitivityFailed (run : RunTask K) : Session K Result Sensitivities :=
  if run.generation ≠ session.sensitivitySimGeneration then session
  else if run.signal ≠ session.simulationController then session
  else
    { session with state := { session.state with
        isSimulatingSensitivities := false
        sensitivityPending := false
        analysisResults := none } }

/-- The callback of `scheduleSimulations`. -/
def simulationTimeout : Session K Result Sensitivities :=
  if session.simulationTimer then
    match retirementPlanSchema (some (planJson session.state.plan)) with
    | .error issue =>
      { session with
        simulationTimer := false
        state := { session.state with
          error := some (.couldNotRun issue)
          simulationError := some (.couldNotRun issue)
          simulationPending := false } }
    | .ok _ => { session.runMainSimulation with simulationTimer := false }
  else session

end Session

end RetirementPlanner.Web
