import RetirementPlanner.Web.Store

/-!
# Loading, editing and saving the plan

The part of `state/usePlan.ts` that moves a plan between the store, the browser's storage
and the server: `flushProfileToDb`, `bootstrap`, `updatePlan`, the account operations and
the toggles. A function that sends requests returns them with the session.
-/

namespace RetirementPlanner.Web

open Schema
open Engine (AccountType)

variable {K Result Sensitivities : Type} [Field K] [LinearOrder K] [FloorRing K]

/-! ## Requests -/

/-- What a session sends, with what the function that awaits the answer holds. -/
inductive Request (K : Type)
  /-- Both reads of a bootstrap. -/
  | load (generation : ℕ) (ownerId : String)
  | save (generation : ℕ) (ownerId : String) (body : Json K)
  | writeAccount (ownerId : String) (call : Call K)
  | listAccounts (ownerId : String)

/-! ## Plans from what was stored -/

/-- What `bootstrap` settles on. -/
structure LoadedPlan (K : Type) where
  plan : RetirementPlan K
  cloudAvailable : Bool
  hydrationError : Option PlanError
  localHydrationFailed : Bool

/-- The browser's own copy, or why it cannot be loaded. -/
def loadLocal (storage : Storage K) (ownerId : Option String) :
    Except String (Option (LocalProfileData K) × Option (LocalAccountState K)) := do
  let localProfile ← loadLocalProfile storage ownerId
  let localAccountState ← loadLocalAccountState storage ownerId
  .ok (localProfile, localAccountState)

def hydrateLocalPlan (bundle : Bundle K) (localProfile : Option (LocalProfileData K))
    (localAccountState : Option (LocalAccountState K)) : Except Issue (RetirementPlan K) :=
  if (localAccountState.map (·.origin)) = some .starter then
    retirementPlanSchema (some (defaultPlanJson bundle.clock))
  else
    hydratePlan bundle.clock (localProfile.bind (·.profile)) (localProfile.bind (·.socialSecurity))
      (localProfile.bind (·.assumptions))
      (localAccountState.map fun state => .arr (state.accounts.map accountJson))

/-- The plan of the browser's copy; the default plan, with a reason, where there is none. -/
def loadedFromBrowser (bundle : Bundle K) (browser : Except String
    (Option (LocalProfileData K) × Option (LocalAccountState K))) :
    Except LoadError (RetirementPlan K) :=
  match browser with
  | .error text => .error (.message text)
  | .ok (localProfile, localAccountState) =>
    match hydrateLocalPlan bundle localProfile localAccountState with
    | .error issue => .error (.schema issue)
    | .ok plan => .ok plan

/-- The plan of the server's copy. -/
def hydrateCloudPlan (bundle : Bundle K) (dbProfile : Option (ProfileSettings K))
    (cloudAccounts : List (Account K)) : Except LoadError (RetirementPlan K) :=
  if dbProfile.any fun row => decide ((planSchemaVersion : ℤ) < row.schemaVersion) then
    .error (.message "Cloud profile was saved by a newer app version")
  else
    match hydratePlan bundle.clock (dbProfile.map (·.profile)) (dbProfile.map (·.socialSecurity))
      (dbProfile.map (·.assumptions)) (some (.arr (cloudAccounts.map accountJson))) with
    | .error issue => .error (.schema issue)
    | .ok plan => .ok plan

/-- What the cloud reads, where they were asked for and came back, and the browser's copy
make of the plan. -/
def loadPlan (bundle : Bundle K) (cloud : Option (Option (ProfileSettings K) × List (Account K)))
    (browser : Except String (Option (LocalProfileData K) × Option (LocalAccountState K))) :
    LoadedPlan K :=
  match cloud with
  | some (dbProfile, cloudAccounts) =>
    match hydrateCloudPlan bundle dbProfile cloudAccounts with
    | .ok plan => ⟨plan, true, none, false⟩
    | .error cause =>
      match loadedFromBrowser bundle browser with
      | .ok plan => ⟨plan, false, some (.cloudInvalid cause none), false⟩
      | .error fallback => ⟨bundle.defaultPlan, false, some (.cloudInvalid cause fallback), true⟩
  | none =>
    match loadedFromBrowser bundle browser with
    | .ok plan => ⟨plan, false, none, false⟩
    | .error cause => ⟨bundle.defaultPlan, false, some (.browserInvalid cause), true⟩

namespace Session

variable (session : Session K Result Sensitivities)

/-- `cacheOwner` -/
def cacheOwner : Option String := session.state.authUser

/-! ## Bootstrap -/

/-- `bootstrap`, from where its reads are settled. `cloud` is what they returned; it is
absent when the cloud was not asked or a read failed. -/
def finishBootstrap (generation : ℕ) (ownerId : Option String) (cloudRequested : Bool)
    (cloud : Option (Option (ProfileSettings K) × List (Account K))) :
    Session K Result Sensitivities :=
  let browser := loadLocal session.storage ownerId
  let loaded := loadPlan session.bundle cloud browser
  -- Auth can change while cloud requests are in flight.
  if generation ≠ session.bootstrapGeneration then session
  else
    let dbProfile : Option (ProfileSettings K) := cloud.bind Prod.fst
    let storedOrigin := (browser.toOption.bind Prod.snd).elim .starter (·.origin)
    let origin := if loaded.cloudAvailable then .user else storedOrigin
    let write : Storage K × Bool :=
      if loaded.localHydrationFailed then (session.storage, true)
      else saveLocalPlan session.storage loaded.plan ownerId origin
    let persisted := loaded.cloudAvailable || write.2
    let state := { session.state with
      plan := loaded.plan
      cloudAvailable := loaded.cloudAvailable
      profileRevision := if loaded.cloudAvailable then dbProfile.map (·.revision) else none
      localPlanOrigin := origin
      localPersistenceAvailable := persisted
      bootstrapped := true
      error := loaded.hydrationError.or
        (if !loaded.cloudAvailable && !persisted then some .localPersistence
        else if cloudRequested && !loaded.cloudAvailable then some .cloudUnavailable
        else none) }
    let outdated := dbProfile.any fun row =>
      decide (row.schemaVersion < (planSchemaVersion : ℤ))
    { { session with storage := write.1, state }.invalidateResults with
      profileDirty := session.profileDirty || (loaded.cloudAvailable && outdated)
      autoSave := true }

/-- `bootstrap`, up to its decision whether to ask the cloud. -/
def startBootstrap (authUser : Option String) (cloudAccountReady : Bool) :
    Session K Result Sensitivities :=
  { session with
    bootstrapGeneration := session.bootstrapGeneration + 1
    storage := clearLegacyLocalData session.storage
    profileDirty := false
    profileConflictDetected := false
    state := { session.state with
      authUser
      cloudAccountReady
      cloudAvailable := false
      bootstrapped := false
      error := none } }

/-- The owner whose cloud data a bootstrap asks for, if any. -/
def cloudRequest (authUser : Option String) (cloudAccountReady : Bool) : Option String :=
  if cloudAccountReady && session.state.cloudSyncEnabled then authUser else none

/-- `bootstrap`, up to its cloud reads, and all of it where it has none. -/
def bootstrap (authUser : Option String) (cloudAccountReady : Bool) :
    Session K Result Sensitivities × Option (Request K) :=
  match session.cloudRequest authUser cloudAccountReady with
  | some ownerId =>
    (session.startBootstrap authUser cloudAccountReady,
      some (.load (session.bootstrapGeneration + 1) ownerId))
  | none =>
    ((session.startBootstrap authUser cloudAccountReady).finishBootstrap
      (session.bootstrapGeneration + 1) authUser false none, none)

/-! ## Saving -/

/-- `flushProfileToDb`, up to its save. -/
def flushProfileToDb : Session K Result Sensitivities × Option (Request K) :=
  match session.state.authUser with
  | some ownerId =>
    if session.profileDirty && !session.profileSaveInFlight && !session.profileConflictDetected
        && session.state.dataMode = .cloud then
      ({ session with profileSaveInFlight := true, profileDirty := false },
        some (.save session.bootstrapGeneration ownerId
          (saveBody session.state.plan session.state.profileRevision)))
    else (session, none)
  | none => (session, none)

/-- Whether the session is still as it was when a save was sent. -/
def ownsFlush (generation : ℕ) (ownerId : String) : Bool :=
  generation = session.bootstrapGeneration && session.state.authUser = some ownerId

/-- `flushProfileToDb`, after the save was answered with a revision. -/
def flushSucceeded (generation : ℕ) (ownerId : String) (revision : ℤ) :
    Session K Result Sensitivities :=
  let settled := { session with profileSaveInFlight := false }
  if session.ownsFlush generation ownerId then
    { settled with state := { session.state with profileRevision := some revision } }
  else settled

/-- `flushProfileToDb`, after a conflict. -/
def flushConflicted (generation : ℕ) (ownerId : String) : Session K Result Sensitivities :=
  let settled := { session with profileSaveInFlight := false }
  if session.ownsFlush generation ownerId then
    { settled with
      profileConflictDetected := true
      state := { session.state with error := some .profileConflict } }
  else settled

/-- `flushProfileToDb`, after a transient failure: retry on the next flush. -/
def flushFailed (generation : ℕ) (ownerId : String) : Session K Result Sensitivities :=
  let settled := { session with profileSaveInFlight := false }
  if session.ownsFlush generation ownerId then { settled with profileDirty := true } else settled

/-! ## Editing -/

/-- Partial records to spread over the plan's own. -/
structure PlanUpdates (K : Type) where
  profile : Option (Fields K)
  socialSecurity : Option (Fields K)
  assumptions : Option (Fields K)

/-- The plan an update asks for, before it is validated. -/
def candidate (updates : PlanUpdates K) : Json K :=
  .obj [("profile", .obj
      ((profileFields session.state.plan.profile).spread (updates.profile.getD []))),
    ("accounts", .arr (session.state.plan.accounts.map accountJson)),
    ("socialSecurity", .obj
      ((socialSecurityFields session.state.plan.socialSecurity).spread
        (updates.socialSecurity.getD []))),
    ("assumptions", .obj
      ((assumptionFields session.state.plan.assumptions).spread
        (updates.assumptions.getD [])))]

def updatePlan (updates : PlanUpdates K) : Session K Result Sensitivities :=
  match retirementPlanSchema (some (session.candidate updates)) with
  | .error issue =>
    { session with state := { session.state with error := some (.notApplied issue) } }
  | .ok plan =>
    let localMode := session.state.dataMode = .localMode
    let write : Storage K × Bool :=
      if localMode then saveLocalPlan session.storage plan session.cacheOwner .user
      else ((saveLocalProfile session.storage plan session.cacheOwner).1, true)
    let state := { session.state with
      plan
      localPlanOrigin := if localMode then .user else session.state.localPlanOrigin
      localPersistenceAvailable := write.2
      error := if write.2 then none else some .localPersistence }
    { session with storage := write.1, profileDirty := true, state }.invalidateResults

/-! ## Accounts -/

def fail (error : PlanError) : Session K Result Sensitivities :=
  { session with state := { session.state with error := some error } }

/-- The last part of an account operation: the store takes over the accounts. -/
def applyAccounts (accounts : List (Account K)) (persisted : Bool) :
    Session K Result Sensitivities :=
  { session with state := { session.state with
      plan := { session.state.plan with accounts }
      localPlanOrigin := .user
      localPersistenceAvailable := persisted
      error := if persisted then none else some .localPersistence } }.invalidateResults

/-- An account operation in local mode. -/
def applyLocalAccounts (accounts : List (Account K)) : Session K Result Sensitivities :=
  let write :=
    saveLocalPlan session.storage { session.state.plan with accounts } session.cacheOwner .user
  { session with storage := write.1 }.applyAccounts accounts write.2

/-- `newLocalAccount`, with the identifier it draws. -/
def newLocalAccount (id : String) (data : CreateAccountData K) : Account K :=
  let stocks := data.stocksPct.getD 0.6
  { id, name := data.name, institution := data.institution, accountType := data.accountType,
    balance := data.balance.getD 0,
    assetWeights := { stocks, bonds := data.bondsPct.getD (1 - stocks) } }

/-- `retirementPlanSchema.parse({ ...get().plan, accounts }).accounts` -/
def parseAccounts (accounts : List (Account K)) : Except Issue (List (Account K)) :=
  (retirementPlanSchema (some (planJson { session.state.plan with accounts }))).map (·.accounts)

/-- `set({ error: null })`, with which every account operation begins. -/
def clearError : Session K Result Sensitivities :=
  { session with state := { session.state with error := none } }

/-- Who an account operation in cloud mode writes for. -/
def cloudOwner : Option String :=
  if session.state.dataMode = .cloud then session.cacheOwner else none

def createAccount (id : String) (data : CreateAccountData K) :
    Session K Result Sensitivities × Option (Request K) :=
  if maxPlanAccounts ≤ session.state.plan.accounts.length then
    (session.clearError.fail .accountLimit, none)
  else
    match session.cloudOwner with
    | some ownerId =>
      (session.clearError, some (.writeAccount ownerId (.createAccount (createAccountBody data))))
    | none =>
      match session.parseAccounts (session.state.plan.accounts ++ [newLocalAccount id data]) with
      | .error issue => (session.clearError.fail (.invalidAccounts issue), none)
      | .ok accounts => (session.clearError.applyLocalAccounts accounts, none)

def updateAccount (id : String) (updates : UpdateAccountData K) :
    Session K Result Sensitivities × Option (Request K) :=
  match session.cloudOwner with
  | some ownerId =>
    (session.clearError,
      some (.writeAccount ownerId (.updateAccount id (updateAccountBody updates))))
  | none =>
    match session.parseAccounts (session.state.plan.accounts.map fun account =>
        if account.id = id then account.update updates else account) with
    | .error issue => (session.clearError.fail (.invalidAccounts issue), none)
    | .ok accounts => (session.clearError.applyLocalAccounts accounts, none)

def deleteAccount (id : String) : Session K Result Sensitivities × Option (Request K) :=
  match session.cloudOwner with
  | some ownerId => (session.clearError, some (.writeAccount ownerId (.deleteAccount id)))
  | none =>
    (session.clearError.applyLocalAccounts (session.state.plan.accounts.filter (·.id ≠ id)), none)

/-- An account operation, after its write: it reads the list, if the user is still the
one it was for. -/
def accountWritten (ownerId : String) : Option (Request K) :=
  if session.state.authUser = some ownerId then some (.listAccounts ownerId) else none

/-- An account operation, after its list. -/
def accountsListed (ownerId : String) (accounts : List (Account K)) :
    Session K Result Sensitivities :=
  if session.state.authUser = some ownerId then
    let write := saveLocalAccounts session.storage accounts session.cacheOwner .user
    { session with storage := write.1 }.applyAccounts accounts true
  else session

/-- An account operation, after an error. -/
def accountFailed (ownerId : String) (message : String) : Session K Result Sensitivities :=
  if session.cacheOwner = some ownerId then session.fail (.request message) else session

/-! ## Toggles -/

/-- `persistPreferences` -/
def persistPreferences : Session K Result Sensitivities :=
  let preferences : UserPreferences :=
    { useServerSideCalculations := session.state.useServerSideCalculations
      cloudSyncEnabled := session.state.cloudSyncEnabled }
  { session with storage := saveUserPreferences session.storage preferences }

def setUseServerSideCalculations (useServerSide : Bool) : Session K Result Sensitivities :=
  let state := { session.state with useServerSideCalculations := useServerSide }
  { session with state }.invalidateResults.persistPreferences

/-- Turning the cloud off seeds local storage with what is loaded; either way the plan is
loaded anew. -/
def setCloudSyncEnabled (enabled : Bool) : Session K Result Sensitivities × Option (Request K) :=
  if session.state.cloudSyncEnabled = enabled then (session, none)
  else if enabled then
    let state := { session.state with cloudSyncEnabled := true }
    { session with state }.persistPreferences.bootstrap session.state.authUser
      session.state.cloudAccountReady
  else
    let write := saveLocalPlan session.storage session.state.plan session.cacheOwner .user
    if write.2 then
      let state := { session.state with cloudSyncEnabled := false }
      { session with storage := write.1, state }.persistPreferences.bootstrap
        session.state.authUser session.state.cloudAccountReady
    else
      let state := { session.state with
        cloudSyncEnabled := false
        localPlanOrigin := .user
        localPersistenceAvailable := false
        error := some .localPersistence }
      ({ session with storage := write.1, state }.persistPreferences, none)

end Session

end RetirementPlanner.Web
