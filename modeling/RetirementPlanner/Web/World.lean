import RetirementPlanner.Web.Sync

/-!
# Browsers, network and server

A session takes one event of its event loop at a time (`Session.handle`,
`Session.receive`). Around the sessions, a world holds the database and the requests on
their way: each is executed by the server at some moment or never, and its answer is
delivered or lost independently. The history keeps what happened to profiles.
-/

namespace RetirementPlanner.Web

open Schema

variable {ι K Result Sensitivities : Type} [Field K] [LinearOrder K] [FloorRing K]

/-! ## Events of a session -/

/-- What the user, a timer or the simulation service hands to a session. -/
inductive Event (K Result Sensitivities : Type)
  | bootstrap (authUser : Option String) (cloudAccountReady : Bool)
  | updatePlan (updates : Session.PlanUpdates K)
  /-- The interval, a hidden tab or `beforeunload`. -/
  | flush
  | createAccount (id : String) (data : CreateAccountData K)
  | updateAccount (id : String) (updates : UpdateAccountData K)
  | deleteAccount (id : String)
  | setUseServerSideCalculations (useServerSide : Bool)
  | setCloudSyncEnabled (enabled : Bool)
  | clearError
  | simulationTimeout
  | runMainSimulation
  | runSensitivityAnalyses
  /-- The service settles one of the main runs on their way. -/
  | mainDone (index : ℕ) (outcome : Except String Result)
  | sensitivityDone (index : ℕ) (outcome : Except String Sensitivities)
  /-- Storage runs full, or becomes unavailable, or neither any more. -/
  | storageChanged (available : Bool) (fits : StorageKey → Bool)

/-- What an awaited request comes back with. -/
inductive Answer (K : Type)
  | loaded (generation : ℕ) (ownerId : String) (dbProfile : Option (ProfileSettings K))
      (items : List (Json K))
  | loadFailed (generation : ℕ) (ownerId : String)
  | saved (generation : ℕ) (ownerId : String) (response : Response K)
  | saveFailed (generation : ℕ) (ownerId : String)
  | accountWritten (ownerId : String) (call : Call K) (response : Response K)
  | accountsListed (ownerId : String) (items : List (Json K))
  | accountFailed (ownerId : String) (message : String)

/-- What an account operation says when its write fails, before the status. -/
def Call.failure : Call K → String
  | .createAccount _ => "Failed to create account"
  | .updateAccount _ _ => "Failed to update account"
  | .deleteAccount _ => "Failed to delete account"
  | .getAccounts => "Failed to fetch accounts"
  | .getAccount _ => "Failed to fetch account"
  | .getProfile => "Failed to fetch profile"
  | .saveProfile _ => "Failed to save profile"

namespace Session

variable (session : Session K Result Sensitivities)

def handle : Event K Result Sensitivities → Session K Result Sensitivities × Option (Request K)
  | .bootstrap authUser cloudAccountReady => session.bootstrap authUser cloudAccountReady
  | .updatePlan updates => (session.updatePlan updates, none)
  | .flush => if session.autoSave then session.flushProfileToDb else (session, none)
  | .createAccount id data => session.createAccount id data
  | .updateAccount id updates => session.updateAccount id updates
  | .deleteAccount id => session.deleteAccount id
  | .setUseServerSideCalculations useServerSide =>
    (session.setUseServerSideCalculations useServerSide, none)
  | .setCloudSyncEnabled enabled => session.setCloudSyncEnabled enabled
  | .clearError => (session.clearError, none)
  | .simulationTimeout => (session.simulationTimeout, none)
  | .runMainSimulation => (session.runMainSimulation, none)
  | .runSensitivityAnalyses => (session.runSensitivityAnalyses, none)
  | .mainDone index outcome =>
    match session.mainRuns[index]? with
    | none => (session, none)
    | some run =>
      let session := { session with mainRuns := session.mainRuns.eraseIdx index }
      match outcome with
      | .ok result => (session.mainSucceeded run result, none)
      | .error message => (session.mainFailed run message, none)
  | .sensitivityDone index outcome =>
    match session.sensitivityRuns[index]? with
    | none => (session, none)
    | some run =>
      let session := { session with sensitivityRuns := session.sensitivityRuns.eraseIdx index }
      match outcome with
      | .ok results => (session.sensitivitySucceeded run results, none)
      | .error _ => (session.sensitivityFailed run, none)
  | .storageChanged available fits =>
    ({ session with storage := { session.storage with available, fits } }, none)

/-- Accounts of the server are parsed one by one; an invalid one fails the read. -/
def parseCloudAccounts (items : List (Json K)) : Except Issue (List (Account K)) :=
  array accountSchema (some (.arr items))

def receive : Answer K → Session K Result Sensitivities × Option (Request K)
  | .loaded generation ownerId dbProfile items =>
    match parseCloudAccounts items with
    | .ok accounts =>
      (session.finishBootstrap generation (some ownerId) true (some (dbProfile, accounts)), none)
    | .error _ => (session.finishBootstrap generation (some ownerId) true none, none)
  | .loadFailed generation ownerId =>
    (session.finishBootstrap generation (some ownerId) true none, none)
  | .saved generation ownerId response =>
    match response with
    | .revision revision => (session.flushSucceeded generation ownerId revision, none)
    | .failed 409 => (session.flushConflicted generation ownerId, none)
    | _ => (session.flushFailed generation ownerId, none)
  | .saveFailed generation ownerId => (session.flushFailed generation ownerId, none)
  | .accountWritten ownerId call response =>
    match response with
    | .account value =>
      match accountSchema (some value) with
      | .ok _ => (session, session.accountWritten ownerId)
      | .error _ => (session.accountFailed ownerId "Cloud account data is invalid", none)
    | .noContent => (session, session.accountWritten ownerId)
    | _ => (session.accountFailed ownerId call.failure, none)
  | .accountsListed ownerId items =>
    match parseCloudAccounts items with
    | .ok accounts => (session.accountsListed ownerId accounts, none)
    | .error _ => (session.accountFailed ownerId "Cloud account data is invalid", none)
  | .accountFailed ownerId message => (session.accountFailed ownerId message, none)

end Session

/-! ## Requests on their way -/

structure Save (ι K : Type) where
  client : ι
  generation : ℕ
  ownerId : String
  body : Json K
  /-- Whether the session that sent it still waits. -/
  waiting : Bool
  answer : Option (Response K)

/-- Both reads of a bootstrap, each with what it has read. -/
structure Load (ι K : Type) where
  client : ι
  generation : ℕ
  ownerId : String
  dbProfile : Option (Option (ProfileSettings K))
  items : Option (List (Json K))

structure AccountWrite (ι K : Type) where
  client : ι
  ownerId : String
  call : Call K
  waiting : Bool
  answer : Option (Response K)

structure AccountList (ι K : Type) where
  client : ι
  ownerId : String
  items : Option (List (Json K))
  /-- How many account writes the server had executed when it read them; `0` before. -/
  readAt : ℕ

/-! ## Worlds -/

/-- The part of a plan that a profile save carries. -/
structure Settings (K : Type) where
  profile : UserProfile K
  socialSecurity : SocialSecuritySettings K
  assumptions : AssumptionSettings K
  deriving DecidableEq

def RetirementPlan.settings (plan : RetirementPlan K) : Settings K :=
  ⟨plan.profile, plan.socialSecurity, plan.assumptions⟩

/-- What happened to a profile, newest first in a history. -/
inductive Observation (ι K : Type)
  /-- A session applied an edit; `cached` when the browser's cache took it. -/
  | edited (client : ι) (ownerId : Option String) (settings : Settings K) (cached : Bool)
  | saveSent (client : ι) (ownerId : String) (base : Option ℤ)
  /-- The server committed a save made against `base`. -/
  | committed (client : ι) (ownerId : String) (base : Option ℤ) (revision : ℤ)
      (settings : Settings K)
  | refused (client : ι) (ownerId : String) (base : Option ℤ)
  /-- A bootstrap took over the cloud's plan, at the revision of its row. -/
  | loaded (client : ι) (ownerId : Option String) (revision : Option ℤ) (settings : Settings K)
  | loadFailed (client : ι)
  /-- A session learned that its save conflicted. -/
  | conflicted (client : ι) (ownerId : String)

structure World (ι K Result Sensitivities : Type) [Field K] [LinearOrder K] [FloorRing K] where
  sessions : ι → Session K Result Sensitivities
  database : Database K
  saves : List (Save ι K)
  loads : List (Load ι K)
  accountWrites : List (AccountWrite ι K)
  accountLists : List (AccountList ι K)
  /-- How many account writes the server has executed. -/
  writesExecuted : ℕ
  history : List (Observation ι K)

/-- What can happen next to a world, with the place of the request it happens to. -/
inductive Occurrence (ι K Result Sensitivities : Type) [Field K] [LinearOrder K] [FloorRing K]
  | act (client : ι) (event : Event K Result Sensitivities)
  /-- The page is loaded anew, after a crash or by the user: nothing waits any more. -/
  | reload (client : ι) (bundle : Bundle K)
  | executeSave (index : ℕ)
  | deliverSave (index : ℕ)
  /-- The session gives a save up; the server may execute it yet. -/
  | loseSave (index : ℕ)
  | readProfile (index : ℕ)
  | readAccounts (index : ℕ)
  | deliverLoad (index : ℕ)
  | loseLoad (index : ℕ)
  | executeWrite (index : ℕ) (newId : String)
  | deliverWrite (index : ℕ)
  | loseWrite (index : ℕ)
  | readList (index : ℕ)
  | deliverList (index : ℕ)
  | loseList (index : ℕ)

/-- The saves a request puts on their way. -/
def newSaves (client : ι) : Option (Request K) → List (Save ι K)
  | some (.save generation ownerId body) => [⟨client, generation, ownerId, body, true, none⟩]
  | _ => []

def newLoads (client : ι) : Option (Request K) → List (Load ι K)
  | some (.load generation ownerId) => [⟨client, generation, ownerId, none, none⟩]
  | _ => []

def newAccountWrites (client : ι) : Option (Request K) → List (AccountWrite ι K)
  | some (.writeAccount ownerId call) => [⟨client, ownerId, call, true, none⟩]
  | _ => []

def newAccountLists (client : ι) : Option (Request K) → List (AccountList ι K)
  | some (.listAccounts ownerId) => [⟨client, ownerId, none, 0⟩]
  | _ => []

namespace World

variable [DecidableEq ι] (world : World ι K Result Sensitivities)

/-- A session moves on, and what it sends is on its way. -/
def put (client : ι) (next : Session K Result Sensitivities × Option (Request K))
    (seen : List (Observation ι K)) : World ι K Result Sensitivities :=
  { world with
    sessions := Function.update world.sessions client next.1
    saves := newSaves client next.2 ++ world.saves
    loads := newLoads client next.2 ++ world.loads
    accountWrites := newAccountWrites client next.2 ++ world.accountWrites
    accountLists := newAccountLists client next.2 ++ world.accountLists
    history := seen ++ world.history }

/-! ## Observations -/

/-- Whether the browser's cache takes the profile of a session. -/
def cacheTakes (session : Session K Result Sensitivities) : Bool :=
  session.storage.available && session.storage.fits (ownerKey .localProfile session.cacheOwner)

/-- What the history keeps of an event. -/
def observeEvent (client : ι) (session : Session K Result Sensitivities) :
    Event K Result Sensitivities → List (Observation ι K)
  | .updatePlan updates =>
    match retirementPlanSchema (some (session.candidate updates)) with
    | .error _ => []
    | .ok plan => [.edited client session.cacheOwner plan.settings (cacheTakes session)]
  | .flush =>
    match (session.handle (.flush : Event K Result Sensitivities)).2 with
    | some (.save _ ownerId _) => [.saveSent client ownerId session.state.profileRevision]
    | _ => []
  | _ => []

/-- What the history keeps of the end of a bootstrap. -/
def observeLoad (client : ι) (generation : ℕ) (ownerId : String)
    (before after : Session K Result Sensitivities) : List (Observation ι K) :=
  if generation ≠ before.bootstrapGeneration then []
  else if after.state.cloudAvailable then
    [.loaded client ownerId after.state.profileRevision after.state.plan.settings]
  else [.loadFailed client]

/-- What the history keeps of the end of a save. -/
def observeSaved (client : ι) (session : Session K Result Sensitivities) (generation : ℕ)
    (ownerId : String) : Response K → List (Observation ι K)
  | .failed 409 =>
    if session.ownsFlush generation ownerId then [.conflicted client ownerId] else []
  | _ => []

/-- What the history keeps of a save the server executes. -/
def observeSave (client : ι) (ownerId : String) (body : Json K) : List (Observation ι K) :=
  match saveProfileSchema (some body) with
  | .error _ => []
  | .ok data =>
    match world.database.saveUserProfile ownerId data with
    | none => [.refused client ownerId data.revision]
    | some (_, revision) => [.committed client ownerId data.revision revision
        ⟨data.profile, data.socialSecurity, data.assumptions⟩]

/-! ## Steps -/

def reload (client : ι) (bundle : Bundle K) : World ι K Result Sensitivities :=
  { world with
    sessions := Function.update world.sessions client
      (.start bundle (world.sessions client).storage)
    saves := world.saves.map fun save =>
      if save.client = client then { save with waiting := false } else save
    loads := world.loads.filter (·.client ≠ client)
    accountWrites := world.accountWrites.map fun write =>
      if write.client = client then { write with waiting := false } else write
    accountLists := world.accountLists.filter (·.client ≠ client) }

/-- The session that waits for a request receives an answer. -/
def deliver (client : ι) (answer : Answer K) (seen : List (Observation ι K)) :
    World ι K Result Sensitivities :=
  world.put client ((world.sessions client).receive answer) seen

def executeSave (index : ℕ) : Option (World ι K Result Sensitivities) := do
  let save ← world.saves[index]?
  if save.answer.isSome then none
  else
    let executed := world.database.handle save.ownerId "" (.saveProfile save.body)
    some { world with
      database := executed.1
      saves := world.saves.set index { save with answer := some executed.2 }
      history := world.observeSave save.client save.ownerId save.body ++ world.history }

def deliverSave (index : ℕ) : Option (World ι K Result Sensitivities) := do
  let save ← world.saves[index]?
  let response ← save.answer
  if save.waiting then
    let session := world.sessions save.client
    some ({ world with saves := world.saves.eraseIdx index }.deliver save.client
      (.saved save.generation save.ownerId response)
      (observeSaved save.client session save.generation save.ownerId response))
  else none

def loseSave (index : ℕ) : Option (World ι K Result Sensitivities) := do
  let save ← world.saves[index]?
  if save.waiting then
    some ({ world with saves := world.saves.set index { save with waiting := false } }.deliver
      save.client (.saveFailed save.generation save.ownerId) [])
  else none

def readProfile (index : ℕ) : Option (World ι K Result Sensitivities) := do
  let load ← world.loads[index]?
  if load.dbProfile.isSome then none
  else
    match (world.database.handle load.ownerId "" .getProfile).2 with
    | .profile dbProfile =>
      some { world with
        loads := world.loads.set index { load with dbProfile := some dbProfile } }
    | _ => none

def readAccounts (index : ℕ) : Option (World ι K Result Sensitivities) := do
  let load ← world.loads[index]?
  if load.items.isSome then none
  else
    match (world.database.handle load.ownerId "" .getAccounts).2 with
    | .accounts items =>
      some { world with loads := world.loads.set index { load with items := some items } }
    | _ => none

/-- A bootstrap comes to its end with an answer. -/
def endLoad (index : ℕ) (load : Load ι K) (answer : Answer K) : World ι K Result Sensitivities :=
  let session := world.sessions load.client
  { world with loads := world.loads.eraseIdx index }.deliver load.client answer
    (observeLoad load.client load.generation load.ownerId session (session.receive answer).1)

def deliverLoad (index : ℕ) : Option (World ι K Result Sensitivities) := do
  let load ← world.loads[index]?
  let dbProfile ← load.dbProfile
  let items ← load.items
  some (world.endLoad index load (.loaded load.generation load.ownerId dbProfile items))

def loseLoad (index : ℕ) : Option (World ι K Result Sensitivities) := do
  let load ← world.loads[index]?
  some (world.endLoad index load (.loadFailed load.generation load.ownerId))

def executeWrite (index : ℕ) (newId : String) : Option (World ι K Result Sensitivities) := do
  let write ← world.accountWrites[index]?
  if write.answer.isSome then none
  else
    let executed := world.database.handle write.ownerId newId write.call
    some { world with
      database := executed.1
      writesExecuted := world.writesExecuted + 1
      accountWrites := world.accountWrites.set index { write with answer := some executed.2 } }

def deliverWrite (index : ℕ) : Option (World ι K Result Sensitivities) := do
  let write ← world.accountWrites[index]?
  let response ← write.answer
  if write.waiting then
    some ({ world with accountWrites := world.accountWrites.eraseIdx index }.deliver write.client
      (.accountWritten write.ownerId write.call response) [])
  else none

def loseWrite (index : ℕ) : Option (World ι K Result Sensitivities) := do
  let write ← world.accountWrites[index]?
  if write.waiting then
    let accountWrites := world.accountWrites.set index { write with waiting := false }
    some ({ world with accountWrites }.deliver write.client
      (.accountFailed write.ownerId write.call.failure) [])
  else none

def readList (index : ℕ) : Option (World ι K Result Sensitivities) := do
  let list ← world.accountLists[index]?
  if list.items.isSome then none
  else
    match (world.database.handle list.ownerId "" .getAccounts).2 with
    | .accounts items =>
      let readAt := world.writesExecuted
      some { world with
        accountLists := world.accountLists.set index { list with items := some items, readAt } }
    | _ => none

def deliverList (index : ℕ) : Option (World ι K Result Sensitivities) := do
  let list ← world.accountLists[index]?
  let items ← list.items
  some ({ world with accountLists := world.accountLists.eraseIdx index }.deliver list.client
    (.accountsListed list.ownerId items) [])

def loseList (index : ℕ) : Option (World ι K Result Sensitivities) := do
  let list ← world.accountLists[index]?
  some ({ world with accountLists := world.accountLists.eraseIdx index }.deliver list.client
    (.accountFailed list.ownerId (Call.getAccounts : Call K).failure) [])

/-- One step of a world, where it is enabled. -/
def step : Occurrence ι K Result Sensitivities → Option (World ι K Result Sensitivities)
  | .act client event =>
    let session := world.sessions client
    some (world.put client (session.handle event) (observeEvent client session event))
  | .reload client bundle => some (world.reload client bundle)
  | .executeSave index => world.executeSave index
  | .deliverSave index => world.deliverSave index
  | .loseSave index => world.loseSave index
  | .readProfile index => world.readProfile index
  | .readAccounts index => world.readAccounts index
  | .deliverLoad index => world.deliverLoad index
  | .loseLoad index => world.loseLoad index
  | .executeWrite index newId => world.executeWrite index newId
  | .deliverWrite index => world.deliverWrite index
  | .loseWrite index => world.loseWrite index
  | .readList index => world.readList index
  | .deliverList index => world.deliverList index
  | .loseList index => world.loseList index

/-- Browsers that have just loaded the page, before anything is on its way. -/
structure Initial : Prop where
  sessions : ∀ client, ∃ bundle storage, world.sessions client = .start bundle storage
  revisions : ∀ owner, ∀ row ∈ world.database.userProfiles owner, 0 ≤ row.revision
  saves : world.saves = []
  loads : world.loads = []
  accountWrites : world.accountWrites = []
  accountLists : world.accountLists = []
  writesExecuted : world.writesExecuted = 0
  history : world.history = []

end World

/-! ## Browsers of a new user -/

def emptyStorage : Storage ℚ := ⟨fun _ => none, true, fun _ => true⟩

def brokerage : Account ℚ :=
  { id := "00000000-0000-4000-8000-000000000001"
    name := "Brokerage"
    institution := ""
    accountType := .taxable
    balance := 100
    assetWeights := ⟨0.6, 0.4⟩ }

/-- Browsers without data, on a server that holds an account and no profile. -/
def newBrowsers : World ι ℚ Result Sensitivities where
  sessions _ := .start newYearBundle emptyStorage
  database := ⟨fun _ => none, fun _ => [brokerage]⟩
  saves := []
  loads := []
  accountWrites := []
  accountLists := []
  writesExecuted := 0
  history := []

def newUserWorld : World Unit ℚ Unit Unit := newBrowsers

/-- The user signs in with a browser, and both cloud reads succeed. -/
def signInWith (client : ι) : List (Occurrence ι ℚ Result Sensitivities) :=
  [.act client (.bootstrap (some "user") true), .readProfile 0, .readAccounts 0, .deliverLoad 0]

def signIn : List (Occurrence Unit ℚ Unit Unit) := signInWith ()

end RetirementPlanner.Web
