import RetirementPlanner.Web.World

/-!
# A session's link to the server

What of a session decides whether it saves its profile, and against which revision. An
event of the loop leaves it alone, starts a bootstrap with or without the cloud, or sends
a save (`handle_link`); the ends of bootstraps and saves are given as equations.
-/

namespace RetirementPlanner.Web

open Schema

variable {ι K Result Sensitivities : Type} [Field K] [LinearOrder K] [FloorRing K]

structure Link where
  authUser : Option String
  cloudAvailable : Bool
  profileRevision : Option ℤ
  profileSaveInFlight : Bool
  profileConflictDetected : Bool
  bootstrapGeneration : ℕ

def Session.link (session : Session K Result Sensitivities) : Link where
  authUser := session.state.authUser
  cloudAvailable := session.state.cloudAvailable
  profileRevision := session.state.profileRevision
  profileSaveInFlight := session.profileSaveInFlight
  profileConflictDetected := session.profileConflictDetected
  bootstrapGeneration := session.bootstrapGeneration

theorem cloudOwner_eq {session : Session K Result Sensitivities} {ownerId : String}
    (h : session.cloudOwner = some ownerId) : session.state.authUser = some ownerId := by
  unfold Session.cloudOwner at h
  split at h
  · exact h
  · cases h

/-! ## Links -/

namespace Link

variable (link : Link)

/-- The session works on an owner's cloud plan. -/
def Serves (owner : String) : Prop :=
  link.cloudAvailable = true ∧ link.authUser = some owner

/-- A bootstrap has begun. -/
def start (authUser : Option String) : Link :=
  { link with
    authUser
    cloudAvailable := false
    profileConflictDetected := false
    bootstrapGeneration := link.bootstrapGeneration + 1 }

/-- A bootstrap has ended, with the cloud's plan or without. -/
def finish (cloudAvailable : Bool) (row : Option ℤ) : Link :=
  { link with cloudAvailable, profileRevision := if cloudAvailable then row else none }

/-- A save is on its way. -/
def send : Link := { link with profileSaveInFlight := true }

/-- A save has ended. -/
def settle : Link := { link with profileSaveInFlight := false }

/-- The session is still as it was when a save was sent. -/
def Owns (generation : ℕ) (ownerId : String) : Prop :=
  generation = link.bootstrapGeneration ∧ link.authUser = some ownerId

end Link

/-! ## Events -/

def Call.isAccountWrite : Call K → Bool
  | .createAccount _ | .updateAccount _ _ | .deleteAccount _ => true
  | _ => false

/-- What an event does to the link, what it sends and what is observed. -/
inductive LinkStep (client : ι) (plan : RetirementPlan K) (link : Link) :
    Link → Option (Request K) → List (Observation ι K) → Prop
  | quiet (request) (seens) (hsaves : newSaves client request = [])
      (hloads : newLoads client request = [])
      (hwrites : ∀ write ∈ newAccountWrites client request, write.call.isAccountWrite = true)
      (hseens : ∀ seen ∈ seens, ∃ ownerId settings cached,
        seen = .edited client ownerId settings cached) :
      LinkStep client plan link link request seens
  | load (ownerId) : LinkStep client plan link (link.start (some ownerId))
      (some (.load (link.bootstrapGeneration + 1) ownerId)) []
  | offline (authUser) :
      LinkStep client plan link ((link.start authUser).finish false none) none []
  | save (ownerId) (hserves : link.Serves ownerId) (hflight : link.profileSaveInFlight = false)
      (hconflict : link.profileConflictDetected = false) :
      LinkStep client plan link link.send
        (some (.save link.bootstrapGeneration ownerId (saveBody plan link.profileRevision)))
        [.saveSent client ownerId link.profileRevision]

variable {session : Session K Result Sensitivities} {client : ι}

omit [LinearOrder K] [FloorRing K] in
theorem LinkStep.silent {plan : RetirementPlan K} {link : Link} :
    LinkStep client plan link link none [] :=
  .quiet none [] rfl rfl (by simp [newAccountWrites]) (by simp)

theorem finishBootstrap_stale {generation : ℕ} {ownerId : Option String} {cloudRequested : Bool}
    {cloud : Option (Option (ProfileSettings K) × List (Account K))}
    (h : generation ≠ session.bootstrapGeneration) :
    session.finishBootstrap generation ownerId cloudRequested cloud = session :=
  if_pos h

/-- Only a cloud plan that was read can be taken over. -/
theorem loadPlan_cloudAvailable {bundle : Bundle K}
    {cloud : Option (Option (ProfileSettings K) × List (Account K))}
    {browser : Except String (Option (LocalProfileData K) × Option (LocalAccountState K))}
    (h : (loadPlan bundle cloud browser).cloudAvailable = true) : ∃ read, cloud = some read := by
  cases cloud with
  | none =>
    unfold loadPlan at h
    split at h
    · simp_all
    · split at h <;> cases h
  | some read => exact ⟨read, rfl⟩

variable (session) in
theorem finishBootstrap_link (ownerId : Option String) (cloudRequested : Bool)
    (cloud : Option (Option (ProfileSettings K) × List (Account K))) :
    ∃ cloudAvailable, (cloudAvailable = true → ∃ read, cloud = some read) ∧
      (session.finishBootstrap session.bootstrapGeneration ownerId cloudRequested cloud).link
        = session.link.finish cloudAvailable ((cloud.bind Prod.fst).map (·.revision)) := by
  refine ⟨(loadPlan session.bundle cloud (loadLocal session.storage ownerId)).cloudAvailable,
    loadPlan_cloudAvailable, ?_⟩
  unfold Session.finishBootstrap
  rw [if_neg (not_not.mpr rfl)]
  rfl

variable (session) in
theorem bootstrap_link (plan : RetirementPlan K) (authUser : Option String)
    (cloudAccountReady : Bool) :
    LinkStep client plan session.link (session.bootstrap authUser cloudAccountReady).1.link
      (session.bootstrap authUser cloudAccountReady).2 [] := by
  unfold Session.bootstrap
  split
  · rename_i ownerId hrequest
    have howner : authUser = some ownerId := by
      unfold Session.cloudRequest at hrequest
      split at hrequest
      · exact hrequest
      · cases hrequest
    subst howner
    exact .load ownerId
  · obtain ⟨cloudAvailable, hcloud, hlink⟩ := finishBootstrap_link
      (session.startBootstrap authUser cloudAccountReady) authUser false none
    cases cloudAvailable with
    | true =>
      obtain ⟨read, hread⟩ := hcloud rfl
      cases hread
    | false =>
      have hlink : ((session.startBootstrap authUser cloudAccountReady).finishBootstrap
          (session.bootstrapGeneration + 1) authUser false none).link
            = (session.link.start authUser).finish false none := hlink
      dsimp only
      rw [hlink]
      exact .offline authUser

theorem setCloudSyncEnabled_link (plan : RetirementPlan K) (enabled : Bool) :
    LinkStep client plan session.link (session.setCloudSyncEnabled enabled).1.link
      (session.setCloudSyncEnabled enabled).2 [] := by
  unfold Session.setCloudSyncEnabled
  split
  · exact .silent
  · split
    · exact bootstrap_link (Session.persistPreferences
        { session with state := { session.state with cloudSyncEnabled := true } }) plan _ _
    · dsimp only
      split
      · exact bootstrap_link (Session.persistPreferences
          { session with
            storage := (saveLocalPlan session.storage session.state.plan session.cacheOwner .user).1
            state := { session.state with cloudSyncEnabled := false } }) plan _ _
      · exact .silent

theorem flush_link :
    LinkStep client session.state.plan session.link
      (session.handle (.flush : Event K Result Sensitivities)).1.link
      (session.handle (.flush : Event K Result Sensitivities)).2
      (World.observeEvent client session .flush) := by
  simp only [Session.handle, World.observeEvent]
  split
  · unfold Session.flushProfileToDb
    split
    · rename_i ownerId howner
      split
      · rename_i hready
        simp only [Bool.and_eq_true, Bool.not_eq_true', decide_eq_true_eq] at hready
        obtain ⟨⟨⟨-, hflight⟩, hconflict⟩, hmode⟩ := hready
        have hcloud : session.state.cloudAvailable = true := by
          unfold PlanState.dataMode at hmode
          split at hmode
          · simp_all
          · cases hmode
        exact .save ownerId ⟨hcloud, howner⟩ hflight hconflict
      · exact .silent
    · exact .silent
  · exact .silent

variable (session) in
/-- What an event of the loop does to the link. -/
theorem handle_link (client : ι) (event : Event K Result Sensitivities) :
    LinkStep client session.state.plan session.link (session.handle event).1.link
      (session.handle event).2 (World.observeEvent client session event) := by
  cases event with
  | bootstrap authUser cloudAccountReady => exact bootstrap_link _ _ _ _
  | updatePlan updates =>
    cases hparse : retirementPlanSchema (some (session.candidate updates)) with
    | error issue =>
      simp only [Session.handle, World.observeEvent, Session.updatePlan, hparse]
      exact .silent
    | ok plan =>
      simp only [Session.handle, World.observeEvent, Session.updatePlan, hparse]
      exact .quiet _ _ rfl rfl (by simp [newAccountWrites])
        fun seen hseen => ⟨_, _, _, List.mem_singleton.mp hseen⟩
  | flush => exact flush_link
  | createAccount id data =>
    simp only [Session.handle, World.observeEvent, Session.createAccount]
    split
    · exact .silent
    · split
      · exact .quiet _ _ rfl rfl (by simp [newAccountWrites, Call.isAccountWrite]) (by simp)
      · split
        · exact .silent
        · exact .silent
  | updateAccount id updates =>
    simp only [Session.handle, World.observeEvent, Session.updateAccount]
    split
    · exact .quiet _ _ rfl rfl (by simp [newAccountWrites, Call.isAccountWrite]) (by simp)
    · split
      · exact .silent
      · exact .silent
  | deleteAccount id =>
    simp only [Session.handle, World.observeEvent, Session.deleteAccount]
    split
    · exact .quiet _ _ rfl rfl (by simp [newAccountWrites, Call.isAccountWrite]) (by simp)
    · exact .silent
  | setCloudSyncEnabled enabled => exact setCloudSyncEnabled_link _ _
  | simulationTimeout =>
    simp only [Session.handle, World.observeEvent, Session.simulationTimeout]
    split
    · split
      · exact .silent
      · exact .silent
    · exact .silent
  | runSensitivityAnalyses =>
    simp only [Session.handle, World.observeEvent, Session.runSensitivityAnalyses]
    split
    · exact .silent
    · split
      · exact .silent
      · exact .silent
  | mainDone index outcome =>
    simp only [Session.handle, World.observeEvent]
    split
    · exact .silent
    · cases outcome <;> simp only [Session.mainSucceeded, Session.mainFailed] <;> split_ifs <;>
        exact .silent
  | sensitivityDone index outcome =>
    simp only [Session.handle, World.observeEvent]
    split
    · exact .silent
    · cases outcome <;> simp only [Session.sensitivitySucceeded, Session.sensitivityFailed] <;>
        split_ifs <;> exact .silent
  | setUseServerSideCalculations | clearError | runMainSimulation | storageChanged =>
    exact .silent

/-! ## Answers -/

theorem ownsFlush_iff {generation : ℕ} {ownerId : String} :
    session.ownsFlush generation ownerId = true ↔ session.link.Owns generation ownerId := by
  simp [Session.ownsFlush, Link.Owns, Session.link]

variable (session) in
/-- No answer makes a session save, load or write an account. -/
theorem receive_sends (client : ι) (answer : Answer K) :
    newSaves client (session.receive answer).2 = [] ∧
      newLoads client (session.receive answer).2 = [] ∧
      newAccountWrites client (session.receive answer).2 = [] := by
  have hlist : ∀ ownerId, newSaves client (session.accountWritten ownerId) = [] ∧
      newLoads client (session.accountWritten ownerId) = [] ∧
      newAccountWrites client (session.accountWritten ownerId) = [] := by
    intro ownerId
    unfold Session.accountWritten
    split <;> exact ⟨rfl, rfl, rfl⟩
  cases answer with
  | accountWritten ownerId call response =>
    simp only [Session.receive]
    split
    · split
      · exact hlist ownerId
      · exact ⟨rfl, rfl, rfl⟩
    · exact hlist ownerId
    · exact ⟨rfl, rfl, rfl⟩
  | saved generation ownerId response =>
    simp only [Session.receive]
    split <;> exact ⟨rfl, rfl, rfl⟩
  | loaded generation ownerId dbProfile items =>
    simp only [Session.receive]
    split <;> exact ⟨rfl, rfl, rfl⟩
  | accountsListed ownerId items =>
    simp only [Session.receive]
    split <;> exact ⟨rfl, rfl, rfl⟩
  | loadFailed | saveFailed | accountFailed => exact ⟨rfl, rfl, rfl⟩

theorem accountFailed_link (ownerId message : String) :
    (session.accountFailed ownerId message).link = session.link := by
  unfold Session.accountFailed
  split <;> rfl

/-- The answers of account operations leave the link alone. -/
theorem receiveAccounts_link (ownerId : String) (call : Call K) (response : Response K)
    (items : List (Json K)) (message : String) :
    (session.receive (.accountWritten ownerId call response)).1.link = session.link ∧
      (session.receive (.accountsListed ownerId items)).1.link = session.link ∧
      (session.receive (.accountFailed ownerId message)).1.link = session.link := by
  refine ⟨?_, ?_, accountFailed_link ownerId message⟩
  · simp only [Session.receive]
    split
    · split
      · rfl
      · exact accountFailed_link ownerId _
    · rfl
    · exact accountFailed_link ownerId _
  · simp only [Session.receive]
    split
    · unfold Session.accountsListed
      split <;> rfl
    · exact accountFailed_link ownerId _

omit [Field K] [LinearOrder K] [FloorRing K] in
/-- Whether an answer ends a bootstrap. -/
def Answer.endsBootstrap : Answer K → Bool
  | .loaded .. | .loadFailed .. => true
  | _ => false

variable (session) in
/-- Whose session it is, and whether its page is shown, is the business of bootstraps. -/
theorem receive_owner {answer : Answer K} (hanswer : answer.endsBootstrap = false) :
    (session.receive answer).1.state.authUser = session.state.authUser ∧
      (session.receive answer).1.state.bootstrapped = session.state.bootstrapped ∧
      (session.receive answer).1.bootstrapGeneration = session.bootstrapGeneration := by
  have haccountFailed : ∀ ownerId message,
      (session.accountFailed ownerId message).state.authUser = session.state.authUser ∧
        (session.accountFailed ownerId message).state.bootstrapped
          = session.state.bootstrapped ∧
        (session.accountFailed ownerId message).bootstrapGeneration
          = session.bootstrapGeneration := by
    intro ownerId message
    unfold Session.accountFailed
    split <;> exact ⟨rfl, rfl, rfl⟩
  cases answer with
  | loaded | loadFailed => cases hanswer
  | saved generation ownerId response =>
    simp only [Session.receive, Session.flushSucceeded, Session.flushConflicted,
      Session.flushFailed]
    split <;> split <;> exact ⟨rfl, rfl, rfl⟩
  | saveFailed generation ownerId =>
    simp only [Session.receive, Session.flushFailed]
    split <;> exact ⟨rfl, rfl, rfl⟩
  | accountWritten ownerId call response =>
    simp only [Session.receive]
    split
    · split
      · exact ⟨rfl, rfl, rfl⟩
      · exact haccountFailed _ _
    · exact ⟨rfl, rfl, rfl⟩
    · exact haccountFailed _ _
  | accountsListed ownerId items =>
    simp only [Session.receive]
    split
    · unfold Session.accountsListed
      split <;> exact ⟨rfl, rfl, rfl⟩
    · exact haccountFailed _ _
  | accountFailed ownerId message => exact haccountFailed _ _

variable (session) in
theorem flushSucceeded_link (generation : ℕ) (ownerId : String) (revision : ℤ) :
    (session.link.Owns generation ownerId →
      (session.flushSucceeded generation ownerId revision).link
        = { session.link.settle with profileRevision := some revision }) ∧
    (¬ session.link.Owns generation ownerId →
      (session.flushSucceeded generation ownerId revision).link = session.link.settle) := by
  unfold Session.flushSucceeded
  split
  · rename_i howns
    exact ⟨fun _ => rfl, fun hnot => absurd (ownsFlush_iff.mp howns) hnot⟩
  · rename_i hnot
    exact ⟨fun howns => absurd (ownsFlush_iff.mpr howns) hnot, fun _ => rfl⟩

variable (session) in
theorem flushConflicted_link (generation : ℕ) (ownerId : String) :
    (session.link.Owns generation ownerId →
      (session.flushConflicted generation ownerId).link
        = { session.link.settle with profileConflictDetected := true }) ∧
    (¬ session.link.Owns generation ownerId →
      (session.flushConflicted generation ownerId).link = session.link.settle) := by
  unfold Session.flushConflicted
  split
  · rename_i howns
    exact ⟨fun _ => rfl, fun hnot => absurd (ownsFlush_iff.mp howns) hnot⟩
  · rename_i hnot
    exact ⟨fun howns => absurd (ownsFlush_iff.mpr howns) hnot, fun _ => rfl⟩

theorem flushFailed_link (generation : ℕ) (ownerId : String) :
    (session.flushFailed generation ownerId).link = session.link.settle := by
  unfold Session.flushFailed
  split <;> rfl

end RetirementPlanner.Web
