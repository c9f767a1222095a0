import RetirementPlanner.Proof.OwnedWorld

/-!
# Owners are kept apart

What is stored stays with its owner (`InWorld`), but the completed runs that a session keeps
do not: a bootstrap leaves the result, the plan it was computed from and the sensitivity
curves in the store, so after a change of owner the page shows them (`guestResult_shown`),
unless the store holds none of another owner when the bootstrap ends (`owners_isolated`).
The curves carry no plan; whose they are is what the simulation service, which answers for
the plan it was given, computed them from.
-/

namespace RetirementPlanner.Web

open Schema Runs

variable {ι K Result Sensitivities : Type} [DecidableEq ι] [Field K] [LinearOrder K]
  [FloorRing K]

namespace Ownership

variable {own : Ownership K} {service : Service K Result Sensitivities}
  {world next : World ι K Result Sensitivities} [IsStrictOrderedRing K]

/-! ## Completed runs -/

section Shown

variable {session session' : Session K Result Sensitivities}

variable (own service) in
/-- The completed runs that a session keeps, if any, were of an owner's plans. -/
structure Kept (session : Session K Result Sensitivities) (owner : String) : Prop where
  simulationResult : ∀ result, session.state.simulationResult = some result →
    ∃ plan useServerSide, own.Plan owner plan ∧ service.main plan useServerSide result
  simulationPlan : ∀ plan, session.state.simulationPlan = some plan → own.Plan owner plan
  analysisResults : ∀ results, session.state.analysisResults = some results →
    ∃ plan useServerSide, own.Plan owner plan ∧ service.sensitivities plan useServerSide results

variable (own service) in
/-- A session that shows completed runs of its own owner's. -/
structure Shows (session : Session K Result Sensitivities) : Prop where
  display : DisplayInv service session.display
  kept : session.state.bootstrapped = true →
    own.Kept service session (ownerName session.state.authUser)

/-- Two sessions keep the same completed runs. -/
structure SameRuns (session session' : Session K Result Sensitivities) : Prop where
  simulationResult : session'.state.simulationResult = session.state.simulationResult
  simulationPlan : session'.state.simulationPlan = session.state.simulationPlan
  analysisResults : session'.state.analysisResults = session.state.analysisResults

omit [IsStrictOrderedRing K] in
theorem SameRuns.kept (hsame : SameRuns session session') {owner : String}
    (h : own.Kept service session owner) : own.Kept service session' owner where
  simulationResult result hresult :=
    h.simulationResult result (hsame.simulationResult.symm.trans hresult)
  simulationPlan plan hplan := h.simulationPlan plan (hsame.simulationPlan.symm.trans hplan)
  analysisResults results hresults :=
    h.analysisResults results (hsame.analysisResults.symm.trans hresults)

omit [IsStrictOrderedRing K] in
variable (session) in
theorem finishBootstrap_runs (generation : ℕ) (ownerId : Option String) (cloudRequested : Bool)
    (cloud : Option (Option (ProfileSettings K) × List (Account K))) :
    SameRuns session (session.finishBootstrap generation ownerId cloudRequested cloud) := by
  unfold Session.finishBootstrap
  split
  · exact ⟨rfl, rfl, rfl⟩
  · exact ⟨rfl, rfl, rfl⟩

omit [IsStrictOrderedRing K] in
variable (session) in
/-- A bootstrap leaves the completed runs in the store. -/
theorem bootstrap_keeps (authUser : Option String) (cloudAccountReady : Bool) :
    (session.bootstrap authUser cloudAccountReady).1.state.authUser = authUser ∧
      SameRuns session (session.bootstrap authUser cloudAccountReady).1 ∧
      ((session.bootstrap authUser cloudAccountReady).1.state.bootstrapped = true →
        session.cloudRequest authUser cloudAccountReady = none) := by
  unfold Session.bootstrap
  split
  · exact ⟨rfl, ⟨rfl, rfl, rfl⟩, fun hbootstrapped => (nomatch hbootstrapped)⟩
  · rename_i hrequest
    have hruns := finishBootstrap_runs (session.startBootstrap authUser cloudAccountReady)
      (session.bootstrapGeneration + 1) authUser false none
    refine ⟨?_, ⟨hruns.simulationResult, hruns.simulationPlan, hruns.analysisResults⟩,
      fun _ => hrequest⟩
    unfold Session.finishBootstrap
    split <;> rfl

omit [IsStrictOrderedRing K] in
variable (session) in
/-- Only a bootstrap changes whose session it is, and only a bootstrap or an edit can have
the page shown. -/
theorem handle_owner {event : Event K Result Sensitivities}
    (hevent : ∀ authUser cloudAccountReady, event ≠ .bootstrap authUser cloudAccountReady) :
    (session.handle event).1.state.authUser = session.state.authUser ∧
      ((session.handle event).1.state.bootstrapped = true →
        session.state.bootstrapped = true ∨ event.isEdit = true) := by
  cases event with
  | bootstrap authUser cloudAccountReady => exact absurd rfl (hevent _ _)
  | updatePlan updates =>
    refine ⟨?_, fun _ => .inr rfl⟩
    simp only [Session.handle, Session.updatePlan]
    split <;> rfl
  | flush =>
    simp only [Session.handle, Session.flushProfileToDb]
    split
    · split
      · split
        · exact ⟨rfl, .inl⟩
        · exact ⟨rfl, .inl⟩
      · exact ⟨rfl, .inl⟩
    · exact ⟨rfl, .inl⟩
  | createAccount id data =>
    refine ⟨?_, fun _ => .inr rfl⟩
    simp only [Session.handle, Session.createAccount]
    split
    · rfl
    · split
      · rfl
      · split <;> rfl
  | updateAccount id updates =>
    refine ⟨?_, fun _ => .inr rfl⟩
    simp only [Session.handle, Session.updateAccount]
    split
    · rfl
    · split <;> rfl
  | deleteAccount id =>
    refine ⟨?_, fun _ => .inr rfl⟩
    simp only [Session.handle, Session.deleteAccount]
    split <;> rfl
  | setCloudSyncEnabled enabled =>
    refine ⟨?_, fun _ => .inr rfl⟩
    simp only [Session.handle, Session.setCloudSyncEnabled]
    split
    · rfl
    · split
      · exact (bootstrap_keeps _ _ _).1
      · split
        · exact (bootstrap_keeps _ _ _).1
        · rfl
  | simulationTimeout =>
    simp only [Session.handle, Session.simulationTimeout]
    split
    · split <;> exact ⟨rfl, .inl⟩
    · exact ⟨rfl, .inl⟩
  | runSensitivityAnalyses =>
    simp only [Session.handle, Session.runSensitivityAnalyses]
    split
    · exact ⟨rfl, .inl⟩
    · split <;> exact ⟨rfl, .inl⟩
  | mainDone index outcome =>
    simp only [Session.handle]
    split
    · exact ⟨rfl, .inl⟩
    · cases outcome <;> simp only [Session.mainSucceeded, Session.mainFailed] <;> split_ifs <;>
        exact ⟨rfl, .inl⟩
  | sensitivityDone index outcome =>
    simp only [Session.handle]
    split
    · exact ⟨rfl, .inl⟩
    · cases outcome <;> simp only [Session.sensitivitySucceeded, Session.sensitivityFailed] <;>
        split_ifs <;> exact ⟨rfl, .inl⟩
  | setUseServerSideCalculations | clearError | runMainSimulation | storageChanged =>
    exact ⟨rfl, .inl⟩

variable (h : own.Shows service session) (hholds : own.Holds session)

include h hholds in
omit [IsStrictOrderedRing K] in
/-- A bootstrapped session that goes on under its owner shows that owner's runs. -/
theorem Shows.goesOn (hstep : DisplayStep service session.display session'.display)
    (huser : session'.state.authUser = session.state.authUser)
    (hbootstrapped : session'.state.bootstrapped = true → session.state.bootstrapped = true) :
    own.Shows service session' where
  display := hstep.inv h.display
  kept hshown := by
    have hkept := h.kept (hbootstrapped hshown)
    have hplan := hholds.plan (hbootstrapped hshown)
    rw [huser]
    refine ⟨fun result hresult => ?_, fun plan hsimulated => ?_, fun results hresults => ?_⟩
    · obtain ⟨hsame, -⟩ | ⟨hnone, -⟩ | ⟨useServerSide, new, hanswer, hnew, -⟩ :=
        hstep.simulationResult h.display
      · exact hkept.simulationResult result (hsame.symm.trans hresult)
      · exact absurd (hnone.symm.trans hresult) (by simp)
      · cases hnew.symm.trans hresult
        exact ⟨_, useServerSide, hplan, hanswer⟩
    · obtain ⟨-, hsame⟩ | ⟨-, hnone⟩ | ⟨-, -, -, -, hnew⟩ := hstep.simulationResult h.display
      · exact hkept.simulationPlan plan (hsame.symm.trans hsimulated)
      · exact absurd (hnone.symm.trans hsimulated) (by simp)
      · cases hnew.symm.trans hsimulated
        exact hplan
    · obtain hsame | hnone | ⟨useServerSide, new, hanswer, hnew⟩ :=
        hstep.analysisResults h.display
      · exact hkept.analysisResults results (hsame.symm.trans hresults)
      · exact absurd (hnone.symm.trans hresults) (by simp)
      · cases hnew.symm.trans hresults
        exact ⟨_, useServerSide, hplan, hanswer⟩

include h hholds in
theorem handle_shows {event : Event K Result Sensitivities}
    (hadmits : Admits service session event)
    (hgate : event.isEdit = true → session.state.bootstrapped = true)
    (hkept : ∀ authUser cloudAccountReady, event = .bootstrap authUser cloudAccountReady →
      session.cloudRequest authUser cloudAccountReady = none →
        own.Kept service session (ownerName authUser)) :
    own.Shows service (session.handle event).1 := by
  have hstep := handle_display service h.display.plan hadmits
  by_cases hevent : ∃ authUser cloudAccountReady, event = .bootstrap authUser cloudAccountReady
  · obtain ⟨authUser, cloudAccountReady, rfl⟩ := hevent
    obtain ⟨huser, hruns, hrequest⟩ := bootstrap_keeps session authUser cloudAccountReady
    refine ⟨hstep.inv h.display, fun hshown => ?_⟩
    simp only [Session.handle] at hshown ⊢
    rw [huser]
    exact hruns.kept (hkept _ _ rfl (hrequest hshown))
  · push Not at hevent
    obtain ⟨huser, hshown⟩ := handle_owner session hevent
    exact h.goesOn hholds hstep huser fun hboot => (hshown hboot).elim id hgate

include h hholds in
theorem receive_shows {answer : Answer K}
    (hkept : ∀ generation ownerId, (answer = .loadFailed generation ownerId ∨
        ∃ dbProfile items, answer = .loaded generation ownerId dbProfile items) →
      generation = session.bootstrapGeneration →
        session.state.authUser = some ownerId ∧ own.Kept service session ownerId) :
    own.Shows service (session.receive answer).1 := by
  have hstep := receive_display service h.display.plan answer
  have hends : ∀ generation ownerId cloud, (generation = session.bootstrapGeneration →
      session.state.authUser = some ownerId ∧ own.Kept service session ownerId) →
      (session.receive answer).1 = session.finishBootstrap generation (some ownerId) true cloud →
        own.Shows service (session.receive answer).1 := by
    intro generation ownerId cloud hcurrent hreceive
    refine ⟨hstep.inv h.display, fun hshown => ?_⟩
    rw [hreceive] at hshown ⊢
    refine (finishBootstrap_runs session generation (some ownerId) true cloud).kept ?_
    unfold Session.finishBootstrap at hshown ⊢
    split at hshown
    · rename_i hgeneration
      rw [if_pos hgeneration]
      exact h.kept hshown
    · rename_i hgeneration
      rw [if_neg hgeneration]
      obtain ⟨huser, hown⟩ := hcurrent (not_not.mp hgeneration)
      show own.Kept service session (ownerName session.state.authUser)
      rw [huser]
      exact hown
  have hgoes : answer.endsBootstrap = false → own.Shows service (session.receive answer).1 := by
    intro hanswer
    obtain ⟨huser, hshown, -⟩ := receive_owner session hanswer
    exact h.goesOn hholds hstep huser fun hboot => hshown ▸ hboot
  cases answer with
  | loaded generation ownerId dbProfile items =>
    obtain ⟨cloud, -, hreceive⟩ := receiveLoaded session generation ownerId dbProfile items
    exact hends _ _ cloud (hkept _ _ (.inr ⟨_, _, rfl⟩)) (congrArg Prod.fst hreceive)
  | loadFailed generation ownerId => exact hends _ _ none (hkept _ _ (.inl rfl)) rfl
  | saved | saveFailed | accountWritten | accountsListed | accountFailed => exact hgoes rfl

end Shown

/-! ## Pages -/

variable (service) in
/-- The simulation service answers a run for the plan the run was given. -/
def Answered (world : World ι K Result Sensitivities) :
    Occurrence ι K Result Sensitivities → Prop
  | .act client event => Admits service (world.sessions client) event
  | _ => True

variable (own service) in
/-- When a bootstrap ends for an owner, the store keeps no completed run but of plans of
that owner. -/
def KeepsOwn (world : World ι K Result Sensitivities) : Occurrence ι K Result Sensitivities → Prop
  | .act client (.bootstrap authUser cloudAccountReady) =>
    (world.sessions client).cloudRequest authUser cloudAccountReady = none →
      own.Kept service (world.sessions client) (ownerName authUser)
  | .deliverLoad index | .loseLoad index => ∀ load, world.loads[index]? = some load →
    load.generation = (world.sessions load.client).bootstrapGeneration →
      own.Kept service (world.sessions load.client) load.ownerId
  | _ => True

omit [IsStrictOrderedRing K] in
theorem update_shows (h : ∀ client, own.Shows service (world.sessions client)) {client : ι}
    {session : Session K Result Sensitivities} (hsession : own.Shows service session) :
    ∀ other, own.Shows service (Function.update world.sessions client session other) := by
  intro other
  by_cases hother : other = client
  · subst hother
    simpa using hsession
  · simpa [hother] using h other

/-- An answer that ends no bootstrap. -/
theorem deliver_shows (h : ∀ client, own.Shows service (world.sessions client))
    (hholds : ∀ client, own.Holds (world.sessions client)) {client : ι} {answer : Answer K}
    (hanswer : answer.endsBootstrap = false) :
    ∀ other, own.Shows service (Function.update world.sessions client
      ((world.sessions client).receive answer).1 other) := by
  refine update_shows h (receive_shows (h client) (hholds client) ?_)
  rintro generation ownerId (rfl | ⟨dbProfile, items, rfl⟩)
  · cases hanswer
  · cases hanswer

/-- A bootstrap ends. -/
theorem endLoad_shows (h : ∀ client, own.Shows service (world.sessions client))
    (hholds : ∀ client, own.Holds (world.sessions client)) {initial : String → Option ℤ}
    (hprofile : ProfileInv initial world) {index : ℕ} {load : Load ι K}
    (hload : world.loads[index]? = some load)
    (hkept : load.generation = (world.sessions load.client).bootstrapGeneration →
      own.Kept service (world.sessions load.client) load.ownerId) {answer : Answer K}
    (hanswer : answer = .loadFailed load.generation load.ownerId ∨
      ∃ dbProfile items, answer = .loaded load.generation load.ownerId dbProfile items) :
    ∀ other, own.Shows service ((world.endLoad index load answer).sessions other) := by
  have hcurrent := load_current hprofile (List.mem_of_getElem? hload)
  refine update_shows h (receive_shows (h load.client) (hholds load.client) ?_)
  intro generation ownerId hends hgeneration
  have hsame : generation = load.generation ∧ ownerId = load.ownerId := by
    obtain rfl | ⟨dbProfile, items, rfl⟩ := hanswer
    · obtain heq | ⟨_, _, heq⟩ := hends
      · cases heq
        exact ⟨rfl, rfl⟩
      · cases heq
    · obtain heq | ⟨_, _, heq⟩ := hends
      · cases heq
      · cases heq
        exact ⟨rfl, rfl⟩
  obtain ⟨rfl, rfl⟩ := hsame
  exact ⟨hcurrent hgeneration, hkept hgeneration⟩

omit [DecidableEq ι] in
theorem start_shows (bundle : Bundle K) (storage : Storage K) :
    own.Shows service (Session.start bundle storage : Session K Result Sensitivities) where
  display := start_inv bundle storage
  kept hbootstrapped := nomatch hbootstrapped

theorem step_shows (h : ∀ client, own.Shows service (world.sessions client))
    (hown : own.InWorld world) {initial : String → Option ℤ} (hprofile : ProfileInv initial world)
    {occurrence : Occurrence ι K Result Sensitivities} (hmay : own.May world occurrence)
    (hanswered : Answered service world occurrence)
    (hkeeps : own.KeepsOwn service world occurrence) (hstep : world.step occurrence = some next) :
    ∀ client, own.Shows service (next.sessions client) := by
  cases occurrence with
  | act client event =>
    cases hstep
    refine update_shows h (handle_shows (h client) (hown.sessions client) hanswered hmay.1 ?_)
    rintro authUser cloudAccountReady rfl
    exact hkeeps
  | reload client bundle =>
    cases hstep
    exact update_shows h (start_shows bundle _)
  | executeSave index =>
    obtain ⟨save, -, -, rfl⟩ := World.executeSave_some hstep
    exact h
  | deliverSave index =>
    obtain ⟨save, response, -, -, -, rfl⟩ := World.deliverSave_some hstep
    exact deliver_shows h hown.sessions rfl
  | loseSave index =>
    obtain ⟨save, -, -, rfl⟩ := World.loseSave_some hstep
    exact deliver_shows h hown.sessions rfl
  | readProfile index =>
    obtain ⟨load, -, rfl⟩ := World.readProfile_some hstep
    exact h
  | readAccounts index =>
    obtain ⟨load, -, rfl⟩ := World.readAccounts_some hstep
    exact h
  | deliverLoad index =>
    obtain ⟨load, dbProfile, items, hload, -, -, rfl⟩ := World.deliverLoad_some hstep
    exact endLoad_shows h hown.sessions hprofile hload (hkeeps load hload) (.inr ⟨_, _, rfl⟩)
  | loseLoad index =>
    obtain ⟨load, hload, rfl⟩ := World.loseLoad_some hstep
    exact endLoad_shows h hown.sessions hprofile hload (hkeeps load hload) (.inl rfl)
  | executeWrite index newId =>
    obtain ⟨write, -, rfl⟩ := World.executeWrite_some hstep
    exact h
  | deliverWrite index =>
    obtain ⟨write, response, -, -, rfl⟩ := World.deliverWrite_some hstep
    exact deliver_shows h hown.sessions rfl
  | loseWrite index =>
    obtain ⟨write, -, rfl⟩ := World.loseWrite_some hstep
    exact deliver_shows h hown.sessions rfl
  | readList index =>
    obtain ⟨list, -, rfl⟩ := World.readList_some hstep
    exact h
  | deliverList index =>
    obtain ⟨list, items, -, -, rfl⟩ := World.deliverList_some hstep
    exact deliver_shows h hown.sessions rfl
  | loseList index =>
    obtain ⟨list, -, rfl⟩ := World.loseList_some hstep
    exact deliver_shows h hown.sessions rfl

/-! ## The main result -/

variable (own) in
/-- What is stored anywhere is its owner's, and so is the plan of every page. -/
structure Isolated (world : World ι K Result Sensitivities) : Prop extends own.Stores world where
  plans : ∀ client, (world.sessions client).state.bootstrapped = true →
    own.Plan (ownerName (world.sessions client).state.authUser) (world.sessions client).state.plan

omit [DecidableEq ι] [IsStrictOrderedRing K] in
theorem InWorld.isolated (h : own.InWorld world) : own.Isolated world where
  caches client := (h.sessions client).cache
  profiles := h.profiles
  accounts := h.accounts
  plans client := (h.sessions client).plan

omit [DecidableEq ι] in
theorem initial_own (hinitial : world.Initial) (hstores : own.Stores world) :
    own.InWorld world where
  sessions client := by
    obtain ⟨bundle, storage, hstart⟩ := hinitial.sessions client
    have hcache := hstores.caches client
    rw [hstart] at hcache ⊢
    exact start_own bundle hcache
  profiles := hstores.profiles
  accounts := hstores.accounts
  saves := by simp [hinitial.saves]
  rows := by simp [hinitial.loads]
  items := by simp [hinitial.loads]
  writes := by simp [hinitial.accountWrites]
  lists := by simp [hinitial.accountLists]

/-- From any start, caches, cloud rows and the plans on the pages stay with their owners;
and where no bootstrap ends upon completed runs of another owner's, so do the runs shown. -/
theorem owners_isolated (service : Service K Result Sensitivities) (hdefaults : own.Defaults)
    (hinitial : world.Initial) (hstores : own.Stores world) :
    (∀ next, Reaches (Next World.step own.May) world next → own.Isolated next) ∧
      ∀ next, Reaches (Next World.step fun world occurrence => own.May world occurrence ∧
          Answered service world occurrence ∧ own.KeepsOwn service world occurrence) world next →
        own.Isolated next ∧ ∀ client, (next.sessions client).state.bootstrapped = true →
          own.Kept service (next.sessions client)
            (ownerName (next.sessions client).state.authUser) := by
  have hprofile : ProfileInv world.revision world := initial_inv hinitial
  have hown : own.InWorld world := initial_own hinitial hstores
  refine ⟨fun next hrun => ?_, fun next hrun => ?_⟩
  · have hinv : ProfileInv world.revision next ∧ own.InWorld next := by
      refine invariant (fun w => ProfileInv world.revision w ∧ own.InWorld w) ?_ ⟨hprofile, hown⟩
        hrun
      rintro s t ⟨occurrence, hmay, hstep⟩ ⟨hprofile, hown⟩
      exact ⟨step_inv hprofile hstep, step_own hown hdefaults hprofile hmay hstep⟩
    exact hinv.2.isolated
  · have hshows : ∀ client, own.Shows service (world.sessions client) := by
      intro client
      obtain ⟨bundle, storage, hstart⟩ := hinitial.sessions client
      rw [hstart]
      exact start_shows bundle storage
    have hinv : (ProfileInv world.revision next ∧ own.InWorld next) ∧
        ∀ client, own.Shows service (next.sessions client) := by
      refine invariant (fun w => (ProfileInv world.revision w ∧ own.InWorld w) ∧
        ∀ client, own.Shows service (w.sessions client)) ?_ ⟨⟨hprofile, hown⟩, hshows⟩ hrun
      rintro s t ⟨occurrence, ⟨hmay, hanswered, hkeeps⟩, hstep⟩ ⟨⟨hprofile, hown⟩, hshows⟩
      exact ⟨⟨step_inv hprofile hstep, step_own hown hdefaults hprofile hmay hstep⟩,
        step_shows hshows hown hprofile hmay hanswered hkeeps hstep⟩
    exact ⟨hinv.1.2.isolated, fun client => (hinv.2 client).kept⟩

/-! ## A guest signs in -/

/-- Anything may be anyone's, but for an account of 777 dollars, which the user has none
of. -/
def guests : Ownership ℚ where
  settings _ _ := True
  account owner account := owner = "user" → account.balance ≠ 777

theorem starter_balances {accounts : List (Account ℚ)}
    (h : array accountSchema (some (.arr starterAccounts)) = .ok accounts) :
    ∀ account ∈ accounts, account.balance ≠ 777 := by
  have hread : ((array accountSchema (some (.arr (starterAccounts : List (Json ℚ))))).toOption.all
      fun accounts => accounts.all fun account => account.balance != 777) = true := by
    decide +kernel
  rw [h] at hread
  simpa [Except.toOption] using hread

theorem guests_defaults : guests.Defaults where
  plan _ clock plan hplan := by
    refine ⟨trivial, ?_⟩
    simp only [retirementPlanSchema, bind_ok, object_ok, field_ok] at hplan
    obtain ⟨fields, hfields, profile, -, accounts, haccounts, ss, -, assumptions, -, heq⟩ := hplan
    cases hfields
    cases heq
    exact fun account hmem _ => starter_balances haccounts account hmem
  settings _ _ _ _ := trivial
  accounts _ _ haccounts account hmem _ := starter_balances haccounts account hmem

theorem guests_guest (account : Account ℚ) : guests.account (ownerName none) account :=
  fun howner => absurd howner (by decide)

/-- A new user's browser, where a simulation answers whether the plan holds an account of
777 dollars. -/
def savingsWorld : World Unit ℚ Bool Bool := newBrowsers

def holdsSavings (plan : RetirementPlan ℚ) : Bool :=
  plan.accounts.any fun account => account.balance == 777

def savingsService : Service ℚ Bool Bool where
  main plan _ result := result = holdsSavings plan
  sensitivities plan _ results := results = holdsSavings plan

theorem savingsWorld_initial : savingsWorld.Initial := newBrowsers_initial

theorem savingsWorld_stores : guests.Stores savingsWorld where
  caches _ _ _ hitem := nomatch hitem
  profiles _ _ _ _ := trivial
  accounts _ account hmem _ := by
    rw [List.mem_singleton.mp hmem]
    decide +kernel

/-- No plan of the user's holds the guest's account. -/
theorem guests_savings {plan : RetirementPlan ℚ} (h : guests.Plan "user" plan) :
    holdsSavings plan = false := by
  rw [holdsSavings, List.any_eq_false]
  intro account hmem hbalance
  exact h.accounts account hmem rfl (beq_iff_eq.mp hbalance)

/-- A run whose edits are a guest's, on a page that is up, and whose answers are those of
`savingsService`. -/
def byGuest (world : World Unit ℚ Bool Bool) : Occurrence Unit ℚ Bool Bool → Bool
  | .act client event =>
    (!event.isEdit || ((world.sessions client).state.bootstrapped
      && (world.sessions client).state.authUser.isNone))
      && match event with
        | .mainDone index (.ok result) =>
          (world.sessions client).mainRuns[index]?.all fun run => result == holdsSavings run.plan
        | .sensitivityDone index (.ok results) =>
          (world.sessions client).sensitivityRuns[index]?.all fun run =>
            results == holdsSavings run.plan
        | _ => true
  | _ => true

theorem byGuest_may {world : World Unit ℚ Bool Bool} {occurrence : Occurrence Unit ℚ Bool Bool}
    (h : byGuest world occurrence = true) :
    guests.May world occurrence ∧ Answered savingsService world occurrence := by
  cases occurrence with
  | act client event =>
    simp only [byGuest, Bool.and_eq_true, Bool.or_eq_true, Bool.not_eq_true',
      Option.isNone_iff_eq_none] at h
    obtain ⟨hedit, hanswer⟩ := h
    refine ⟨⟨fun hisEdit => (hedit.resolve_left (by simp [hisEdit])).1, ?_⟩, ?_⟩
    · cases event with
      | updatePlan updates => exact fun _ _ _ => trivial
      | createAccount id data =>
        have hnone := (hedit.resolve_left (by simp [Event.isEdit])).2
        simp only [MadeBy, Makes, hnone]
        exact ⟨guests_guest _, fun _ _ _ _ _ => guests_guest _⟩
      | updateAccount id updates =>
        have hnone := (hedit.resolve_left (by simp [Event.isEdit])).2
        simp only [MadeBy, Makes, hnone]
        exact ⟨fun _ _ => guests_guest _, fun _ _ _ _ _ => guests_guest _⟩
      | _ => trivial
    · cases event with
      | mainDone index outcome =>
        cases outcome with
        | ok result =>
          intro run hrun
          simp only [hrun, Option.all_some] at hanswer
          exact beq_iff_eq.mp hanswer
        | error message => trivial
      | sensitivityDone index outcome =>
        cases outcome with
        | ok results =>
          intro run hrun
          simp only [hrun, Option.all_some] at hanswer
          exact beq_iff_eq.mp hanswer
        | error message => trivial
      | _ => trivial
  | _ => exact ⟨trivial, trivial⟩

theorem byGuest_reaches {next : World Unit ℚ Bool Bool}
    {occurrences : List (Occurrence Unit ℚ Bool Bool)}
    (h : run World.step byGuest savingsWorld occurrences = some next) :
    Reaches (Next World.step fun world occurrence => guests.May world occurrence ∧
      Answered savingsService world occurrence) savingsWorld next := by
  refine Relation.ReflTransGen.mono ?_ _ _ (reaches_of_run h)
  rintro s t ⟨occurrence, hmay, hstep⟩
  exact ⟨occurrence, byGuest_may hmay, hstep⟩

/-- The guest adds an account, and sees a main run and a sensitivity run for it. -/
def guestRuns : List (Occurrence Unit ℚ Bool Bool) :=
  [.act () (.bootstrap none false),
    .act () (.createAccount "local-1" ⟨"Savings", "", .taxable, some 777, none, none⟩),
    .act () .runMainSimulation, .act () (.mainDone 0 (.ok true)),
    .act () .runSensitivityAnalyses, .act () (.sensitivityDone 0 (.ok true))]

/-- The user's page is up, and shows the plan and the curves of the guest's account. -/
theorem guestResult_shown : ∃ (own : Ownership ℚ) (service : Service ℚ Bool Bool),
    own.Defaults ∧ savingsWorld.Initial ∧ own.Stores savingsWorld ∧
      ∃ next, Reaches (Next World.step fun world occurrence =>
          own.May world occurrence ∧ Answered service world occurrence) savingsWorld next ∧
        (next.sessions ()).state.bootstrapped = true ∧
        (next.sessions ()).state.authUser = some "user" ∧
        (∃ plan ∈ (next.sessions ()).state.simulationPlan, ¬ own.Plan "user" plan) ∧
        ∃ results ∈ (next.sessions ()).state.analysisResults,
          ∀ plan useServerSide, service.sensitivities plan useServerSide results →
            ¬ own.Plan "user" plan := by
  have hrun : ∃ next ∈ run World.step byGuest savingsWorld (guestRuns ++ signInWith ()),
      (next.sessions ()).state.bootstrapped = true ∧
        (next.sessions ()).state.authUser = some "user" ∧
        ((next.sessions ()).state.simulationPlan.any holdsSavings) = true ∧
        (next.sessions ()).state.analysisResults = some true := by decide +kernel
  obtain ⟨next, hnext, hbootstrapped, huser, hshown, hcurves⟩ := hrun
  obtain ⟨plan, hplan, hholds⟩ := (Option.any_eq_true _ _).mp hshown
  refine ⟨guests, savingsService, guests_defaults, savingsWorld_initial, savingsWorld_stores, next,
    byGuest_reaches hnext, hbootstrapped, huser, ⟨plan, hplan, fun hown => ?_⟩, true, hcurves, ?_⟩
  · exact absurd (hholds.symm.trans (guests_savings hown)) (by decide)
  · intro plan useServerSide hanswer hown
    exact absurd (hanswer.trans (guests_savings hown)) (by decide)

/-- A bootstrap ends only where the store keeps no completed run. -/
def clearsFirst (world : World Unit ℚ Bool Bool) (occurrence : Occurrence Unit ℚ Bool Bool) :
    Bool :=
  byGuest world occurrence && (!(match occurrence with
      | .act _ (.bootstrap _ _) | .deliverLoad _ | .loseLoad _ => true
      | _ => false)
    || ((world.sessions ()).state.simulationResult.isNone
      && (world.sessions ()).state.simulationPlan.isNone
      && (world.sessions ()).state.analysisResults.isNone))

theorem clearsFirst_keepsOwn {world : World Unit ℚ Bool Bool}
    {occurrence : Occurrence Unit ℚ Bool Bool} (h : clearsFirst world occurrence = true) :
    guests.May world occurrence ∧ Answered savingsService world occurrence ∧
      guests.KeepsOwn savingsService world occurrence := by
  simp only [clearsFirst, Bool.and_eq_true, Bool.or_eq_true, Option.isNone_iff_eq_none] at h
  obtain ⟨hguest, hclear⟩ := h
  obtain ⟨hmay, hanswered⟩ := byGuest_may hguest
  refine ⟨hmay, hanswered, ?_⟩
  have hkept : ((world.sessions ()).state.simulationResult = none ∧
      (world.sessions ()).state.simulationPlan = none) ∧
      (world.sessions ()).state.analysisResults = none →
        ∀ client owner, guests.Kept savingsService (world.sessions client) owner := by
    rintro ⟨⟨hresult, hplan⟩, hcurves⟩ client owner
    exact ⟨fun _ h => absurd (hresult.symm.trans h) (by simp),
      fun _ h => absurd (hplan.symm.trans h) (by simp),
      fun _ h => absurd (hcurves.symm.trans h) (by simp)⟩
  cases occurrence with
  | act client event =>
    cases event with
    | bootstrap => exact fun _ => hkept (hclear.resolve_left (by simp)) _ _
    | _ => trivial
  | deliverLoad | loseLoad => exact fun _ _ _ => hkept (hclear.resolve_left (by simp)) _ _
  | _ => trivial

/-- Both of the guest's next runs fail, which clears what the page shows, and then the user
signs in and sees runs of their own. -/
def clearedSignIn : List (Occurrence Unit ℚ Bool Bool) :=
  guestRuns ++ [.act () .runMainSimulation, .act () (.mainDone 0 (.error "offline")),
    .act () .runSensitivityAnalyses, .act () (.sensitivityDone 0 (.error "offline"))] ++
  signInWith () ++ [.act () .runMainSimulation, .act () (.mainDone 0 (.ok false)),
    .act () .runSensitivityAnalyses, .act () (.sensitivityDone 0 (.ok false))]

/-- The guest was shown runs of the guest's plan, and the user is shown the user's. -/
theorem owners_isolated_signIn :
    ∃ next ∈ run World.step clearsFirst savingsWorld clearedSignIn,
      (next.sessions ()).state.authUser = some "user" ∧
        (next.sessions ()).state.analysisResults = some false ∧ guests.Isolated next ∧
        guests.Kept savingsService (next.sessions ()) "user" := by
  have hrun : ∃ next ∈ run World.step clearsFirst savingsWorld clearedSignIn,
      (next.sessions ()).state.bootstrapped = true ∧
        (next.sessions ()).state.authUser = some "user" ∧
        (next.sessions ()).state.analysisResults = some false := by decide +kernel
  obtain ⟨next, hnext, hbootstrapped, huser, hcurves⟩ := hrun
  have hreaches : Reaches (Next World.step fun world occurrence => guests.May world occurrence ∧
      Answered savingsService world occurrence ∧
        guests.KeepsOwn savingsService world occurrence) savingsWorld next := by
    refine Relation.ReflTransGen.mono ?_ _ _ (reaches_of_run hnext)
    rintro s t ⟨occurrence, hmay, hstep⟩
    exact ⟨occurrence, clearsFirst_keepsOwn hmay, hstep⟩
  have hisolated := (owners_isolated savingsService guests_defaults savingsWorld_initial
    savingsWorld_stores).2 next hreaches
  have hkept := hisolated.2 () hbootstrapped
  rw [huser] at hkept
  exact ⟨next, hnext, huser, hcurves, hisolated.1, hkept⟩

end Ownership

end RetirementPlanner.Web
