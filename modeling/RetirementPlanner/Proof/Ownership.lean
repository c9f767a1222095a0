import RetirementPlanner.Proof.Link
import RetirementPlanner.Proof.Results

/-!
# Whose data a session holds

To each owner a set of settings and a set of accounts, whatever these are (`Ownership`).
If what an owner's stores hold at first is in the owner's set, and what is made under an
owner of data in its set is in it again, then a session keeps every cache within its
owner's set, and shows the plan of an owner, once it is bootstrapped, from that owner's
set (`handle_own`, `receive_own`). Two owners may be given sets with nothing in common, so
none of this depends on the data of another.

* `hydratePlan_parts`: what of a stored plan its settings and its accounts come from;
* `loadPlan_own`, `saveLocalPlan_own`: loading and saving stay with one owner.
-/

namespace RetirementPlanner.Web

open Schema

variable {K Result Sensitivities : Type} [Field K] [LinearOrder K] [FloorRing K]

/-! ## Settings and accounts apart -/

/-- What hydration makes of the three sources of a plan's settings. -/
def hydrateSettings (clock : Clock) (profile socialSecurity assumptions : Option (Json K)) :
    Except Issue (Settings K) := do
  let fields ← hydrateProfile clock (fieldsOf profile)
  let profile ← userProfileSchema (some (.obj fields))
  let socialSecurity ← socialSecuritySettingsSchema
    (some (.obj (Fields.spread defaultSocialSecurity (fieldsOf socialSecurity))))
  let assumptions ← projectionSettingsSchema
    (some (.obj (hydrateAssumptions (fieldsOf assumptions))))
  .ok ⟨profile, socialSecurity, assumptions⟩

theorem hydratePlan_parts {clock : Clock}
    {profile socialSecurity assumptions accounts : Option (Json K)} {plan : RetirementPlan K}
    (h : hydratePlan clock profile socialSecurity assumptions accounts = .ok plan) :
    hydrateSettings clock profile socialSecurity assumptions = .ok plan.settings ∧
      array accountSchema (some (.arr (accountItems accounts))) = .ok plan.accounts := by
  obtain ⟨fields, hfields, hplan⟩ := hydratePlan_ok.mp h
  simp only [retirementPlanSchema, bind_ok, object_ok, field_ok] at hplan
  obtain ⟨_, hobject, profile', hprofile, accounts', haccounts, ss, hss, assumptions',
    hassumptions, heq⟩ := hplan
  cases hobject
  cases heq
  refine ⟨?_, haccounts⟩
  simp only [hydrateSettings, bind_ok]
  exact ⟨fields, hfields, profile', hprofile, ss, hss, assumptions', hassumptions, rfl⟩

/-- Valid settings, written out, are hydrated to nothing else. -/
theorem hydrateSettings_self {clock : Clock} {plan : RetirementPlan K} (h : ValidSettings plan)
    {settings : Settings K}
    (hsettings : hydrateSettings clock (some (.obj (profileFields plan.profile)))
      (some (.obj (socialSecurityFields plan.socialSecurity)))
      (some (.obj (assumptionFields plan.assumptions))) = .ok settings) :
    settings = plan.settings := by
  obtain ⟨fields, hfields, hprofile⟩ := hydrateProfile_settings clock h.profile
  have hself : hydrateSettings clock (some (.obj (profileFields plan.profile)))
      (some (.obj (socialSecurityFields plan.socialSecurity)))
      (some (.obj (assumptionFields plan.assumptions))) = .ok plan.settings := by
    simp only [hydrateSettings, bind_ok]
    exact ⟨fields, hfields, plan.profile, hprofile, plan.socialSecurity,
      socialSecurity_settings h.socialSecurity, plan.assumptions,
      hydrateAssumptions_settings h.assumptions, rfl⟩
  exact Except.ok.inj (hsettings.symm.trans hself)

/-- What the server reads of a session's save is the settings of its plan. -/
theorem saveBody_settings {plan : RetirementPlan K} (hvalid : ValidSettings plan)
    {revision : Option ℤ} {data : SaveProfileData K}
    (h : saveProfileSchema (some (saveBody plan revision)) = .ok data) :
    data.profile = plan.profile ∧ data.socialSecurity = plan.socialSecurity ∧
      data.assumptions = plan.assumptions := by
  simp only [saveProfileSchema, bind_ok, field_ok] at h
  obtain ⟨fields, hfields, profile, hprofile, ss, hss, assumptions, hassumptions, revision', -,
    heq⟩ := h
  cases heq
  cases hfields
  refine ⟨?_, Except.ok.inj (hss.symm.trans hvalid.socialSecurity),
    Except.ok.inj (hassumptions.symm.trans hvalid.assumptions)⟩
  rcases union_ok.mp hprofile with hcurrent | ⟨hrefused, -⟩
  · exact Except.ok.inj (hcurrent.symm.trans hvalid.profile)
  · exact absurd hvalid.profile (hrefused _)

omit [FloorRing K] in
/-- Accounts, written out, are read back as nothing else. -/
theorem accounts_self {accounts accounts' : List (Account K)}
    (h : array accountSchema (some (.arr (accounts.map accountJson))) = .ok accounts') :
    accounts' = accounts := accountSchema_faithful.array h

/-! ## Owners -/

/-- What belongs to whom. Owners go by the names the browser stores their data under: the
id of a signed-in user, and `anonymousOwner`. -/
structure Ownership (K : Type) where
  settings : String → Settings K → Prop
  account : String → Account K → Prop

/-- The name an owner's data is stored under. -/
def ownerName (ownerId : Option String) : String := ownerId.getD anonymousOwner

namespace Ownership

variable (own : Ownership K)

structure Plan (owner : String) (plan : RetirementPlan K) : Prop where
  settings : own.settings owner plan.settings
  accounts : ∀ account ∈ plan.accounts, own.account owner account

/-- Three sources that are hydrated to an owner's settings, if to any. -/
def Sources (owner : String) (profile socialSecurity assumptions : Option (Json K)) : Prop :=
  ∀ clock settings, hydrateSettings clock profile socialSecurity assumptions = .ok settings →
    own.settings owner settings

omit [FloorRing K] in
/-- Items that are read as an owner's accounts, if as any. -/
def Items (owner : String) (items : List (Json K)) : Prop :=
  ∀ accounts, array accountSchema (some (.arr items)) = .ok accounts →
    ∀ account ∈ accounts, own.account owner account

/-- What the browser may hold for an owner. -/
def Stored (owner : String) (value : Json K) : StorageBase → Prop
  | .localProfile => ∀ fields, value = .obj fields →
    own.Sources owner (Fields.get fields "profile") (Fields.get fields "socialSecurity")
      (Fields.get fields "assumptions")
  | .localAccounts => (∀ items, value = .arr items → own.Items owner items) ∧
    ∀ fields items, value = .obj fields → Fields.get fields "accounts" = some (.arr items) →
      own.Items owner items

/-- What the browser may hold under a key. Unowned data of an older architecture is the
anonymous owner's. -/
def Under (value : Json K) : StorageKey → Prop
  | .userPreferences => True
  | .legacy base => own.Stored anonymousOwner value base
  | .owned base owner => own.Stored owner value base

def Cache (storage : Storage K) : Prop :=
  ∀ key value, storage.items key = some value → own.Under value key

/-- Everyone may have what the application starts with. -/
structure Defaults : Prop where
  plan : ∀ owner clock plan,
    retirementPlanSchema (some (defaultPlanJson clock)) = .ok plan → own.Plan owner plan
  settings : ∀ owner, own.Sources owner none none none
  accounts : ∀ owner, own.Items owner starterAccounts

/-! ## Loading -/

section Loading

variable {own} {storage : Storage K} (hcache : own.Cache storage) {ownerId : Option String}

theorem Cache.load {key : StorageKey} {value : Json K}
    (hcache : own.Cache storage) (h : storage.load key = some value) : own.Under value key := by
  rw [Storage.load] at h
  split at h
  · exact hcache key value h
  · cases h

include hcache in
theorem loadLocalProfile_own {data : LocalProfileData K}
    (h : loadLocalProfile storage ownerId = .ok (some data)) :
    own.Sources (ownerName ownerId) data.profile data.socialSecurity data.assumptions := by
  unfold loadLocalProfile at h
  split at h
  · cases h
  · rename_i fields hload
    split at h
    · cases h
    · cases h
      exact hcache.load hload fields rfl
  · cases h

include hcache in
theorem loadLocalAccountState_own {data : LocalAccountState K}
    (h : loadLocalAccountState storage ownerId = .ok (some data)) :
    ∀ account ∈ data.accounts, own.account (ownerName ownerId) account := by
  unfold loadLocalAccountState at h
  dsimp only at h
  split at h
  · cases h
  · rename_i payload hload
    have hitems := (hcache.load hload).1 payload rfl
    split at h
    · rename_i accounts haccounts
      cases h
      exact hitems accounts haccounts
    · cases h
  · rename_i fields hload
    split at h
    · rename_i payload hpayload
      have hitems := (hcache.load hload).2 fields payload rfl hpayload
      split at h
      · cases h
      · split at h
        · split at h
          · rename_i accounts haccounts
            cases h
            exact hitems accounts haccounts
          · cases h
        · split at h
          · rename_i accounts haccounts
            cases h
            exact hitems accounts haccounts
          · cases h
    · cases h
  · cases h

variable (hdefaults : own.Defaults) (bundle : Bundle K)

include hcache hdefaults in
theorem loadedFromBrowser_own {plan : RetirementPlan K}
    (h : loadedFromBrowser bundle (loadLocal storage ownerId) = .ok plan) :
    own.Plan (ownerName ownerId) plan := by
  unfold loadedFromBrowser at h
  split at h
  · cases h
  · rename_i localProfile localAccountState hlocal
    simp only [loadLocal, bind_ok] at hlocal
    obtain ⟨profile, hprofile, state, hstate, heq⟩ := hlocal
    cases heq
    split at h
    · cases h
    · rename_i plan hplan
      cases h
      rw [hydrateLocalPlan] at hplan
      split at hplan
      · exact hdefaults.plan _ _ _ hplan
      · obtain ⟨hsettings, haccounts⟩ := hydratePlan_parts hplan
        refine ⟨?_, ?_⟩
        · cases localProfile with
          | none => exact hdefaults.settings _ _ _ hsettings
          | some data => exact loadLocalProfile_own hcache hprofile _ _ hsettings
        · cases localAccountState with
          | none => exact hdefaults.accounts _ _ haccounts
          | some data =>
            rw [accounts_self haccounts]
            exact loadLocalAccountState_own hcache hstate

/-- A row that is hydrated to an owner's settings, or none. -/
def Row (own : Ownership K) (owner : String) (row : Option (ProfileSettings K)) : Prop :=
  own.Sources owner (row.map (·.profile)) (row.map (·.socialSecurity)) (row.map (·.assumptions))

omit hcache in
theorem hydrateCloudPlan_own {owner : String} {dbProfile : Option (ProfileSettings K)}
    {cloudAccounts : List (Account K)} (hrow : own.Row owner dbProfile)
    (haccounts : ∀ account ∈ cloudAccounts, own.account owner account) {plan : RetirementPlan K}
    (h : hydrateCloudPlan bundle dbProfile cloudAccounts = .ok plan) : own.Plan owner plan := by
  unfold hydrateCloudPlan at h
  split at h
  · cases h
  · split at h
    · cases h
    · rename_i hplan
      cases h
      obtain ⟨hsettings, hparsed⟩ := hydratePlan_parts hplan
      refine ⟨hrow _ _ hsettings, ?_⟩
      rw [accounts_self hparsed]
      exact haccounts

include hcache hdefaults in
/-- A bootstrap settles on the owner's own plan, wherever it finds one. -/
theorem loadPlan_own {cloud : Option (Option (ProfileSettings K) × List (Account K))}
    (hcloud : ∀ dbProfile accounts, cloud = some (dbProfile, accounts) →
      own.Row (ownerName ownerId) dbProfile ∧
        ∀ account ∈ accounts, own.account (ownerName ownerId) account) :
    own.Plan (ownerName ownerId) (loadPlan bundle cloud (loadLocal storage ownerId)).plan := by
  have hdefault := hdefaults.plan (ownerName ownerId) _ _ bundle.defaultPlan_ok
  unfold loadPlan
  split
  · rename_i dbProfile cloudAccounts
    obtain ⟨hrow, haccounts⟩ := hcloud _ _ rfl
    split
    · rename_i hplan
      exact hydrateCloudPlan_own bundle hrow haccounts hplan
    · split
      · rename_i hplan
        exact loadedFromBrowser_own hcache hdefaults bundle hplan
      · exact hdefault
  · split
    · rename_i hplan
      exact loadedFromBrowser_own hcache hdefaults bundle hplan
    · exact hdefault

end Loading

/-! ## Saving -/

section Saving

variable {own} {storage : Storage K} (hcache : own.Cache storage) {ownerId : Option String}

include hcache in
theorem Cache.setItem {key : StorageKey} {value : Json K} (hvalue : own.Under value key)
    {written : Storage K} (h : storage.setItem key value = some written) : own.Cache written := by
  unfold Storage.setItem at h
  split at h
  · cases h
    intro key' value' hitem
    by_cases hkey : key' = key
    · subst hkey
      simp only [Function.update_self, Option.some.injEq] at hitem
      exact hitem ▸ hvalue
    · simp only [Function.update_of_ne hkey] at hitem
      exact hcache key' value' hitem
  · cases h

include hcache in
theorem Cache.removeItem (key : StorageKey) : own.Cache (storage.removeItem key) := by
  intro key' value hitem
  by_cases hkey : key' = key
  · subst hkey
    simp [Storage.removeItem] at hitem
  · simp only [Storage.removeItem, Function.update_of_ne hkey] at hitem
    exact hcache key' value hitem

include hcache in
theorem Cache.save {key : StorageKey} {value : Json K} (hvalue : own.Under value key) :
    own.Cache (storage.save key value).1 := by
  unfold Storage.save
  split
  · split
    · rename_i hwrite
      exact hcache.setItem hvalue hwrite
    · exact hcache
  · exact hcache

include hcache in
theorem saveLocalProfile_own {plan : RetirementPlan K} (hvalid : ValidSettings plan)
    (hown : own.settings (ownerName ownerId) plan.settings) :
    own.Cache (saveLocalProfile storage plan ownerId).1 := by
  refine hcache.save ?_
  intro fields hfields
  cases hfields
  intro clock settings hsettings
  rw [hydrateSettings_self hvalid hsettings]
  exact hown

include hcache in
theorem saveLocalAccounts_own {accounts : List (Account K)}
    (hown : ∀ account ∈ accounts, own.account (ownerName ownerId) account)
    (origin : LocalPlanOrigin) :
    own.Cache (saveLocalAccounts storage accounts ownerId origin).1 := by
  refine hcache.save ⟨fun items hitems => (nomatch hitems), ?_⟩
  intro fields items hfields hitems
  cases hfields
  cases hitems
  intro accounts' haccounts
  rw [accounts_self haccounts]
  exact hown

include hcache in
theorem saveLocalPlan_own {plan : RetirementPlan K} (hvalid : ValidPlan plan)
    (hown : own.Plan (ownerName ownerId) plan) (origin : LocalPlanOrigin) :
    own.Cache (saveLocalPlan storage plan ownerId origin).1 :=
  saveLocalAccounts_own (saveLocalProfile_own hcache hvalid.settings hown.settings) hown.accounts
    origin

include hcache in
/-- What nobody owned goes to the anonymous owner. -/
theorem moveLegacy_own (base : StorageBase) {moved : Storage K}
    (h : moveLegacy base storage = some moved) : own.Cache moved := by
  unfold moveLegacy at h
  split at h
  · rename_i value hvalue _
    obtain ⟨written, hwritten, rfl⟩ := Option.map_eq_some_iff.mp h
    have hunder : own.Under value (ownerKey base none) := hcache (.legacy base) value hvalue
    exact (hcache.setItem hunder hwritten).removeItem _
  · cases h
    exact hcache.removeItem _

include hcache in
theorem clearLegacyLocalData_own : own.Cache (clearLegacyLocalData storage) := by
  unfold clearLegacyLocalData
  split
  · split
    · exact hcache
    · rename_i moved hmoved
      have hfirst := moveLegacy_own hcache _ hmoved
      cases hsecond : moveLegacy .localAccounts moved with
      | none => exact hfirst
      | some moved' => exact moveLegacy_own hfirst _ hsecond
  · exact hcache

end Saving

/-! ## Sessions -/

/-- A session whose caches hold what is their owners', and which, once it is bootstrapped,
holds its own owner's plan. -/
structure Holds (own : Ownership K) (session : Session K Result Sensitivities) : Prop where
  valid : ValidPlan session.state.plan
  cache : own.Cache session.storage
  online : session.state.cloudAvailable = true → session.state.bootstrapped = true
  plan : session.state.bootstrapped = true →
    own.Plan (ownerName session.state.authUser) session.state.plan

/-- The body of an owner's profile save. -/
def Body (own : Ownership K) (owner : String) (body : Json K) : Prop :=
  ∀ data, saveProfileSchema (some body) = .ok data →
    own.Sources owner (some (.obj (profileFields data.profile)))
      (some (.obj (socialSecurityFields data.socialSecurity)))
      (some (.obj (assumptionFields data.assumptions)))

/-- A call that makes an owner's accounts of an owner's accounts. -/
def Makes (own : Ownership K) (owner : String) (call : Call K) : Prop :=
  ∀ (db : Database K) newId, (∀ account ∈ db.accounts owner, own.account owner account) →
    ∀ account ∈ (db.handle owner newId call).1.accounts owner, own.account owner account

/-- What a session sends is its owner's. -/
def Sends (own : Ownership K) : Option (Request K) → Prop
  | some (.save _ ownerId body) => own.Body ownerId body
  | some (.writeAccount ownerId call) => own.Makes ownerId call
  | _ => True

/-- What is made of an owner's data under that owner is the owner's. -/
def MadeBy (own : Ownership K) (session : Session K Result Sensitivities) :
    Event K Result Sensitivities → Prop
  | .updatePlan updates => own.Plan (ownerName session.state.authUser) session.state.plan →
    ∀ plan, retirementPlanSchema (some (session.candidate updates)) = .ok plan →
      own.settings (ownerName session.state.authUser) plan.settings
  | .createAccount id data =>
    own.account (ownerName session.state.authUser) (Session.newLocalAccount id data) ∧
      own.Makes (ownerName session.state.authUser) (.createAccount (createAccountBody data))
  | .updateAccount id updates =>
    (∀ account, own.account (ownerName session.state.authUser) account →
      own.account (ownerName session.state.authUser) (account.update updates)) ∧
      own.Makes (ownerName session.state.authUser) (.updateAccount id (updateAccountBody updates))
  | _ => True

end Ownership

/-- What a page offers to its user. -/
def Event.isEdit : Event K Result Sensitivities → Bool
  | .updatePlan _ | .createAccount _ _ | .updateAccount _ _ | .deleteAccount _
  | .setCloudSyncEnabled _ => true
  | _ => false

namespace Ownership

section Sessions

variable {own : Ownership K} {session : Session K Result Sensitivities}
  (h : own.Holds session)

include h in
/-- A change that touches neither plan, owner nor caches. -/
theorem Holds.same {session' : Session K Result Sensitivities}
    (hplan : session'.state.plan = session.state.plan)
    (hstorage : session'.storage.items = session.storage.items)
    (huser : session'.state.authUser = session.state.authUser)
    (hcloud : session'.state.cloudAvailable = session.state.cloudAvailable)
    (hbootstrapped : session'.state.bootstrapped = session.state.bootstrapped) :
    own.Holds session' where
  valid := hplan ▸ h.valid
  cache := by
    intro key value hitem
    rw [hstorage] at hitem
    exact h.cache key value hitem
  online := by
    rw [hcloud, hbootstrapped]
    exact h.online
  plan := by
    rw [hbootstrapped, huser, hplan]
    exact h.plan

include h in
theorem Holds.persistPreferences : own.Holds session.persistPreferences where
  valid := h.valid
  cache := h.cache.save trivial
  online := h.online
  plan := h.plan

/-! ### Bootstraps -/

section Bootstraps

variable [IsStrictOrderedRing K] (hdefaults : own.Defaults)

include h hdefaults in
theorem finishBootstrap_own {generation : ℕ} {ownerId : Option String} {cloudRequested : Bool}
    {cloud : Option (Option (ProfileSettings K) × List (Account K))}
    (hcurrent : generation = session.bootstrapGeneration → session.state.authUser = ownerId)
    (hcloud : ∀ dbProfile accounts, cloud = some (dbProfile, accounts) →
      own.Row (ownerName ownerId) dbProfile ∧
        ∀ account ∈ accounts, own.account (ownerName ownerId) account) :
    own.Holds (session.finishBootstrap generation ownerId cloudRequested cloud) := by
  unfold Session.finishBootstrap
  split
  · exact h
  · rename_i hgeneration
    have hplan := loadPlan_own h.cache hdefaults session.bundle hcloud
    have hvalid := loadPlan_valid session.bundle cloud (loadLocal session.storage ownerId)
    have huser := hcurrent (not_not.mp hgeneration)
    refine ⟨hvalid, ?_, fun _ => rfl, fun _ => ?_⟩
    · show own.Cache (ite _ _ _ : Storage K × Bool).1
      split
      · exact h.cache
      · exact saveLocalPlan_own h.cache hvalid hplan _
    · show own.Plan (ownerName session.state.authUser) _
      rw [huser]
      exact hplan

include h in
omit [IsStrictOrderedRing K] in
theorem startBootstrap_own (authUser : Option String) (cloudAccountReady : Bool) :
    own.Holds (session.startBootstrap authUser cloudAccountReady) where
  valid := h.valid
  cache := clearLegacyLocalData_own h.cache
  online hcloud := nomatch hcloud
  plan hbootstrapped := nomatch hbootstrapped

include h hdefaults in
theorem bootstrap_own (authUser : Option String) (cloudAccountReady : Bool) :
    own.Holds (session.bootstrap authUser cloudAccountReady).1 ∧
      own.Sends (session.bootstrap authUser cloudAccountReady).2 := by
  have hstart := startBootstrap_own h authUser cloudAccountReady
  unfold Session.bootstrap
  split
  · exact ⟨hstart, trivial⟩
  · refine ⟨finishBootstrap_own hstart hdefaults (fun _ => rfl) ?_, trivial⟩
    exact fun _ _ hcloud => (nomatch hcloud)

end Bootstraps

/-! ### Saves and edits -/

theorem saveBody_own {owner : String} {plan : RetirementPlan K} (hvalid : ValidSettings plan)
    (hown : own.settings owner plan.settings) (revision : Option ℤ) :
    own.Body owner (saveBody plan revision) := by
  intro data hdata
  obtain ⟨hprofile, hss, hassumptions⟩ := saveBody_settings hvalid hdata
  rw [hprofile, hss, hassumptions]
  intro clock settings hhydrated
  rw [hydrateSettings_self hvalid hhydrated]
  exact hown

include h in
theorem flush_own : own.Holds (session.handle .flush).1 ∧
    own.Sends (session.handle (.flush : Event K Result Sensitivities)).2 := by
  simp only [Session.handle]
  split
  · unfold Session.flushProfileToDb
    split
    · rename_i ownerId huser
      split
      · rename_i hready
        simp only [Bool.and_eq_true, decide_eq_true_eq] at hready
        have hcloud : session.state.cloudAvailable = true := by
          have hmode := hready.2
          unfold PlanState.dataMode at hmode
          split at hmode
          · rename_i hcloud
            simp only [Bool.and_eq_true] at hcloud
            exact hcloud.1.2
          · cases hmode
        have hplan := h.plan (h.online hcloud)
        rw [huser] at hplan
        exact ⟨h.same rfl rfl rfl rfl rfl, saveBody_own h.valid.settings hplan.settings _⟩
      · exact ⟨h, trivial⟩
    · exact ⟨h, trivial⟩
  · exact ⟨h, trivial⟩

/-! ### Edits -/

variable [IsStrictOrderedRing K] (hbootstrapped : session.state.bootstrapped = true)

omit [IsStrictOrderedRing K] in
theorem candidate_accounts {updates : Session.PlanUpdates K} {plan : RetirementPlan K}
    (hplan : retirementPlanSchema (some (session.candidate updates)) = .ok plan) :
    plan.accounts = session.state.plan.accounts := by
  simp only [retirementPlanSchema, bind_ok, object_ok, field_ok] at hplan
  obtain ⟨fields, hfields, profile, -, accounts, haccounts, ss, -, assumptions, -, heq⟩ := hplan
  cases hfields
  cases heq
  exact accounts_self haccounts

omit [IsStrictOrderedRing K] in
theorem parseAccounts_eq {accounts accounts' : List (Account K)}
    (h : session.parseAccounts accounts = .ok accounts') : accounts' = accounts := by
  rw [Session.parseAccounts, map_ok] at h
  obtain ⟨plan, hplan, rfl⟩ := h
  simp only [retirementPlanSchema, bind_ok, object_ok, field_ok] at hplan
  obtain ⟨fields, hfields, profile, -, accounts', haccounts, ss, -, assumptions, -, heq⟩ := hplan
  cases hfields
  cases heq
  exact accounts_self haccounts

include h hbootstrapped in
theorem updatePlan_own {updates : Session.PlanUpdates K}
    (hmade : own.MadeBy session (.updatePlan updates)) :
    own.Holds (session.updatePlan updates) := by
  have hplan := h.plan hbootstrapped
  unfold Session.updatePlan
  split
  · exact h.same rfl rfl rfl rfl rfl
  · rename_i plan hparse
    have hvalid := retirementPlanSchema_valid hparse
    have hown : own.Plan (ownerName session.state.authUser) plan := by
      refine ⟨hmade hplan plan hparse, ?_⟩
      rw [candidate_accounts hparse]
      exact hplan.accounts
    refine ⟨hvalid, ?_, h.online, fun _ => hown⟩
    show own.Cache (ite _ _ _ : Storage K × Bool).1
    split
    · exact saveLocalPlan_own h.cache hvalid hown _
    · exact saveLocalProfile_own h.cache hvalid.settings hown.settings

include h hbootstrapped in
omit [IsStrictOrderedRing K] in
theorem applyLocalAccounts_own {accounts : List (Account K)} (hvalid : ValidAccounts accounts)
    (hown : ∀ account ∈ accounts, own.account (ownerName session.state.authUser) account) :
    own.Holds (session.applyLocalAccounts accounts) := by
  have hplan := h.plan hbootstrapped
  have hvalid' := h.valid.withAccounts hvalid
  have hown' : own.Plan (ownerName session.state.authUser) { session.state.plan with accounts } :=
    ⟨hplan.settings, hown⟩
  exact ⟨hvalid', saveLocalPlan_own h.cache hvalid' hown' _, h.online, fun _ => hown'⟩

include h in
omit [IsStrictOrderedRing K] in
theorem Holds.clearError : own.Holds session.clearError := h.same rfl rfl rfl rfl rfl

include h hbootstrapped in
theorem createAccount_own {id : String} {data : CreateAccountData K}
    (hmade : own.MadeBy session (.createAccount id data)) :
    own.Holds (session.createAccount id data).1 ∧ own.Sends (session.createAccount id data).2 := by
  have hplan := h.plan hbootstrapped
  unfold Session.createAccount
  split
  · exact ⟨h.same rfl rfl rfl rfl rfl, trivial⟩
  · split
    · rename_i ownerId howner
      have hmakes := hmade.2
      rw [cloudOwner_eq howner] at hmakes
      exact ⟨h.clearError, hmakes⟩
    · split
      · exact ⟨h.same rfl rfl rfl rfl rfl, trivial⟩
      · rename_i accounts hparse
        refine ⟨applyLocalAccounts_own h.clearError hbootstrapped (parseAccounts_valid hparse) ?_,
          trivial⟩
        rw [parseAccounts_eq hparse, List.forall_mem_append, List.forall_mem_singleton]
        exact ⟨hplan.accounts, hmade.1⟩

include h hbootstrapped in
theorem updateAccount_own {id : String} {updates : UpdateAccountData K}
    (hmade : own.MadeBy session (.updateAccount id updates)) :
    own.Holds (session.updateAccount id updates).1 ∧
      own.Sends (session.updateAccount id updates).2 := by
  have hplan := h.plan hbootstrapped
  unfold Session.updateAccount
  split
  · rename_i ownerId howner
    have hmakes := hmade.2
    rw [cloudOwner_eq howner] at hmakes
    exact ⟨h.clearError, hmakes⟩
  · split
    · exact ⟨h.same rfl rfl rfl rfl rfl, trivial⟩
    · rename_i accounts hparse
      refine ⟨applyLocalAccounts_own h.clearError hbootstrapped (parseAccounts_valid hparse) ?_,
        trivial⟩
      rw [parseAccounts_eq hparse]
      intro account hmem
      obtain ⟨account', hmem', rfl⟩ := List.mem_map.mp hmem
      split
      · exact hmade.1 account' (hplan.accounts account' hmem')
      · exact hplan.accounts account' hmem'

omit [IsStrictOrderedRing K] in
theorem deleteAccount_makes (owner id : String) : own.Makes owner (.deleteAccount id) := by
  intro db newId hdb account hmem
  simp only [Database.handle] at hmem
  split at hmem
  · unfold Database.deleteAccount at hmem
    split at hmem
    · simp only [Database.setAccounts, Function.update_self] at hmem
      exact hdb account (List.mem_filter.mp hmem).1
    · exact hdb account hmem
  · exact hdb account hmem

include h hbootstrapped in
omit [IsStrictOrderedRing K] in
theorem deleteAccount_own (id : String) :
    own.Holds (session.deleteAccount id).1 ∧ own.Sends (session.deleteAccount id).2 := by
  have hplan := h.plan hbootstrapped
  unfold Session.deleteAccount
  split
  · exact ⟨h.clearError, deleteAccount_makes _ id⟩
  · refine ⟨applyLocalAccounts_own h.clearError hbootstrapped (h.valid.accounts.filter _) ?_,
      trivial⟩
    intro account hmem
    exact hplan.accounts account (List.mem_filter.mp hmem).1

include h hbootstrapped in
theorem setCloudSyncEnabled_own (hdefaults : own.Defaults) (enabled : Bool) :
    own.Holds (session.setCloudSyncEnabled enabled).1 ∧
      own.Sends (session.setCloudSyncEnabled enabled).2 := by
  have hsaved : own.Cache (saveLocalPlan session.storage session.state.plan
      session.cacheOwner .user).1 :=
    saveLocalPlan_own h.cache h.valid (h.plan hbootstrapped) _
  unfold Session.setCloudSyncEnabled
  split
  · exact ⟨h, trivial⟩
  · split
    · have hon : own.Holds { session with
          state := { session.state with cloudSyncEnabled := true } } := h.same rfl rfl rfl rfl rfl
      exact bootstrap_own hon.persistPreferences hdefaults _ _
    · dsimp only
      split
      · have hoff : own.Holds { session with
            storage := (saveLocalPlan session.storage session.state.plan
              session.cacheOwner .user).1
            state := { session.state with cloudSyncEnabled := false } } :=
          ⟨h.valid, hsaved, h.online, h.plan⟩
        exact bootstrap_own hoff.persistPreferences hdefaults _ _
      · have hfull : own.Holds { session with
            storage := (saveLocalPlan session.storage session.state.plan
              session.cacheOwner .user).1
            state := { session.state with
              cloudSyncEnabled := false
              localPlanOrigin := .user
              localPersistenceAvailable := false
              error := some .localPersistence } } :=
          ⟨h.valid, hsaved, h.online, h.plan⟩
        exact ⟨hfull.persistPreferences, trivial⟩

/-! ### Events and answers -/

include h in
/-- What an event of the loop does with what is whose. -/
theorem handle_own (hdefaults : own.Defaults) {event : Event K Result Sensitivities}
    (hgate : event.isEdit = true → session.state.bootstrapped = true)
    (hmade : own.MadeBy session event) :
    own.Holds (session.handle event).1 ∧ own.Sends (session.handle event).2 := by
  cases event with
  | bootstrap authUser cloudAccountReady => exact bootstrap_own h hdefaults _ _
  | updatePlan updates => exact ⟨updatePlan_own h (hgate rfl) hmade, trivial⟩
  | flush => exact flush_own h
  | createAccount id data => exact createAccount_own h (hgate rfl) hmade
  | updateAccount id updates => exact updateAccount_own h (hgate rfl) hmade
  | deleteAccount id => exact deleteAccount_own h (hgate rfl) id
  | setCloudSyncEnabled enabled => exact setCloudSyncEnabled_own h (hgate rfl) hdefaults enabled
  | setUseServerSideCalculations useServerSide =>
    have hset : own.Holds (Session.invalidateResults { session with
        state := { session.state with useServerSideCalculations := useServerSide } }) :=
      h.same rfl rfl rfl rfl rfl
    exact ⟨hset.persistPreferences, trivial⟩
  | simulationTimeout =>
    simp only [Session.handle, Session.simulationTimeout]
    split
    · split
      · exact ⟨h.same rfl rfl rfl rfl rfl, trivial⟩
      · exact ⟨h.same rfl rfl rfl rfl rfl, trivial⟩
    · exact ⟨h, trivial⟩
  | runSensitivityAnalyses =>
    simp only [Session.handle, Session.runSensitivityAnalyses]
    split
    · exact ⟨h, trivial⟩
    · split
      · exact ⟨h, trivial⟩
      · exact ⟨h.same rfl rfl rfl rfl rfl, trivial⟩
  | mainDone index outcome =>
    simp only [Session.handle]
    split
    · exact ⟨h, trivial⟩
    · cases outcome <;> simp only [Session.mainSucceeded, Session.mainFailed] <;> split_ifs <;>
        exact ⟨h.same rfl rfl rfl rfl rfl, trivial⟩
  | sensitivityDone index outcome =>
    simp only [Session.handle]
    split
    · exact ⟨h, trivial⟩
    · cases outcome <;> simp only [Session.sensitivitySucceeded, Session.sensitivityFailed] <;>
        split_ifs <;> exact ⟨h.same rfl rfl rfl rfl rfl, trivial⟩
  | clearError | runMainSimulation | storageChanged =>
    exact ⟨h.same rfl rfl rfl rfl rfl, trivial⟩

/-- An answer that brings an owner's data to the session of that owner. -/
def Brings (own : Ownership K) (session : Session K Result Sensitivities) : Answer K → Prop
  | .loaded generation ownerId dbProfile items =>
    (generation = session.bootstrapGeneration → session.state.authUser = some ownerId) ∧
      own.Row ownerId dbProfile ∧ own.Items ownerId items
  | .loadFailed generation ownerId =>
    generation = session.bootstrapGeneration → session.state.authUser = some ownerId
  | .accountsListed ownerId items => own.Items ownerId items
  | _ => True

include h in
omit [IsStrictOrderedRing K] in
theorem accountFailed_own (ownerId message : String) :
    own.Holds (session.accountFailed ownerId message) := by
  unfold Session.accountFailed
  split
  · exact h.same rfl rfl rfl rfl rfl
  · exact h

include h in
omit [IsStrictOrderedRing K] in
theorem accountsListed_own {ownerId : String} {accounts : List (Account K)}
    (hvalid : ValidAccounts accounts) (hown : ∀ account ∈ accounts, own.account ownerId account) :
    own.Holds (session.accountsListed ownerId accounts) := by
  unfold Session.accountsListed
  split
  · rename_i huser
    have hname : ownerName session.state.authUser = ownerId := by
      rw [huser]
      rfl
    rw [← hname] at hown
    refine ⟨h.valid.withAccounts hvalid, saveLocalAccounts_own h.cache hown _, h.online,
      fun hbootstrapped => ⟨(h.plan hbootstrapped).settings, hown⟩⟩
  · exact h

include h in
/-- What an answer does with what is whose. -/
theorem receive_own (hdefaults : own.Defaults) {answer : Answer K}
    (hbrings : own.Brings session answer) : own.Holds (session.receive answer).1 := by
  cases answer with
  | loaded generation ownerId dbProfile items =>
    obtain ⟨hcurrent, hrow, hitems⟩ := hbrings
    simp only [Session.receive]
    split
    · rename_i accounts haccounts
      refine finishBootstrap_own h hdefaults hcurrent fun dbProfile' accounts' hcloud => ?_
      cases hcloud
      exact ⟨hrow, hitems accounts haccounts⟩
    · exact finishBootstrap_own h hdefaults hcurrent fun _ _ hcloud => by cases hcloud
  | loadFailed generation ownerId =>
    exact finishBootstrap_own h hdefaults hbrings fun _ _ hcloud => by cases hcloud
  | saved generation ownerId response =>
    simp only [Session.receive, Session.flushSucceeded, Session.flushConflicted,
      Session.flushFailed]
    split <;> split <;> exact h.same rfl rfl rfl rfl rfl
  | saveFailed generation ownerId =>
    simp only [Session.receive, Session.flushFailed]
    split <;> exact h.same rfl rfl rfl rfl rfl
  | accountWritten ownerId call response =>
    simp only [Session.receive]
    split
    · split
      · exact h
      · exact accountFailed_own h _ _
    · exact h
    · exact accountFailed_own h _ _
  | accountsListed ownerId items =>
    simp only [Session.receive]
    split
    · rename_i accounts haccounts
      exact accountsListed_own h (parseCloudAccounts_valid haccounts) (hbrings accounts haccounts)
    · exact accountFailed_own h _ _
  | accountFailed ownerId message => exact accountFailed_own h _ _

end Sessions

end Ownership

end RetirementPlanner.Web
