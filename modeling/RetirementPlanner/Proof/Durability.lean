import RetirementPlanner.Lib.InFlight
import RetirementPlanner.Lib.Runs
import RetirementPlanner.Proof.Ownership
import RetirementPlanner.Proof.ProfileSync

/-!
# Edits and crashes

In cloud mode an edit goes into the browser's cache at once and to the server with the
next save. A bootstrap whose cloud reads succeed takes over what the server has, and
writes that into the cache: an edit that a crash kept from the server is lost
(`unsavedEdit_lost`). It survives where the server has committed it by the time the
bootstrap reads the profile (`edits_survive`).
-/

namespace RetirementPlanner.Web

open Schema Runs InFlight

variable {ι K Result Sensitivities : Type} [DecidableEq ι] [Field K] [LinearOrder K]
  [FloorRing K]

/-! ## What a history keeps -/

section Histories

variable {K : Type} [DecidableEq K]

/-- Whether settings include every edit that the cache has taken since the last load: they
are those of the newest one that it took, or of a later one. -/
def includesCached (settings : Settings K) : List (Observation ι K) → Bool
  | [] => true
  | .edited _ _ edit cached :: earlier =>
    edit = settings || (!cached && includesCached settings earlier)
  | .loaded _ _ _ _ :: _ => true
  | _ :: earlier => includesCached settings earlier

/-- Whether the cache has taken an edit since the last load. -/
def cachedSince : List (Observation ι K) → Bool
  | [] => false
  | .edited _ _ _ cached :: earlier => cached || cachedSince earlier
  | .loaded _ _ _ _ :: _ => false
  | _ :: earlier => cachedSince earlier

/-- The settings that the server has committed last. -/
def lastCommitted : List (Observation ι K) → Option (Settings K)
  | [] => none
  | .committed _ _ _ _ settings :: _ => some settings
  | _ :: earlier => lastCommitted earlier

/-- Whether the server has committed every edit that the cache has taken since the last
load. -/
def savedCached (history : List (Observation ι K)) : Bool :=
  match lastCommitted history with
  | some settings => includesCached settings history
  | none => !cachedSince history

/-- Whatever a bootstrap has loaded included every edit that the cache had taken before. -/
def losesNothing : List (Observation ι K) → Bool
  | [] => true
  | .loaded _ _ _ settings :: earlier => includesCached settings earlier && losesNothing earlier
  | _ :: earlier => losesNothing earlier

omit [DecidableEq ι] in
theorem includesCached_of_not {history : List (Observation ι K)} (h : cachedSince history = false)
    (settings : Settings K) : includesCached settings history = true := by
  induction history with
  | nil => rfl
  | cons seen earlier ih =>
    cases seen with
    | edited client ownerId edit cached =>
      simp only [cachedSince, Bool.or_eq_false_iff] at h
      simp [includesCached, h.1, ih h.2]
    | loaded => rfl
    | _ => exact ih h

/-- An observation that is of no edit, commit or load. -/
def Observation.isQuiet : Observation ι K → Bool
  | .saveSent _ _ _ | .refused _ _ _ | .loadFailed _ | .conflicted _ _ => true
  | _ => false

omit [DecidableEq ι] in
theorem quiet_append {seens : List (Observation ι K)} (history : List (Observation ι K))
    (h : ∀ seen ∈ seens, seen.isQuiet = true) :
    (∀ settings, includesCached settings (seens ++ history) = includesCached settings history) ∧
      lastCommitted (seens ++ history) = lastCommitted history ∧
      losesNothing (seens ++ history) = losesNothing history := by
  induction seens with
  | nil => exact ⟨fun _ => rfl, rfl, rfl⟩
  | cons seen seens ih =>
    obtain ⟨hseen, hseens⟩ := List.forall_mem_cons.mp h
    cases seen with
    | edited | committed | loaded => cases hseen
    | _ => exact ih hseens

end Histories

/-! ## Runs with crashes -/

/-- One signed-in client edits, saves, crashes and loads, and its cloud reads succeed. -/
def crashes (client : ι) (owner : String) (world : World ι K Result Sensitivities) :
    Occurrence ι K Result Sensitivities → Bool
  | .act c (.updatePlan _) => decide (c = client) && (world.sessions client).state.bootstrapped
  | .act c .flush | .act c (.storageChanged _ _) | .reload c _ => decide (c = client)
  | .act c (.bootstrap authUser cloudAccountReady) =>
    decide (c = client) && authUser == some owner && cloudAccountReady
  | .executeSave _ | .deliverSave _ | .loseSave _ | .readProfile _ | .readAccounts _
  | .deliverLoad _ => true
  | _ => false

/-- When a bootstrap reads the profile, the server has committed every edit that the cache
has taken. -/
def savedFirst (world : World ι K Result Sensitivities) :
    Occurrence ι K Result Sensitivities → Bool
  | .readProfile index => (world.loads[index]?).all fun load =>
    load.generation != (world.sessions load.client).bootstrapGeneration
      || savedCached world.history
  | _ => true

/-! ## The invariant -/

/-- What can be hydrated from a row. -/
def RowReads (row : Option (ProfileSettings K)) (P : Settings K → Prop) : Prop :=
  ∀ clock settings, hydrateSettings clock (row.map (·.profile)) (row.map (·.socialSecurity))
    (row.map (·.assumptions)) = .ok settings → P settings

structure DurableInv (client : ι) (owner : String) (world : World ι K Result Sensitivities) :
    Prop where
  user : ∀ u, (world.sessions client).state.authUser = some u → u = owner
  saves : ∀ save ∈ world.saves, save.client = client ∧ save.ownerId = owner ∧
    ∃ plan revision, ValidSettings plan ∧ save.body = saveBody plan revision
  /-- The row holds what was committed last. -/
  row : ∀ settings, lastCommitted world.history = some settings →
    RowReads (world.database.userProfiles owner) (· = settings)
  loads : ∀ load ∈ world.loads, load.client = client ∧ load.ownerId = owner
  /-- While a bootstrap loads, the page is not up, and what it has read is all there is. -/
  reading : ∀ load ∈ world.loads,
    load.generation = (world.sessions client).bootstrapGeneration →
      (world.sessions client).state.bootstrapped = false ∧
      ∀ row, load.dbProfile = some row →
        RowReads row fun settings => includesCached settings world.history = true
  durable : losesNothing world.history = true

namespace DurableInv

variable {client : ι} {owner : String} {world next : World ι K Result Sensitivities}

/-- The session moves on. -/
theorem put (h : DurableInv client owner world)
    {moved : Session K Result Sensitivities × Option (Request K)}
    {seens : List (Observation ι K)}
    (huser : ∀ u, moved.1.state.authUser = some u → u = owner)
    (hsaves : ∀ save ∈ newSaves client moved.2, save.client = client ∧ save.ownerId = owner ∧
      ∃ plan revision, ValidSettings plan ∧ save.body = saveBody plan revision)
    (hloads : ∀ load ∈ newLoads client moved.2, load.client = client ∧ load.ownerId = owner)
    (hreading : ∀ load ∈ newLoads client moved.2 ++ world.loads,
      load.generation = moved.1.bootstrapGeneration → moved.1.state.bootstrapped = false ∧
        ∀ row, load.dbProfile = some row →
          RowReads row fun settings => includesCached settings (seens ++ world.history) = true)
    (hcommitted : lastCommitted (seens ++ world.history) = lastCommitted world.history)
    (hdurable : losesNothing (seens ++ world.history) = true) :
    DurableInv client owner (world.put client moved seens) where
  user u hu := huser u (by simpa [World.put] using hu)
  saves := List.forall_mem_append.mpr ⟨hsaves, h.saves⟩
  row settings hsettings := h.row settings (hcommitted.symm.trans hsettings)
  loads := List.forall_mem_append.mpr ⟨hloads, h.loads⟩
  reading load hload hcurrent := by
    have hsession : (world.put client moved seens).sessions client = moved.1 :=
      Function.update_self ..
    rw [hsession] at hcurrent ⊢
    exact hreading load hload hcurrent
  durable := hdurable

/-! ## Events -/

variable {initial : String → Option ℤ}

theorem edit (h : DurableInv client owner world)
    (hgate : (world.sessions client).state.bootstrapped = true) (updates : Session.PlanUpdates K) :
    DurableInv client owner (world.put client
      ((world.sessions client).handle (.updatePlan updates))
      (World.observeEvent client (world.sessions client) (.updatePlan updates))) := by
  -- No bootstrap is loading while the page is up.
  have hidle : ∀ load ∈ world.loads,
      load.generation ≠ (world.sessions client).bootstrapGeneration := by
    intro load hload hcurrent
    exact absurd (hgate.symm.trans (h.reading load hload hcurrent).1) (by decide)
  cases hparse : retirementPlanSchema (some ((world.sessions client).candidate updates)) with
  | error issue =>
    simp only [Session.handle, Session.updatePlan, World.observeEvent, hparse]
    exact h.put h.user (by simp [newSaves]) (by simp [newLoads])
      (fun load hload hcurrent => absurd hcurrent (hidle load hload)) rfl h.durable
  | ok plan =>
    simp only [Session.handle, Session.updatePlan, World.observeEvent, hparse]
    exact h.put h.user (by simp [newSaves]) (by simp [newLoads])
      (fun load hload hcurrent => absurd hcurrent (hidle load hload)) rfl h.durable

theorem flush (h : DurableInv client owner world)
    (hplan : ValidPlan (world.sessions client).state.plan) :
    DurableInv client owner (world.put client
      ((world.sessions client).handle .flush)
      (World.observeEvent client (world.sessions client) .flush)) := by
  have hstays : DurableInv client owner (world.put client (world.sessions client, none) []) :=
    h.put h.user (by simp [newSaves]) (by simp [newLoads]) h.reading rfl h.durable
  simp only [World.observeEvent, Session.handle]
  split
  · unfold Session.flushProfileToDb
    split
    · rename_i ownerId huser
      split
      · refine h.put h.user (fun save hsave => ?_) (by simp [newLoads]) h.reading rfl h.durable
        rw [List.mem_singleton.mp hsave]
        exact ⟨rfl, h.user ownerId huser, _, _, hplan.settings, rfl⟩
      · exact hstays
    · exact hstays
  · exact hstays

theorem storageChanged (h : DurableInv client owner world) (available : Bool)
    (fits : StorageKey → Bool) :
    DurableInv client owner (world.put client
      ((world.sessions client).handle (.storageChanged available fits))
      (World.observeEvent client (world.sessions client) (.storageChanged available fits))) :=
  h.put h.user (by simp [newSaves, Session.handle]) (by simp [newLoads, Session.handle]) h.reading
    rfl h.durable

theorem bootstrap (h : DurableInv client owner world) (hprofile : ProfileInv initial world)
    (cloudAccountReady : Bool) :
    DurableInv client owner (world.put client
      ((world.sessions client).handle (.bootstrap (some owner) cloudAccountReady))
      (World.observeEvent client (world.sessions client)
        (.bootstrap (some owner) cloudAccountReady))) := by
  -- Loads of earlier bootstraps are overtaken.
  have hstale : ∀ load ∈ world.loads,
      load.generation ≠ (world.sessions client).bootstrapGeneration + 1 := by
    intro load hload hcurrent
    have hle : load.generation ≤ (world.sessions client).bootstrapGeneration :=
      ((hprofile.clients client).reads load hload (h.loads load hload).1).1
    omega
  simp only [World.observeEvent, Session.handle, Session.bootstrap]
  split
  · rename_i ownerId hrequest
    have howner : ownerId = owner := by
      unfold Session.cloudRequest at hrequest
      split at hrequest
      · exact (Option.some.inj hrequest).symm
      · cases hrequest
    subst howner
    refine h.put (fun u hu => (Option.some.inj hu).symm) (by simp [newSaves]) ?_ ?_ rfl h.durable
    · intro load hload
      rw [List.mem_singleton.mp hload]
      exact ⟨rfl, rfl⟩
    · intro load hload hcurrent
      obtain rfl | hload := List.mem_cons.mp hload
      · exact ⟨rfl, fun row hrow => by cases hrow⟩
      · exact absurd hcurrent (hstale load hload)
  · have hended : (((world.sessions client).startBootstrap (some owner)
        cloudAccountReady).finishBootstrap ((world.sessions client).bootstrapGeneration + 1)
          (some owner) false none).state.authUser = some owner := by
      unfold Session.finishBootstrap
      split <;> rfl
    have hgeneration : (((world.sessions client).startBootstrap (some owner)
        cloudAccountReady).finishBootstrap ((world.sessions client).bootstrapGeneration + 1)
          (some owner) false none).bootstrapGeneration
            = (world.sessions client).bootstrapGeneration + 1 := by
      unfold Session.finishBootstrap
      split <;> rfl
    refine h.put (fun u hu => (Option.some.inj (hended.symm.trans hu)).symm) (by simp [newSaves])
      (by simp [newLoads]) (fun load hload hcurrent => ?_) rfl h.durable
    rw [hgeneration] at hcurrent
    exact absurd hcurrent (hstale load hload)

theorem reload (h : DurableInv client owner world) (bundle : Bundle K) :
    DurableInv client owner (world.reload client bundle) := by
  have hnone : ∀ load ∈ (world.reload client bundle).loads, False := by
    intro load hload
    obtain ⟨hload, hother⟩ := List.mem_filter.mp hload
    exact of_decide_eq_true hother (h.loads load hload).1
  refine ⟨fun u hu => ?_, fun save hsave => ?_, h.row, fun load hload => (hnone load hload).elim,
    fun load hload => (hnone load hload).elim, h.durable⟩
  · simp [World.reload, Session.start] at hu
  · obtain ⟨old, hold, rfl⟩ := List.mem_map.mp hsave
    have hold := h.saves old hold
    split
    · exact hold
    · exact hold

/-! ## Saves -/

omit [DecidableEq ι] [LinearOrder K] [FloorRing K] in
/-- The server writes the settings of a save into the owner's row. -/
theorem saveUserProfile_row {db db' : Database K} {userId : String} {data : SaveProfileData K}
    {revision : ℤ} (h : db.saveUserProfile userId data = some (db', revision)) :
    ∃ row : ProfileSettings K, db'.userProfiles userId = some row ∧
      row.profile = .obj (profileFields data.profile) ∧
      row.socialSecurity = .obj (socialSecurityFields data.socialSecurity) ∧
      row.assumptions = .obj (assumptionFields data.assumptions) := by
  unfold Database.saveUserProfile at h
  dsimp only at h
  split at h
  · cases h
    exact ⟨_, Function.update_self .., rfl, rfl, rfl⟩
  · split at h
    · cases h
      exact ⟨_, Function.update_self .., rfl, rfl, rfl⟩
    · cases h
  · cases h

omit [DecidableEq ι] in
theorem executeSave (h : DurableInv client owner world) {index : ℕ}
    (hstep : world.executeSave index = some next) : DurableInv client owner next := by
  obtain ⟨save, hsave, -, rfl⟩ := World.executeSave_some hstep
  obtain ⟨hclient, howner, plan, revision, hvalid, hbody⟩ :=
    h.saves save (List.mem_of_getElem? hsave)
  have hsaves : ∀ answer, ∀ other ∈ world.saves.set index { save with answer },
      other.client = client ∧ other.ownerId = owner ∧
        ∃ plan revision, ValidSettings plan ∧ other.body = saveBody plan revision := by
    intro answer other hother
    obtain hother | rfl := List.mem_or_eq_of_mem_set hother
    · exact h.saves other hother
    · exact ⟨hclient, howner, plan, revision, hvalid, hbody⟩
  simp only [Database.handle, World.observeSave]
  cases hdata : saveProfileSchema (some save.body) with
  | error issue => exact ⟨h.user, hsaves _, h.row, h.loads, h.reading, h.durable⟩
  | ok data =>
    cases hwrite : world.database.saveUserProfile save.ownerId data with
    | none =>
      simp only [hwrite]
      exact ⟨h.user, hsaves _, h.row, h.loads, h.reading, h.durable⟩
    | some written =>
      obtain ⟨db, revision'⟩ := written
      simp only [hwrite]
      rw [hbody] at hdata
      obtain ⟨hprofile, hss, hassumptions⟩ := saveBody_settings hvalid hdata
      obtain ⟨row, hrow, hrowProfile, hrowSS, hrowAssumptions⟩ := saveUserProfile_row hwrite
      refine ⟨h.user, hsaves _, fun settings hsettings => ?_, h.loads, h.reading, h.durable⟩
      have hsettings : plan.settings = settings := by
        simp only [List.cons_append, List.nil_append, lastCommitted, hprofile, hss,
          hassumptions] at hsettings
        exact Option.some.inj hsettings
      rw [howner] at hrow
      intro clock settings' hhydrated
      simp only [hrow, Option.map_some, hrowProfile, hrowSS, hrowAssumptions, hprofile, hss,
        hassumptions] at hhydrated
      exact (hydrateSettings_self hvalid hhydrated).trans hsettings

/-- The session learns what became of a save. -/
theorem settle (h : DurableInv client owner world) {answer : Answer K}
    {seens : List (Observation ι K)} (hseens : ∀ seen ∈ seens, seen.isQuiet = true)
    (hanswer : answer.endsBootstrap = false) :
    DurableInv client owner (world.deliver client answer seens) := by
  obtain ⟨huser, hshown, hgeneration⟩ := receive_owner (world.sessions client) hanswer
  obtain ⟨hsaves, hloads, -⟩ := receive_sends (world.sessions client) client answer
  obtain ⟨hincludes, hcommitted, hdurable⟩ := quiet_append world.history hseens
  refine h.put (fun u hu => h.user u (huser.symm.trans hu)) (by simp [hsaves]) (by simp [hloads])
    (fun load hload hcurrent => ?_) hcommitted (hdurable.trans h.durable)
  rw [hloads] at hload
  rw [hgeneration] at hcurrent
  rw [hshown]
  simp only [hincludes]
  exact h.reading load hload hcurrent

omit [DecidableEq ι] in
theorem observeSaved_quiet (session : Session K Result Sensitivities) (generation : ℕ)
    (ownerId : String) (response : Response K) :
    ∀ seen ∈ World.observeSaved client session generation ownerId response,
      seen.isQuiet = true := by
  unfold World.observeSaved
  split
  · split
    · simp [Observation.isQuiet]
    · simp
  · simp

theorem deliverSave (h : DurableInv client owner world) {index : ℕ}
    (hstep : world.deliverSave index = some next) : DurableInv client owner next := by
  obtain ⟨save, response, hsave, -, -, rfl⟩ := World.deliverSave_some hstep
  obtain ⟨rfl, -, -⟩ := h.saves save (List.mem_of_getElem? hsave)
  have hdrop : DurableInv save.client owner { world with saves := world.saves.eraseIdx index } :=
    ⟨h.user, fun other hother => h.saves other (List.mem_of_mem_eraseIdx hother), h.row, h.loads,
      h.reading, h.durable⟩
  exact hdrop.settle (observeSaved_quiet _ _ _ _) rfl

theorem loseSave (h : DurableInv client owner world) {index : ℕ}
    (hstep : world.loseSave index = some next) : DurableInv client owner next := by
  obtain ⟨save, hsave, -, rfl⟩ := World.loseSave_some hstep
  have hmem := List.mem_of_getElem? hsave
  obtain ⟨rfl, -, -⟩ := h.saves save hmem
  have hlost : DurableInv save.client owner
      { world with saves := world.saves.set index { save with waiting := false } } := by
    refine ⟨h.user, fun other hother => ?_, h.row, h.loads, h.reading, h.durable⟩
    obtain hother | rfl := List.mem_or_eq_of_mem_set hother
    · exact h.saves other hother
    · exact h.saves save hmem
  exact hlost.settle (by simp) rfl

/-! ## Bootstraps -/

omit [DecidableEq ι] in
/-- What a bootstrap reads of the profile once the server has committed every edit that the
cache has taken. -/
theorem row_includes (h : DurableInv client owner world)
    (hsaved : savedCached world.history = true) :
    RowReads (world.database.userProfiles owner)
      fun settings => includesCached settings world.history = true := by
  intro clock settings hsettings
  unfold savedCached at hsaved
  cases hcommitted : lastCommitted world.history with
  | some committed =>
    rw [hcommitted] at hsaved
    rw [h.row committed hcommitted clock settings hsettings]
    exact hsaved
  | none =>
    rw [hcommitted] at hsaved
    exact includesCached_of_not (by simpa using hsaved) settings

omit [DecidableEq ι] in
theorem readProfile (h : DurableInv client owner world) {index : ℕ}
    (hsaved : savedFirst world (.readProfile index) = true)
    (hstep : world.readProfile index = some next) : DurableInv client owner next := by
  obtain ⟨load, hload, rfl⟩ := World.readProfile_some hstep
  have hmem := List.mem_of_getElem? hload
  obtain ⟨hclient, howner⟩ := h.loads load hmem
  refine ⟨h.user, h.saves, h.row, fun other hother => ?_, fun other hother hcurrent => ?_,
    h.durable⟩
  · obtain hother | rfl := List.mem_or_eq_of_mem_set hother
    · exact h.loads other hother
    · exact ⟨hclient, howner⟩
  · obtain hother | rfl := List.mem_or_eq_of_mem_set hother
    · exact h.reading other hother hcurrent
    · refine ⟨(h.reading load hmem hcurrent).1, fun row hrow => ?_⟩
      cases hrow
      rw [howner]
      refine h.row_includes ?_
      have hgeneration : load.generation
          = (world.sessions load.client).bootstrapGeneration := by
        rw [hclient]
        exact hcurrent
      simpa [savedFirst, hload, hgeneration] using hsaved

omit [DecidableEq ι] in
theorem readAccounts (h : DurableInv client owner world) {index : ℕ}
    (hstep : world.readAccounts index = some next) : DurableInv client owner next := by
  obtain ⟨load, hload, rfl⟩ := World.readAccounts_some hstep
  have hmem := List.mem_of_getElem? hload
  refine ⟨h.user, h.saves, h.row, fun other hother => ?_, fun other hother hcurrent => ?_,
    h.durable⟩
  · obtain hother | rfl := List.mem_or_eq_of_mem_set hother
    · exact h.loads other hother
    · exact h.loads load hmem
  · obtain hother | rfl := List.mem_or_eq_of_mem_set hother
    · exact h.reading other hother hcurrent
    · exact h.reading load hmem hcurrent

/-- At most one load of a client is current. -/
theorem current_single (hprofile : ProfileInv initial world) {index : ℕ} {load : Load ι K}
    (hload : world.loads[index]? = some load)
    (hcurrent : load.generation = (world.sessions load.client).bootstrapGeneration) :
    ∀ other ∈ world.loads.eraseIdx index, other.client = load.client →
      other.generation ≠ (world.sessions load.client).bootstrapGeneration := by
  obtain ⟨before, after, hsplit, -, herase⟩ := split hload
  have hone := (hprofile.clients load.client).current
  have hpos : Load.isCurrent load.client (world.sessions load.client).link.bootstrapGeneration load
      = true := by
    simp [Load.isCurrent, hcurrent, Session.link]
  rw [hsplit, List.countP_append, List.countP_cons_of_pos hpos] at hone
  have hnone : (before ++ after).countP (Load.isCurrent load.client
      (world.sessions load.client).link.bootstrapGeneration) = 0 := by
    rw [List.countP_append]
    omega
  intro other hother hclient hgeneration
  rw [herase] at hother
  refine List.countP_eq_zero.mp hnone other hother ?_
  simp [Load.isCurrent, hclient, hgeneration, Session.link]

/-- A bootstrap that takes over the cloud's plan takes over what its row can be read as. -/
theorem loadPlan_reads {bundle : Bundle K} {dbProfile : Option (ProfileSettings K)}
    {cloud : Option (Option (ProfileSettings K) × List (Account K))}
    (hcloud : ∀ read, cloud = some read → dbProfile = read.1)
    {browser : Except String (Option (LocalProfileData K) × Option (LocalAccountState K))}
    (havailable : (loadPlan bundle cloud browser).cloudAvailable = true)
    {P : Settings K → Prop} (hreads : RowReads dbProfile P) :
    P (loadPlan bundle cloud browser).plan.settings := by
  obtain ⟨⟨row, accounts⟩, rfl⟩ := loadPlan_cloudAvailable havailable
  obtain rfl := hcloud _ rfl
  unfold loadPlan at havailable ⊢
  cases hplan : hydrateCloudPlan bundle dbProfile accounts with
  | ok plan =>
    simp only [hplan]
    unfold hydrateCloudPlan at hplan
    split at hplan
    · cases hplan
    · split at hplan
      · cases hplan
      · rename_i hhydrated
        cases hplan
        exact hreads _ _ (hydratePlan_parts hhydrated).1
  | error cause =>
    simp only [hplan] at havailable
    split at havailable <;> cases havailable

omit [DecidableEq ι] in
theorem finishBootstrap_current (session : Session K Result Sensitivities)
    (ownerId : Option String) (cloudRequested : Bool)
    (cloud : Option (Option (ProfileSettings K) × List (Account K))) :
    let loaded := loadPlan session.bundle cloud (loadLocal session.storage ownerId)
    let ended := session.finishBootstrap session.bootstrapGeneration ownerId cloudRequested cloud
    ended.state.plan = loaded.plan ∧ ended.state.cloudAvailable = loaded.cloudAvailable ∧
      ended.state.authUser = session.state.authUser ∧
      ended.bootstrapGeneration = session.bootstrapGeneration := by
  unfold Session.finishBootstrap
  rw [if_neg (not_not.mpr rfl)]
  exact ⟨rfl, rfl, rfl, rfl⟩

theorem deliverLoad (h : DurableInv client owner world) (hprofile : ProfileInv initial world)
    {index : ℕ} (hstep : world.deliverLoad index = some next) :
    DurableInv client owner next := by
  obtain ⟨load, dbProfile, items, hload, hread, -, rfl⟩ := World.deliverLoad_some hstep
  have hmem := List.mem_of_getElem? hload
  obtain ⟨rfl, rfl⟩ := h.loads load hmem
  have hdrop : DurableInv load.client load.ownerId
      { world with loads := world.loads.eraseIdx index } :=
    ⟨h.user, h.saves, h.row, fun other hother => h.loads other (List.mem_of_mem_eraseIdx hother),
      fun other hother => h.reading other (List.mem_of_mem_eraseIdx hother), h.durable⟩
  obtain ⟨cloud, hcloud, hreceive⟩ := receiveLoaded (world.sessions load.client) load.generation
    load.ownerId dbProfile items
  simp only [World.endLoad, World.deliver, World.observeLoad, hreceive]
  by_cases hgeneration : load.generation = (world.sessions load.client).bootstrapGeneration
  · have hothers := current_single hprofile hload hgeneration
    obtain ⟨hplan, havailable, huser, hsame⟩ := finishBootstrap_current
      (world.sessions load.client) (some load.ownerId) true cloud
    rw [← hgeneration] at hplan havailable huser hsame
    have hreading : ∀ seens : List (Observation ι K), ∀ other ∈ world.loads.eraseIdx index,
        other.generation = ((world.sessions load.client).finishBootstrap load.generation
          (some load.ownerId) true cloud).bootstrapGeneration → ((world.sessions
            load.client).finishBootstrap load.generation (some load.ownerId) true
              cloud).state.bootstrapped = false ∧
          ∀ row, other.dbProfile = some row → RowReads row fun settings =>
            includesCached settings (seens ++ world.history) = true := by
      intro seens other hother hcurrent
      have hclient := (h.loads other (List.mem_of_mem_eraseIdx hother)).1
      exact absurd (hcurrent.trans (hsame.trans hgeneration)) (hothers other hother hclient)
    rw [if_neg (not_not.mpr hgeneration)]
    split
    · rename_i hcloudAvailable
      refine hdrop.put (fun u hu => h.user u (huser.symm.trans hu)) (by simp [newSaves])
        (by simp [newLoads]) (hreading _) rfl ?_
      refine (Bool.and_eq_true _ _).mpr ⟨?_, h.durable⟩
      rw [hplan]
      exact loadPlan_reads hcloud (havailable.symm.trans hcloudAvailable)
        ((h.reading load hmem hgeneration).2 dbProfile hread)
    · exact hdrop.put (fun u hu => h.user u (huser.symm.trans hu)) (by simp [newSaves])
        (by simp [newLoads]) (hreading _) rfl h.durable
  · rw [if_pos hgeneration, finishBootstrap_stale hgeneration]
    exact hdrop.put hdrop.user (by simp [newSaves]) (by simp [newLoads]) hdrop.reading rfl
      hdrop.durable

end DurableInv

/-! ## The main result -/

variable [IsStrictOrderedRing K] {client : ι} {owner : String}
  {world next : World ι K Result Sensitivities}

omit [IsStrictOrderedRing K] in
theorem step_durable {initial : String → Option ℤ} (h : DurableInv client owner world)
    (hprofile : ProfileInv initial world) {occurrence : Occurrence ι K Result Sensitivities}
    (hmay : crashes client owner world occurrence = true)
    (hsaved : savedFirst world occurrence = true) (hstep : world.step occurrence = some next) :
    DurableInv client owner next := by
  cases occurrence with
  | act c event =>
    cases hstep
    cases event with
    | updatePlan updates =>
      obtain ⟨hc, hgate⟩ := (Bool.and_eq_true _ _).mp hmay
      obtain rfl := of_decide_eq_true hc
      exact h.edit hgate updates
    | flush =>
      obtain rfl := of_decide_eq_true hmay
      exact h.flush (hprofile.plans c)
    | storageChanged available fits =>
      obtain rfl := of_decide_eq_true hmay
      exact h.storageChanged available fits
    | bootstrap authUser cloudAccountReady =>
      simp only [crashes, Bool.and_eq_true, decide_eq_true_eq, beq_iff_eq] at hmay
      obtain ⟨⟨rfl, rfl⟩, -⟩ := hmay
      exact h.bootstrap hprofile cloudAccountReady
    | _ => cases hmay
  | reload c bundle =>
    cases hstep
    obtain rfl := of_decide_eq_true hmay
    exact h.reload bundle
  | executeSave index => exact h.executeSave hstep
  | deliverSave index => exact h.deliverSave hstep
  | loseSave index => exact h.loseSave hstep
  | readProfile index => exact h.readProfile hsaved hstep
  | readAccounts index => exact h.readAccounts hstep
  | deliverLoad index => exact h.deliverLoad hprofile hstep
  | _ => cases hmay

omit [DecidableEq ι] [IsStrictOrderedRing K] in
theorem initial_durable (h : world.Initial) (client : ι) (owner : String) :
    DurableInv client owner world := by
  obtain ⟨bundle, storage, hstart⟩ := h.sessions client
  refine ⟨fun u hu => ?_, by simp [h.saves], by simp [h.history, lastCommitted], by simp [h.loads],
    by simp [h.loads], by simp [h.history, losesNothing]⟩
  rw [hstart] at hu
  cases hu

/-- In every run in which bootstraps read the profile after its cached edits were
committed, no load loses a cached edit. -/
theorem edits_survive (hinitial : world.Initial) (client : ι) (owner : String)
    (hrun : Reaches (Next World.step fun world occurrence =>
      crashes client owner world occurrence = true ∧ savedFirst world occurrence = true)
        world next) : losesNothing next.history = true := by
  have hinv : ProfileInv world.revision next ∧ DurableInv client owner next := by
    refine invariant (fun w => ProfileInv world.revision w ∧ DurableInv client owner w) ?_
      ⟨initial_inv hinitial, initial_durable hinitial client owner⟩ hrun
    rintro s t ⟨occurrence, ⟨hmay, hsaved⟩, hstep⟩ ⟨hprofile, h⟩
    exact ⟨step_inv hprofile hstep, step_durable h hprofile hmay hsaved hstep⟩
  exact hinv.2.durable

/-- The user signs in and edits, and the page is loaded anew after a crash. -/
def crashBeforeSave : List (Occurrence Unit ℚ Unit Unit) :=
  signIn ++ [setSpending () 61000, .reload () newYearBundle] ++ signIn

/-- The cache took the edit, and the next bootstrap loads a plan without it. -/
theorem unsavedEdit_lost : newUserWorld.Initial ∧
    ∃ next, Reaches (Next World.step fun world occurrence =>
        crashes () "user" world occurrence = true) newUserWorld next ∧
      (next.sessions ()).state.bootstrapped = true ∧ losesNothing next.history = false := by
  have hrun : ∃ next ∈ run World.step (crashes () "user") newUserWorld crashBeforeSave,
      (next.sessions ()).state.bootstrapped = true ∧ losesNothing next.history = false := by
    decide +kernel
  obtain ⟨next, hnext, hbootstrapped, hlost⟩ := hrun
  exact ⟨newUserWorld_initial, next, reaches_of_run hnext, hbootstrapped, hlost⟩

/-- The user signs in, edits and saves, and the page crashes before the answer. -/
def crashAfterSave : List (Occurrence Unit ℚ Unit Unit) :=
  editWith () 61000 ++ [.executeSave 0, .reload () newYearBundle] ++ signIn

theorem edits_survive_crashAfterSave :
    ∃ next ∈ run World.step (fun world occurrence =>
        crashes () "user" world occurrence && savedFirst world occurrence) newUserWorld
          crashAfterSave,
      (next.sessions ()).state.plan.profile.currentSpending = 61000 ∧
        losesNothing next.history = true := by
  have hrun : ∃ next ∈ run World.step (fun world occurrence =>
        crashes () "user" world occurrence && savedFirst world occurrence) newUserWorld
          crashAfterSave,
      (next.sessions ()).state.plan.profile.currentSpending = 61000 := by decide +kernel
  obtain ⟨next, hnext, hspending⟩ := hrun
  have hreaches : Reaches (Next World.step fun world occurrence =>
      crashes () "user" world occurrence = true ∧ savedFirst world occurrence = true)
        newUserWorld next := by
    refine Relation.ReflTransGen.mono ?_ _ _ (reaches_of_run hnext)
    rintro s t ⟨occurrence, hmay, hstep⟩
    exact ⟨occurrence, (Bool.and_eq_true _ _).mp hmay, hstep⟩
  exact ⟨next, hnext, hspending, edits_survive newUserWorld_initial () "user" hreaches⟩

end RetirementPlanner.Web
