import RetirementPlanner.Lib.Runs
import RetirementPlanner.Proof.Ownership
import RetirementPlanner.Proof.ProfileSync

/-!
# Whose data a world holds

Whatever belongs to whom (`Ownership`), and in whatever order owners sign in and out while
requests are on their way: caches, cloud rows, requests and the plan of a bootstrapped
session stay with their owner (`InWorld`), step by step (`step_own`).
-/

namespace RetirementPlanner.Web

open Schema Runs

variable {ι K Result Sensitivities : Type} [DecidableEq ι] [Field K] [LinearOrder K]
  [FloorRing K]

namespace Ownership

variable {own : Ownership K}

/-! ## Worlds -/

variable (own) in
/-- What browsers and the server store is their owners'. -/
structure Stores (world : World ι K Result Sensitivities) : Prop where
  caches : ∀ client, own.Cache (world.sessions client).storage
  profiles : ∀ owner, own.Row owner (world.database.userProfiles owner)
  accounts : ∀ owner, ∀ account ∈ world.database.accounts owner, own.account owner account

variable (own) in
/-- Everything is its owner's, also what is on its way. -/
structure InWorld (world : World ι K Result Sensitivities) : Prop where
  sessions : ∀ client, own.Holds (world.sessions client)
  profiles : ∀ owner, own.Row owner (world.database.userProfiles owner)
  accounts : ∀ owner, ∀ account ∈ world.database.accounts owner, own.account owner account
  saves : ∀ save ∈ world.saves, own.Body save.ownerId save.body
  rows : ∀ load ∈ world.loads, ∀ row, load.dbProfile = some row → own.Row load.ownerId row
  items : ∀ load ∈ world.loads, ∀ items, load.items = some items → own.Items load.ownerId items
  writes : ∀ write ∈ world.accountWrites, own.Makes write.ownerId write.call
  lists : ∀ list ∈ world.accountLists, ∀ items, list.items = some items →
    own.Items list.ownerId items

variable (own) in
/-- A page edits only while its session is bootstrapped, and makes data of the session's
owner of data of that owner. -/
def May (world : World ι K Result Sensitivities) : Occurrence ι K Result Sensitivities → Prop
  | .act client event =>
    (event.isEdit = true → (world.sessions client).state.bootstrapped = true) ∧
      own.MadeBy (world.sessions client) event
  | _ => True

/-! ## Requests -/

omit [DecidableEq ι] in
theorem newSaves_own {client : ι} {request : Option (Request K)} (h : own.Sends request) :
    ∀ save ∈ newSaves client request, own.Body save.ownerId save.body := by
  intro save hsave
  cases request with
  | none => cases hsave
  | some request =>
    cases request with
    | save generation ownerId body =>
      rw [List.mem_singleton.mp hsave]
      exact h
    | _ => cases hsave

omit [DecidableEq ι] in
theorem newAccountWrites_own {client : ι} {request : Option (Request K)}
    (h : own.Sends request) :
    ∀ write ∈ newAccountWrites client request, own.Makes write.ownerId write.call := by
  intro write hwrite
  cases request with
  | none => cases hwrite
  | some request =>
    cases request with
    | writeAccount ownerId call =>
      rw [List.mem_singleton.mp hwrite]
      exact h
    | _ => cases hwrite

omit [DecidableEq ι] [Field K] [LinearOrder K] [FloorRing K] in
/-- What has just been sent has read nothing. -/
theorem newLoads_unread {client : ι} {request : Option (Request K)} {load : Load ι K}
    (h : load ∈ newLoads client request) : load.dbProfile = none ∧ load.items = none := by
  cases request with
  | none => cases h
  | some request =>
    cases request with
    | load generation ownerId =>
      rw [List.mem_singleton.mp h]
      exact ⟨rfl, rfl⟩
    | _ => cases h

omit [DecidableEq ι] [Field K] [LinearOrder K] [FloorRing K] in
theorem newAccountLists_unread {client : ι} {request : Option (Request K)}
    {list : AccountList ι K} (h : list ∈ newAccountLists client request) : list.items = none := by
  cases request with
  | none => cases h
  | some request =>
    cases request with
    | listAccounts ownerId =>
      rw [List.mem_singleton.mp h]
    | _ => cases h

/-! ## Sessions move on -/

variable {world next : World ι K Result Sensitivities}

theorem InWorld.put (h : own.InWorld world) {client : ι}
    {moved : Session K Result Sensitivities × Option (Request K)}
    {seens : List (Observation ι K)} (hholds : own.Holds moved.1) (hsends : own.Sends moved.2) :
    own.InWorld (world.put client moved seens) where
  sessions other := by
    by_cases hother : other = client
    · subst hother
      simpa [World.put] using hholds
    · simpa [World.put, hother] using h.sessions other
  profiles := h.profiles
  accounts := h.accounts
  saves := List.forall_mem_append.mpr ⟨newSaves_own hsends, h.saves⟩
  rows := List.forall_mem_append.mpr
    ⟨fun load hload row hrow => (nomatch (newLoads_unread hload).1.symm.trans hrow), h.rows⟩
  items := List.forall_mem_append.mpr
    ⟨fun load hload items hitems => (nomatch (newLoads_unread hload).2.symm.trans hitems), h.items⟩
  writes := List.forall_mem_append.mpr ⟨newAccountWrites_own hsends, h.writes⟩
  lists := List.forall_mem_append.mpr
    ⟨fun list hlist items hitems => (nomatch (newAccountLists_unread hlist).symm.trans hitems),
      h.lists⟩

/-- Nothing a session sends when it is answered carries data. -/
theorem receive_sendsOwn (session : Session K Result Sensitivities) (answer : Answer K) :
    own.Sends (session.receive answer).2 := by
  obtain ⟨hsaves, -, hwrites⟩ := receive_sends session () answer
  cases hrequest : (session.receive answer).2 with
  | none => trivial
  | some request =>
    rw [hrequest] at hsaves hwrites
    cases request with
    | save | writeAccount => simp [newSaves, newAccountWrites] at hsaves hwrites
    | load | listAccounts => trivial

variable [IsStrictOrderedRing K]

theorem InWorld.deliver (h : own.InWorld world) (hdefaults : own.Defaults) {client : ι}
    {answer : Answer K} (seens : List (Observation ι K))
    (hbrings : own.Brings (world.sessions client) answer) :
    own.InWorld (world.deliver client answer seens) :=
  h.put (receive_own (h.sessions client) hdefaults hbrings) (receive_sendsOwn _ _)

theorem act_own (h : own.InWorld world) (hdefaults : own.Defaults) {client : ι}
    {event : Event K Result Sensitivities} (hmay : own.May world (.act client event)) :
    own.InWorld (world.put client ((world.sessions client).handle event)
      (World.observeEvent client (world.sessions client) event)) := by
  obtain ⟨hholds, hsends⟩ := handle_own (h.sessions client) hdefaults hmay.1 hmay.2
  exact h.put hholds hsends

theorem start_own (bundle : Bundle K) {storage : Storage K} (hcache : own.Cache storage) :
    own.Holds (Session.start bundle storage : Session K Result Sensitivities) where
  valid := retirementPlanSchema_valid bundle.defaultPlan_ok
  cache := hcache
  online hcloud := nomatch hcloud
  plan hbootstrapped := nomatch hbootstrapped

theorem reload_own (h : own.InWorld world) (client : ι) (bundle : Bundle K) :
    own.InWorld (world.reload client bundle) where
  sessions other := by
    by_cases hother : other = client
    · subst hother
      simpa [World.reload] using start_own bundle (h.sessions other).cache
    · simpa [World.reload, hother] using h.sessions other
  profiles := h.profiles
  accounts := h.accounts
  saves save hsave := by
    obtain ⟨old, hold, rfl⟩ := List.mem_map.mp hsave
    have hbody := h.saves old hold
    split
    · exact hbody
    · exact hbody
  rows load hload := h.rows load (List.mem_filter.mp hload).1
  items load hload := h.items load (List.mem_filter.mp hload).1
  writes write hwrite := by
    obtain ⟨old, hold, rfl⟩ := List.mem_map.mp hwrite
    have hmakes := h.writes old hold
    split
    · exact hmakes
    · exact hmakes
  lists list hlist := h.lists list (List.mem_filter.mp hlist).1

/-! ## Profiles -/

omit [DecidableEq ι] [LinearOrder K] [FloorRing K] [IsStrictOrderedRing K] in
theorem saveUserProfile_accounts {db db' : Database K} {userId : String}
    {data : SaveProfileData K} {revision : ℤ}
    (hsave : db.saveUserProfile userId data = some (db', revision)) :
    db'.accounts = db.accounts := by
  unfold Database.saveUserProfile at hsave
  dsimp only at hsave
  split at hsave
  · cases hsave
    rfl
  · split at hsave
    · cases hsave
      rfl
    · cases hsave
  · cases hsave

omit [DecidableEq ι] [IsStrictOrderedRing K] in
/-- What the server stores of an owner's save is the owner's, and nobody else's row. -/
theorem saveUserProfile_own {db db' : Database K} {userId : String} {data : SaveProfileData K}
    {revision : ℤ} (hsave : db.saveUserProfile userId data = some (db', revision))
    (hprofiles : ∀ owner, own.Row owner (db.userProfiles owner))
    (hdata : own.Sources userId (some (.obj (profileFields data.profile)))
      (some (.obj (socialSecurityFields data.socialSecurity)))
      (some (.obj (assumptionFields data.assumptions)))) :
    ∀ owner, own.Row owner (db'.userProfiles owner) := by
  have hwritten : ∀ revision : ℤ, ∀ owner, own.Row owner
      (Function.update db.userProfiles userId (some
        { profile := .obj (profileFields data.profile)
          socialSecurity := .obj (socialSecurityFields data.socialSecurity)
          assumptions := .obj (assumptionFields data.assumptions)
          revision
          schemaVersion := planSchemaVersion }) owner) := by
    intro revision owner
    by_cases howner : owner = userId
    · subst howner
      rw [Function.update_self]
      exact hdata
    · rw [Function.update_of_ne howner]
      exact hprofiles owner
  unfold Database.saveUserProfile at hsave
  dsimp only at hsave
  split at hsave
  · cases hsave
    exact hwritten _
  · split at hsave
    · cases hsave
      exact hwritten _
    · cases hsave
  · cases hsave

omit [DecidableEq ι] [IsStrictOrderedRing K] in
theorem executeSave_own (h : own.InWorld world) {index : ℕ}
    (hstep : world.executeSave index = some next) : own.InWorld next := by
  obtain ⟨save, hsave, -, rfl⟩ := World.executeSave_some hstep
  have hbody := h.saves save (List.mem_of_getElem? hsave)
  have hdatabase : (∀ owner, own.Row owner
      ((world.database.handle save.ownerId "" (.saveProfile save.body)).1.userProfiles owner)) ∧
      (world.database.handle save.ownerId "" (.saveProfile save.body)).1.accounts
        = world.database.accounts := by
    simp only [Database.handle]
    split
    · exact ⟨h.profiles, rfl⟩
    · rename_i data hdata
      split
      · exact ⟨h.profiles, rfl⟩
      · rename_i hwrite
        exact ⟨saveUserProfile_own hwrite h.profiles (hbody data hdata),
          saveUserProfile_accounts hwrite⟩
  refine ⟨h.sessions, hdatabase.1, ?_, fun other hother => ?_, h.rows, h.items, h.writes,
    h.lists⟩
  · rw [hdatabase.2]
    exact h.accounts
  · obtain hother | rfl := List.mem_or_eq_of_mem_set hother
    · exact h.saves other hother
    · exact hbody

theorem deliverSave_own (h : own.InWorld world) (hdefaults : own.Defaults) {index : ℕ}
    (hstep : world.deliverSave index = some next) : own.InWorld next := by
  obtain ⟨save, response, -, -, -, rfl⟩ := World.deliverSave_some hstep
  have hdrop : own.InWorld { world with saves := world.saves.eraseIdx index } :=
    ⟨h.sessions, h.profiles, h.accounts,
      fun other hother => h.saves other (List.mem_of_mem_eraseIdx hother), h.rows, h.items,
      h.writes, h.lists⟩
  exact hdrop.deliver hdefaults _ trivial

theorem loseSave_own (h : own.InWorld world) (hdefaults : own.Defaults) {index : ℕ}
    (hstep : world.loseSave index = some next) : own.InWorld next := by
  obtain ⟨save, hsave, -, rfl⟩ := World.loseSave_some hstep
  have hlost : own.InWorld
      { world with saves := world.saves.set index { save with waiting := false } } := by
    refine ⟨h.sessions, h.profiles, h.accounts, fun other hother => ?_, h.rows, h.items,
      h.writes, h.lists⟩
    obtain hother | rfl := List.mem_or_eq_of_mem_set hother
    · exact h.saves other hother
    · exact h.saves save (List.mem_of_getElem? hsave)
  exact hlost.deliver hdefaults _ trivial

/-! ## Bootstraps -/

omit [DecidableEq ι] [IsStrictOrderedRing K] in
theorem readProfile_own (h : own.InWorld world) {index : ℕ}
    (hstep : world.readProfile index = some next) : own.InWorld next := by
  obtain ⟨load, hload, rfl⟩ := World.readProfile_some hstep
  have hmem := List.mem_of_getElem? hload
  refine ⟨h.sessions, h.profiles, h.accounts, h.saves, fun other hother row hrow => ?_,
    fun other hother items hitems => ?_, h.writes, h.lists⟩
  · obtain hother | rfl := List.mem_or_eq_of_mem_set hother
    · exact h.rows other hother row hrow
    · cases hrow
      exact h.profiles load.ownerId
  · obtain hother | rfl := List.mem_or_eq_of_mem_set hother
    · exact h.items other hother items hitems
    · exact h.items load hmem items hitems

omit [FloorRing K] [DecidableEq ι] [IsStrictOrderedRing K] in
/-- What the server reads of an owner's accounts is read back as the owner's. -/
theorem items_own {accounts : List (Account K)} {owner : String}
    (h : ∀ account ∈ accounts, own.account owner account) :
    own.Items owner (accounts.map accountJson) := by
  intro accounts' haccounts
  rw [accounts_self haccounts]
  exact h

omit [DecidableEq ι] [IsStrictOrderedRing K] in
theorem readAccounts_own (h : own.InWorld world) {index : ℕ}
    (hstep : world.readAccounts index = some next) : own.InWorld next := by
  obtain ⟨load, hload, rfl⟩ := World.readAccounts_some hstep
  have hmem := List.mem_of_getElem? hload
  refine ⟨h.sessions, h.profiles, h.accounts, h.saves, fun other hother row hrow => ?_,
    fun other hother items hitems => ?_, h.writes, h.lists⟩
  · obtain hother | rfl := List.mem_or_eq_of_mem_set hother
    · exact h.rows other hother row hrow
    · exact h.rows load hmem row hrow
  · obtain hother | rfl := List.mem_or_eq_of_mem_set hother
    · exact h.items other hother items hitems
    · cases hitems
      exact items_own (h.accounts load.ownerId)

omit [IsStrictOrderedRing K] in
/-- A load whose bootstrap has not been overtaken is for the session's owner. -/
theorem load_current {initial : String → Option ℤ} (hprofile : ProfileInv initial world)
    {load : Load ι K} (hload : load ∈ world.loads)
    (hcurrent : load.generation = (world.sessions load.client).bootstrapGeneration) :
    (world.sessions load.client).state.authUser = some load.ownerId :=
  (((hprofile.clients load.client).reads load hload rfl).2 hcurrent).2.1

theorem endLoad_own (h : own.InWorld world) (hdefaults : own.Defaults) {index : ℕ}
    (load : Load ι K) {answer : Answer K}
    (hbrings : own.Brings (world.sessions load.client) answer) :
    own.InWorld (world.endLoad index load answer) := by
  have hdrop : own.InWorld { world with loads := world.loads.eraseIdx index } :=
    ⟨h.sessions, h.profiles, h.accounts, h.saves,
      fun other hother => h.rows other (List.mem_of_mem_eraseIdx hother),
      fun other hother => h.items other (List.mem_of_mem_eraseIdx hother), h.writes, h.lists⟩
  exact hdrop.deliver hdefaults _ hbrings

theorem deliverLoad_own (h : own.InWorld world) (hdefaults : own.Defaults)
    {initial : String → Option ℤ} (hprofile : ProfileInv initial world) {index : ℕ}
    (hstep : world.deliverLoad index = some next) : own.InWorld next := by
  obtain ⟨load, dbProfile, items, hload, hread, hitems, rfl⟩ := World.deliverLoad_some hstep
  have hmem := List.mem_of_getElem? hload
  exact endLoad_own h hdefaults load
    ⟨load_current hprofile hmem, h.rows load hmem dbProfile hread, h.items load hmem items hitems⟩

theorem loseLoad_own (h : own.InWorld world) (hdefaults : own.Defaults)
    {initial : String → Option ℤ} (hprofile : ProfileInv initial world) {index : ℕ}
    (hstep : world.loseLoad index = some next) : own.InWorld next := by
  obtain ⟨load, hload, rfl⟩ := World.loseLoad_some hstep
  exact endLoad_own h hdefaults load (load_current hprofile (List.mem_of_getElem? hload))

/-! ## Accounts -/

omit [DecidableEq ι] [IsStrictOrderedRing K] in
/-- A call leaves everybody else's accounts alone. -/
theorem handle_accounts_other (db : Database K) {owner userId : String} (newId : String)
    (howner : owner ≠ userId) (call : Call K) :
    (db.handle userId newId call).1.accounts owner = db.accounts owner := by
  have hset : ∀ accounts, (db.setAccounts userId accounts).accounts owner = db.accounts owner :=
    fun accounts => Function.update_of_ne howner ..
  cases call with
  | getProfile | getAccounts | getAccount => rfl
  | saveProfile body =>
    simp only [Database.handle]
    split
    · rfl
    · split
      · rfl
      · rename_i hsave
        exact congrFun (saveUserProfile_accounts hsave) owner
  | createAccount body =>
    simp only [Database.handle]
    split
    · rfl
    · unfold Database.createAccount
      dsimp only
      split
      · rfl
      · split
        · exact hset _
        · rfl
  | updateAccount id body =>
    simp only [Database.handle]
    split
    · split
      · rfl
      · unfold Database.updateAccount
        split
        · rfl
        · split
          · rfl
          · dsimp only
            split
            · exact hset _
            · rfl
    · rfl
  | deleteAccount id =>
    simp only [Database.handle]
    split
    · unfold Database.deleteAccount
      split
      · exact hset _
      · rfl
    · rfl

omit [DecidableEq ι] [IsStrictOrderedRing K] in
theorem executeWrite_own (h : own.InWorld world)
    (hwrites : ∀ write ∈ world.accountWrites, write.call.isAccountWrite = true) {index : ℕ}
    {newId : String} (hstep : world.executeWrite index newId = some next) :
    own.InWorld next := by
  obtain ⟨write, hwrite, rfl⟩ := World.executeWrite_some hstep
  have hmem := List.mem_of_getElem? hwrite
  refine ⟨h.sessions, ?_, fun owner => ?_, h.saves, h.rows, h.items, fun other hother => ?_,
    h.lists⟩
  · rw [handle_userProfiles _ _ _ (hwrites write hmem)]
    exact h.profiles
  · by_cases howner : owner = write.ownerId
    · subst howner
      exact h.writes write hmem _ newId (h.accounts write.ownerId)
    · rw [handle_accounts_other world.database newId howner]
      exact h.accounts owner
  · obtain hother | rfl := List.mem_or_eq_of_mem_set hother
    · exact h.writes other hother
    · exact h.writes write hmem

theorem deliverWrite_own (h : own.InWorld world) (hdefaults : own.Defaults) {index : ℕ}
    (hstep : world.deliverWrite index = some next) : own.InWorld next := by
  obtain ⟨write, response, -, -, rfl⟩ := World.deliverWrite_some hstep
  have hdrop : own.InWorld { world with accountWrites := world.accountWrites.eraseIdx index } :=
    ⟨h.sessions, h.profiles, h.accounts, h.saves, h.rows, h.items,
      fun other hother => h.writes other (List.mem_of_mem_eraseIdx hother), h.lists⟩
  exact hdrop.deliver hdefaults _ trivial

theorem loseWrite_own (h : own.InWorld world) (hdefaults : own.Defaults) {index : ℕ}
    (hstep : world.loseWrite index = some next) : own.InWorld next := by
  obtain ⟨write, hwrite, rfl⟩ := World.loseWrite_some hstep
  have hlost : own.InWorld { world with
      accountWrites := world.accountWrites.set index { write with waiting := false } } := by
    refine ⟨h.sessions, h.profiles, h.accounts, h.saves, h.rows, h.items,
      fun other hother => ?_, h.lists⟩
    obtain hother | rfl := List.mem_or_eq_of_mem_set hother
    · exact h.writes other hother
    · exact h.writes write (List.mem_of_getElem? hwrite)
  exact hlost.deliver hdefaults _ trivial

omit [DecidableEq ι] [IsStrictOrderedRing K] in
theorem readList_own (h : own.InWorld world) {index : ℕ}
    (hstep : world.readList index = some next) : own.InWorld next := by
  obtain ⟨list, hlist, rfl⟩ := World.readList_some hstep
  refine ⟨h.sessions, h.profiles, h.accounts, h.saves, h.rows, h.items, h.writes,
    fun other hother items hitems => ?_⟩
  obtain hother | rfl := List.mem_or_eq_of_mem_set hother
  · exact h.lists other hother items hitems
  · cases hitems
    exact items_own (h.accounts list.ownerId)

/-- An operation's list leaves the network. -/
theorem endList_own (h : own.InWorld world) (hdefaults : own.Defaults) (index : ℕ) {client : ι}
    {answer : Answer K} (hbrings : own.Brings (world.sessions client) answer) :
    own.InWorld ({ world with accountLists := world.accountLists.eraseIdx index }.deliver client
      answer []) := by
  have hdrop : own.InWorld { world with accountLists := world.accountLists.eraseIdx index } :=
    ⟨h.sessions, h.profiles, h.accounts, h.saves, h.rows, h.items, h.writes,
      fun other hother => h.lists other (List.mem_of_mem_eraseIdx hother)⟩
  exact hdrop.deliver hdefaults _ hbrings

theorem deliverList_own (h : own.InWorld world) (hdefaults : own.Defaults) {index : ℕ}
    (hstep : world.deliverList index = some next) : own.InWorld next := by
  obtain ⟨list, items, hlist, hitems, rfl⟩ := World.deliverList_some hstep
  exact endList_own h hdefaults index (h.lists list (List.mem_of_getElem? hlist) items hitems)

theorem loseList_own (h : own.InWorld world) (hdefaults : own.Defaults) {index : ℕ}
    (hstep : world.loseList index = some next) : own.InWorld next := by
  obtain ⟨list, -, rfl⟩ := World.loseList_some hstep
  exact endList_own h hdefaults index trivial

/-! ## Steps -/

theorem step_own (h : own.InWorld world) (hdefaults : own.Defaults)
    {initial : String → Option ℤ} (hprofile : ProfileInv initial world)
    {occurrence : Occurrence ι K Result Sensitivities} (hmay : own.May world occurrence)
    (hstep : world.step occurrence = some next) : own.InWorld next := by
  cases occurrence with
  | act client event =>
    cases hstep
    exact act_own h hdefaults hmay
  | reload client bundle =>
    cases hstep
    exact reload_own h client bundle
  | executeSave index => exact executeSave_own h hstep
  | deliverSave index => exact deliverSave_own h hdefaults hstep
  | loseSave index => exact loseSave_own h hdefaults hstep
  | readProfile index => exact readProfile_own h hstep
  | readAccounts index => exact readAccounts_own h hstep
  | deliverLoad index => exact deliverLoad_own h hdefaults hprofile hstep
  | loseLoad index => exact loseLoad_own h hdefaults hprofile hstep
  | executeWrite index newId => exact executeWrite_own h hprofile.writes hstep
  | deliverWrite index => exact deliverWrite_own h hdefaults hstep
  | loseWrite index => exact loseWrite_own h hdefaults hstep
  | readList index => exact readList_own h hstep
  | deliverList index => exact deliverList_own h hdefaults hstep
  | loseList index => exact loseList_own h hdefaults hstep

end Ownership

end RetirementPlanner.Web
