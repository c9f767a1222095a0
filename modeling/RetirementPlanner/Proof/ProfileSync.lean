import RetirementPlanner.Lib.InFlight
import RetirementPlanner.Lib.Runs
import RetirementPlanner.Proof.ProfileClient
import RetirementPlanner.Proof.Results
import RetirementPlanner.Proof.World

/-!
# Profiles of many clients

The invariant of all clients together with the database and the history (`ProfileInv`),
kept by every step of a world. From any start the profiles committed on the server are a
chain: a save commits exactly when it was made against the stored revision, and it
advances it (`profiles_chain`).
-/

namespace RetirementPlanner.Web

open Schema Runs InFlight

variable {ι K Result Sensitivities : Type} [DecidableEq ι] [Field K] [LinearOrder K]
  [FloorRing K]

namespace World

/-- The revision of an owner's row. -/
def revision (world : World ι K Result Sensitivities) (owner : String) : Option ℤ :=
  (world.database.userProfiles owner).map (·.revision)

end World

omit [DecidableEq ι] [Field K] [LinearOrder K] [FloorRing K] in
theorem newSaves_client {client : ι} {request : Option (Request K)} {save : Save ι K}
    (h : save ∈ newSaves client request) : save.client = client := by
  cases request with
  | none => cases h
  | some request =>
    cases request with
    | save generation ownerId body => rw [List.mem_singleton.mp h]
    | _ => cases h

omit [DecidableEq ι] [Field K] [LinearOrder K] [FloorRing K] in
theorem newLoads_client {client : ι} {request : Option (Request K)} {load : Load ι K}
    (h : load ∈ newLoads client request) : load.client = client := by
  cases request with
  | none => cases h
  | some request =>
    cases request with
    | load generation ownerId => rw [List.mem_singleton.mp h]
    | _ => cases h

/-! ## The invariant -/

structure ProfileInv (initial : String → Option ℤ) (world : World ι K Result Sensitivities) :
    Prop where
  plans : ∀ client, ValidPlan (world.sessions client).state.plan
  proper : ∀ owner, Proper (world.revision owner)
  stored : ∀ owner, world.revision owner = storedRevision initial owner world.history
  clients : ∀ client, ClientInv client (world.sessions client).link world.saves world.loads
    world.revision world.history
  lawful : LawfulHistory initial world.history
  writes : ∀ write ∈ world.accountWrites, write.call.isAccountWrite = true

namespace ProfileInv

variable {initial : String → Option ℤ} {world next : World ι K Result Sensitivities}

/-- Some saves are no longer waited for, and bootstraps read accounts or are over. -/
theorem thin (h : ProfileInv initial world) {saves : List (Save ι K)} {loads : List (Load ι K)}
    (hsaves : ∀ save ∈ saves, ∃ old ∈ world.saves, save.Fades old)
    (hsingle : ∀ client,
      saves.countP (Save.waitsFor client) ≤ world.saves.countP (Save.waitsFor client))
    (hloads : ∀ load ∈ loads, ∃ old ∈ world.loads, load.Same old)
    (hcurrent : ∀ client generation, loads.countP (Load.isCurrent client generation)
      ≤ world.loads.countP (Load.isCurrent client generation)) :
    ProfileInv initial { world with saves, loads } where
  plans := h.plans
  proper := h.proper
  stored := h.stored
  lawful := h.lawful
  writes := h.writes
  clients client :=
    (h.clients client).thin (fun save hsave _ => hsaves save hsave) (hsingle client)
      (fun load hload _ => hloads load hload) (hcurrent client _)

/-- A session moves on. -/
theorem put (h : ProfileInv initial world) {client : ι}
    {moved : Session K Result Sensitivities × Option (Request K)} {seens : List (Observation ι K)}
    (hplan : ValidPlan moved.1.state.plan)
    (hown : ClientInv client moved.1.link (newSaves client moved.2 ++ world.saves)
      (newLoads client moved.2 ++ world.loads) world.revision (seens ++ world.history))
    (hforeign : ∀ seen ∈ seens, seen.isCommit = false ∧
      ∀ other, other ≠ client → seen.settles other = false)
    (hlawful : LawfulHistory initial (seens ++ world.history))
    (hwrites : ∀ write ∈ newAccountWrites client moved.2, write.call.isAccountWrite = true) :
    ProfileInv initial (world.put client moved seens) where
  plans other := by
    by_cases hother : other = client
    · subst hother
      simpa [World.put] using hplan
    · simpa [World.put, hother] using h.plans other
  proper := h.proper
  stored owner := by
    have hstored := h.stored owner
    rw [← storedRevision_append (fun seen hseen => (hforeign seen hseen).1)] at hstored
    exact hstored
  lawful := hlawful
  writes write hwrite := by
    obtain hwrite | hwrite := List.mem_append.mp hwrite
    · exact hwrites write hwrite
    · exact h.writes write hwrite
  clients other := by
    by_cases hother : other = client
    · subst hother
      have hsession : (world.put other moved seens).sessions other = moved.1 :=
        Function.update_self ..
      rw [hsession]
      exact hown
    · have hsession : (world.put client moved seens).sessions other = world.sessions other :=
        Function.update_of_ne hother ..
      have hsave : ∀ save ∈ newSaves client moved.2, save.client ≠ other :=
        fun save hsave heq => hother (heq.symm.trans (newSaves_client hsave))
      have hload : ∀ load ∈ newLoads client moved.2, load.client ≠ other :=
        fun load hload heq => hother (heq.symm.trans (newLoads_client hload))
      rw [hsession]
      refine (h.clients other).mono ?_ ?_ ?_ ?_ (fun _ => le_refl _)
        (fun seen hseen => (hforeign seen hseen).2 other hother)
      · intro save hmem hclient
        obtain hmem | hmem := List.mem_append.mp hmem
        · exact absurd hclient (hsave save hmem)
        · exact ⟨save, hmem, .refl save⟩
      · have hnone : (newSaves client moved.2).countP (Save.waitsFor other) = 0 := by
          rw [List.countP_eq_zero]
          intro save hmem hwaits
          exact hsave save hmem (of_decide_eq_true ((Bool.and_eq_true _ _).mp hwaits).2)
        simp only [World.put, List.countP_append, hnone, Nat.zero_add, le_refl]
      · intro load hmem hclient
        obtain hmem | hmem := List.mem_append.mp hmem
        · exact absurd hclient (hload load hmem)
        · exact ⟨load, hmem, .refl load⟩
      · have hnone : ∀ generation,
            (newLoads client moved.2).countP (Load.isCurrent other generation) = 0 := by
          intro generation
          rw [List.countP_eq_zero]
          intro load hmem hcurrent
          exact hload load hmem (of_decide_eq_true ((Bool.and_eq_true _ _).mp hcurrent).1)
        simp only [World.put, List.countP_append, hnone, Nat.zero_add, le_refl]

end ProfileInv

/-! ## Steps of the world -/

variable [IsStrictOrderedRing K] {initial : String → Option ℤ}
  {world next : World ι K Result Sensitivities}

theorem act_inv (h : ProfileInv initial world) (client : ι) (event : Event K Result Sensitivities) :
    ProfileInv initial (world.put client ((world.sessions client).handle event)
      (World.observeEvent client (world.sessions client) event)) := by
  have hstep := handle_link (world.sessions client) client event
  have hplan := h.plans client
  refine h.put (handle_validPlan hplan event) (hstep.inv hplan (h.clients client)) ?_
    (hstep.lawful (h.clients client) h.lawful) hstep.writes
  intro seen hseen
  exact ⟨(hstep.foreign seen hseen).1, fun other _ => (hstep.foreign seen hseen).2 other⟩

/-- A session takes an answer. -/
theorem deliver_inv (h : ProfileInv initial world) {client : ι} {answer : Answer K}
    {seens : List (Observation ι K)}
    (hown : ClientInv client ((world.sessions client).receive answer).1.link world.saves
      world.loads world.revision (seens ++ world.history))
    (hforeign : ∀ seen ∈ seens, seen.isCommit = false ∧
      ∀ other, other ≠ client → seen.settles other = false)
    (hlawful : LawfulHistory initial (seens ++ world.history)) :
    ProfileInv initial (world.deliver client answer seens) := by
  obtain ⟨hsaves, hloads, hwrites⟩ := receive_sends (world.sessions client) client answer
  refine h.put (receive_validPlan (h.plans client) answer) ?_ hforeign hlawful ?_
  · rw [hsaves, hloads]
    exact hown
  · rw [hwrites]
    exact fun _ hwrite => absurd hwrite List.not_mem_nil

/-- A session takes an answer of which nothing is observed. -/
theorem deliverQuiet_inv (h : ProfileInv initial world) {client : ι} {answer : Answer K}
    (hown : ClientInv client ((world.sessions client).receive answer).1.link world.saves
      world.loads world.revision world.history) :
    ProfileInv initial (world.deliver client answer []) :=
  deliver_inv h hown (fun _ hseen => absurd hseen List.not_mem_nil) h.lawful

theorem reload_inv (h : ProfileInv initial world) (client : ι) (bundle : Bundle K) :
    ProfileInv initial (world.reload client bundle) where
  plans other := by
    by_cases hother : other = client
    · subst hother
      simpa [World.reload, Session.start] using retirementPlanSchema_valid bundle.defaultPlan_ok
    · simpa [World.reload, hother] using h.plans other
  proper := h.proper
  stored := h.stored
  lawful := h.lawful
  writes write hwrite := by
    obtain ⟨old, hold, rfl⟩ := List.mem_map.mp hwrite
    have hcall := h.writes old hold
    split
    · exact hcall
    · exact hcall
  clients other := by
    have hfades : ∀ save ∈ (world.reload client bundle).saves,
        ∃ old ∈ world.saves, save.Fades old ∧ (old.client = client → save.waiting = false) := by
      intro save hsave
      obtain ⟨old, hold, rfl⟩ := List.mem_map.mp hsave
      refine ⟨old, hold, ?_⟩
      split
      · exact ⟨⟨rfl, rfl, rfl, rfl, rfl, fun hwaiting => nomatch hwaiting⟩, fun _ => rfl⟩
      · rename_i hclient
        exact ⟨⟨rfl, rfl, rfl, rfl, rfl, id⟩, fun heq => absurd heq hclient⟩
    have hloads : ∀ load ∈ (world.reload client bundle).loads,
        load ∈ world.loads ∧ load.client ≠ client := by
      intro load hload
      obtain ⟨hload, hclient⟩ := List.mem_filter.mp hload
      exact ⟨hload, of_decide_eq_true hclient⟩
    by_cases hother : other = client
    · subst hother
      have hsession : (world.reload other bundle).sessions other
          = .start bundle (world.sessions other).storage := Function.update_self ..
      rw [hsession]
      refine (h.clients other).reload rfl (fun save hsave hclient => ?_)
        (fun load hload => (hloads load hload).2)
      obtain ⟨old, hold, hfade, hwaiting⟩ := hfades save hsave
      exact ⟨⟨old, hold, hfade⟩, hwaiting (hfade.client.symm.trans hclient)⟩
    · have hsession : (world.reload client bundle).sessions other = world.sessions other :=
        Function.update_of_ne hother ..
      rw [hsession]
      refine (h.clients other).thin (fun save hsave _ => ?_) ?_
        (fun load hload _ => ⟨load, (hloads load hload).1, .refl load⟩)
        List.filter_sublist.countP_le
      · obtain ⟨old, hold, hfade, -⟩ := hfades save hsave
        exact ⟨old, hold, hfade⟩
      · simp only [World.reload, List.countP_map]
        refine List.countP_mono_left fun save _ hwaits => ?_
        simp only [Function.comp_apply] at hwaits
        split at hwaits
        · simp [Save.waitsFor] at hwaits
        · exact hwaits

/-! ## Saves reach the server -/

omit [DecidableEq ι] [LinearOrder K] [FloorRing K] [IsStrictOrderedRing K] in
/-- The server saves a profile exactly when it was made against the stored revision. -/
theorem saveUserProfile_cases (db : Database K) (userId : String) (data : SaveProfileData K) :
    (data.revision = (db.userProfiles userId).map (·.revision) ∧
      ∃ row : ProfileSettings K, row.revision = nextRevision data.revision ∧
        db.saveUserProfile userId data = some
          ({ db with userProfiles := Function.update db.userProfiles userId (some row) },
            nextRevision data.revision)) ∨
    (data.revision ≠ (db.userProfiles userId).map (·.revision) ∧
      db.saveUserProfile userId data = none) := by
  unfold Database.saveUserProfile
  cases hdata : data.revision with
  | none =>
    cases hrow : db.userProfiles userId with
    | none => exact .inl ⟨rfl, _, rfl, rfl⟩
    | some row => exact .inr ⟨by simp, rfl⟩
  | some expected =>
    cases hrow : db.userProfiles userId with
    | none => exact .inr ⟨by simp, rfl⟩
    | some stored =>
      by_cases heq : stored.revision = expected
      · subst heq
        exact .inl ⟨rfl, _, rfl, by simp only [if_true]; rfl⟩
      · exact .inr ⟨by simpa using Ne.symm heq, if_neg heq⟩

/-- What becomes of a save made against `base` that the server executes. -/
inductive SaveOutcome (world : World ι K Result Sensitivities) (index : ℕ) (save : Save ι K)
    (base : Option ℤ) (after : World ι K Result Sensitivities) : Prop
  | committed (row : ProfileSettings K) (settings : Settings K)
      (hbase : base = world.revision save.ownerId) (hrow : row.revision = nextRevision base)
      (hafter : after = { world with
        database := { world.database with
          userProfiles := Function.update world.database.userProfiles save.ownerId (some row) }
        saves := world.saves.set index
          { save with answer := some (.revision (nextRevision base)) }
        history := .committed save.client save.ownerId base (nextRevision base) settings
          :: world.history })
  | refused (hbase : base ≠ world.revision save.ownerId)
      (hafter : after = { world with
        saves := world.saves.set index { save with answer := some (.failed 409) }
        history := .refused save.client save.ownerId base :: world.history })

omit [DecidableEq ι] [IsStrictOrderedRing K] in
theorem executeSave_outcome {index : ℕ} (hstep : world.executeSave index = some next) :
    ∃ save, world.saves[index]? = some save ∧ save.answer = none ∧
      ∀ base, save.Carries base → SaveOutcome world index save base next := by
  obtain ⟨save, hsave, hanswer, rfl⟩ := World.executeSave_some hstep
  refine ⟨save, hsave, hanswer, ?_⟩
  rintro base ⟨data, hdata, rfl⟩
  obtain ⟨hbase, row, hrow, hwrite⟩ | ⟨hbase, hwrite⟩ :=
    saveUserProfile_cases world.database save.ownerId data
  · simp only [Database.handle, World.observeSave, hdata, hwrite]
    exact .committed row ⟨data.profile, data.socialSecurity, data.assumptions⟩ hbase hrow rfl
  · simp only [Database.handle, World.observeSave, hdata, hwrite]
    exact .refused hbase rfl

omit [IsStrictOrderedRing K] in
/-- A client does not notice how another's save is answered. -/
theorem executeSave_others (h : ProfileInv initial world) {before after : List (Save ι K)}
    {save : Save ι K} (hsplit : world.saves = before ++ save :: after) (response : Response K)
    {client : ι} (hclient : client ≠ save.client) {stored : String → Option ℤ}
    {seens : List (Observation ι K)}
    (hgrow : ∀ owner, place (world.revision owner) ≤ place (stored owner))
    (hseens : ∀ seen ∈ seens, seen.settles client = false) :
    ClientInv client (world.sessions client).link
      (before ++ { save with answer := some response } :: after) world.loads stored
      (seens ++ world.history) := by
  refine (h.clients client).mono (fun other hother heq => ?_) ?_
    (fun load hload _ => ⟨load, hload, .refl load⟩) (le_refl _) hgrow hseens
  · refine ⟨other, ?_, .refl other⟩
    rw [hsplit]
    refine (mem_replaced save hother).resolve_right ?_
    rintro rfl
    exact hclient heq.symm
  · rw [hsplit]
    simp only [List.countP_append, List.countP_cons]
    exact le_refl _

omit [IsStrictOrderedRing K] in
/-- A save made against the stored revision is committed. -/
theorem committed_inv (h : ProfileInv initial world) {before after : List (Save ι K)}
    {save : Save ι K} (hsplit : world.saves = before ++ save :: after)
    (hanswer : save.answer = none) {base : Option ℤ} (hcarries : save.Carries base)
    (hbase : base = world.revision save.ownerId) {row : ProfileSettings K}
    (hrow : row.revision = nextRevision base) (settings : Settings K) :
    ProfileInv initial { world with
      database := { world.database with
        userProfiles := Function.update world.database.userProfiles save.ownerId (some row) }
      saves := before ++ { save with answer := some (.revision (nextRevision base)) } :: after
      history := .committed save.client save.ownerId base (nextRevision base) settings
        :: world.history } := by
  have hmem : save ∈ world.saves := by simp [hsplit]
  obtain ⟨base', hcarries', hproper, hsent, hknows, -⟩ := (h.clients save.client).sent save hmem rfl
  obtain rfl := hcarries'.unique hcarries
  have hnonneg : 0 ≤ nextRevision base' := by
    cases base' with
    | none => exact le_refl _
    | some n =>
      have hn := hproper n rfl
      simp only [nextRevision, Option.elim_some]
      omega
  let stored (owner : String) : Option ℤ :=
    (Function.update world.database.userProfiles save.ownerId (some row) owner).map (·.revision)
  have hown : stored save.ownerId = some (nextRevision base') := by
    simp [stored, hrow]
  have hother : ∀ owner, owner ≠ save.ownerId → stored owner = world.revision owner := by
    intro owner hne
    simp [stored, hne, World.revision]
  have hgrow : ∀ owner, place (world.revision owner) ≤ place (stored owner) := by
    intro owner
    by_cases howner : owner = save.ownerId
    · subst howner
      have hplace : place (some (nextRevision base')) = nextRevision base' := rfl
      rw [hown, hplace, nextRevision_eq, ← hbase]
      omega
    · rw [hother owner howner]
  have hseens : ∀ client, ∀ seen ∈ [Observation.committed save.client save.ownerId base'
      (nextRevision base') settings], seen.settles client = false := by
    intro client seen hseen
    rw [List.mem_singleton.mp hseen]
    rfl
  refine ⟨h.plans, fun owner => ?_, fun owner => ?_, fun client => ?_, ⟨?_, h.lawful⟩, h.writes⟩
  · show Proper (stored owner)
    by_cases howner : owner = save.ownerId
    · subst howner
      rw [hown]
      rintro n ⟨⟩
      exact hnonneg
    · rw [hother owner howner]
      exact h.proper owner
  · show stored owner = _
    by_cases howner : save.ownerId = owner
    · subst howner
      rw [hown]
      exact (if_pos rfl).symm
    · rw [hother owner (Ne.symm howner), h.stored owner]
      exact (if_neg howner).symm
  · show ClientInv client _ _ _ stored _
    by_cases hclient : save.client = client
    · subst hclient
      refine (h.clients save.client).execute hsplit rfl (.revision (nextRevision base'))
        hgrow ?_ (fun heq => nomatch heq) (hseens save.client)
      rintro n ⟨⟩
      refine ⟨⟨base', settings, List.mem_cons_self⟩, hnonneg, ?_, fun base hbase => ?_⟩
      · rw [hown]
        exact le_refl _
      · rw [hbase.unique hcarries, nextRevision_eq]
        omega
    · exact executeSave_others h hsplit _ (Ne.symm hclient) hgrow (hseens client)
  · refine ⟨hbase.trans (h.stored _), rfl, hknows, hsent, ?_⟩
    by_contra hconflicting
    have hlt := ((h.clients save.client).conflict save.ownerId
      ((Bool.not_eq_false _).mp hconflicting)).2 base'
      ⟨save, hmem, rfl, rfl, hanswer, hcarries⟩
    rw [← hbase] at hlt
    exact lt_irrefl _ hlt

omit [IsStrictOrderedRing K] in
/-- Any other save is refused. -/
theorem refused_inv (h : ProfileInv initial world) {before after : List (Save ι K)}
    {save : Save ι K} (hsplit : world.saves = before ++ save :: after) {base : Option ℤ}
    (hcarries : save.Carries base) (hbase : base ≠ world.revision save.ownerId) :
    ProfileInv initial { world with
      saves := before ++ { save with answer := some (.failed 409) } :: after
      history := .refused save.client save.ownerId base :: world.history } := by
  have hmem : save ∈ world.saves := by simp [hsplit]
  obtain ⟨base', hcarries', hproper, -, -, hle⟩ := (h.clients save.client).sent save hmem rfl
  obtain rfl := hcarries'.unique hcarries
  have hseens : ∀ client, ∀ seen ∈ [(Observation.refused save.client save.ownerId base' :
      Observation ι K)], seen.settles client = false := by
    intro client seen hseen
    rw [List.mem_singleton.mp hseen]
    rfl
  refine ⟨h.plans, h.proper, h.stored, fun client => ?_, ⟨?_, h.lawful⟩, h.writes⟩
  · by_cases hclient : save.client = client
    · subst hclient
      refine (h.clients save.client).execute hsplit rfl (.failed 409)
        (fun _ => le_refl _) (fun n heq => nomatch heq) (fun _ base hbase' => ?_)
        (hseens save.client)
      rw [hbase'.unique hcarries]
      exact hle.lt_of_ne fun heq => hbase (place_injective hproper (h.proper _) heq)
    · exact executeSave_others h hsplit _ (Ne.symm hclient) (fun _ => le_refl _) (hseens client)
  · show base' ≠ storedRevision initial save.ownerId world.history
    rw [← h.stored]
    exact hbase

omit [IsStrictOrderedRing K] in
theorem executeSave_inv (h : ProfileInv initial world) {index : ℕ}
    (hstep : world.executeSave index = some next) : ProfileInv initial next := by
  obtain ⟨save, hsave, hanswer, houtcome⟩ := executeSave_outcome hstep
  obtain ⟨before, after, hsplit, hset, -⟩ := split hsave
  obtain ⟨base, hcarries, -⟩ :=
    (h.clients save.client).sent save (List.mem_of_getElem? hsave) rfl
  cases houtcome base hcarries with
  | committed row settings hbase hrow hafter =>
    rw [hafter, hset]
    exact committed_inv h hsplit hanswer hcarries hbase hrow settings
  | refused hbase hafter =>
    rw [hafter, hset]
    exact refused_inv h hsplit hcarries hbase

/-! ## Answers to saves -/

omit [DecidableEq ι] [IsStrictOrderedRing K] in
/-- How a session takes the answer to a save. -/
theorem receiveSaved_cases (client : ι) (session : Session K Result Sensitivities)
    (generation : ℕ) (ownerId : String) (response : Response K) :
    (∃ n, response = .revision n ∧
      session.receive (.saved generation ownerId response)
        = (session.flushSucceeded generation ownerId n, none) ∧
      World.observeSaved client session generation ownerId response = []) ∨
    (response = .failed 409 ∧
      session.receive (.saved generation ownerId response)
        = (session.flushConflicted generation ownerId, none) ∧
      World.observeSaved client session generation ownerId response
        = if session.ownsFlush generation ownerId then [.conflicted client ownerId] else []) ∨
    (session.receive (.saved generation ownerId response)
        = (session.flushFailed generation ownerId, none) ∧
      World.observeSaved client session generation ownerId response = []) := by
  cases response with
  | revision n => exact .inl ⟨n, rfl, rfl, rfl⟩
  | failed status =>
    by_cases hstatus : status = 409
    · subst hstatus
      exact .inr (.inl ⟨rfl, rfl, rfl⟩)
    · exact .inr (.inr ⟨by simp [Session.receive, hstatus], by simp [World.observeSaved, hstatus]⟩)
  | profile | accounts | account | noContent => exact .inr (.inr ⟨rfl, rfl⟩)

omit [IsStrictOrderedRing K] in
/-- A client waits for at most one save. -/
theorem waited_none (h : ProfileInv initial world) {before after : List (Save ι K)}
    {save : Save ι K} (hsplit : world.saves = before ++ save :: after)
    (hwaiting : save.waiting = true) :
    before.countP (Save.waitsFor save.client) = 0 ∧
      after.countP (Save.waitsFor save.client) = 0 := by
  have hsingle := (h.clients save.client).single
  have hwaits : save.waitsFor save.client = true := by simp [Save.waitsFor, hwaiting]
  rw [hsplit, List.countP_append, List.countP_cons_of_pos hwaits] at hsingle
  split at hsingle <;> omega

omit [IsStrictOrderedRing K] in
/-- A save is over. -/
theorem dropSave_inv (h : ProfileInv initial world) {before after : List (Save ι K)}
    {save : Save ι K} (hsplit : world.saves = before ++ save :: after) :
    ProfileInv initial { world with saves := before ++ after } := by
  have hsub : List.Sublist (before ++ after) world.saves := by
    rw [hsplit]
    exact List.Sublist.append_left (List.sublist_cons_self _ _) _
  exact h.thin (fun save hsave => ⟨save, hsub.subset hsave, .refl save⟩)
    (fun client => hsub.countP_le) (fun load hload => ⟨load, hload, .refl load⟩)
    (fun _ _ => le_refl _)

theorem deliverSave_inv (h : ProfileInv initial world) {index : ℕ}
    (hstep : world.deliverSave index = some next) : ProfileInv initial next := by
  obtain ⟨save, response, hsave, hresponse, hwaiting, rfl⟩ := World.deliverSave_some hstep
  have hmem : save ∈ world.saves := List.mem_of_getElem? hsave
  obtain ⟨before, after, hsplit, -, herase⟩ := split hsave
  obtain ⟨hbefore, hafter⟩ := waited_none h hsplit hwaiting
  have hnone : (before ++ after).countP (Save.waitsFor save.client) = 0 := by
    rw [List.countP_append, hbefore, hafter]
  rw [herase]
  have hdrop := dropSave_inv h hsplit
  have hclient : ClientInv save.client (world.sessions save.client).link (before ++ after)
      world.loads world.revision world.history := hdrop.clients save.client
  have hlive := ((h.clients save.client).live save hmem rfl hwaiting).2
  obtain ⟨n, rfl, hreceive, hseen⟩ | ⟨rfl, hreceive, hseen⟩ | ⟨hreceive, hseen⟩ :=
    receiveSaved_cases save.client (world.sessions save.client) save.generation save.ownerId
      response
  · rw [hseen]
    refine deliverQuiet_inv hdrop ?_
    have hlink := flushSucceeded_link (world.sessions save.client) save.generation
      save.ownerId n
    simp only [hreceive]
    by_cases howns : (world.sessions save.client).link.Owns save.generation save.ownerId
    · obtain ⟨hcloud, hcarries⟩ := hlive howns
      obtain ⟨hcommitted, hnonneg, hle, hlt⟩ :=
        (h.clients save.client).committed save hmem rfl n hresponse
      rw [hlink.1 howns]
      exact hclient.acknowledge hnone ⟨hcloud, howns.2⟩ hcommitted hnonneg hle
        (hlt _ hcarries)
    · rw [hlink.2 howns]
      exact hclient.settle hnone
  · have hlink := flushConflicted_link (world.sessions save.client) save.generation
      save.ownerId
    rw [hseen]
    by_cases howns : (world.sessions save.client).link.Owns save.generation save.ownerId
    · obtain ⟨hcloud, hcarries⟩ := hlive howns
      rw [if_pos (ownsFlush_iff.mpr howns)]
      refine deliver_inv hdrop ?_ (fun seen hseen => ?_) ⟨trivial, h.lawful⟩
      · simp only [hreceive]
        rw [hlink.1 howns]
        exact hclient.reject hnone ⟨hcloud, howns.2⟩
          ((h.clients save.client).refused save hmem rfl hresponse _ hcarries)
      · rw [List.mem_singleton.mp hseen]
        exact ⟨rfl, fun other hother => decide_eq_false (Ne.symm hother)⟩
    · rw [if_neg fun howns' => howns (ownsFlush_iff.mp howns')]
      refine deliverQuiet_inv hdrop ?_
      simp only [hreceive]
      rw [hlink.2 howns]
      exact hclient.settle hnone
  · rw [hseen]
    refine deliverQuiet_inv hdrop ?_
    simp only [hreceive, flushFailed_link]
    exact hclient.settle hnone

theorem loseSave_inv (h : ProfileInv initial world) {index : ℕ}
    (hstep : world.loseSave index = some next) : ProfileInv initial next := by
  obtain ⟨save, hsave, hwaiting, rfl⟩ := World.loseSave_some hstep
  obtain ⟨before, after, hsplit, hset, -⟩ := split hsave
  obtain ⟨hbefore, hafter⟩ := waited_none h hsplit hwaiting
  have hnone : (before ++ { save with waiting := false } :: after).countP
      (Save.waitsFor save.client) = 0 := by
    have hlost : Save.waitsFor save.client { save with waiting := false } = false := rfl
    rw [List.countP_append, List.countP_cons_of_neg (by simp [hlost]), hbefore, hafter]
  have hfades : ∀ other ∈ before ++ { save with waiting := false } :: after,
      ∃ old ∈ world.saves, other.Fades old := by
    rw [hsplit]
    exact replaced_like Save.Fades.refl
      ⟨rfl, rfl, rfl, rfl, rfl, fun hwaits => by cases hwaits⟩
  have hlost : ProfileInv initial
      { world with saves := before ++ { save with waiting := false } :: after } := by
    refine h.thin hfades (fun client => ?_) (fun load hload => ⟨load, hload, .refl load⟩)
      (fun _ _ => le_refl _)
    rw [hsplit]
    simp only [List.countP_append, List.countP_cons]
    have hfewer : (if Save.waitsFor client { save with waiting := false } = true then 1 else 0)
        ≤ (if save.waitsFor client = true then 1 else 0) := by
      rw [if_neg (by simp [Save.waitsFor])]
      exact Nat.zero_le _
    omega
  rw [hset]
  refine deliverQuiet_inv hlost ?_
  have hclient : ClientInv save.client (world.sessions save.client).link _ world.loads
      world.revision world.history := hlost.clients save.client
  simp only [Session.receive, flushFailed_link]
  exact hclient.settle hnone

/-! ## Bootstraps -/

omit [IsStrictOrderedRing K] in
theorem readProfile_inv (h : ProfileInv initial world) {index : ℕ}
    (hstep : world.readProfile index = some next) : ProfileInv initial next := by
  obtain ⟨load, hload, rfl⟩ := World.readProfile_some hstep
  obtain ⟨before, after, hsplit, hset, -⟩ := split hload
  rw [hset]
  exact ⟨h.plans, h.proper, h.stored,
    fun client => (h.clients client).read hsplit (h.proper load.ownerId) rfl, h.lawful, h.writes⟩

omit [IsStrictOrderedRing K] in
theorem readAccounts_inv (h : ProfileInv initial world) {index : ℕ}
    (hstep : world.readAccounts index = some next) : ProfileInv initial next := by
  obtain ⟨load, hload, rfl⟩ := World.readAccounts_some hstep
  obtain ⟨before, after, hsplit, hset, -⟩ := split hload
  rw [hset]
  refine h.thin (fun save hsave => ⟨save, hsave, .refl save⟩)
    (fun _ => le_refl _) ?_ (fun client generation => ?_)
  · rw [hsplit]
    exact replaced_like Load.Same.refl ⟨rfl, rfl, rfl, rfl⟩
  · rw [hsplit]
    simp only [List.countP_append, List.countP_cons]
    exact le_refl _

/-- A bootstrap ends with what it has read, if anything. -/
theorem endLoad_inv (h : ProfileInv initial world) {index : ℕ} {load : Load ι K}
    (hload : world.loads[index]? = some load) {answer : Answer K}
    (cloud : Option (Option (ProfileSettings K) × List (Account K)))
    (hcloud : ∀ read, cloud = some read → load.dbProfile = some read.1)
    (hreceive : (world.sessions load.client).receive answer
      = ((world.sessions load.client).finishBootstrap load.generation (some load.ownerId) true
        cloud, none)) :
    ProfileInv initial (world.endLoad index load answer) := by
  obtain ⟨before, after, hsplit, -, herase⟩ := split hload
  have hsub : List.Sublist (before ++ after) world.loads := by
    rw [hsplit]
    exact List.Sublist.append_left (List.sublist_cons_self _ _) _
  have hdrop : ProfileInv initial { world with loads := before ++ after } :=
    h.thin (fun save hsave => ⟨save, hsave, .refl save⟩) (fun _ => le_refl _)
      (fun other hother => ⟨other, hsub.subset hother, .refl other⟩)
      (fun _ _ => hsub.countP_le)
  simp only [World.endLoad, herase, World.observeLoad]
  by_cases hgeneration : load.generation = (world.sessions load.client).bootstrapGeneration
  · obtain ⟨cloudAvailable, hread, hlink⟩ := finishBootstrap_link (world.sessions load.client)
      (some load.ownerId) true cloud
    rw [← hgeneration] at hlink
    have hmoved : ((world.sessions load.client).receive answer).1.link
        = (world.sessions load.client).link.finish cloudAvailable
          ((cloud.bind Prod.fst).map (·.revision)) := by
      rw [hreceive]
      exact hlink
    have hcloudAvailable : ((world.sessions load.client).receive answer).1.state.cloudAvailable
        = cloudAvailable := congrArg Link.cloudAvailable hmoved
    have hrevision : ((world.sessions load.client).receive answer).1.state.profileRevision
        = if cloudAvailable then (cloud.bind Prod.fst).map (·.revision) else none :=
      congrArg Link.profileRevision hmoved
    have hrow : cloudAvailable = true → ∃ dbProfile, load.dbProfile = some dbProfile ∧
        (cloud.bind Prod.fst).map (·.revision) = dbProfile.map (·.revision) := by
      intro htrue
      obtain ⟨read, rfl⟩ := hread htrue
      exact ⟨read.1, hcloud read rfl, rfl⟩
    have hown := (h.clients load.client).finish hsplit rfl hgeneration hrow
      ((world.sessions load.client).receive answer).1.state.plan.settings
    rw [if_neg (not_not.mpr hgeneration), hcloudAvailable, hrevision]
    rw [← hmoved] at hown
    rw [← apply_ite fun seen : Observation ι K => [seen]]
    refine deliver_inv hdrop ?_ (fun seen hseen => ?_) ⟨?_, h.lawful⟩
    · cases cloudAvailable <;> exact hown
    · rw [List.mem_singleton.mp hseen]
      cases cloudAvailable <;>
        exact ⟨rfl, fun other hother => decide_eq_false (Ne.symm hother)⟩
    · cases cloudAvailable <;> trivial
  · have hstale : ((world.sessions load.client).receive answer).1 = world.sessions load.client := by
      rw [hreceive]
      exact finishBootstrap_stale hgeneration
    rw [if_pos hgeneration]
    refine deliverQuiet_inv hdrop ?_
    show ClientInv load.client ((world.sessions load.client).receive answer).1.link _ _ _ _
    rw [hstale]
    exact hdrop.clients load.client

omit [IsStrictOrderedRing K] in
/-- However it is answered, a bootstrap ends with what it has read, if anything. -/
theorem receiveLoaded (session : Session K Result Sensitivities) (generation : ℕ)
    (ownerId : String) (dbProfile : Option (ProfileSettings K)) (items : List (Json K)) :
    ∃ cloud : Option (Option (ProfileSettings K) × List (Account K)),
      (∀ read, cloud = some read → dbProfile = read.1) ∧
      session.receive (.loaded generation ownerId dbProfile items)
        = (session.finishBootstrap generation (some ownerId) true cloud, none) := by
  simp only [Session.receive]
  split
  · rename_i accounts _
    refine ⟨some (dbProfile, accounts), ?_, rfl⟩
    rintro read ⟨⟩
    rfl
  · exact ⟨none, fun read hread => (by cases hread), rfl⟩

theorem deliverLoad_inv (h : ProfileInv initial world) {index : ℕ}
    (hstep : world.deliverLoad index = some next) : ProfileInv initial next := by
  obtain ⟨load, dbProfile, items, hload, hread, -, rfl⟩ := World.deliverLoad_some hstep
  obtain ⟨cloud, hcloud, hreceive⟩ := receiveLoaded (world.sessions load.client) load.generation
    load.ownerId dbProfile items
  exact endLoad_inv h hload cloud (fun read heq => hcloud read heq ▸ hread) hreceive

theorem loseLoad_inv (h : ProfileInv initial world) {index : ℕ}
    (hstep : world.loseLoad index = some next) : ProfileInv initial next := by
  obtain ⟨load, hload, rfl⟩ := World.loseLoad_some hstep
  exact endLoad_inv h hload none (fun read heq => nomatch heq) rfl

/-! ## Accounts -/

omit [DecidableEq ι] [IsStrictOrderedRing K] in
/-- Account writes leave the profiles alone. -/
theorem handle_userProfiles (db : Database K) (userId newId : String) {call : Call K}
    (hcall : call.isAccountWrite = true) :
    (db.handle userId newId call).1.userProfiles = db.userProfiles := by
  cases call with
  | createAccount body =>
    simp only [Database.handle]
    split
    · rfl
    · unfold Database.createAccount
      dsimp only
      split_ifs <;> rfl
  | updateAccount id body =>
    simp only [Database.handle]
    split
    · split
      · rfl
      · unfold Database.updateAccount
        split
        · rfl
        · split
          · rfl
          · dsimp only
            split <;> rfl
    · rfl
  | deleteAccount id =>
    simp only [Database.handle]
    split
    · unfold Database.deleteAccount
      split <;> rfl
    · rfl
  | getProfile | saveProfile | getAccounts | getAccount => cases hcall

omit [IsStrictOrderedRing K] in
/-- Requests about accounts come and go. -/
theorem accounts_inv (h : ProfileInv initial world) {database : Database K}
    {accountWrites : List (AccountWrite ι K)} (accountLists : List (AccountList ι K))
    (writesExecuted : ℕ) (hprofiles : database.userProfiles = world.database.userProfiles)
    (hwrites : ∀ write ∈ accountWrites, ∃ old ∈ world.accountWrites, write.call = old.call) :
    ProfileInv initial
      { world with database, accountWrites, accountLists, writesExecuted } := by
  have hrevision : ∀ owner,
      (database.userProfiles owner).map (·.revision) = world.revision owner := by
    intro owner
    rw [hprofiles]
    rfl
  refine ⟨h.plans, fun owner => ?_, fun owner => ?_, fun client => ?_, h.lawful,
    fun write hwrite => ?_⟩
  · show Proper ((database.userProfiles owner).map (·.revision))
    rw [hrevision]
    exact h.proper owner
  · exact (hrevision owner).trans (h.stored owner)
  · have hstored : (fun owner => (database.userProfiles owner).map (·.revision)) = world.revision :=
      funext hrevision
    show ClientInv client _ _ _ (fun owner => (database.userProfiles owner).map (·.revision)) _
    rw [hstored]
    exact h.clients client
  · obtain ⟨old, hold, hcall⟩ := hwrites write hwrite
    rw [hcall]
    exact h.writes old hold

omit [IsStrictOrderedRing K] in
theorem executeWrite_inv (h : ProfileInv initial world) {index : ℕ} {newId : String}
    (hstep : world.executeWrite index newId = some next) : ProfileInv initial next := by
  obtain ⟨write, hwrite, rfl⟩ := World.executeWrite_some hstep
  obtain ⟨before, after, hsplit, hset, -⟩ := split hwrite
  refine accounts_inv h _ _
    (handle_userProfiles _ _ _ (h.writes write (List.mem_of_getElem? hwrite))) ?_
  rw [hset, hsplit]
  have hcall : ∀ write : AccountWrite ι K, write.call = write.call := fun _ => rfl
  exact replaced_like hcall rfl

/-- An answer about accounts is taken. -/
theorem deliverAccounts_inv (h : ProfileInv initial world) {client : ι} {answer : Answer K}
    {accountWrites : List (AccountWrite ι K)} (accountLists : List (AccountList ι K))
    (hwrites : ∀ write ∈ accountWrites, ∃ old ∈ world.accountWrites, write.call = old.call)
    (hlink : ((world.sessions client).receive answer).1.link = (world.sessions client).link) :
    ProfileInv initial ({ world with accountWrites, accountLists }.deliver client answer []) := by
  have haccounts : ProfileInv initial { world with accountWrites, accountLists } :=
    accounts_inv h accountLists world.writesExecuted rfl hwrites
  refine deliverQuiet_inv haccounts ?_
  show ClientInv client ((world.sessions client).receive answer).1.link _ _ _ _
  rw [hlink]
  exact haccounts.clients client

theorem deliverWrite_inv (h : ProfileInv initial world) {index : ℕ}
    (hstep : world.deliverWrite index = some next) : ProfileInv initial next := by
  obtain ⟨write, response, hwrite, -, rfl⟩ := World.deliverWrite_some hstep
  exact deliverAccounts_inv h _ (fun other hother => ⟨other, List.mem_of_mem_eraseIdx hother, rfl⟩)
    (receiveAccounts_link write.ownerId write.call response [] "").1

theorem loseWrite_inv (h : ProfileInv initial world) {index : ℕ}
    (hstep : world.loseWrite index = some next) : ProfileInv initial next := by
  obtain ⟨write, hwrite, rfl⟩ := World.loseWrite_some hstep
  refine deliverAccounts_inv h _ (fun other hother => ?_) (accountFailed_link _ _)
  obtain hother | rfl := List.mem_or_eq_of_mem_set hother
  · exact ⟨other, hother, rfl⟩
  · exact ⟨write, List.mem_of_getElem? hwrite, rfl⟩

omit [IsStrictOrderedRing K] in
theorem readList_inv (h : ProfileInv initial world) {index : ℕ}
    (hstep : world.readList index = some next) : ProfileInv initial next := by
  obtain ⟨list, -, rfl⟩ := World.readList_some hstep
  exact accounts_inv h _ _ rfl fun write hwrite => ⟨write, hwrite, rfl⟩

theorem deliverList_inv (h : ProfileInv initial world) {index : ℕ}
    (hstep : world.deliverList index = some next) : ProfileInv initial next := by
  obtain ⟨list, items, -, -, rfl⟩ := World.deliverList_some hstep
  exact deliverAccounts_inv h _ (fun write hwrite => ⟨write, hwrite, rfl⟩)
    (receiveAccounts_link list.ownerId .getAccounts .noContent items "").2.1

theorem loseList_inv (h : ProfileInv initial world) {index : ℕ}
    (hstep : world.loseList index = some next) : ProfileInv initial next := by
  obtain ⟨list, -, rfl⟩ := World.loseList_some hstep
  exact deliverAccounts_inv h _ (fun write hwrite => ⟨write, hwrite, rfl⟩) (accountFailed_link _ _)

/-! ## Runs -/

theorem step_inv (h : ProfileInv initial world) {occurrence : Occurrence ι K Result Sensitivities}
    (hstep : world.step occurrence = some next) : ProfileInv initial next := by
  cases occurrence with
  | act client event =>
    cases hstep
    exact act_inv h client event
  | reload client bundle =>
    cases hstep
    exact reload_inv h client bundle
  | executeSave index => exact executeSave_inv h hstep
  | deliverSave index => exact deliverSave_inv h hstep
  | loseSave index => exact loseSave_inv h hstep
  | readProfile index => exact readProfile_inv h hstep
  | readAccounts index => exact readAccounts_inv h hstep
  | deliverLoad index => exact deliverLoad_inv h hstep
  | loseLoad index => exact loseLoad_inv h hstep
  | executeWrite index newId => exact executeWrite_inv h hstep
  | deliverWrite index => exact deliverWrite_inv h hstep
  | loseWrite index => exact loseWrite_inv h hstep
  | readList index => exact readList_inv h hstep
  | deliverList index => exact deliverList_inv h hstep
  | loseList index => exact loseList_inv h hstep

theorem initial_inv (h : world.Initial) : ProfileInv world.revision world where
  plans client := by
    obtain ⟨bundle, storage, hstart⟩ := h.sessions client
    rw [hstart]
    exact retirementPlanSchema_valid bundle.defaultPlan_ok
  proper owner := by
    intro n hn
    obtain ⟨row, hrow, rfl⟩ := Option.map_eq_some_iff.mp hn
    exact h.revisions owner row hrow
  stored owner := by
    rw [h.history]
    rfl
  clients client := by
    obtain ⟨bundle, storage, hstart⟩ := h.sessions client
    rw [hstart, h.saves, h.loads, h.history]
    refine ⟨fun owner hserves => ?_, fun hcloud => (nomatch hcloud), by simp, by simp, by simp,
      by simp, by simp, by simp, by simp, fun owner hconflicting => (nomatch hconflicting)⟩
    cases hserves.1
  lawful := by
    rw [h.history]
    trivial
  writes := by
    rw [h.accountWrites]
    exact fun _ hwrite => absurd hwrite List.not_mem_nil

/-! ## The main result -/

/-- The profiles committed so far, and what the server makes of the saves on their way. -/
structure ProfileChain (initial : String → Option ℤ) (world : World ι K Result Sensitivities) :
    Prop where
  lawful : LawfulHistory initial world.history
  stored : ∀ owner, world.revision owner = storedRevision initial owner world.history
  /-- A commit overwrites what its writer has committed itself or loaded. -/
  overwritten : ∀ later earlier client owner base revision settings,
    world.history = later ++ .committed client owner base revision settings :: earlier →
      ∀ writer, lastWriter owner earlier = some writer →
        writer = client ∨ ∃ r, base = some r ∧ HasLoaded client owner r earlier
  /-- A save is committed if and only if it was made against the stored revision. -/
  executed : ∀ index after, world.executeSave index = some after → ∃ save base,
    world.saves[index]? = some save ∧ save.Carries base ∧ SaveOutcome world index save base after

theorem profiles_chain (hinitial : world.Initial)
    (hrun : Reaches (Next World.step fun _ _ => True) world next) :
    ProfileChain world.revision next := by
  have h : ProfileInv world.revision next := by
    refine invariant (ProfileInv world.revision) ?_ (initial_inv hinitial) hrun
    rintro s t ⟨occurrence, -, hstep⟩ h
    exact step_inv h hstep
  refine ⟨h.lawful, h.stored, fun later earlier client owner base revision settings heq writer
    hwriter => ?_, fun index after hstep => ?_⟩
  · have hlawful := h.lawful
    rw [heq] at hlawful
    exact hlawful.after.overwritten hwriter
  · obtain ⟨save, hsave, -, houtcome⟩ := executeSave_outcome hstep
    obtain ⟨base, hcarries, -⟩ :=
      (h.clients save.client).sent save (List.mem_of_getElem? hsave) rfl
    exact ⟨save, base, hsave, hcarries, houtcome base hcarries⟩

/-! ## Two browsers, and a save that outlives a failed load -/

def setSpending (client : ι) (spending : ℚ) : Occurrence ι ℚ Result Sensitivities :=
  .act client (.updatePlan ⟨some [("currentSpending", .num spending)], none, none⟩)

/-- The user signs in, edits and saves. -/
def editWith (client : ι) (spending : ℚ) : List (Occurrence ι ℚ Result Sensitivities) :=
  signInWith client ++ [setSpending client spending, .act client .flush]

/-- Both browsers send a first save. The one sent first is executed first, and the other
one's browser hears of it first. -/
def firstSaves : List (Occurrence Bool ℚ Unit Unit) :=
  editWith true 61000 ++ editWith false 62000
    ++ [.executeSave 1, .executeSave 0, .deliverSave 0, .deliverSave 0]

/-- The save is executed after a later load has failed. -/
def lateSave : List (Occurrence Unit ℚ Unit Unit) :=
  editWith () 61000 ++ [.act () (.bootstrap (some "user") true), .loseLoad 0, .executeSave 0]

/-- The last observation is a commit of a client whose last load failed. -/
def commitsOffline : List (Observation ι K) → Bool
  | .committed client _ _ _ _ :: earlier => !online client earlier
  | _ => false

omit [DecidableEq ι] in
theorem newBrowsers_initial : (newBrowsers : World ι ℚ Result Sensitivities).Initial where
  sessions _ := ⟨newYearBundle, emptyStorage, rfl⟩
  revisions _ _ hrow := nomatch hrow
  saves := rfl
  loads := rfl
  accountWrites := rfl
  accountLists := rfl
  writesExecuted := rfl
  history := rfl

theorem newUserWorld_initial : newUserWorld.Initial := newBrowsers_initial

/-- The save executed second conflicts: its browser holds no revision, and the other one
holds the stored one. -/
theorem profiles_chain_firstSaves :
    ∃ next ∈ run World.step (fun _ _ => true) newBrowsers firstSaves,
      next.revision "user" = some 0 ∧
        (next.sessions true).state.profileRevision = some 0 ∧
        (next.sessions false).state.profileRevision = none ∧
        (next.sessions false).profileConflictDetected = true ∧
        ProfileChain (fun _ => none) next := by
  have hrun : ∃ next ∈ run World.step (fun _ _ => true) newBrowsers firstSaves,
      next.revision "user" = some 0 ∧
        (next.sessions true).state.profileRevision = some 0 ∧
        (next.sessions false).state.profileRevision = none ∧
        (next.sessions false).profileConflictDetected = true := by decide +kernel
  obtain ⟨next, hnext, hstored, hwinner, hloser, hconflict⟩ := hrun
  exact ⟨next, hnext, hstored, hwinner, hloser, hconflict,
    profiles_chain newBrowsers_initial (reachable_of_run hnext)⟩

/-- A client whose last load failed may commit. -/
theorem lateSave_commits :
    ∃ next, Reaches (Next World.step fun _ _ => True) newUserWorld next ∧
      ∃ client owner base revision settings earlier,
        next.history = .committed client owner base revision settings :: earlier ∧
          online client earlier = false := by
  have hrun : ∃ next ∈ run World.step (fun _ _ => true) newUserWorld lateSave,
      commitsOffline next.history = true := by decide +kernel
  obtain ⟨next, hnext, hoffline⟩ := hrun
  refine ⟨next, reachable_of_run hnext, ?_⟩
  cases hhistory : next.history with
  | nil => simp [hhistory, commitsOffline] at hoffline
  | cons seen earlier =>
    cases seen with
    | committed client owner base revision settings =>
      refine ⟨client, owner, base, revision, settings, earlier, rfl, ?_⟩
      simpa [hhistory, commitsOffline] using hoffline
    | _ => simp [hhistory, commitsOffline] at hoffline

end RetirementPlanner.Web
