import RetirementPlanner.Lib.InFlight
import RetirementPlanner.Proof.Codec
import RetirementPlanner.Proof.Link
import RetirementPlanner.Proof.ProfileHistory

/-!
# A client that saves profiles

The invariant of one client (`ClientInv`): in cloud mode it knows the revision it saves
against, the saves it has on their way were made against revisions it knew, and after a
conflict none of them can be committed any more. One lemma for each thing that can happen
to the client says that the invariant is kept; `ClientInv.mono` is for all that happens to
others.
-/

namespace RetirementPlanner.Web

open Schema InFlight

variable {ι K : Type} [DecidableEq ι] [Field K] [LinearOrder K]
  [FloorRing K]

/-! ## Revisions in order -/

/-- The place of a revision among them all, that of no row being before the first. -/
def place (revision : Option ℤ) : ℤ := revision.getD (-1)

/-- Revisions are never negative. -/
def Proper (revision : Option ℤ) : Prop := ∀ n ∈ revision, 0 ≤ n

theorem place_injective {a b : Option ℤ} (ha : Proper a) (hb : Proper b) (h : place a = place b) :
    a = b := by
  cases a with
  | none =>
    cases b with
    | none => rfl
    | some n =>
      have hn := hb n rfl
      simp only [place, Option.getD_none, Option.getD_some] at h
      omega
  | some m =>
    have hm := ha m rfl
    cases b with
    | none =>
      simp only [place, Option.getD_none, Option.getD_some] at h
      omega
    | some n => exact congrArg some h

theorem nextRevision_eq (base : Option ℤ) : nextRevision base = place base + 1 := by
  cases base <;> rfl

/-! ## Saves on their way -/

/-- The save was made against `base`. -/
def Save.Carries (save : Save ι K) (base : Option ℤ) : Prop :=
  ∃ data, saveProfileSchema (some save.body) = .ok data ∧ data.revision = base

omit [DecidableEq ι] in
theorem Save.Carries.unique {save : Save ι K} {a b : Option ℤ} (ha : save.Carries a)
    (hb : save.Carries b) : a = b := by
  obtain ⟨data, hdata, rfl⟩ := ha
  obtain ⟨data', hdata', rfl⟩ := hb
  rw [Except.ok.inj (hdata.symm.trans hdata')]

/-- A client's save for an owner that the server is yet to execute, made against `base`. -/
def Pending (saves : List (Save ι K)) (client : ι) (owner : String) (base : Option ℤ) : Prop :=
  ∃ save ∈ saves, save.client = client ∧ save.ownerId = owner ∧ save.answer = none ∧
    save.Carries base

/-- The same save, or one that is no longer waited for. -/
structure Save.Fades (save old : Save ι K) : Prop where
  client : save.client = old.client
  generation : save.generation = old.generation
  ownerId : save.ownerId = old.ownerId
  body : save.body = old.body
  answer : save.answer = old.answer
  waiting : save.waiting = true → old.waiting = true

omit [DecidableEq ι] [Field K] [LinearOrder K] [FloorRing K] in
theorem Save.Fades.refl (save : Save ι K) : save.Fades save := ⟨rfl, rfl, rfl, rfl, rfl, id⟩

omit [DecidableEq ι] in
theorem Save.Fades.carries {save old : Save ι K} (h : save.Fades old) {base : Option ℤ} :
    save.Carries base ↔ old.Carries base := by
  unfold Save.Carries
  rw [h.body]

/-- The same bootstrap, as far as its profile is concerned. -/
structure Load.Same (load old : Load ι K) : Prop where
  client : load.client = old.client
  generation : load.generation = old.generation
  ownerId : load.ownerId = old.ownerId
  dbProfile : load.dbProfile = old.dbProfile

omit [DecidableEq ι] [Field K] [LinearOrder K] [FloorRing K] in
theorem Load.Same.refl (load : Load ι K) : load.Same load := ⟨rfl, rfl, rfl, rfl⟩

/-- The client has made or loaded what it takes for the stored revision. -/
def Knows (client : ι) (owner : String) (base : Option ℤ) (history : List (Observation ι K)) :
    Prop :=
  ∀ r, base = some r → HasLoaded client owner r history ∨ HasCommitted client owner r history

omit [DecidableEq ι] [Field K] [LinearOrder K] [FloorRing K] in
theorem HasCommitted.append {client : ι} {owner : String} {n : ℤ}
    {history : List (Observation ι K)} (h : HasCommitted client owner n history)
    {l : List (Observation ι K)} : HasCommitted client owner n (l ++ history) := by
  obtain ⟨base, settings, hmem⟩ := h
  exact ⟨base, settings, List.mem_append_right _ hmem⟩

omit [DecidableEq ι] [Field K] [LinearOrder K] [FloorRing K] in
theorem Knows.append {client : ι} {owner : String} {base : Option ℤ}
    {history : List (Observation ι K)} (h : Knows client owner base history)
    {l : List (Observation ι K)} : Knows client owner base (l ++ history) := by
  intro r hr
  obtain ⟨settings, hmem⟩ | hcommitted := h r hr
  · exact .inl ⟨settings, List.mem_append_right _ hmem⟩
  · exact .inr hcommitted.append

/-- The session of a client waits for a save. -/
def Save.waitsFor (client : ι) (save : Save ι K) : Bool :=
  save.waiting && decide (save.client = client)

/-- A client's bootstrap that has not been overtaken by another. -/
def Load.isCurrent (client : ι) (generation : ℕ) (load : Load ι K) : Bool :=
  decide (load.client = client) && decide (load.generation = generation)

/-! ## The invariant of a client -/

structure ClientInv (client : ι) (link : Link) (saves : List (Save ι K)) (loads : List (Load ι K))
    (stored : String → Option ℤ) (history : List (Observation ι K)) : Prop where
  /-- In cloud mode the client knows its base, which is at most what is stored. -/
  serves : ∀ owner, link.Serves owner → Knows client owner link.profileRevision history ∧
    Proper link.profileRevision ∧ place link.profileRevision ≤ place (stored owner) ∧
    ∀ base, Pending saves client owner base → place base ≤ place link.profileRevision
  online : link.cloudAvailable = true → online client history = true
  sent : ∀ save ∈ saves, save.client = client → ∃ base, save.Carries base ∧ Proper base ∧
    .saveSent client save.ownerId base ∈ history ∧ Knows client save.ownerId base history ∧
    place base ≤ place (stored save.ownerId)
  committed : ∀ save ∈ saves, save.client = client → ∀ n, save.answer = some (.revision n) →
    HasCommitted client save.ownerId n history ∧ 0 ≤ n ∧ n ≤ place (stored save.ownerId) ∧
    ∀ base, save.Carries base → place base < n
  refused : ∀ save ∈ saves, save.client = client → save.answer = some (.failed 409) →
    ∀ base, save.Carries base → place base < place (stored save.ownerId)
  /-- A save that still concerns the session was made against its revision. -/
  live : ∀ save ∈ saves, save.client = client → save.waiting = true →
    save.generation ≤ link.bootstrapGeneration ∧
    (link.Owns save.generation save.ownerId →
      link.cloudAvailable = true ∧ save.Carries link.profileRevision)
  single : saves.countP (Save.waitsFor client) ≤ if link.profileSaveInFlight then 1 else 0
  reads : ∀ load ∈ loads, load.client = client → load.generation ≤ link.bootstrapGeneration ∧
    (load.generation = link.bootstrapGeneration →
      link.cloudAvailable = false ∧ link.authUser = some load.ownerId ∧
      ∀ row, load.dbProfile = some row →
        Proper (row.map (·.revision)) ∧
        place (row.map (·.revision)) ≤ place (stored load.ownerId) ∧
        ∀ base, Pending saves client load.ownerId base → place base ≤ place (row.map (·.revision)))
  current : loads.countP (Load.isCurrent client link.bootstrapGeneration) ≤ 1
  /-- After a conflict nothing the client has sent can be committed any more. -/
  conflict : ∀ owner, conflicting client owner history = true →
    (link.Serves owner → link.profileConflictDetected = true) ∧
    ∀ base, Pending saves client owner base → place base < place (stored owner)

namespace ClientInv

variable {client : ι} {link : Link} {saves saves' : List (Save ι K)}
  {loads loads' : List (Load ι K)} {stored stored' : String → Option ℤ}
  {seens history : List (Observation ι K)}

theorem mono (h : ClientInv client link saves loads stored history)
    (hsaves : ∀ save ∈ saves', save.client = client → ∃ old ∈ saves, save.Fades old)
    (hsingle : saves'.countP (Save.waitsFor client) ≤ saves.countP (Save.waitsFor client))
    (hloads : ∀ load ∈ loads', load.client = client → ∃ old ∈ loads, load.Same old)
    (hcurrent : loads'.countP (Load.isCurrent client link.bootstrapGeneration)
      ≤ loads.countP (Load.isCurrent client link.bootstrapGeneration))
    (hstored : ∀ owner, place (stored owner) ≤ place (stored' owner))
    (hseens : ∀ seen ∈ seens, seen.settles client = false) :
    ClientInv client link saves' loads' stored' (seens ++ history) := by
  have hpending : ∀ {owner base}, Pending saves' client owner base →
      Pending saves client owner base := by
    rintro owner base ⟨save, hsave, hclient, howner, hanswer, hcarries⟩
    obtain ⟨old, hold, hfades⟩ := hsaves save hsave hclient
    exact ⟨old, hold, hfades.client ▸ hclient, hfades.ownerId ▸ howner, hfades.answer ▸ hanswer,
      hfades.carries.mp hcarries⟩
  refine ⟨fun owner hserves => ?_, fun hcloud => ?_, fun save hsave hclient => ?_,
    fun save hsave hclient n hanswer => ?_, fun save hsave hclient hanswer base hcarries => ?_,
    fun save hsave hclient hwaiting => ?_, hsingle.trans h.single, fun load hload hclient => ?_,
    hcurrent.trans h.current, fun owner hconflict => ?_⟩
  · obtain ⟨hknows, hproper, hle, hahead⟩ := h.serves owner hserves
    exact ⟨hknows.append, hproper, hle.trans (hstored owner),
      fun base hbase => hahead base (hpending hbase)⟩
  · rw [online_append hseens]
    exact h.online hcloud
  · obtain ⟨old, hold, hfades⟩ := hsaves save hsave hclient
    obtain ⟨base, hcarries, hproper, hsent, hknows, hle⟩ :=
      h.sent old hold (hfades.client ▸ hclient)
    rw [← hfades.ownerId] at hsent hknows hle
    exact ⟨base, hfades.carries.mpr hcarries, hproper, List.mem_append_right _ hsent,
      hknows.append, hle.trans (hstored _)⟩
  · obtain ⟨old, hold, hfades⟩ := hsaves save hsave hclient
    obtain ⟨hcommitted, hnonneg, hle, hlt⟩ :=
      h.committed old hold (hfades.client ▸ hclient) n (hfades.answer ▸ hanswer)
    rw [← hfades.ownerId] at hcommitted hle
    exact ⟨hcommitted.append, hnonneg, hle.trans (hstored _),
      fun base hcarries => hlt base (hfades.carries.mp hcarries)⟩
  · obtain ⟨old, hold, hfades⟩ := hsaves save hsave hclient
    have hlt := h.refused old hold (hfades.client ▸ hclient) (hfades.answer ▸ hanswer) base
      (hfades.carries.mp hcarries)
    rw [← hfades.ownerId] at hlt
    exact hlt.trans_le (hstored _)
  · obtain ⟨old, hold, hfades⟩ := hsaves save hsave hclient
    obtain ⟨hle, howns⟩ := h.live old hold (hfades.client ▸ hclient) (hfades.waiting hwaiting)
    rw [← hfades.generation, ← hfades.ownerId] at howns
    refine ⟨hfades.generation ▸ hle, fun how => ?_⟩
    obtain ⟨hcloud, hcarries⟩ := howns how
    exact ⟨hcloud, hfades.carries.mpr hcarries⟩
  · obtain ⟨old, hold, hsame⟩ := hloads load hload hclient
    obtain ⟨hle, hcurrent⟩ := h.reads old hold (hsame.client ▸ hclient)
    rw [← hsame.generation, ← hsame.ownerId, ← hsame.dbProfile] at hcurrent
    refine ⟨hsame.generation ▸ hle, fun heq => ?_⟩
    obtain ⟨hcloud, hauth, hrow⟩ := hcurrent heq
    refine ⟨hcloud, hauth, fun row hread => ?_⟩
    obtain ⟨hproper, hle, hahead⟩ := hrow row hread
    exact ⟨hproper, hle.trans (hstored _), fun base hbase => hahead base (hpending hbase)⟩
  · rw [conflicting_append hseens] at hconflict
    obtain ⟨hflag, hbehind⟩ := h.conflict owner hconflict
    exact ⟨hflag, fun base hbase => (hbehind base (hpending hbase)).trans_le (hstored owner)⟩

/-- Some saves are no longer waited for, and bootstraps read accounts or are over. -/
theorem thin (h : ClientInv client link saves loads stored history)
    (hsaves : ∀ save ∈ saves', save.client = client → ∃ old ∈ saves, save.Fades old)
    (hsingle : saves'.countP (Save.waitsFor client) ≤ saves.countP (Save.waitsFor client))
    (hloads : ∀ load ∈ loads', load.client = client → ∃ old ∈ loads, load.Same old)
    (hcurrent : loads'.countP (Load.isCurrent client link.bootstrapGeneration)
      ≤ loads.countP (Load.isCurrent client link.bootstrapGeneration)) :
    ClientInv client link saves' loads' stored history := by
  have hkept : ClientInv client link saves' loads' stored ([] ++ history) :=
    h.mono hsaves hsingle hloads hcurrent (fun _ => le_refl _)
      (fun seen hseen => absurd hseen List.not_mem_nil)
  exact hkept

/-- A bootstrap begins. -/
theorem restart (h : ClientInv client link saves loads stored history) (link' : Link)
    (hcloud : link'.cloudAvailable = false)
    (hgeneration : link'.bootstrapGeneration = link.bootstrapGeneration + 1)
    (hflight : link'.profileSaveInFlight = link.profileSaveInFlight)
    (fresh : List (Load ι K)) (hlength : fresh.length ≤ 1)
    (hnew : ∀ load ∈ fresh, load.generation = link.bootstrapGeneration + 1 ∧
      link'.authUser = some load.ownerId ∧ load.dbProfile = none) :
    ClientInv client link' saves (fresh ++ loads) stored history := by
  have hserves : ∀ owner, ¬ link'.Serves owner := by
    rintro owner ⟨hcloud', -⟩
    exact absurd (hcloud.symm.trans hcloud') (by decide)
  refine ⟨fun owner hserve => absurd hserve (hserves owner), fun hcloud' => ?_, h.sent,
    h.committed, h.refused, fun save hsave hclient hwaiting => ?_, hflight ▸ h.single,
    fun load hload hclient => ?_, ?_, fun owner hconflict => ?_⟩
  · exact absurd (hcloud.symm.trans hcloud') (by decide)
  · -- Every save is of an earlier generation.
    have hle := (h.live save hsave hclient hwaiting).1
    refine ⟨by omega, fun howns => ?_⟩
    have heq := howns.1
    omega
  · obtain hload | hload := List.mem_append.mp hload
    · obtain ⟨hload, howner, hnone⟩ := hnew load hload
      refine ⟨by omega, fun _ => ⟨hcloud, howner, fun row hrow => ?_⟩⟩
      exact absurd (hnone.symm.trans hrow) (by simp)
    · have hle := (h.reads load hload hclient).1
      exact ⟨by omega, fun heq => by omega⟩
  · have hold : loads.countP (Load.isCurrent client link'.bootstrapGeneration) = 0 := by
      rw [List.countP_eq_zero]
      intro load hload hcurrent
      simp only [Load.isCurrent, Bool.and_eq_true, decide_eq_true_eq] at hcurrent
      have hle := (h.reads load hload hcurrent.1).1
      omega
    rw [List.countP_append, hold]
    exact List.countP_le_length.trans hlength
  · exact ⟨fun hserve => absurd hserve (hserves owner), (h.conflict owner hconflict).2⟩

/-- A save is sent against the session's revision. -/
theorem send (h : ClientInv client link saves loads stored history) {ownerId : String}
    (hserves : link.Serves ownerId) (hflight : link.profileSaveInFlight = false)
    (hconflict : link.profileConflictDetected = false) {body : Json K}
    (hcarries : Save.Carries
      (⟨client, link.bootstrapGeneration, ownerId, body, true, none⟩ : Save ι K)
      link.profileRevision) :
    ClientInv client link.send
      (⟨client, link.bootstrapGeneration, ownerId, body, true, none⟩ :: saves) loads stored
      (.saveSent client ownerId link.profileRevision :: history) := by
  have hknows' := (h.serves ownerId hserves).1
  obtain ⟨-, hproper, hle, -⟩ := h.serves ownerId hserves
  have hpending : ∀ {owner base}, Pending (⟨client, link.bootstrapGeneration, ownerId, body, true,
      none⟩ :: saves) client owner base →
        (owner = ownerId ∧ base = link.profileRevision) ∨ Pending saves client owner base := by
    rintro owner base ⟨save, hsave, hclient, howner, hanswer, hbase⟩
    obtain rfl | hsave := List.mem_cons.mp hsave
    · exact .inl ⟨howner.symm, hbase.unique hcarries⟩
    · exact .inr ⟨save, hsave, hclient, howner, hanswer, hbase⟩
  refine ⟨fun owner hserve => ?_, h.online, fun save hsave hclient => ?_,
    fun save hsave hclient n hanswer => ?_, fun save hsave hclient hanswer base hbase => ?_,
    fun save hsave hclient hwaiting => ?_, ?_, fun load hload hclient => ?_, h.current,
    fun owner hconflicting => ?_⟩
  · obtain ⟨hknows, hproper, hle, hahead⟩ := h.serves owner hserve
    refine ⟨hknows.append (l := [_]), hproper, hle, fun base hbase => ?_⟩
    obtain ⟨-, rfl⟩ | hbase := hpending hbase
    · exact le_refl _
    · exact hahead base hbase
  · obtain rfl | hsave := List.mem_cons.mp hsave
    · exact ⟨link.profileRevision, hcarries, hproper, List.mem_cons_self, hknows'.append (l := [_]),
        hle⟩
    · obtain ⟨base, hbase, hproper, hsent, hknows, hle⟩ := h.sent save hsave hclient
      exact ⟨base, hbase, hproper, List.mem_cons_of_mem _ hsent, hknows.append (l := [_]), hle⟩
  · obtain rfl | hsave := List.mem_cons.mp hsave
    · cases hanswer
    · obtain ⟨hcommitted, hrest⟩ := h.committed save hsave hclient n hanswer
      exact ⟨hcommitted.append (l := [_]), hrest⟩
  · obtain rfl | hsave := List.mem_cons.mp hsave
    · cases hanswer
    · exact h.refused save hsave hclient hanswer base hbase
  · obtain rfl | hsave := List.mem_cons.mp hsave
    · exact ⟨le_refl _, fun _ => ⟨hserves.1, hcarries⟩⟩
    · exact h.live save hsave hclient hwaiting
  · have hnone : saves.countP (Save.waitsFor client) ≤ 0 := by
      simpa only [hflight, Bool.false_eq_true, if_false] using h.single
    rw [List.countP_cons_of_pos (by simp [Save.waitsFor])]
    exact Nat.succ_le_succ hnone
  · -- While a bootstrap is on its way nothing is sent.
    obtain ⟨hle, hcurrent⟩ := h.reads load hload hclient
    refine ⟨hle, fun heq => ?_⟩
    exact absurd (hserves.1.symm.trans (hcurrent heq).1) (by decide)
  · obtain ⟨hflag, hbehind⟩ := h.conflict owner hconflicting
    refine ⟨hflag, fun base hbase => ?_⟩
    obtain ⟨rfl, rfl⟩ | hbase := hpending hbase
    · exact absurd ((hflag hserves).symm.trans hconflict) (by decide)
    · exact hbehind base hbase

/-- The server executes a save of the client. -/
theorem execute {before after : List (Save ι K)} {save : Save ι K}
    (hsaves : saves = before ++ save :: after)
    (h : ClientInv client link saves loads stored history) (hclient : save.client = client)
    (response : Response K) (hstored : ∀ owner, place (stored owner) ≤ place (stored' owner))
    (hcommitted : ∀ n, response = .revision n →
      HasCommitted client save.ownerId n (seens ++ history) ∧ 0 ≤ n ∧
        n ≤ place (stored' save.ownerId) ∧ ∀ base, save.Carries base → place base < n)
    (hrefused : response = .failed 409 →
      ∀ base, save.Carries base → place base < place (stored' save.ownerId))
    (hseens : ∀ seen ∈ seens, seen.settles client = false) :
    ClientInv client link (before ++ { save with answer := some response } :: after) loads stored'
      (seens ++ history) := by
  have hmem : save ∈ saves := by simp [hsaves]
  have hcases : ∀ other ∈ before ++ { save with answer := some response } :: after,
      other ∈ saves ∨ other = { save with answer := some response } := by
    intro other hother
    rw [hsaves]
    exact mem_replaced save hother
  have hpending : ∀ {owner base}, Pending (before ++ { save with answer := some response } :: after)
      client owner base → Pending saves client owner base := by
    rintro owner base ⟨other, hother, hclient, howner, hanswer, hbase⟩
    obtain hother | rfl := hcases other hother
    · exact ⟨other, hother, hclient, howner, hanswer, hbase⟩
    · cases hanswer
  refine ⟨fun owner hserves => ?_, fun hcloud => ?_, fun other hother hclient' => ?_,
    fun other hother hclient' n hanswer => ?_, fun other hother hclient' hanswer base hbase => ?_,
    fun other hother hclient' hwaiting => ?_, ?_, fun load hload hclient' => ?_, h.current,
    fun owner hconflicting => ?_⟩
  · obtain ⟨hknows, hproper, hle, hahead⟩ := h.serves owner hserves
    exact ⟨hknows.append, hproper, hle.trans (hstored owner),
      fun base hbase => hahead base (hpending hbase)⟩
  · rw [online_append hseens]
    exact h.online hcloud
  · have hsent : ∀ old ∈ saves, old.client = client → ∃ base, old.Carries base ∧ Proper base ∧
        .saveSent client old.ownerId base ∈ seens ++ history ∧
        Knows client old.ownerId base (seens ++ history) ∧
        place base ≤ place (stored' old.ownerId) := by
      intro old hold hclient
      obtain ⟨base, hbase, hproper, hsent, hknows, hle⟩ := h.sent old hold hclient
      exact ⟨base, hbase, hproper, List.mem_append_right _ hsent, hknows.append,
        hle.trans (hstored _)⟩
    obtain hother | rfl := hcases other hother
    · exact hsent other hother hclient'
    · exact hsent save hmem hclient
  · obtain hother | rfl := hcases other hother
    · obtain ⟨hcommitted, hnonneg, hle, hlt⟩ := h.committed other hother hclient' n hanswer
      exact ⟨hcommitted.append, hnonneg, hle.trans (hstored _), hlt⟩
    · exact hcommitted n (Option.some.inj hanswer)
  · obtain hother | rfl := hcases other hother
    · exact (h.refused other hother hclient' hanswer base hbase).trans_le (hstored _)
    · exact hrefused (Option.some.inj hanswer) base hbase
  · obtain hother | rfl := hcases other hother
    · exact h.live other hother hclient' hwaiting
    · exact h.live save hmem hclient hwaiting
  · have hsingle := h.single
    rw [hsaves] at hsingle
    simp only [List.countP_append, List.countP_cons] at hsingle ⊢
    exact hsingle
  · obtain ⟨hle, hcurrent⟩ := h.reads load hload hclient'
    refine ⟨hle, fun heq => ?_⟩
    obtain ⟨hcloud, hauth, hrow⟩ := hcurrent heq
    refine ⟨hcloud, hauth, fun row hread => ?_⟩
    obtain ⟨hproper, hle, hahead⟩ := hrow row hread
    exact ⟨hproper, hle.trans (hstored _), fun base hbase => hahead base (hpending hbase)⟩
  · rw [conflicting_append hseens] at hconflicting
    obtain ⟨hflag, hbehind⟩ := h.conflict owner hconflicting
    exact ⟨hflag, fun base hbase => (hbehind base (hpending hbase)).trans_le (hstored owner)⟩

/-- No save is waited for any more. -/
theorem settle (h : ClientInv client link saves loads stored history)
    (hnone : saves.countP (Save.waitsFor client) = 0) :
    ClientInv client link.settle saves loads stored history :=
  ⟨h.serves, h.online, h.sent, h.committed, h.refused, h.live, hnone.le, h.reads, h.current,
    h.conflict⟩

/-- The session takes over the revision that its save was answered with. -/
theorem acknowledge (h : ClientInv client link saves loads stored history)
    (hnone : saves.countP (Save.waitsFor client) = 0) {ownerId : String}
    (hserves : link.Serves ownerId) {n : ℤ} (hcommitted : HasCommitted client ownerId n history)
    (hnonneg : 0 ≤ n) (hle : n ≤ place (stored ownerId)) (hlt : place link.profileRevision < n) :
    ClientInv client { link.settle with profileRevision := some n } saves loads stored history := by
  refine ⟨fun owner hserve => ?_, h.online, h.sent, h.committed, h.refused,
    fun save hsave hclient hwaiting => ?_, hnone.le, h.reads, h.current, h.conflict⟩
  · have howner : owner = ownerId := Option.some.inj (hserve.2.symm.trans hserves.2)
    subst howner
    obtain ⟨-, -, -, hahead⟩ := h.serves owner hserves
    refine ⟨fun r hr => ?_, fun r hr => ?_, hle, fun base hbase => ?_⟩
    · cases hr
      exact .inr hcommitted
    · cases hr
      exact hnonneg
    · exact (hahead base hbase).trans hlt.le
  · rw [List.countP_eq_zero] at hnone
    exact absurd (by simp [Save.waitsFor, hwaiting, hclient]) (hnone save hsave)

/-- The session learns that its save conflicted. -/
theorem reject (h : ClientInv client link saves loads stored history)
    (hnone : saves.countP (Save.waitsFor client) = 0) {ownerId : String}
    (hserves : link.Serves ownerId) (hlt : place link.profileRevision < place (stored ownerId)) :
    ClientInv client { link.settle with profileConflictDetected := true } saves loads stored
      (.conflicted client ownerId :: history) := by
  refine ⟨fun owner hserve => ?_, h.online, fun save hsave hclient => ?_,
    fun save hsave hclient n hanswer => ?_, h.refused, h.live, hnone.le, h.reads, h.current,
    fun owner hconflicting => ⟨fun _ => rfl, fun base hbase => ?_⟩⟩
  · obtain ⟨hknows, hrest⟩ := h.serves owner hserve
    exact ⟨hknows.append (l := [_]), hrest⟩
  · obtain ⟨base, hbase, hproper, hsent, hknows, hle⟩ := h.sent save hsave hclient
    exact ⟨base, hbase, hproper, List.mem_cons_of_mem _ hsent, hknows.append (l := [_]), hle⟩
  · obtain ⟨hcommitted, hrest⟩ := h.committed save hsave hclient n hanswer
    exact ⟨hcommitted.append (l := [_]), hrest⟩
  · by_cases howner : owner = ownerId
    · subst howner
      exact ((h.serves owner hserves).2.2.2 base hbase).trans_lt hlt
    · have hother : ¬(client = client ∧ ownerId = owner) := fun heq => howner heq.2.symm
      have hbefore : conflicting client owner history = true :=
        (if_neg hother).symm.trans hconflicting
      exact (h.conflict owner hbefore).2 base hbase

/-- The server reads a row for the client. -/
theorem read {before after : List (Load ι K)} {load : Load ι K}
    (hloads : loads = before ++ load :: after)
    (h : ClientInv client link saves loads stored history)
    {row : Option (ProfileSettings K)} (hproper : Proper (row.map (·.revision)))
    (hrow : row.map (·.revision) = stored load.ownerId) :
    ClientInv client link saves (before ++ { load with dbProfile := some row } :: after) stored
      history := by
  refine ⟨h.serves, h.online, h.sent, h.committed, h.refused, h.live, h.single,
    fun other hother hclient => ?_, ?_, h.conflict⟩
  · have hcases : other ∈ loads ∨ other = { load with dbProfile := some row } := by
      rw [hloads]
      exact mem_replaced load hother
    obtain hother | rfl := hcases
    · exact h.reads other hother hclient
    · obtain ⟨hle, hcurrent⟩ := h.reads load (by simp [hloads]) hclient
      refine ⟨hle, fun heq => ?_⟩
      obtain ⟨hcloud, hauth, -⟩ := hcurrent heq
      refine ⟨hcloud, hauth, fun row' hread => ?_⟩
      obtain rfl := Option.some.inj hread
      rw [hrow] at hproper ⊢
      refine ⟨hproper, le_refl _, ?_⟩
      rintro base ⟨save, hsave, hclient, howner, -, hbase⟩
      obtain ⟨base', hbase', -, -, -, hle⟩ := h.sent save hsave hclient
      rw [howner, hbase'.unique hbase] at hle
      exact hle
  · have hcurrent := h.current
    rw [hloads] at hcurrent
    simp only [List.countP_append, List.countP_cons] at hcurrent ⊢
    exact hcurrent

/-- A bootstrap ends. -/
theorem finish {before after : List (Load ι K)} {load : Load ι K}
    (hloads : loads = before ++ load :: after)
    (h : ClientInv client link saves loads stored history) (hclient : load.client = client)
    (hgeneration : load.generation = link.bootstrapGeneration) {cloudAvailable : Bool}
    {row : Option ℤ}
    (hrow : cloudAvailable = true →
      ∃ dbProfile, load.dbProfile = some dbProfile ∧ row = dbProfile.map (·.revision))
    (settings : Settings K) :
    ClientInv client (link.finish cloudAvailable row) saves (before ++ after) stored
      ((if cloudAvailable then .loaded client (some load.ownerId) row settings
        else .loadFailed client) :: history) := by
  obtain ⟨-, hcurrent⟩ := h.reads load (by simp [hloads]) hclient
  obtain ⟨hcloud, hauth, hread⟩ := hcurrent hgeneration
  have hmem : ∀ other ∈ before ++ after, other ∈ loads := by
    intro other hother
    rw [hloads]
    obtain hother | hother := List.mem_append.mp hother <;> simp [hother]
  -- No other bootstrap is current.
  have hnone : (before ++ after).countP (Load.isCurrent client link.bootstrapGeneration) = 0 := by
    have hone := h.current
    have hload : load.isCurrent client link.bootstrapGeneration = true := by
      simp [Load.isCurrent, hclient, hgeneration]
    rw [hloads, List.countP_append, List.countP_cons_of_pos hload] at hone
    rw [List.countP_append]
    omega
  have hstale : ∀ other ∈ before ++ after, other.client = client →
      other.generation ≠ link.bootstrapGeneration := by
    rw [List.countP_eq_zero] at hnone
    intro other hother hclient heq
    exact hnone other hother (by simp [Load.isCurrent, hclient, heq])
  refine ⟨fun owner hserve => ?_, fun hcloud' => ?_, fun save hsave hclient => ?_,
    fun save hsave hclient n hanswer => ?_, h.refused, fun save hsave hclient hwaiting => ?_,
    h.single, fun other hother hclient => ?_, hnone.le.trans (Nat.zero_le 1),
    fun owner hconflicting => ?_⟩
  · obtain ⟨rfl, howner⟩ := hserve
    have howner : owner = load.ownerId := Option.some.inj (howner.symm.trans hauth)
    subst howner
    obtain ⟨dbProfile, hdb, rfl⟩ := hrow rfl
    obtain ⟨hproper, hle, hahead⟩ := hread dbProfile hdb
    refine ⟨fun r hr => .inl ⟨settings, ?_⟩, hproper, hle, hahead⟩
    have hr : dbProfile.map (·.revision) = some r := hr
    rw [hr]
    exact List.mem_cons_self
  · obtain rfl : cloudAvailable = true := hcloud'
    exact if_pos rfl
  · obtain ⟨base, hbase, hproper, hsent, hknows, hle⟩ := h.sent save hsave hclient
    exact ⟨base, hbase, hproper, List.mem_cons_of_mem _ hsent, hknows.append (l := [_]), hle⟩
  · obtain ⟨hcommitted, hrest⟩ := h.committed save hsave hclient n hanswer
    exact ⟨hcommitted.append (l := [_]), hrest⟩
  · -- A save of this generation would have been sent in cloud mode.
    obtain ⟨hle, howns⟩ := h.live save hsave hclient hwaiting
    refine ⟨hle, fun how => ?_⟩
    exact absurd (hcloud.symm.trans (howns how).1) (by decide)
  · exact ⟨(h.reads other (hmem other hother) hclient).1,
      fun heq => absurd heq (hstale other hother hclient)⟩
  · cases cloudAvailable with
    | false =>
      have hbefore : conflicting client owner history = true := hconflicting
      refine ⟨fun hserve => ?_, (h.conflict owner hbefore).2⟩
      cases hserve.1
    | true =>
      by_cases howner : load.ownerId = owner
      · have hreset : ¬ (false = true) := by decide
        subst howner
        exact absurd ((if_pos ⟨rfl, rfl⟩).symm.trans hconflicting) hreset
      · have hother : ¬(client = client ∧ some load.ownerId = some owner) :=
          fun heq => howner (Option.some.inj heq.2)
        have hbefore : conflicting client owner history = true :=
          (if_neg hother).symm.trans hconflicting
        refine ⟨fun hserve => ?_, (h.conflict owner hbefore).2⟩
        exact absurd (Option.some.inj (hauth.symm.trans hserve.2)) howner

/-- The page is loaded anew. -/
theorem reload (h : ClientInv client link saves loads stored history) {link' : Link}
    (hcloud : link'.cloudAvailable = false)
    (hsaves : ∀ save ∈ saves', save.client = client →
      (∃ old ∈ saves, save.Fades old) ∧ save.waiting = false)
    (hloads : ∀ load ∈ loads', load.client ≠ client) :
    ClientInv client link' saves' loads' stored history := by
  have hnosave : saves'.countP (Save.waitsFor client) = 0 := by
    rw [List.countP_eq_zero]
    intro save hsave hwaits
    obtain ⟨hwaiting, hclient⟩ := (Bool.and_eq_true _ _).mp hwaits
    exact absurd ((hsaves save hsave (of_decide_eq_true hclient)).2.symm.trans hwaiting) (by decide)
  have hnoload : ∀ generation, loads'.countP (Load.isCurrent client generation) = 0 := by
    intro generation
    rw [List.countP_eq_zero]
    intro load hload hcurrent
    exact hloads load hload (of_decide_eq_true ((Bool.and_eq_true _ _).mp hcurrent).1)
  have hkept : ClientInv client link saves' loads' stored history :=
    h.thin (fun save hsave hclient => (hsaves save hsave hclient).1)
      (hnosave.le.trans (Nat.zero_le _))
      (fun load hload hclient => absurd hclient (hloads load hload))
      ((hnoload _).le.trans (Nat.zero_le _))
  refine ⟨fun owner hserve => ?_, fun hcloud' => ?_, hkept.sent, hkept.committed, hkept.refused,
    fun save hsave hclient hwaiting => ?_, hnosave.le.trans (Nat.zero_le _),
    fun load hload hclient => absurd hclient (hloads load hload),
    (hnoload _).le.trans (Nat.zero_le _),
    fun owner hconflicting => ⟨fun hserve => ?_, (hkept.conflict owner hconflicting).2⟩⟩
  · exact absurd (hcloud.symm.trans hserve.1) (by decide)
  · exact absurd (hcloud.symm.trans hcloud') (by decide)
  · exact absurd ((hsaves save hsave hclient).2.symm.trans hwaiting) (by decide)
  · exact absurd (hcloud.symm.trans hserve.1) (by decide)

end ClientInv

/-! ## Events -/

variable {initial : String → Option ℤ} {client : ι} {plan : RetirementPlan K} {link link' : Link}
  {request : Option (Request K)} {saves : List (Save ι K)} {loads : List (Load ι K)}
  {stored : String → Option ℤ} {seens history : List (Observation ι K)}

omit [DecidableEq ι] in
/-- A save of a valid plan carries the session's revision. -/
theorem saveBody_carries [IsStrictOrderedRing K] (hplan : ValidPlan plan) {revision : Option ℤ}
    (hproper : Proper revision) (generation : ℕ) (ownerId : String) :
    Save.Carries (⟨client, generation, ownerId, saveBody plan revision, true, none⟩ : Save ι K)
      revision :=
  ⟨_, saveProfileSchema_settings hplan.settings hproper, rfl⟩

/-- An event of the loop keeps the invariant. -/
theorem LinkStep.inv [IsStrictOrderedRing K]
    (hstep : LinkStep client plan link link' request seens) (hplan : ValidPlan plan)
    (h : ClientInv client link saves loads stored history) :
    ClientInv client link' (newSaves client request ++ saves) (newLoads client request ++ loads)
      stored (seens ++ history) := by
  cases hstep with
  | quiet _ _ hsaves hloads _ hseens =>
    rw [hsaves, hloads]
    refine h.mono (fun save hsave _ => ⟨save, hsave, .refl save⟩) (le_refl _)
      (fun load hload _ => ⟨load, hload, .refl load⟩) (le_refl _) (fun _ => le_refl _) ?_
    intro seen hseen
    obtain ⟨ownerId, settings, cached, rfl⟩ := hseens seen hseen
    rfl
  | load ownerId =>
    refine h.restart (link.start (some ownerId)) rfl rfl rfl
      [⟨client, link.bootstrapGeneration + 1, ownerId, none, none⟩] (le_refl 1) ?_
    intro load hload
    obtain rfl := List.mem_singleton.mp hload
    exact ⟨rfl, rfl, rfl⟩
  | offline authUser =>
    exact h.restart ((link.start authUser).finish false none) rfl rfl rfl [] (Nat.zero_le 1)
      (by simp)
  | save ownerId hserves hflight hconflict =>
    exact h.send hserves hflight hconflict
      (saveBody_carries hplan (h.serves ownerId hserves).2.1 _ _)

omit [LinearOrder K] [FloorRing K] in
/-- An event of the loop commits and settles nothing. -/
theorem LinkStep.foreign (hstep : LinkStep client plan link link' request seens) :
    ∀ seen ∈ seens, seen.isCommit = false ∧ ∀ other, seen.settles other = false := by
  cases hstep with
  | quiet _ _ _ _ _ hseens =>
    intro seen hseen
    obtain ⟨ownerId, settings, cached, rfl⟩ := hseens seen hseen
    exact ⟨rfl, fun _ => rfl⟩
  | load | offline => simp
  | save =>
    intro seen hseen
    obtain rfl := List.mem_singleton.mp hseen
    exact ⟨rfl, fun _ => rfl⟩

omit [DecidableEq ι] [LinearOrder K] [FloorRing K] in
/-- An event of the loop writes nothing but accounts. -/
theorem LinkStep.writes (hstep : LinkStep client plan link link' request seens) :
    ∀ write ∈ newAccountWrites client request, write.call.isAccountWrite = true := by
  cases hstep with
  | quiet _ _ _ _ hwrites => exact hwrites
  | load | offline | save => simp [newAccountWrites]

theorem LinkStep.lawful (hstep : LinkStep client plan link link' request seens)
    (h : ClientInv client link saves loads stored history)
    (hlawful : LawfulHistory initial history) : LawfulHistory initial (seens ++ history) := by
  cases hstep with
  | quiet _ _ _ _ _ hseens =>
    refine hlawful.append fun seen hseen earlier => ?_
    obtain ⟨ownerId, settings, cached, rfl⟩ := hseens seen hseen
    trivial
  | load | offline => exact hlawful
  | save ownerId hserves => exact ⟨h.online hserves.1, hlawful⟩

end RetirementPlanner.Web
