import Mathlib.Tactic
import RetirementPlanner.Web.IdToken

/-!
# Every request gets a fresh token of its own key

However requests interleave, keys are rotated, and caches and mints fail, a token that a request
gets is for its audience, was minted with the key the request came with, and was found usable while
the request ran; and what a cache holds is of the key and the audience it is kept under
(`idToken_fresh`).
-/

namespace RetirementPlanner.Web.IdToken

variable {K : Type} [Field K] [LinearOrder K] (keyOf : String → String)

/-! ## What every step keeps -/

/-- For an audience, from an assertion that the key of an id signed. -/
structure Minted (keyId audience : String) (token : Token K) : Prop where
  aud : token.aud = some audience
  signedWith : token.signedWith = keyOf keyId

/-- Which key and audience a mint is for. -/
def Identity (s : Shared K) (mint : ℕ) (keyId audience : String) : Prop :=
  ∃ this, s.mints[mint]? = some this ∧ this.keyId = keyId ∧ this.audience = audience

structure Inv (s : Shared K) : Prop where
  current : ∀ isolate current, s.current isolate = some current →
    Identity s current.mint current.keyId current.audience
  settled : ∀ mint ∈ s.mints, ∀ token, mint.settled = some (some token) →
    Minted keyOf mint.keyId mint.audience token
  signingKey : ∀ isolate id key, s.signingKey isolate = some (id, key) → key = keyOf id
  cached : ∀ place keyId audience cached, s.cache (place, keyId, audience) = some cached →
    Minted keyOf keyId audience cached.token ∧
      (∃ checked ≤ s.clock, usable checked audience cached.token = true) ∧
      cached.expires ≤ s.clock + cacheLifetimeSeconds * 1000

/-- Found usable at a time since the request arrived. -/
structure Fresh (s : Shared K) (call : TokenCall) (keyId : String) (since : K) (token : Token K)
    (checked : K) : Prop where
  minted : Minted keyOf keyId call.audience token
  since_le : since ≤ checked
  checked_le : checked ≤ s.clock
  usable : usable checked call.audience token = true

/-- What holds of a request with the key of an id. -/
def StageSound (s : Shared K) (call : TokenCall) (keyId : String) : Stage K → Prop
  | .arrived | .failed => True
  | .waiting mint since | .looking mint since | .signing mint since =>
    Identity s mint keyId call.audience ∧ since ≤ s.clock
  | .exchanging mint since key =>
    Identity s mint keyId call.audience ∧ since ≤ s.clock ∧ key = keyOf keyId
  | .caching mint since token checked lifetime =>
    Identity s mint keyId call.audience ∧ Fresh keyOf s call keyId since token checked ∧
      lifetime ≤ cacheLifetimeSeconds
  | .returned since token checked => Fresh keyOf s call keyId since token checked

def Sound (s : Shared K) (job : Job K) : Prop :=
  match job.call.privateKeyId with
  | some keyId => StageSound keyOf s job.call keyId job.stage
  | none => job.stage = .arrived ∨ job.stage = .failed

/-- The clock is not turned back, and a mint stays what it is for. -/
structure Later (s s' : Shared K) : Prop where
  clock : s.clock ≤ s'.clock
  identity : ∀ mint keyId audience, Identity s mint keyId audience →
    Identity s' mint keyId audience

variable {keyOf} {s s' : Shared K} {call : TokenCall} {keyId : String}

omit [Field K] in
theorem Later.refl (s : Shared K) : Later s s := ⟨le_rfl, fun _ _ _ h => h⟩

theorem Fresh.later {since checked : K} {token : Token K}
    (h : Fresh keyOf s call keyId since token checked) (hlater : Later s s') :
    Fresh keyOf s' call keyId since token checked :=
  ⟨h.minted, h.since_le, h.checked_le.trans hlater.clock, h.usable⟩

theorem StageSound.later {stage : Stage K} (h : StageSound keyOf s call keyId stage)
    (hlater : Later s s') : StageSound keyOf s' call keyId stage := by
  cases stage with
  | arrived => trivial
  | failed => trivial
  | waiting mint since => exact ⟨hlater.identity _ _ _ h.1, h.2.trans hlater.clock⟩
  | looking mint since => exact ⟨hlater.identity _ _ _ h.1, h.2.trans hlater.clock⟩
  | signing mint since => exact ⟨hlater.identity _ _ _ h.1, h.2.trans hlater.clock⟩
  | exchanging mint since key =>
    exact ⟨hlater.identity _ _ _ h.1, h.2.1.trans hlater.clock, h.2.2⟩
  | caching mint since token checked lifetime =>
    exact ⟨hlater.identity _ _ _ h.1, h.2.1.later hlater, h.2.2⟩
  | returned since token checked => exact Fresh.later h hlater

theorem Sound.later {job : Job K} (h : Sound keyOf s job) (hlater : Later s s') :
    Sound keyOf s' job := by
  unfold Sound at h ⊢
  split
  · rename_i keyId hkey
    rw [hkey] at h
    exact StageSound.later h hlater
  · rename_i hkey
    rw [hkey] at h
    exact h

/-! ## Operations on what is shared -/

omit [Field K] in
theorem settle_later (s : Shared K) (mint : ℕ) (result : Option (Token K)) :
    Later s (s.settle mint result) := by
  refine ⟨le_rfl, fun other keyId audience ⟨this, hthis, hid⟩ => ?_⟩
  by_cases hsame : mint = other
  · subst hsame
    refine ⟨{ this with settled := some result }, ?_, hid⟩
    simp only [Shared.settle, List.getElem?_modify, hthis, if_true]
    rfl
  · refine ⟨this, ?_, hid⟩
    simp only [Shared.settle, List.getElem?_modify, hthis, if_neg hsame]
    rfl

/-- A mint is settled with a token of its own. -/
theorem Inv.settle (h : Inv keyOf s) {mint : ℕ} {audience : String}
    (hid : Identity s mint keyId audience) {result : Option (Token K)}
    (hresult : ∀ token ∈ result, Minted keyOf keyId audience token) :
    Inv keyOf (s.settle mint result) := by
  refine ⟨fun isolate current hcurrent => ?_, fun this hthis token htoken => ?_, h.signingKey,
    h.cached⟩
  · exact (settle_later s mint result).identity _ _ _ (h.current isolate current hcurrent)
  · obtain ⟨index, hindex⟩ := List.mem_iff_getElem?.mp hthis
    rw [Shared.settle, List.getElem?_modify] at hindex
    obtain ⟨old, hold, rfl⟩ := Option.map_eq_some_iff.mp hindex
    split at htoken
    · rename_i hsame
      subst hsame
      obtain ⟨this, hthis, rfl, rfl⟩ := hid
      cases hthis.symm.trans hold
      rw [if_pos rfl]
      exact hresult token (Option.some.inj htoken)
    · rename_i hsame
      rw [if_neg hsame]
      exact h.settled old (List.mem_of_getElem? hold) token htoken

omit [Field K] [LinearOrder K] in
theorem beginMint_identity (s : Shared K) (call : TokenCall) (keyId : String) :
    Identity (s.beginMint call keyId) s.mints.length keyId call.audience := by
  refine ⟨⟨keyId, call.audience, none⟩, ?_, rfl, rfl⟩
  rw [Shared.beginMint, List.getElem?_append_right le_rfl, Nat.sub_self]
  rfl

omit [Field K] in
theorem beginMint_later (s : Shared K) (call : TokenCall) (keyId : String) :
    Later s (s.beginMint call keyId) := by
  refine ⟨le_rfl, fun mint keyId' audience ⟨this, hthis, hid⟩ => ⟨this, ?_, hid⟩⟩
  rw [Shared.beginMint, List.getElem?_append_left (List.getElem?_eq_some_iff.mp hthis).1]
  exact hthis

theorem Inv.beginMint (h : Inv keyOf s) (call : TokenCall) (keyId : String) :
    Inv keyOf (s.beginMint call keyId) := by
  refine ⟨fun isolate current hcurrent => ?_, fun mint hmint token htoken => ?_, h.signingKey,
    h.cached⟩
  · by_cases hsame : isolate = call.isolate
    · subst hsame
      simp only [Shared.beginMint, Function.update_self, Option.some.injEq] at hcurrent
      subst hcurrent
      exact beginMint_identity s call keyId
    · simp only [Shared.beginMint, Function.update_of_ne hsame] at hcurrent
      exact (beginMint_later s call keyId).identity _ _ _ (h.current isolate current hcurrent)
  · rcases List.mem_append.mp hmint with hold | hnew
    · exact h.settled mint hold token htoken
    · cases List.mem_singleton.mp hnew
      cases htoken

omit [Field K] in
theorem reject_later (s : Shared K) (call : TokenCall) (mint : ℕ) :
    Later s (s.reject call mint) := by
  have hsettle := settle_later s mint none
  rw [Shared.reject]
  split
  · exact ⟨hsettle.clock, hsettle.identity⟩
  · exact hsettle

theorem Inv.reject (h : Inv keyOf s) (call : TokenCall) {mint : ℕ} {audience : String}
    (hid : Identity s mint keyId audience) : Inv keyOf (s.reject call mint) := by
  have hnone : ∀ token ∈ (none : Option (Token K)), Minted keyOf keyId audience token :=
    fun token htoken => by cases htoken
  have hsettle := h.settle hid hnone
  rw [Shared.reject]
  split
  · refine ⟨fun isolate current hcurrent => ?_, hsettle.settled, hsettle.signingKey,
      hsettle.cached⟩
    by_cases hsame : isolate = call.isolate
    · subst hsame
      simp only [Function.update_self, reduceCtorEq] at hcurrent
    · simp only [Function.update_of_ne hsame] at hcurrent
      exact hsettle.current isolate current hcurrent
  · exact hsettle

theorem importKey_key (h : Inv keyOf s) (isolate keyId : String) :
    (s.importKey keyOf isolate keyId).1 = keyOf keyId := by
  rw [Shared.importKey]
  split
  · rename_i id key hkey
    split
    · rename_i hid
      rw [← hid]
      exact h.signingKey isolate id key hkey
    · rfl
  · rfl

/-- A key is kept under its own id. -/
theorem Inv.importKey (h : Inv keyOf s) (isolate keyId : String) :
    Inv keyOf (s.importKey keyOf isolate keyId).2 ∧
      Later s (s.importKey keyOf isolate keyId).2 := by
  have hupdate : ∀ isolate' id key,
      Function.update s.signingKey isolate (some (keyId, keyOf keyId)) isolate' = some (id, key) →
        key = keyOf id := by
    intro isolate' id key hkey
    by_cases hsame : isolate' = isolate
    · subst hsame
      rw [Function.update_self] at hkey
      cases hkey
      rfl
    · rw [Function.update_of_ne hsame] at hkey
      exact h.signingKey isolate' id key hkey
  rw [Shared.importKey]
  split
  · split
    · exact ⟨h, Later.refl s⟩
    · exact ⟨⟨h.current, h.settled, hupdate, h.cached⟩, ⟨le_rfl, fun _ _ _ hid => hid⟩⟩
  · exact ⟨⟨h.current, h.settled, hupdate, h.cached⟩, ⟨le_rfl, fun _ _ _ hid => hid⟩⟩

theorem Inv.forgetKey (h : Inv keyOf s) (isolate : String) :
    Inv keyOf { s with signingKey := Function.update s.signingKey isolate none } := by
  refine ⟨h.current, h.settled, fun isolate' id key hkey => ?_, h.cached⟩
  by_cases hsame : isolate' = isolate
  · subst hsame
    simp only [Function.update_self, reduceCtorEq] at hkey
  · simp only [Function.update_of_ne hsame] at hkey
    exact h.signingKey isolate' id key hkey

omit [Field K] in
theorem Later.trans {s₁ s₂ s₃ : Shared K} (h₁ : Later s₁ s₂) (h₂ : Later s₂ s₃) : Later s₁ s₃ :=
  ⟨h₁.clock.trans h₂.clock, fun mint keyId audience hid =>
    h₂.identity mint keyId audience (h₁.identity mint keyId audience hid)⟩

/-- What a step comes to is in order again. -/
structure Stepped (keyOf : String → String) (s s' : Shared K) (call : TokenCall) (keyId : String)
    (stage : Stage K) : Prop where
  inv : Inv keyOf s'
  sound : StageSound keyOf s' call keyId stage
  later : Later s s'

/-- A request that begins a mint looks for a cached token. -/
theorem stepped_beginMint (h : Inv keyOf s) {since : K} (hsince : since ≤ s.clock) :
    Stepped keyOf s (s.beginMint call keyId) call keyId (.looking s.mints.length since) :=
  ⟨h.beginMint call keyId, ⟨beginMint_identity s call keyId, hsince⟩, beginMint_later s call keyId⟩

variable (call) in
theorem stepped_reject (h : Inv keyOf s) {mint : ℕ} (hid : Identity s mint keyId call.audience) :
    Stepped keyOf s (s.reject call mint) call keyId .failed :=
  ⟨h.reject call hid, trivial, reject_later s call mint⟩

/-- A request that settles its mint has its token. -/
theorem stepped_settle (h : Inv keyOf s) {mint : ℕ} (hid : Identity s mint keyId call.audience)
    {since checked : K} {token : Token K} (hfresh : Fresh keyOf s call keyId since token checked) :
    Stepped keyOf s (s.settle mint (some token)) call keyId (.returned since token checked) := by
  have hlater := settle_later s mint (some token)
  refine ⟨h.settle hid fun other hother => ?_, hfresh.later hlater, hlater⟩
  cases hother
  exact hfresh.minted

variable [FloorRing K] [IsStrictOrderedRing K]

theorem lifetime_le (now : K) (token : Token K) (spread : ℕ) :
    lifetime now token spread ≤ cacheLifetimeSeconds :=
  (min_le_left _ _).trans (sub_le_self _ (Nat.cast_nonneg _))

omit [FloorRing K] in
/-- A token is put under its own key and audience. -/
theorem Inv.put (h : Inv keyOf s) {since checked : K} {token : Token K}
    (hfresh : Fresh keyOf s call keyId since token checked) {lifetime : K}
    (hlifetime : lifetime ≤ cacheLifetimeSeconds) :
    Inv keyOf (s.put call keyId token lifetime) := by
  refine ⟨h.current, h.settled, h.signingKey, fun place keyId' audience cached hcached => ?_⟩
  by_cases hsame : (place, keyId', audience) = (call.place, keyId, call.audience)
  · rw [hsame] at hcached
    simp only [Shared.put, Function.update_self, Option.some.injEq] at hcached
    subst hcached
    cases hsame
    refine ⟨hfresh.minted, ⟨checked, hfresh.checked_le, hfresh.usable⟩, ?_⟩
    exact add_le_add_right (mul_le_mul_of_nonneg_right hlifetime (by norm_num)) _
  · simp only [Shared.put, Function.update_of_ne hsame] at hcached
    exact h.cached place keyId' audience cached hcached

omit [IsStrictOrderedRing K] [FloorRing K] in
theorem put_later (s : Shared K) (call : TokenCall) (keyId : String) (token : Token K)
    (lifetime : K) : Later s (s.put call keyId token lifetime) :=
  ⟨le_rfl, fun _ _ _ hid => hid⟩

/-! ## Steps -/

section Stages

variable (h : Inv keyOf s) {stage' : Stage K} {outcome : Outcome K}

include h

omit [IsStrictOrderedRing K] in
/-- A request waits for what its isolate is using where that is its own, and otherwise mints. -/
theorem arrived_stepped
    (hadvance : advance keyOf s call keyId .arrived outcome = some (s', stage')) :
    Stepped keyOf s s' call keyId stage' := by
  cases outcome with
  | done =>
    simp only [advance] at hadvance
    split at hadvance
    · rename_i current hcurrent
      split at hadvance
      · rename_i hsame
        cases hadvance
        refine ⟨h, ⟨?_, le_rfl⟩, Later.refl s⟩
        have hid := h.current call.isolate current hcurrent
        rwa [hsame.1, hsame.2] at hid
      · cases hadvance
        exact stepped_beginMint h le_rfl
    · cases hadvance
      exact stepped_beginMint h le_rfl
  | fails | minted | stored => cases hadvance

variable {mint : ℕ} {since : K}

omit [IsStrictOrderedRing K] in
/-- What is waited for is a token of the request's own key and audience, which is checked
again, or else the request mints. -/
theorem waiting_stepped (hsound : StageSound keyOf s call keyId (.waiting mint since))
    (hadvance : advance keyOf s call keyId (.waiting mint since) outcome = some (s', stage')) :
    Stepped keyOf s s' call keyId stage' := by
  cases outcome with
  | done =>
    simp only [advance] at hadvance
    split at hadvance
    · cases hadvance
    · rename_i token htoken
      obtain ⟨this, hthis, hsettled⟩ := Option.bind_eq_some_iff.mp htoken
      split at hadvance
      · rename_i husable
        cases hadvance
        obtain ⟨this', hthis', hkey, haudience⟩ := hsound.1
        cases hthis'.symm.trans hthis
        have hminted := h.settled this (List.mem_of_getElem? hthis) token hsettled
        rw [hkey, haudience] at hminted
        exact ⟨h, ⟨hminted, hsound.2, le_rfl, husable⟩, Later.refl s⟩
      · cases hadvance
        exact stepped_beginMint h hsound.2
    · cases hadvance
      exact stepped_beginMint h hsound.2
  | fails | minted | stored => cases hadvance

omit [IsStrictOrderedRing K] in
theorem looking_stepped (hsound : StageSound keyOf s call keyId (.looking mint since))
    (hadvance : advance keyOf s call keyId (.looking mint since) outcome = some (s', stage')) :
    Stepped keyOf s s' call keyId stage' := by
  cases outcome with
  | done =>
    simp only [advance] at hadvance
    split at hadvance
    · rename_i cached hcached
      split at hadvance
      · rename_i hlive
        cases hadvance
        exact stepped_settle h hsound.1
          ⟨(h.cached _ _ _ _ hcached).1, hsound.2, le_rfl, hlive.2⟩
      · cases hadvance
        exact ⟨h, hsound, Later.refl s⟩
    · cases hadvance
      exact ⟨h, hsound, Later.refl s⟩
  | fails =>
    cases hadvance
    exact ⟨h, hsound, Later.refl s⟩
  | minted | stored => cases hadvance

omit [IsStrictOrderedRing K] in
theorem signing_stepped (hsound : StageSound keyOf s call keyId (.signing mint since))
    (hadvance : advance keyOf s call keyId (.signing mint since) outcome = some (s', stage')) :
    Stepped keyOf s s' call keyId stage' := by
  cases outcome with
  | done =>
    cases hadvance
    obtain ⟨hinv, hlater⟩ := h.importKey call.isolate keyId
    exact ⟨hinv, ⟨hlater.identity _ _ _ hsound.1, hsound.2.trans hlater.clock,
      importKey_key h call.isolate keyId⟩, hlater⟩
  | fails =>
    simp only [advance] at hadvance
    split at hadvance
    · cases hadvance
      have hstepped := stepped_reject call (h.forgetKey call.isolate) hsound.1
      exact ⟨hstepped.inv, trivial, hstepped.later.clock, hstepped.later.identity⟩
    · cases hadvance
      exact stepped_reject call h hsound.1
  | minted | stored => cases hadvance

theorem exchanging_stepped {key : String}
    (hsound : StageSound keyOf s call keyId (.exchanging mint since key))
    (hadvance : advance keyOf s call keyId (.exchanging mint since key) outcome
      = some (s', stage')) :
    Stepped keyOf s s' call keyId stage' := by
  cases outcome with
  | fails =>
    cases hadvance
    exact stepped_reject call h hsound.1
  | minted aud exp spread =>
    simp only [advance] at hadvance
    split at hadvance
    · cases hadvance
    split at hadvance
    · rename_i husable
      have haud : aud = some call.audience := by
        simp only [usable, Bool.and_eq_true, decide_eq_true_eq] at husable
        exact husable.1
      have hfresh : Fresh keyOf s call keyId since ⟨aud, exp, key⟩ s.clock :=
        ⟨⟨haud, hsound.2.2⟩, hsound.2.1, le_rfl, husable⟩
      split at hadvance
      · cases hadvance
        exact stepped_settle h hsound.1 hfresh
      · cases hadvance
        exact ⟨h, ⟨hsound.1, hfresh, lifetime_le _ _ _⟩, Later.refl s⟩
    · cases hadvance
      exact stepped_reject call h hsound.1
  | done | stored => cases hadvance

theorem caching_stepped {token : Token K} {checked lifetime : K}
    (hsound : StageSound keyOf s call keyId (.caching mint since token checked lifetime))
    (hadvance : advance keyOf s call keyId (.caching mint since token checked lifetime) outcome
      = some (s', stage')) :
    Stepped keyOf s s' call keyId stage' := by
  cases outcome with
  | fails =>
    cases hadvance
    exact stepped_settle h hsound.1 hsound.2.1
  | stored =>
    cases hadvance
    have hlater := put_later s call keyId token lifetime
    have hstepped := stepped_settle (h.put hsound.2.1 hsound.2.2)
      (hlater.identity _ _ _ hsound.1) (hsound.2.1.later hlater)
    exact ⟨hstepped.inv, hstepped.sound, hlater.trans hstepped.later⟩
  | done | minted => cases hadvance

theorem advance_stepped {stage : Stage K} (hsound : StageSound keyOf s call keyId stage)
    (hadvance : advance keyOf s call keyId stage outcome = some (s', stage')) :
    Stepped keyOf s s' call keyId stage' := by
  cases stage with
  | arrived => exact arrived_stepped h hadvance
  | waiting mint since => exact waiting_stepped h hsound hadvance
  | looking mint since => exact looking_stepped h hsound hadvance
  | signing mint since => exact signing_stepped h hsound hadvance
  | exchanging mint since key => exact exchanging_stepped h hsound hadvance
  | caching mint since token checked lifetime => exact caching_stepped h hsound hadvance
  | returned | failed => cases outcome <;> cases hadvance

end Stages

omit [FloorRing K] in
theorem happens_later (h : Inv keyOf s) {happening : Happening K}
    (hhappens : happens s happening = some s') : Inv keyOf s' ∧ Later s s' := by
  cases happening with
  | elapse now =>
    simp only [happens] at hhappens
    split at hhappens
    · rename_i hnow
      cases hhappens
      refine ⟨⟨h.current, h.settled, h.signingKey, fun place keyId audience cached hcached => ?_⟩,
        hnow, fun _ _ _ hid => hid⟩
      obtain ⟨hminted, ⟨checked, hchecked, husable⟩, hexpires⟩ :=
        h.cached place keyId audience cached hcached
      exact ⟨hminted, ⟨checked, hchecked.trans hnow, husable⟩,
        hexpires.trans (add_le_add_left hnow _)⟩
    · cases hhappens
  | evict entry =>
    cases hhappens
    refine ⟨⟨h.current, h.settled, h.signingKey, fun place keyId audience cached hcached => ?_⟩,
      le_rfl, fun _ _ _ hid => hid⟩
    by_cases hsame : (place, keyId, audience) = entry
    · simp only [hsame, Function.update_self, reduceCtorEq] at hcached
    · simp only [Function.update_of_ne hsame] at hcached
      exact h.cached place keyId audience cached hcached

theorem isolates_keeps : Handlers.Keeps (isolates keyOf) (fun _ => True) (Inv keyOf)
    (Sound (K := K) keyOf) where
  start := by
    intro s call _
    unfold Sound
    split
    · trivial
    · exact .inl rfl
  advance := by
    intro s s' job job' outcome h hsound _ hadvance
    simp only [isolates, advanceJob] at hadvance
    unfold Sound at hsound
    cases hkey : job.call.privateKeyId with
    | some keyId =>
      simp only [hkey] at hsound hadvance
      obtain ⟨next, hnext, heq⟩ := Option.map_eq_some_iff.mp hadvance
      cases heq
      have hstepped := advance_stepped h hsound hnext
      refine ⟨hstepped.inv, ?_, fun other hother => hother.later hstepped.later⟩
      unfold Sound
      simp only [hkey]
      exact hstepped.sound
    | none =>
      simp only [hkey] at hadvance
      split at hadvance
      · contradiction
      · cases hadvance
        refine ⟨h, ?_, fun other hother => hother⟩
        unfold Sound
        simp only [hkey]
        exact .inr trivial
      · cases hadvance
  happens := by
    intro s s' happening h _ hhappens
    obtain ⟨hinv, hlater⟩ := happens_later h hhappens
    exact ⟨hinv, fun other hother => hother.later hlater⟩

/-! ## Fresh tokens -/

/-- **Every request that gets a token gets a fresh one of its own key**, however requests
interleave, keys are rotated, and caches and mints fail: it is for the request's audience, was
minted with the key that the request came with, and was usable at a time while the request ran. And
whatever a data center's cache holds was usable, is of the key and the audience it is kept under,
and leaves within 55 minutes. -/
theorem idToken_fresh {clock : K} {state : Handlers.State (Shared K) (Job K)}
    (hrun : Runs.Reaches ((isolates keyOf).Next fun _ => True) ⟨.start clock, []⟩ state) :
    (∀ job ∈ state.jobs, ∀ since token checked, job.stage = .returned since token checked →
      ∃ keyId, job.call.privateKeyId = some keyId ∧ token.signedWith = keyOf keyId ∧
        since ≤ checked ∧ checked ≤ state.shared.clock ∧
        usable checked job.call.audience token = true) ∧
      ∀ place keyId audience cached,
        state.shared.cache (place, keyId, audience) = some cached →
          cached.token.aud = some audience ∧ cached.token.signedWith = keyOf keyId ∧
            (∃ checked ≤ state.shared.clock, usable checked audience cached.token = true) ∧
            cached.expires ≤ state.shared.clock + 55 * 60 * 1000 := by
  have hstart : Handlers.Holds (Inv keyOf) (Sound keyOf) (⟨.start clock, []⟩ :
      Handlers.State (Shared K) (Job K)) := by
    refine ⟨⟨?_, ?_, ?_, ?_⟩, ?_⟩
    · intro isolate current hcurrent
      cases hcurrent
    · intro mint hmint
      cases hmint
    · intro isolate id key hkey
      cases hkey
    · intro place keyId audience cached hcached
      cases hcached
    · intro job hjob
      cases hjob
  have hholds := isolates_keeps.reaches hstart hrun
  refine ⟨fun job hjob since token checked hstage => ?_,
    fun place keyId audience cached hcached => ?_⟩
  · have hsound := hholds.sound job hjob
    unfold Sound at hsound
    split at hsound
    · rename_i keyId hkey
      rw [hstage] at hsound
      exact ⟨keyId, hkey, hsound.minted.signedWith, hsound.since_le, hsound.checked_le,
        hsound.usable⟩
    · rw [hstage] at hsound
      rcases hsound with hsound | hsound <;> cases hsound
  · obtain ⟨hminted, hchecked, hexpires⟩ := hholds.inv.cached place keyId audience cached hcached
    exact ⟨hminted.aud, hminted.signedWith, hchecked, hexpires⟩

/-- Two requests of one isolate share a mint, and a third with the next key begins its own. -/
theorem idToken_fresh_rotated : ∃ (state : Handlers.State (Shared ℚ) (Job ℚ)) (job : Job ℚ)
    (since : ℚ) (token : Token ℚ) (checked : ℚ), job ∈ state.jobs ∧
      job.stage = .returned since token checked ∧ job.call.privateKeyId = some "next" ∧
        token.signedWith = "key next" := by
  have hruns : ((isolates ("key " ++ ·)).run (fun _ => true) ⟨.start (0 : ℚ), []⟩
      ([.arrive ⟨"isolate", "AMS", some "first", "https://rust"⟩, .run 0 .done,
        .arrive ⟨"isolate", "AMS", some "first", "https://rust"⟩, .run 1 .done,
        .run 0 .done, .run 0 .done, .run 0 (.minted (some "https://rust") (some 3600) 7),
        .run 0 .stored, .run 1 .done,
        .arrive ⟨"isolate", "AMS", some "next", "https://rust"⟩, .run 2 .done, .run 2 .done,
        .run 2 .done, .run 2 (.minted (some "https://rust") (some 3700) 90), .run 2 .fails])).any
      (fun state => state.jobs[2]?.any fun job =>
        decide (job.call.privateKeyId = some "next") && match job.stage with
          | .returned _ _ _ => true
          | _ => false) = true := by
    decide +kernel
  obtain ⟨state, hrun, hstate⟩ := Option.any_eq_true _ _ |>.mp hruns
  obtain ⟨job, hjob, hreturned⟩ := Option.any_eq_true _ _ |>.mp hstate
  have hreaches := Handlers.Model.reaches_of_run hrun
  simp only at hreaches
  have hmem := List.mem_of_getElem? hjob
  obtain ⟨hkey, hstage⟩ := Bool.and_eq_true _ _ |>.mp hreturned
  split at hstage
  · rename_i since token checked hreturned
    obtain ⟨keyId, hkeyId, hsigned, -⟩ :=
      (idToken_fresh hreaches).1 job hmem since token checked hreturned
    cases (of_decide_eq_true hkey).symm.trans hkeyId
    exact ⟨state, job, since, token, checked, hmem, hreturned, of_decide_eq_true hkey, hsigned⟩
  · cases hstage

end RetirementPlanner.Web.IdToken
