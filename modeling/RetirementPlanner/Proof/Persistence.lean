import RetirementPlanner.Proof.Results

/-!
# A plan survives the browser's storage

What a write stored is what a later load returns (`Storage.load_save`), so a valid plan
that was saved is loaded and hydrated as itself, and hydration changes nothing it has
once made (`saveLocalPlan_loads`).
-/

namespace RetirementPlanner.Web

open Schema

variable {K : Type}

/-! ## Writes and loads -/

/-- A write that happened is what is loaded, and other keys keep what they hold. -/
theorem Storage.load_save {storage saved : Storage K} {key : StorageKey} {value : Json K}
    (h : storage.save key value = (saved, true)) :
    saved.load key = some value ∧ ∀ other, other ≠ key → saved.load other = storage.load other := by
  unfold Storage.save Storage.setItem at h
  split at h
  · rename_i havailable
    split at h
    · rename_i hwrite
      split at hwrite
      · cases hwrite
        cases h
        refine ⟨?_, fun other hother => ?_⟩
        · simp [Storage.load, havailable]
        · simp [Storage.load, hother]
      · cases hwrite
    · cases h
  · cases h

theorem ownerKey_ne (ownerId : Option String) :
    ownerKey .localProfile ownerId ≠ ownerKey .localAccounts ownerId := by
  simp [ownerKey]

variable [Field K] [LinearOrder K]

theorem savedByNewerVersion_current (fields : Fields K)
    (h : fields.get "schemaVersion" = some (.num (planSchemaVersion : K))) :
    savedByNewerVersion fields = false := by
  simp [savedByNewerVersion, h, numberOf]

/-- A saved profile is loaded as its parts. -/
theorem loadLocalProfile_of_load {storage : Storage K} {ownerId : Option String}
    {plan : RetirementPlan K}
    (h : storage.load (ownerKey .localProfile ownerId) = some (localProfileJson plan)) :
    loadLocalProfile storage ownerId = .ok (some
      { profile := some (.obj (profileFields plan.profile))
        socialSecurity := some (.obj (socialSecurityFields plan.socialSecurity))
        assumptions := some (.obj (assumptionFields plan.assumptions)) }) := by
  have hversion := savedByNewerVersion_current (K := K)
    [("schemaVersion", .num planSchemaVersion), ("profile", .obj (profileFields plan.profile)),
      ("socialSecurity", .obj (socialSecurityFields plan.socialSecurity)),
      ("assumptions", .obj (assumptionFields plan.assumptions))] rfl
  simp only [loadLocalProfile, h, localProfileJson, hversion]
  rfl

/-- What `saveLocalAccounts` stores. -/
def localAccountsJson (accounts : List (Account K)) (origin : LocalPlanOrigin) : Json K :=
  .obj [("schemaVersion", .num planSchemaVersion), ("accounts", .arr (accounts.map accountJson)),
    ("origin", .str (originText origin))]

/-- Saved accounts that are valid are loaded as they were. -/
theorem loadLocalAccountState_of_load {storage : Storage K} {ownerId : Option String}
    {accounts : List (Account K)} (hvalid : ValidAccounts accounts)
    (h : storage.load (ownerKey .localAccounts ownerId)
      = some (localAccountsJson accounts .user)) :
    loadLocalAccountState storage ownerId = .ok (some { accounts, origin := .user }) := by
  have hversion := savedByNewerVersion_current (K := K)
    [("schemaVersion", .num planSchemaVersion), ("accounts", .arr (accounts.map accountJson)),
      ("origin", .str (originText .user))] rfl
  have harray : array accountSchema (some (.arr (accounts.map accountJson))) = .ok accounts :=
    hvalid
  have haccounts : Fields.get (K := K) [("schemaVersion", .num planSchemaVersion),
      ("accounts", .arr (accounts.map accountJson)), ("origin", .str (originText .user))]
        "accounts" = some (.arr (accounts.map accountJson)) := rfl
  have horigin : Fields.get (K := K) [("schemaVersion", .num planSchemaVersion),
      ("accounts", .arr (accounts.map accountJson)), ("origin", .str (originText .user))]
        "origin" = some (.str "user") := rfl
  simp only [loadLocalAccountState, h, localAccountsJson, haccounts, hversion, horigin, harray]
  rfl

/-! ## The main result -/

variable [FloorRing K]

/-- What a browser's copy of a plan is hydrated to. -/
def ReadsBack (storage : Storage K) (ownerId : Option String) (plan : RetirementPlan K) : Prop :=
  ∃ profile accounts,
    loadLocalProfile storage ownerId = .ok (some profile) ∧
    loadLocalAccountState storage ownerId = .ok (some accounts) ∧ accounts.origin = .user ∧
    ∀ clock, hydratePlan clock profile.profile profile.socialSecurity profile.assumptions
      (some (.arr (accounts.accounts.map accountJson))) = .ok plan

/-- Hydrating the pieces of a plan gives the plan, on any day. -/
def HydratesToItself (plan : RetirementPlan K) : Prop :=
  ∀ clock, hydratePlan clock (some (.obj (profileFields plan.profile)))
    (some (.obj (socialSecurityFields plan.socialSecurity)))
    (some (.obj (assumptionFields plan.assumptions)))
    (some (.arr (plan.accounts.map accountJson))) = .ok plan

theorem ValidPlan.hydratesToItself {plan : RetirementPlan K} (h : ValidPlan plan) :
    HydratesToItself plan :=
  fun clock => hydratePlan_settings clock h.settings h.accounts

theorem ValidPlan.readsBack {plan : RetirementPlan K} (h : ValidPlan plan)
    {storage saved : Storage K} {ownerId : Option String}
    (hsave : saveLocalPlan storage plan ownerId .user = (saved, true)) :
    ReadsBack saved ownerId plan := by
  obtain ⟨⟨profiled, profileSaved⟩, hprofile⟩ :
      ∃ write, saveLocalProfile storage plan ownerId = write := ⟨_, rfl⟩
  obtain ⟨⟨written, accountsSaved⟩, haccounts⟩ :
      ∃ write, saveLocalAccounts profiled plan.accounts ownerId .user = write := ⟨_, rfl⟩
  simp only [saveLocalPlan, hprofile, haccounts, Prod.mk.injEq, Bool.and_eq_true] at hsave
  obtain ⟨rfl, rfl, rfl⟩ := hsave
  have hloadProfile := (Storage.load_save hprofile).1
  obtain ⟨hloadAccounts, hother⟩ := Storage.load_save haccounts
  rw [← hother _ (ownerKey_ne ownerId)] at hloadProfile
  exact ⟨_, _, loadLocalProfile_of_load hloadProfile,
    loadLocalAccountState_of_load h.accounts hloadAccounts, rfl, h.hydratesToItself⟩

/-- A plan the schema accepts survives being saved and loaded, for every owner, and what
hydration makes of any source it makes of its own pieces again. -/
theorem saveLocalPlan_loads [IsStrictOrderedRing K] :
    (∀ (value : Option (Json K)) (plan : RetirementPlan K), retirementPlanSchema value = .ok plan →
      ∀ storage saved ownerId, saveLocalPlan storage plan ownerId .user = (saved, true) →
        ReadsBack saved ownerId plan) ∧
    (∀ clock profile socialSecurity assumptions accounts (plan : RetirementPlan K),
      hydratePlan clock profile socialSecurity assumptions accounts = .ok plan →
        HydratesToItself plan) :=
  ⟨fun _ _ hplan _ _ _ hsave => (retirementPlanSchema_valid hplan).readsBack hsave,
    fun _ _ _ _ _ _ hplan => (hydratePlan_valid hplan).hydratesToItself⟩

/-- A household none of whose settings is the default one: nothing is spent or saved, and
the benefit is kept at the amount written in, or left out. -/
def bareHousehold (estimatedBenefit : Option ℚ) : RetirementPlan ℚ where
  profile :=
    { birthDate := ⟨1964, 2, 29, by decide, by decide⟩, state := .Other,
      filingStatus := .headOfHousehold, retirementAge := 45, currentSalary := 0,
      salaryGrowthRate := 0, currentSpending := 0,
      workingSpendingGrowthRate := -0.1, retirementSpendingMultiplier := 0,
      retirementSpendingGrowthRate := 0.1, lifeExpectancy := 65,
      retirementHealthcare := ⟨0, 0, 0, 0⟩, longTermCare := ⟨false, 0.5⟩,
      asOfDate := ⟨2024, 12, 31, by decide, by decide⟩ }
  accounts :=
    [⟨"a", "Emergency", "", .hsa, 0, ⟨0, 1⟩⟩, ⟨"a", "Emergency", "Bank", .taxable, 0.01, ⟨1, 0⟩⟩]
  socialSecurity := ⟨false, estimatedBenefit, 70, true⟩
  assumptions := ⟨0, .parametric, 0, true, false, ⟨true, .irmaaTier⟩, false, 0⟩

/-- A profile of an older version, with an age and one spending amount. -/
def agedProfile : Json ℚ := .obj [("age", .num 35), ("desiredSpending", .num 0)]

/-- Assumptions of an older version, whose contributions say which accounts there are. -/
def agedAssumptions : Json ℚ :=
  .obj [("contributions", .obj [("hsa", .num 5000), ("roth", .num 0)]), ("randomSeed", .num 0),
    ("magiAwareWithdrawals", .bool false), ("taxableGainRatio", .num 0)]

theorem saveLocalPlan_loads_bare :
    (∀ benefit ∈ [none, some 0],
      ReadsBack (saveLocalPlan emptyStorage (bareHousehold benefit) (some "user") .user).1
        (some "user") (bareHousehold benefit)) ∧
      ∃ plan, hydratePlan newYear (some agedProfile) (some (.obj [("enabled", .bool false)]))
          (some agedAssumptions) (some (.arr [])) = .ok plan ∧
        plan.profile.currentSpending = 0 ∧ plan.socialSecurity.enabled = false ∧
        plan.assumptions.hsaEligible = true ∧ plan.assumptions.useBackdoorRoth = false ∧
        plan.accounts = [] ∧ HydratesToItself plan := by
  refine ⟨fun benefit hbenefit => ?_, ?_⟩
  · have hstored : retirementPlanSchema (some (planJson (bareHousehold benefit)))
        = .ok (bareHousehold benefit) := by
      refine stored_of_test ?_
      revert benefit
      decide +kernel
    have hsave : (saveLocalPlan emptyStorage (bareHousehold benefit) (some "user") .user).2
        = true := by
      revert benefit
      decide +kernel
    exact saveLocalPlan_loads.1 _ _ hstored _ _ _ (Prod.ext rfl hsave)
  · obtain ⟨plan, hplan, hread⟩ := exists_of_okAnd (by decide +kernel :
      okAnd (hydratePlan newYear (some agedProfile) (some (.obj [("enabled", .bool false)]))
        (some agedAssumptions) (some (.arr []))) (fun plan => decide
          (plan.profile.currentSpending = 0 ∧ plan.socialSecurity.enabled = false ∧
            plan.assumptions.hsaEligible = true ∧ plan.assumptions.useBackdoorRoth = false ∧
            plan.accounts = [])) = true)
    obtain ⟨hspending, henabled, hhsa, hroth, haccounts⟩ := of_decide_eq_true hread
    exact ⟨plan, hplan, hspending, henabled, hhsa, hroth, haccounts,
      saveLocalPlan_loads.2 _ _ _ _ _ _ hplan⟩

end RetirementPlanner.Web
