import RetirementPlanner.Lib.Codec
import RetirementPlanner.Web.Codec
import RetirementPlanner.Web.Plan

/-!
# Plans survive being written out

What a schema of the web application accepts, it accepts again from the JSON the
program stores or sends (`retirementPlanSchema_roundTrips`), and an account is read back
as itself (`accountSchema_faithful`). A valid plan therefore survives the server
(`saveProfileSchema_settings`) and hydration (`hydratePlan_settings`) unchanged.
-/

namespace RetirementPlanner.Web

open Schema
open Engine (NaiveDate)

variable {K : Type}

/-! ## Dates -/

theorem digitChar_reads : ∀ digit < 10, (Nat.digitChar digit).isDigit = true ∧
    (Nat.digitChar digit).toNat - '0'.toNat = digit := by decide

/-- Two more digits are read after what is before them. -/
theorem digitsOf_append_twoDigits {digits : List Char} {before : ℕ}
    (h : digitsOf digits = some before) (n : ℕ) :
    digitsOf (digits ++ twoDigits n) = some (100 * before + n % 100) := by
  obtain ⟨htens, htensValue⟩ := digitChar_reads (n / 10 % 10) (by omega)
  obtain ⟨hones, honesValue⟩ := digitChar_reads (n % 10) (by omega)
  rw [digitsOf, List.foldlM_append, ← digitsOf, h]
  simp only [twoDigits, List.foldlM_cons, List.foldlM_nil, htens, hones, htensValue, honesValue,
    if_true, bind, Option.bind, pure]
  congr 1
  omega

theorem digitsOf_twoDigits {n : ℕ} (h : n < 100) : digitsOf (twoDigits n) = some n := by
  have hread := digitsOf_append_twoDigits (rfl : digitsOf [] = some 0) n
  rwa [List.nil_append, mul_zero, zero_add, Nat.mod_eq_of_lt h] at hread

theorem digitsOf_year {n : ℕ} (h : n < 10000) :
    digitsOf (twoDigits (n / 100) ++ twoDigits n) = some n := by
  rw [digitsOf_append_twoDigits (digitsOf_twoDigits (by omega))]
  congr 1
  omega

theorem day_le (date : NaiveDate) : date.day ≤ 31 := by
  have hdays : Engine.daysInMonth date.year date.month ≤ 31 := by
    unfold Engine.daysInMonth
    split_ifs <;> omega
  exact date.day_mem.2.trans hdays

theorem digitsOf_month (date : NaiveDate) : digitsOf (twoDigits date.month) = some date.month :=
  digitsOf_twoDigits (date.month_mem.2.trans_lt (by decide))

theorem digitsOf_day (date : NaiveDate) : digitsOf (twoDigits date.day) = some date.day :=
  digitsOf_twoDigits ((day_le date).trans_lt (by decide))

theorem isoParts_isoText (date : NaiveDate) (hyear : date.year.toNat < 10000) :
    isoParts (isoText date) = some (date.year.toNat, date.month, date.day) := by
  have hmonth := digitsOf_month date
  have hday := digitsOf_day date
  have hy := digitsOf_year hyear
  simp only [twoDigits, List.cons_append, List.nil_append] at hmonth hday hy
  simp [isoParts, isoText, twoDigits, hmonth, hday, hy]

theorem calendarDate_eq {year month day : ℕ} {date : NaiveDate}
    (h : calendarDate year month day = some date) :
    year < 2201 ∧ date.year = year ∧ date.month = month ∧ date.day = day := by
  unfold calendarDate at h
  split_ifs at h with hyear hmonth hday
  cases h
  exact ⟨by omega, rfl, rfl, rfl⟩

theorem isoDateSchema_roundTrips :
    RoundTrips (K := K) isoDateSchema (fun date => .str (isoText date)) := by
  intro value date h
  unfold isoDateSchema at h
  split at h
  · split at h
    · cases h
    · split at h
      · rename_i year month day hparts _ _ hdate
        cases h
        obtain ⟨hyear, hy, hm, hd⟩ := calendarDate_eq hdate
        have hyear' : date.year.toNat = year := by omega
        have hparts' := isoParts_isoText date (by omega)
        simp only [isoDateSchema, hparts', hyear', hm, hd, hdate]
      · cases h
  · cases h

/-! ## Accounts -/

section Accounts

variable [Field K] [LinearOrder K]

theorem accountTypes_text : ∀ entry ∈ accountTypes,
    accountTypes.lookup (accountTypeText entry.2) = some entry.2 := by decide

omit [Field K] [LinearOrder K] in
theorem accountType_faithful :
    Faithful (K := K) (oneOf accountTypes) (fun t => .str (accountTypeText t)) := by
  intro a b h
  cases a <;> cases h <;> rfl

theorem assetWeightsSchema_roundTrips :
    RoundTrips (K := K) assetWeightsSchema assetWeightsJson := by
  intro value weights h
  simp only [assetWeightsSchema, refined_ok, bind_ok, object_ok, field_ok] at h ⊢
  obtain ⟨⟨fields, -, stocks, hstocks, bonds, hbonds, heq⟩, hsum⟩ := h
  cases heq
  exact ⟨⟨_, rfl, stocks, between_roundTrips _ _ _ _ hstocks, bonds,
    between_roundTrips _ _ _ _ hbonds, rfl⟩, hsum⟩

theorem assetWeightsSchema_faithful :
    Faithful (K := K) assetWeightsSchema assetWeightsJson := by
  intro weights weights' h
  simp only [assetWeightsSchema, refined_ok, bind_ok, object_ok, field_ok, between_ok] at h
  obtain ⟨⟨fields, hfields, stocks, ⟨hstocks, -⟩, bonds, ⟨hbonds, -⟩, heq⟩, -⟩ := h
  cases heq
  cases hfields
  cases hstocks
  cases hbonds
  rfl

theorem accountSchema_roundTrips : RoundTrips (K := K) accountSchema accountJson := by
  intro value account h
  simp only [accountSchema, bind_ok, object_ok, field_ok] at h ⊢
  obtain ⟨fields, -, id, hid, name, hname, institution, hinstitution, type, htype, balance,
    hbalance, weights, hweights, heq⟩ := h
  cases heq
  exact ⟨_, rfl, id, string_roundTrips.refined _ _ hid, name, string_roundTrips.refined _ _ hname,
    institution, string_roundTrips.refined _ _ hinstitution, type,
    oneOf_roundTrips accountTypes_text htype, balance, between_roundTrips _ _ _ _ hbalance,
    weights, assetWeightsSchema_roundTrips hweights, rfl⟩

theorem accountSchema_faithful : Faithful (K := K) accountSchema accountJson := by
  intro account account' h
  simp only [accountSchema, bind_ok, object_ok, field_ok, refined_ok, string_ok, between_ok] at h
  obtain ⟨fields, hfields, id, ⟨hid, -⟩, name, ⟨hname, -⟩, institution, ⟨hinstitution, -⟩, type,
    htype, balance, ⟨hbalance, -⟩, weights, hweights, heq⟩ := h
  cases heq
  cases hfields
  cases hid
  cases hname
  cases hinstitution
  cases hbalance
  cases accountType_faithful htype
  cases assetWeightsSchema_faithful hweights
  rfl

end Accounts

/-! ## Settings -/

variable [Field K] [LinearOrder K]

theorem states_text : ∀ entry ∈ states, states.lookup (stateText entry.2) = some entry.2 := by
  decide

theorem filingStatuses_text : ∀ entry ∈ filingStatuses,
    filingStatuses.lookup (filingStatusText entry.2) = some entry.2 := by decide

theorem simulationModels_text : ∀ entry ∈ simulationModels,
    simulationModels.lookup (simulationModelText entry.2) = some entry.2 := by decide

theorem ceilings_text : ∀ entry ∈ rothConversionCeilings,
    rothConversionCeilings.lookup (ceilingText entry.2) = some entry.2 := by decide

theorem retirementHealthcareSchema_roundTrips :
    RoundTrips (K := K) retirementHealthcareSchema (fun h => .obj (healthcareFields h)) := by
  intro value healthcare h
  simp only [retirementHealthcareSchema, bind_ok, object_ok, field_ok] at h ⊢
  obtain ⟨fields, -, pre, hpre, medicare, hmedicare, pocket, hpocket, growth, hgrowth, heq⟩ := h
  cases heq
  exact ⟨_, rfl, pre, between_roundTrips _ _ _ _ hpre, medicare,
    between_roundTrips _ _ _ _ hmedicare, pocket, between_roundTrips _ _ _ _ hpocket, growth,
    between_roundTrips _ _ _ _ hgrowth, rfl⟩

theorem longTermCareSchema_roundTrips :
    RoundTrips (K := K) longTermCareSchema (fun care => .obj (careFields care)) := by
  intro value care h
  simp only [longTermCareSchema, bind_ok, object_ok, field_ok] at h ⊢
  obtain ⟨fields, -, enabled, henabled, multiplier, hmultiplier, heq⟩ := h
  cases heq
  exact ⟨_, rfl, enabled, boolean_roundTrips henabled, multiplier,
    between_roundTrips _ _ _ _ hmultiplier, rfl⟩

omit [Field K] [LinearOrder K] in
theorem rothConversionPolicySchema_roundTrips :
    RoundTrips (K := K) rothConversionPolicySchema (fun policy =>
      .obj [("enabled", .bool policy.enabled),
        ("ceiling", .str (ceilingText policy.ceiling))]) := by
  intro value policy h
  simp only [rothConversionPolicySchema, bind_ok, object_ok, field_ok] at h ⊢
  obtain ⟨fields, -, enabled, henabled, ceiling, hceiling, heq⟩ := h
  cases heq
  exact ⟨_, rfl, enabled, boolean_roundTrips henabled, ceiling,
    oneOf_roundTrips ceilings_text hceiling, rfl⟩

omit [Field K] [LinearOrder K] in
theorem profileRules_ok {profile p : UserProfile K} (h : profileRules profile = .ok p) :
    profile = p := by
  simp only [profileRules] at h
  split_ifs at h
  cases h
  rfl

variable [IsStrictOrderedRing K] [FloorRing K]

theorem userProfileSchema_roundTrips :
    RoundTrips (K := K) userProfileSchema (fun profile => .obj (profileFields profile)) := by
  intro value profile h
  simp only [userProfileSchema, bind_ok, object_ok, field_ok] at h ⊢
  obtain ⟨fields, -, birthDate, hbirth, state, hstate, status, hstatus, retirementAge, hage,
    salary, hsalary, salaryGrowth, hsalaryGrowth, spending, hspending, growth, hgrowth,
    retirementGrowth, hretirementGrowth, life, hlife, healthcare, hhealthcare, care, hcare, asOf,
    hasOf, multiplier, hmultiplier, hrules⟩ := h
  cases profileRules_ok hrules
  exact ⟨_, rfl, birthDate, isoDateSchema_roundTrips hbirth, state,
    oneOf_roundTrips states_text hstate, status, oneOf_roundTrips filingStatuses_text hstatus,
    retirementAge, integerBetween_roundTrips _ _ _ _ hage, salary,
    between_roundTrips _ _ _ _ hsalary, salaryGrowth, between_roundTrips _ _ _ _ hsalaryGrowth,
    spending, between_roundTrips _ _ _ _ hspending, growth, between_roundTrips _ _ _ _ hgrowth,
    retirementGrowth, between_roundTrips _ _ _ _ hretirementGrowth, life,
    integerBetween_roundTrips _ _ _ _ hlife, healthcare,
    retirementHealthcareSchema_roundTrips hhealthcare, care,
    longTermCareSchema_roundTrips hcare, asOf, isoDateSchema_roundTrips hasOf, multiplier,
    between_roundTrips _ _ _ _ hmultiplier, hrules⟩

theorem socialSecuritySettingsSchema_roundTrips :
    RoundTrips (K := K) socialSecuritySettingsSchema
      (fun settings => .obj (socialSecurityFields settings)) := by
  intro value settings h
  simp only [socialSecuritySettingsSchema, bind_ok, object_ok, field_ok] at h ⊢
  obtain ⟨fields, -, enabled, henabled, benefit, hbenefit, age, hage, override, hoverride,
    heq⟩ := h
  cases heq
  refine ⟨_, rfl, enabled, boolean_roundTrips henabled, benefit, ?_, age,
    integerBetween_roundTrips _ _ _ _ hage, override, boolean_roundTrips hoverride, rfl⟩
  cases benefit with
  | none => rfl
  | some benefit =>
    have hsome : between (0 : K) 10000000 none none (some (.num benefit)) = .ok benefit := by
      cases hget : fields.get "estimatedBenefit" with
      | none =>
        rw [hget] at hbenefit
        cases hbenefit
      | some json =>
        rw [hget] at hbenefit
        simp only [Schema.optional] at hbenefit
        cases hjson : between (0 : K) 10000000 none none (some json) with
        | error issue =>
          rw [hjson] at hbenefit
          cases hbenefit
        | ok x =>
          rw [hjson] at hbenefit
          cases hbenefit
          exact between_roundTrips _ _ _ _ hjson
    show (between (0 : K) 10000000 none none (some (.num benefit))).map some = .ok (some benefit)
    rw [hsome]
    rfl

theorem projectionSettingsSchema_roundTrips :
    RoundTrips (K := K) projectionSettingsSchema
      (fun assumptions => .obj (assumptionFields assumptions)) := by
  intro value assumptions h
  simp only [projectionSettingsSchema, bind_ok, object_ok, field_ok] at h ⊢
  obtain ⟨fields, -, seed, hseed, model, hmodel, ratio, hratio, hsa, hhsa, backdoor, hbackdoor,
    policy, hpolicy, magi, hmagi, rate, hrate, heq⟩ := h
  cases heq
  exact ⟨_, rfl, seed, (integerBetween_roundTrips _ _ _ _).withDefault (by simp) hseed, model,
    oneOf_roundTrips simulationModels_text hmodel, ratio, between_roundTrips _ _ _ _ hratio, hsa,
    boolean_roundTrips hhsa, backdoor, boolean_roundTrips hbackdoor, policy,
    rothConversionPolicySchema_roundTrips.withDefault rfl hpolicy, magi,
    boolean_roundTrips.withDefault rfl hmagi, rate,
    (between_roundTrips _ _ _ _).withDefault (by simp; norm_num) hrate, rfl⟩

/-- What the plan schema accepts, it accepts again. -/
theorem retirementPlanSchema_roundTrips :
    RoundTrips (K := K) retirementPlanSchema planJson := by
  intro value plan h
  simp only [retirementPlanSchema, bind_ok, object_ok, field_ok] at h ⊢
  obtain ⟨fields, -, profile, hprofile, accounts, haccounts, ss, hss, assumptions, hassumptions,
    heq⟩ := h
  cases heq
  exact ⟨_, rfl, profile, userProfileSchema_roundTrips hprofile, accounts,
    accountSchema_roundTrips.array haccounts, ss, socialSecuritySettingsSchema_roundTrips hss,
    assumptions, projectionSettingsSchema_roundTrips hassumptions, rfl⟩

/-! ## Valid plans -/

/-- The settings of a plan pass their schemas as they stand. -/
structure ValidSettings (plan : RetirementPlan K) : Prop where
  profile : userProfileSchema (some (.obj (profileFields plan.profile))) = .ok plan.profile
  socialSecurity : socialSecuritySettingsSchema
    (some (.obj (socialSecurityFields plan.socialSecurity))) = .ok plan.socialSecurity
  assumptions : projectionSettingsSchema (some (.obj (assumptionFields plan.assumptions)))
    = .ok plan.assumptions

def ValidAccounts (accounts : List (Account K)) : Prop :=
  array accountSchema (some (encodeArray accountJson accounts)) = .ok accounts

/-- A plan that `safeParse` accepts as it stands. -/
structure ValidPlan (plan : RetirementPlan K) : Prop where
  settings : ValidSettings plan
  accounts : ValidAccounts plan.accounts

omit [IsStrictOrderedRing K] in
/-- A valid plan may take valid accounts in place of its own. -/
theorem ValidPlan.withAccounts {plan : RetirementPlan K} (h : ValidPlan plan)
    {accounts : List (Account K)} (haccounts : ValidAccounts accounts) :
    ValidPlan { plan with accounts } :=
  ⟨⟨h.settings.profile, h.settings.socialSecurity, h.settings.assumptions⟩, haccounts⟩

/-- What the plan schema returns is valid. -/
theorem retirementPlanSchema_valid {value : Option (Json K)} {plan : RetirementPlan K}
    (h : retirementPlanSchema value = .ok plan) : ValidPlan plan := by
  simp only [retirementPlanSchema, bind_ok, object_ok, field_ok] at h
  obtain ⟨fields, -, profile, hprofile, accounts, haccounts, ss, hss, assumptions, hassumptions,
    heq⟩ := h
  cases heq
  exact ⟨⟨userProfileSchema_roundTrips hprofile, socialSecuritySettingsSchema_roundTrips hss,
    projectionSettingsSchema_roundTrips hassumptions⟩, accountSchema_roundTrips.array haccounts⟩

omit [IsStrictOrderedRing K] in
/-- A valid plan is accepted as itself. -/
theorem ValidPlan.parse {plan : RetirementPlan K} (h : ValidPlan plan) :
    retirementPlanSchema (some (planJson plan)) = .ok plan := by
  simp only [retirementPlanSchema, bind_ok, object_ok, field_ok]
  exact ⟨_, rfl, plan.profile, h.settings.profile, plan.accounts, h.accounts,
    plan.socialSecurity, h.settings.socialSecurity, plan.assumptions, h.settings.assumptions, rfl⟩

/-- The server takes a save of valid settings for what it is. -/
theorem saveProfileSchema_settings {plan : RetirementPlan K} (h : ValidSettings plan)
    {revision : Option ℤ} (hrevision : ∀ n ∈ revision, 0 ≤ n) :
    saveProfileSchema (some (saveBody plan revision)) = .ok
      { profile := plan.profile, socialSecurity := plan.socialSecurity,
        assumptions := plan.assumptions, revision } := by
  simp only [saveProfileSchema, bind_ok, field_ok]
  refine ⟨_, rfl, plan.profile, union_ok.mpr (.inl h.profile), plan.socialSecurity,
    h.socialSecurity, plan.assumptions, h.assumptions, revision, ?_, rfl⟩
  cases revision with
  | none => rfl
  | some n =>
    have hn : refined integer (fun n => 0 ≤ n) none (some (Json.num (n : K))) = .ok n := by
      rw [refined_ok, integer_ok]
      exact ⟨rfl, decide_eq_true (hrevision n rfl)⟩
    show (refined integer (fun n => 0 ≤ n) none (some (Json.num (n : K)))).map some = .ok (some n)
    rw [hn]
    rfl

/-! ## Hydrating what was written out -/

omit [LinearOrder K] [IsStrictOrderedRing K] [FloorRing K] in
/-- The accounts a hydrated plan is made of. -/
def accountItems : Option (Json K) → List (Json K)
  | some (.arr items) => items
  | _ => starterAccounts

omit [IsStrictOrderedRing K] in
/-- Hydration parses the plan it puts together. -/
theorem hydratePlan_ok {clock : Clock}
    {profile socialSecurity assumptions accounts : Option (Json K)} {plan : RetirementPlan K} :
    hydratePlan clock profile socialSecurity assumptions accounts = .ok plan ↔
      ∃ fields, hydrateProfile clock (fieldsOf profile) = .ok fields ∧
        retirementPlanSchema (some (.obj
          [("profile", .obj fields),
            ("socialSecurity",
              .obj (Fields.spread defaultSocialSecurity (fieldsOf socialSecurity))),
            ("assumptions", .obj (hydrateAssumptions (fieldsOf assumptions))),
            ("accounts", .arr (accountItems accounts))])) = .ok plan :=
  bind_ok

omit [IsStrictOrderedRing K] in
theorem hydrateProfile_settings (clock : Clock) {profile : UserProfile K}
    (h : userProfileSchema (some (.obj (profileFields profile))) = .ok profile) :
    ∃ fields, hydrateProfile clock (profileFields profile) = .ok fields ∧
      userProfileSchema (some (.obj fields)) = .ok profile := by
  refine ⟨_, rfl, ?_⟩
  simp only [userProfileSchema, bind_ok, object_ok, field_ok] at h ⊢
  obtain ⟨fields, hfields, h⟩ := h
  cases hfields
  exact ⟨_, rfl, h⟩

omit [IsStrictOrderedRing K] in
theorem socialSecurity_settings {settings : SocialSecuritySettings K}
    (h : socialSecuritySettingsSchema (some (.obj (socialSecurityFields settings)))
      = .ok settings) :
    socialSecuritySettingsSchema (some (.obj
      (Fields.spread defaultSocialSecurity (socialSecurityFields settings)))) = .ok settings := by
  simp only [socialSecuritySettingsSchema, bind_ok, object_ok, field_ok] at h ⊢
  obtain ⟨fields, hfields, h⟩ := h
  cases hfields
  obtain ⟨enabled, benefit, age, override⟩ := settings
  refine ⟨_, rfl, ?_⟩
  cases benefit with
  | none => exact h
  | some benefit => exact h

omit [IsStrictOrderedRing K] in
theorem hydrateAssumptions_settings {assumptions : AssumptionSettings K}
    (h : projectionSettingsSchema (some (.obj (assumptionFields assumptions)))
      = .ok assumptions) :
    projectionSettingsSchema (some (.obj (hydrateAssumptions (assumptionFields assumptions))))
      = .ok assumptions := by
  simp only [projectionSettingsSchema, bind_ok, object_ok, field_ok] at h ⊢
  obtain ⟨fields, hfields, h⟩ := h
  cases hfields
  exact ⟨_, rfl, h⟩

omit [IsStrictOrderedRing K] in
/-- Hydration makes of valid settings, written out, the same settings again. -/
theorem hydratePlan_settings (clock : Clock) {plan : RetirementPlan K} (h : ValidSettings plan)
    {accounts : List (Account K)} (haccounts : ValidAccounts accounts) :
    hydratePlan clock (some (.obj (profileFields plan.profile)))
      (some (.obj (socialSecurityFields plan.socialSecurity)))
      (some (.obj (assumptionFields plan.assumptions)))
      (some (encodeArray accountJson accounts)) = .ok { plan with accounts } := by
  obtain ⟨fields, hfields, hprofile⟩ := hydrateProfile_settings clock h.profile
  refine hydratePlan_ok.mpr ⟨fields, hfields, ?_⟩
  simp only [retirementPlanSchema, bind_ok, object_ok, field_ok]
  exact ⟨_, rfl, plan.profile, hprofile, accounts, haccounts, plan.socialSecurity,
    socialSecurity_settings h.socialSecurity, plan.assumptions,
    hydrateAssumptions_settings h.assumptions, rfl⟩

omit [IsStrictOrderedRing K] in
/-- A plan that its own JSON is read as is stored as it stands. -/
theorem stored_of_test {plan : RetirementPlan K}
    (h : okAnd (retirementPlanSchema (some (planJson plan))) (fun stored => decide (stored = plan))
      = true) : retirementPlanSchema (some (planJson plan)) = .ok plan := by
  obtain ⟨stored, hstored, hsame⟩ := exists_of_okAnd h
  rw [hstored, of_decide_eq_true hsame]

end RetirementPlanner.Web
