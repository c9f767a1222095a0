import Mathlib.Data.Rat.Floor
import Mathlib.Tactic
import RetirementPlanner.Proof.Codec

/-!
# The migrations of a stored profile

Two paths bring an older profile forward: the server's `legacyStoredProfileSchema` and
the browser's `hydratePlan`. What each of them makes of a payload is read off the keys
it looks up (`legacyStored_reads`, `hydratePlan_reads`). They disagree where the server
overwrites a multiplier that the payload already carries (`migrations_agree_iff`), and
`hydratePlan` keeps a dollar target only where working spending does not drift
(`legacyTarget_resolves_iff`).
-/

namespace RetirementPlanner.Web

open Schema
open Engine (NaiveDate)

variable {K : Type} [Field K] [LinearOrder K]

/-! ## What a payload carries -/

/-- The working-year spending of a payload, under its present or its older key. -/
def storedSpending (payload : Fields K) : Option K :=
  numberOf (coalesce (payload.get "currentSpending") (payload.get "desiredSpending"))

/-- The retirement target of a payload in dollars. -/
def storedTarget (payload : Fields K) : Option K :=
  numberOf (coalesce (payload.get "retirementSpending") (payload.get "desiredSpending"))

def storedMultiplier (payload : Fields K) : Option K :=
  numberOf (payload.get "retirementSpendingMultiplier")

/-- The multiplier the browser takes from a payload's dollars, where it carries a spending. -/
theorem legacyRetirementMultiplier_eq (payload : Fields K) :
    legacyRetirementMultiplier payload = (storedSpending payload).bind fun spending =>
      if 0 < spending then (storedTarget payload).map (· / spending) else none := by
  rw [legacyRetirementMultiplier, storedSpending, storedTarget]
  cases numberOf (coalesce (payload.get "currentSpending") (payload.get "desiredSpending")) <;>
    cases numberOf (coalesce (payload.get "retirementSpending") (payload.get "desiredSpending")) <;>
    simp

/-- The working-year drift of a payload, none when it carries none. -/
def storedGrowth (payload : Fields K) : K :=
  (numberOf (payload.get "workingSpendingGrowthRate")).getD 0

/-- The fields of an accepted profile that decide its retirement spending. -/
structure Reads (fields : Fields K) (profile : UserProfile K) : Prop where
  birthDate : isoDateSchema (fields.get "birthDate") = .ok profile.birthDate
  asOfDate : isoDateSchema (fields.get "asOfDate") = .ok profile.asOfDate
  retirementAge : fields.get "retirementAge" = some (.num (profile.retirementAge : K))
  currentSpending : fields.get "currentSpending" = some (.num profile.currentSpending)
  currentSpending_nonneg : 0 ≤ profile.currentSpending
  growth : fields.get "workingSpendingGrowthRate"
    = some (.num profile.workingSpendingGrowthRate)
  growth_ge : -0.1 ≤ profile.workingSpendingGrowthRate
  multiplier : fields.get "retirementSpendingMultiplier"
    = some (.num profile.retirementSpendingMultiplier)

variable [IsStrictOrderedRing K] [FloorRing K]

theorem userProfileSchema_reads {fields : Fields K} {profile : UserProfile K}
    (h : userProfileSchema (some (.obj fields)) = .ok profile) : Reads fields profile := by
  simp only [userProfileSchema, bind_ok, field_ok, object_ok, Option.some.injEq, Json.obj.injEq,
    growthRate, between_ok, integerBetween_ok] at h
  obtain ⟨fields', rfl, birthDate, hbirth, state, -, filingStatus, -, retirementAge, ⟨hage, -⟩,
    salary, -, salaryGrowth, -, spending, ⟨hspending, hspending0, -⟩, growth, ⟨hgrowth, hge, -⟩,
    retirementGrowth, -, life, -, healthcare, -, care, -, asOf, hasOf, multiplier,
    ⟨hmultiplier, -⟩, hrules⟩ := h
  have heq := profileRules_ok hrules
  subst heq
  exact ⟨hbirth, hasOf, hage, hspending, hspending0, hgrowth, hge, hmultiplier⟩

/-- What retirement spending compounds to by the last working year. -/
def compounding (profile : UserProfile K) : K :=
  (1 + profile.workingSpendingGrowthRate) ^
    (max 0 (max 0 (profile.retirementAge - ageOn profile.birthDate profile.asOfDate) - 1)).toNat

omit [LinearOrder K] [IsStrictOrderedRing K] [FloorRing K] in
theorem retirementSpendingOf_eq (profile : UserProfile K) :
    retirementSpendingOf profile = profile.currentSpending * compounding profile
      * profile.retirementSpendingMultiplier := rfl

omit [FloorRing K] in
theorem compounding_pos {fields : Fields K} {profile : UserProfile K}
    (h : Reads fields profile) : 0 < compounding profile := by
  refine pow_pos ?_ _
  linarith [h.growth_ge]

omit [FloorRing K] in
/-- Profiles that read the same dates, retirement age and drift compound alike. -/
theorem compounding_congr {fields fields' : Fields K} {profile profile' : UserProfile K}
    (h : Reads fields profile) (h' : Reads fields' profile')
    (hbirth : fields.get "birthDate" = fields'.get "birthDate")
    (hasOf : fields.get "asOfDate" = fields'.get "asOfDate")
    (hage : fields.get "retirementAge" = fields'.get "retirementAge")
    (hgrowth : fields.get "workingSpendingGrowthRate" = fields'.get "workingSpendingGrowthRate") :
    compounding profile = compounding profile' := by
  have e1 := h.birthDate
  rw [hbirth, h'.birthDate, Except.ok.injEq] at e1
  have e2 := h.asOfDate
  rw [hasOf, h'.asOfDate, Except.ok.injEq] at e2
  have e3 := h.retirementAge
  rw [hage, h'.retirementAge, Option.some.injEq, Json.num.injEq, Int.cast_inj] at e3
  have e4 := h.growth
  rw [hgrowth, h'.growth, Option.some.injEq, Json.num.injEq] at e4
  rw [compounding, compounding, e1, e2, e3, e4]

/-! ## The server's path -/

/-- The keys the legacy branch reads by name are absent or of the type it declares. -/
structure LegacyReads (payload : Fields K) (legacy : LegacyFields K) : Prop where
  age : payload.get "age" = legacy.age.map .num
  birthYear : payload.get "birthYear" = legacy.birthYear.map .num
  birthDate : payload.get "birthDate" = legacy.birthDate.map .str
  currentSpending : payload.get "currentSpending" = legacy.currentSpending.map .num
  desiredSpending : payload.get "desiredSpending" = legacy.desiredSpending.map .num
  retirementSpending : payload.get "retirementSpending" = legacy.retirementSpending.map .num
  asOfDate : payload.get "asOfDate" = some (.str legacy.asOfDate)

omit [Field K] [LinearOrder K] [IsStrictOrderedRing K] [FloorRing K] in
theorem legacyFields_reads {payload : Fields K} {legacy : LegacyFields K}
    (h : legacyFields payload = .ok legacy) : LegacyReads payload legacy := by
  simp only [legacyFields, bind_ok, field_ok, optional_number_ok, optional_string_ok, isoDateText,
    string_ok] at h
  obtain ⟨age, hage, birthYear, hbirthYear, birthDate, hbirthDate, current, hcurrent, desired,
    hdesired, retirement, hretirement, growth, -, asOf, ⟨_, -, hasOf⟩, heq⟩ := h
  cases heq
  exact ⟨hage, hbirthYear, hbirthDate, hcurrent, hdesired, hretirement, hasOf⟩

/-- The birth date either path settles on. -/
def legacyBirthDate (legacy : LegacyFields K) : String :=
  legacy.birthDate.getD
    (birthDateFromLegacyAge (legacy.age.getD 35) legacy.birthYear legacy.asOfDate)

omit [IsStrictOrderedRing K] in
/-- What the legacy branch hands to the profile schema, at the keys that decide
retirement spending. -/
theorem legacyTransform_get (payload : Fields K) (legacy : LegacyFields K) :
    let fields := legacyTransform payload legacy
    let spending := (legacy.currentSpending.or legacy.desiredSpending).getD 0
    let target := (legacy.retirementSpending.or legacy.desiredSpending).getD spending
    fields.get "birthDate" = some (.str (legacyBirthDate legacy)) ∧
      fields.get "asOfDate" = payload.get "asOfDate" ∧
      fields.get "retirementAge" = payload.get "retirementAge" ∧
      fields.get "currentSpending" = some (.num spending) ∧
      fields.get "workingSpendingGrowthRate"
        = some ((nonNull (payload.get "workingSpendingGrowthRate")).getD (.num 0)) ∧
      fields.get "retirementSpendingMultiplier"
        = some (.num (if 0 < spending then target / spending else 1)) := by
  have hrest (key : String) (hkey : key ∉ legacyKeys) :
      (payload.without legacyKeys).get key = payload.get key := payload.get_without hkey
  simp only [legacyTransform, Fields.get_spread]
  refine ⟨rfl, ?_, ?_, rfl, ?_, rfl⟩
  · exact hrest "asOfDate" (by decide)
  · exact hrest "retirementAge" (by decide)
  · rw [hrest "workingSpendingGrowthRate" (by decide)]
    rfl

/-! ## The browser's path -/

omit [IsStrictOrderedRing K] in
/-- What `hydratePlan` hands to the plan schema, at the keys that decide retirement
spending. -/
theorem hydrateProfile_get {clock : Clock} {payload fields : Fields K}
    (h : hydrateProfile clock payload = .ok fields) :
    (∃ birthDate, hydrateBirthDate payload
        (coalesce (payload.get "asOfDate") (some (.str clock.isoDate))) = .ok birthDate ∧
      fields.get "birthDate" = some birthDate) ∧
      fields.get "asOfDate" = (payload.get "asOfDate").or (some (.str clock.isoDate)) ∧
      fields.get "retirementAge" = (payload.get "retirementAge").or (some (.num 65)) ∧
      fields.get "currentSpending"
        = some ((nonNull (coalesce (payload.get "currentSpending")
          (payload.get "desiredSpending"))).getD (.num 60000)) ∧
      fields.get "workingSpendingGrowthRate"
        = some ((nonNull (payload.get "workingSpendingGrowthRate")).getD (.num 0)) ∧
      fields.get "retirementSpendingMultiplier"
        = some ((nonNull (payload.get "retirementSpendingMultiplier")).getD
          (((legacyRetirementMultiplier payload).map .num).getD (.num 1))) := by
  simp only [hydrateProfile, bind_ok] at h
  obtain ⟨birthDate, hbirth, heq⟩ := h
  cases heq
  simp only [Fields.get_spread]
  refine ⟨⟨birthDate, hbirth, rfl⟩, rfl, rfl, ?_, ?_, ?_⟩
  · exact congrArg some (getD_coalesce_some _ _ _)
  · exact congrArg some (getD_coalesce_some _ _ _)
  · refine congrArg some (Eq.trans ?_ (getD_coalesce_some _ _ .null))
    cases legacyRetirementMultiplier payload <;> rfl

/-- The profile `hydratePlan` accepts, read off the one it hands to the schema. -/
theorem hydratePlan_reads {clock : Clock} {payload : Fields K}
    {socialSecurity assumptions accounts : Option (Json K)} {plan : RetirementPlan K}
    (h : hydratePlan clock (some (.obj payload)) socialSecurity assumptions accounts
      = .ok plan) :
    ∃ fields, hydrateProfile clock payload = .ok fields ∧ Reads fields plan.profile := by
  obtain ⟨fields, hfields, hplan⟩ := hydratePlan_ok.mp h
  simp only [retirementPlanSchema, bind_ok, field_ok, object_ok] at hplan
  obtain ⟨plan', hplan', profile', hprofile, accounts', -, ss, -, as, -, heq⟩ := hplan
  cases heq
  cases hplan'
  exact ⟨fields, hfields, userProfileSchema_reads hprofile⟩

/-- What a hydrated plan spends while working and keeps of it in retirement, from the keys of
its payload. -/
theorem hydratePlan_amounts {clock : Clock} {payload : Fields K}
    {socialSecurity assumptions accounts : Option (Json K)} {plan : RetirementPlan K}
    (h : hydratePlan clock (some (.obj payload)) socialSecurity assumptions accounts
      = .ok plan) :
    plan.profile.currentSpending = (storedSpending payload).getD 60000 ∧
      plan.profile.retirementSpendingMultiplier
        = (storedMultiplier payload).getD ((legacyRetirementMultiplier payload).getD 1) := by
  obtain ⟨fields, hfields, hreads⟩ := hydratePlan_reads h
  obtain ⟨-, -, -, hspending, -, hmultiplier⟩ := hydrateProfile_get hfields
  rw [hreads.currentSpending] at hspending
  rw [hreads.multiplier] at hmultiplier
  have hfallback : ((legacyRetirementMultiplier payload).map Json.num).getD (.num 1)
      = .num ((legacyRetirementMultiplier payload).getD 1) := by
    cases legacyRetirementMultiplier payload <;> rfl
  rw [hfallback] at hmultiplier
  exact ⟨eq_numberOf_getD hspending.symm, eq_numberOf_getD hmultiplier.symm⟩

/-- What a hydrated plan spends in retirement, from the keys of its payload. -/
theorem hydratePlan_spending {clock : Clock} {payload : Fields K}
    {socialSecurity assumptions accounts : Option (Json K)} {plan : RetirementPlan K}
    (h : hydratePlan clock (some (.obj payload)) socialSecurity assumptions accounts
      = .ok plan) :
    retirementSpendingOf plan.profile
      = (storedSpending payload).getD 60000 * compounding plan.profile
        * (storedMultiplier payload).getD ((legacyRetirementMultiplier payload).getD 1) := by
  obtain ⟨hspending, hmultiplier⟩ := hydratePlan_amounts h
  rw [retirementSpendingOf_eq, hspending, hmultiplier]

/-! ## Where the two agree -/

/-- The payloads on which the two migrations agree: they carry working spending, and no
multiplier or the one their dollars imply (without any working spending, one). -/
def MigrationsAgree (payload : Fields K) : Prop :=
  ∃ spending, storedSpending payload = some spending ∧
    ∀ multiplier, storedMultiplier payload = some multiplier →
      if spending = 0 then multiplier = 1
      else spending * multiplier = (storedTarget payload).getD spending

omit [Field K] [LinearOrder K] [IsStrictOrderedRing K] [FloorRing K] in
/-- Keys that are absent or numbers fall back one on the other as numbers. -/
theorem coalesce_map_num (x y : Option K) :
    coalesce (x.map .num) (y.map .num) = (x.or y).map (Json.num (K := K)) := by
  cases x <;> rfl

omit [IsStrictOrderedRing K] in
/-- On a payload the legacy branch reads, both paths settle on one birth date. -/
theorem hydrateBirthDate_legacy {payload : Fields K} {legacy : LegacyFields K}
    (h : LegacyReads payload legacy) (asOf : String) :
    hydrateBirthDate payload (coalesce (payload.get "asOfDate") (some (.str asOf)))
      = .ok (.str (legacyBirthDate legacy)) := by
  have hasOf : coalesce (payload.get "asOfDate") (some (.str asOf))
      = some (.str legacy.asOfDate) := by
    rw [h.asOfDate]
    rfl
  have hbirth := h.birthDate
  cases hlegacy : legacy.birthDate with
  | some birthDate =>
    rw [hlegacy] at hbirth
    simp [hydrateBirthDate, hbirth, nonNull, legacyBirthDate, hlegacy]
  | none =>
    rw [hlegacy] at hbirth
    simp [hydrateBirthDate, hbirth, hasOf, h.age, h.birthYear, nonNull, legacyBirthDate, hlegacy]

omit [Field K] [LinearOrder K] [IsStrictOrderedRing K] [FloorRing K] in
theorem LegacyReads.storedSpending {payload : Fields K} {legacy : LegacyFields K}
    (h : LegacyReads payload legacy) :
    storedSpending payload = legacy.currentSpending.or legacy.desiredSpending := by
  rw [Web.storedSpending, h.currentSpending, h.desiredSpending, coalesce_map_num,
    numberOf_map_num]

omit [Field K] [LinearOrder K] [IsStrictOrderedRing K] [FloorRing K] in
theorem LegacyReads.storedTarget {payload : Fields K} {legacy : LegacyFields K}
    (h : LegacyReads payload legacy) :
    storedTarget payload = legacy.retirementSpending.or legacy.desiredSpending := by
  rw [Web.storedTarget, h.retirementSpending, h.desiredSpending, coalesce_map_num,
    numberOf_map_num]

/-- What a save through the legacy branch stores, read off the transform. -/
theorem saveProfile_legacy {body payload : Fields K} {saved : SaveProfileData K}
    (hsave : saveProfileSchema (some (.obj body)) = .ok saved)
    (hpayload : body.get "profile" = some (.obj payload))
    (hlegacy : ∀ profile, userProfileSchema (some (.obj payload)) ≠ .ok profile) :
    ∃ legacy, LegacyReads payload legacy ∧
      Reads (legacyTransform payload legacy) saved.profile := by
  simp only [saveProfileSchema, bind_ok, field_ok] at hsave
  obtain ⟨fields, hfields, profile, hprofile, ss, -, as, -, revision, -, heq⟩ := hsave
  cases heq
  cases strict_ok hfields
  rw [hpayload, union_ok] at hprofile
  obtain hcurrent | ⟨-, hprofile⟩ := hprofile
  · exact absurd hcurrent (hlegacy profile)
  · simp only [legacyStoredProfileSchema, bind_ok, object_ok] at hprofile
    obtain ⟨fields, hobject, legacy, hfields, hprofile⟩ := hprofile
    cases hobject
    exact ⟨legacy, legacyFields_reads hfields, userProfileSchema_reads hprofile⟩

omit [IsStrictOrderedRing K] in
/-- What a stored profile spends while working and keeps of it in retirement, from the keys of
its payload: no multiplier among them is read. -/
theorem LegacyReads.amounts {payload : Fields K} {legacy : LegacyFields K}
    {profile : UserProfile K} (h : LegacyReads payload legacy)
    (hreads : Reads (legacyTransform payload legacy) profile) :
    profile.currentSpending = (Web.storedSpending payload).getD 0 ∧
      profile.retirementSpendingMultiplier
        = if 0 < profile.currentSpending then
            (Web.storedTarget payload).getD profile.currentSpending / profile.currentSpending
          else 1 := by
  obtain ⟨-, -, -, hspending, -, hmultiplier⟩ := legacyTransform_get payload legacy
  rw [← h.storedSpending] at hspending hmultiplier
  rw [← h.storedTarget] at hmultiplier
  rw [hreads.currentSpending, Option.some.injEq, Json.num.injEq] at hspending
  rw [hreads.multiplier, Option.some.injEq, Json.num.injEq, ← hspending] at hmultiplier
  exact ⟨hspending, hmultiplier⟩

omit [IsStrictOrderedRing K] in
/-- What a stored profile spends in retirement, from the keys of its payload. -/
theorem LegacyReads.spending {payload : Fields K} {legacy : LegacyFields K}
    {profile : UserProfile K} (h : LegacyReads payload legacy)
    (hreads : Reads (legacyTransform payload legacy) profile) :
    retirementSpendingOf profile = compounding profile
      * if 0 < profile.currentSpending then
          (Web.storedTarget payload).getD profile.currentSpending
        else 0 := by
  obtain ⟨-, hmultiplier⟩ := h.amounts hreads
  rw [retirementSpendingOf_eq, hmultiplier]
  split_ifs with hpos
  · field_simp
  · have hzero : profile.currentSpending = 0 :=
      le_antisymm (not_lt.mp hpos) hreads.currentSpending_nonneg
    rw [hzero]
    ring

/-- The migrations of one payload compound alike: they settle on the same dates, the
same retirement age and the same drift. -/
theorem compounding_agree {clock : Clock} {payload fields : Fields K} {legacy : LegacyFields K}
    {profile profile' : UserProfile K} (h : LegacyReads payload legacy)
    (hreads : Reads (legacyTransform payload legacy) profile)
    (hfields : hydrateProfile clock payload = .ok fields) (hreads' : Reads fields profile') :
    compounding profile = compounding profile' := by
  obtain ⟨hbirth, hasOf, hage, -, hgrowth, -⟩ := legacyTransform_get payload legacy
  obtain ⟨⟨birthDate, hhydrate, hbirth'⟩, hasOf', hage', -, hgrowth', -⟩ :=
    hydrateProfile_get hfields
  rw [hydrateBirthDate_legacy h, Except.ok.injEq] at hhydrate
  refine compounding_congr hreads hreads' ?_ ?_ ?_ ?_
  · rw [hbirth, hbirth', hhydrate]
  · rw [hasOf, hasOf', h.asOfDate]
    rfl
  · have hpresent := hreads.retirementAge
    rw [hage] at hpresent
    rw [hage, hage', hpresent]
    rfl
  · rw [hgrowth, hgrowth']

/-- On a payload that only the legacy branch accepts, what the server stores and what
the browser builds spend the same in retirement, and both keep a multiplier that the payload
carries, exactly when `MigrationsAgree`. -/
theorem migrations_agree_iff (clock : Clock) {body payload : Fields K} {saved : SaveProfileData K}
    {plan : RetirementPlan K} (accounts : Option (Json K))
    (hsave : saveProfileSchema (some (.obj body)) = .ok saved)
    (hpayload : body.get "profile" = some (.obj payload))
    (hlegacy : ∀ profile, userProfileSchema (some (.obj payload)) ≠ .ok profile)
    (hplan : hydratePlan clock (body.get "profile") (body.get "socialSecurity")
      (body.get "assumptions") accounts = .ok plan) :
    (retirementSpendingOf saved.profile = retirementSpendingOf plan.profile ∧
        ∀ multiplier, storedMultiplier payload = some multiplier →
          saved.profile.retirementSpendingMultiplier = multiplier ∧
            plan.profile.retirementSpendingMultiplier = multiplier) ↔
      MigrationsAgree payload := by
  obtain ⟨legacy, h, hreads⟩ := saveProfile_legacy hsave hpayload hlegacy
  obtain ⟨hspending, hmultiplier⟩ := h.amounts hreads
  have hstored := h.spending hreads
  rw [hpayload] at hplan
  obtain ⟨fields, hfields, hreads'⟩ := hydratePlan_reads hplan
  have hbuilt := (hydratePlan_amounts hplan).2
  have hagree := compounding_agree h hreads hfields hreads'
  have hne : compounding plan.profile ≠ 0 := (compounding_pos hreads').ne'
  rw [hstored, hydratePlan_spending hplan, hagree, mul_right_comm, mul_comm (compounding _),
    mul_left_inj' hne, hbuilt, hmultiplier, MigrationsAgree]
  have hnonneg := hreads.currentSpending_nonneg
  cases hsome : storedSpending payload with
  | none =>
    -- The server stores no spending and a multiplier of one, the browser its default.
    rw [hsome] at hspending
    have hratio : legacyRetirementMultiplier payload = none := by
      rw [legacyRetirementMultiplier_eq, hsome, Option.bind_none]
    rw [hspending, hratio]
    cases storedMultiplier payload with
    | none => simp
    | some multiplier =>
      simp only [Option.getD_none, Option.getD_some, lt_irrefl, if_false, Option.some.injEq,
        reduceCtorEq, false_and, exists_false, iff_false]
      rintro ⟨hzero, hkept⟩
      have hone := (hkept multiplier rfl).1
      rw [← hone] at hzero
      norm_num at hzero
  | some spending =>
    rw [hsome] at hspending
    simp only [Option.getD_some] at hspending
    rw [hspending] at hnonneg ⊢
    obtain hzero | hpos := hnonneg.eq_or_lt
    · cases storedMultiplier payload <;> simp [← hzero, eq_comm]
    · have hratio : legacyRetirementMultiplier payload
          = (storedTarget payload).map (· / spending) := by
        rw [legacyRetirementMultiplier_eq, hsome, Option.bind_some, if_pos hpos]
      rw [if_pos hpos, if_pos hpos, hratio]
      cases storedMultiplier payload with
      | none =>
        cases storedTarget payload with
        | none => simp
        | some target => simp [mul_div_cancel₀, hpos.ne']
      | some multiplier =>
        simp only [Option.getD_some, Option.some.injEq, forall_eq', exists_eq_left', hpos.ne',
          if_false, and_true]
        rw [div_eq_iff hpos.ne', mul_comm multiplier, eq_comm, and_self]

/-- A profile saved before health care was stored, with a multiplier of its own. -/
def multiplierPayload : Fields ℚ :=
  [("birthDate", .str "1990-01-01"), ("state", .str "CA"), ("filingStatus", .str "Single"),
    ("retirementAge", .num 65), ("currentSalary", .num 100000), ("salaryGrowthRate", .num 0.02),
    ("currentSpending", .num 48000), ("retirementSpendingMultiplier", .num 0.5),
    ("lifeExpectancy", .num 90), ("asOfDate", .str "2025-01-01")]

/-- The body of a save of it. -/
def multiplierSave : Fields ℚ :=
  [("profile", .obj multiplierPayload), ("socialSecurity", .obj defaultSocialSecurity),
    ("assumptions", .obj defaultAssumptions), ("revision", .num 0)]

theorem multiplierPayload_legacy (profile : UserProfile ℚ) :
    userProfileSchema (some (.obj multiplierPayload)) ≠ .ok profile := by
  intro h
  have hrefused : (userProfileSchema (some (.obj multiplierPayload))).isOk = false := by
    decide +kernel
  rw [h] at hrefused
  cases hrefused

theorem migrations_agree_iff_multiplier : ∃ saved plan,
    saveProfileSchema (some (.obj multiplierSave)) = .ok saved ∧
      hydratePlan newYear (multiplierSave.get "profile") (multiplierSave.get "socialSecurity")
        (multiplierSave.get "assumptions") none = .ok plan ∧
      ((retirementSpendingOf saved.profile = retirementSpendingOf plan.profile ∧
          ∀ multiplier, storedMultiplier multiplierPayload = some multiplier →
            saved.profile.retirementSpendingMultiplier = multiplier ∧
              plan.profile.retirementSpendingMultiplier = multiplier) ↔
        MigrationsAgree multiplierPayload) := by
  obtain ⟨saved, hsave, -⟩ := exists_of_okAnd (by decide +kernel :
    okAnd (saveProfileSchema (some (.obj multiplierSave))) (fun _ => true) = true)
  obtain ⟨plan, hplan, -⟩ := exists_of_okAnd (by decide +kernel :
    okAnd (hydratePlan newYear (multiplierSave.get "profile") (multiplierSave.get "socialSecurity")
      (multiplierSave.get "assumptions") none) (fun _ => true) = true)
  exact ⟨saved, plan, hsave, hplan,
    migrations_agree_iff newYear none hsave rfl multiplierPayload_legacy hplan⟩

/-- The server stores a multiplier of one where the payload carries a half: 48,000 a year
in retirement against the 24,000 the browser builds. -/
theorem multiplier_overwritten : ∃ saved plan,
    saveProfileSchema (some (.obj multiplierSave)) = .ok saved ∧
      (∀ profile, userProfileSchema (some (.obj multiplierPayload)) ≠ .ok profile) ∧
      hydratePlan newYear (multiplierSave.get "profile") (multiplierSave.get "socialSecurity")
        (multiplierSave.get "assumptions") none = .ok plan ∧
      saved.profile.retirementSpendingMultiplier = 1 ∧
      retirementSpendingOf saved.profile = 48000 ∧ retirementSpendingOf plan.profile = 24000 := by
  obtain ⟨saved, hsave, hstored⟩ := exists_of_okAnd (by decide +kernel :
    okAnd (saveProfileSchema (some (.obj multiplierSave))) (fun saved =>
      decide (saved.profile.retirementSpendingMultiplier = 1
        ∧ retirementSpendingOf saved.profile = 48000)) = true)
  obtain ⟨plan, hplan, hbuilt⟩ := exists_of_okAnd (by decide +kernel :
    okAnd (hydratePlan newYear (multiplierSave.get "profile") (multiplierSave.get "socialSecurity")
      (multiplierSave.get "assumptions") none) (fun plan =>
        decide (retirementSpendingOf plan.profile = 24000)) = true)
  obtain ⟨hmultiplier, hspending⟩ := of_decide_eq_true hstored
  exact ⟨saved, plan, hsave, multiplierPayload_legacy, hplan, hmultiplier, hspending,
    of_decide_eq_true hbuilt⟩

/-! ## Dollar targets -/

/-- The whole years of age a payload carries at its own as-of date. -/
def storedAge (clock : Clock) (payload : Fields K) : ℤ :=
  let asOf := (payload.get "asOfDate").or (some (.str clock.isoDate))
  match hydrateBirthDate payload
      (coalesce (payload.get "asOfDate") (some (.str clock.isoDate))) with
  | .ok birth =>
    match isoDateSchema (some birth), isoDateSchema asOf with
    | .ok birthDate, .ok asOfDate => ageOn birthDate asOfDate
    | _, _ => 0
  | .error _ => 0

/-- The working years a payload has ahead of it. -/
def storedWorkingYears (clock : Clock) (payload : Fields K) : ℤ :=
  ⌊(numberOf (payload.get "retirementAge")).getD 65⌋ - storedAge clock payload

omit [IsStrictOrderedRing K] in
/-- A hydrated plan drifts as its payload does. -/
theorem storedGrowth_eq {clock : Clock} {payload fields : Fields K} {profile : UserProfile K}
    (hfields : hydrateProfile clock payload = .ok fields) (hreads : Reads fields profile) :
    profile.workingSpendingGrowthRate = storedGrowth payload := by
  obtain ⟨-, -, -, -, hgrowth, -⟩ := hydrateProfile_get hfields
  rw [hreads.growth] at hgrowth
  exact eq_numberOf_getD hgrowth.symm

/-- A hydrated plan compounds over the working years of its payload. -/
theorem compounding_stored {clock : Clock} {payload fields : Fields K} {profile : UserProfile K}
    (hfields : hydrateProfile clock payload = .ok fields) (hreads : Reads fields profile) :
    compounding profile
      = (1 + storedGrowth payload) ^ (storedWorkingYears clock payload - 1).toNat := by
  obtain ⟨⟨birthDate, hhydrate, hbirth⟩, hasOf, hage, -, -, -⟩ := hydrateProfile_get hfields
  have hbirthDate := hreads.birthDate
  rw [hbirth] at hbirthDate
  have hasOfDate := hreads.asOfDate
  rw [hasOf] at hasOfDate
  have hstored : storedAge clock payload = ageOn profile.birthDate profile.asOfDate := by
    simp only [storedAge, hhydrate, hbirthDate, hasOfDate]
  have hretirement : ⌊(numberOf (payload.get "retirementAge")).getD 65⌋
      = profile.retirementAge := by
    rw [hreads.retirementAge] at hage
    have hstored : (numberOf (payload.get "retirementAge")).getD 65 = profile.retirementAge := by
      cases hget : payload.get "retirementAge" with
      | none =>
        rw [hget] at hage
        simpa [numberOf, eq_comm] using hage
      | some value =>
        rw [hget, Option.some_or] at hage
        rw [← hage]
        rfl
    rw [hstored, Int.floor_intCast]
  rw [compounding, storedWorkingYears, hstored, hretirement, storedGrowth_eq hfields hreads]
  congr 1
  omega

/-- `hydratePlan` keeps a target stored in dollars exactly when working spending does
not drift or does so for no more than one working year. -/
theorem legacyTarget_resolves_iff (clock : Clock) {payload : Fields K} {target spending : K}
    {socialSecurity assumptions accounts : Option (Json K)} {plan : RetirementPlan K}
    (htarget : storedTarget payload = some target) (hpos : 0 < target)
    (hmultiplier : nonNull (payload.get "retirementSpendingMultiplier") = none)
    (hspending : storedSpending payload = some spending) (hspending_pos : 0 < spending)
    (hplan : hydratePlan clock (some (.obj payload)) socialSecurity assumptions accounts
      = .ok plan) :
    (toSimulationPlan plan).profile.retirementSpending = target ↔
      storedGrowth payload = 0 ∨ storedWorkingYears clock payload ≤ 1 := by
  obtain ⟨fields, hfields, hreads⟩ := hydratePlan_reads hplan
  have hnone : storedMultiplier payload = none := by
    rw [storedMultiplier, ← numberOf_nonNull, hmultiplier]
    rfl
  have hratio : legacyRetirementMultiplier payload = some (target / spending) := by
    rw [legacyRetirementMultiplier_eq, hspending, Option.bind_some, if_pos hspending_pos, htarget,
      Option.map_some]
  have hresolved : (toSimulationPlan plan).profile.retirementSpending
      = target * compounding plan.profile := by
    show retirementSpendingOf plan.profile = _
    rw [hydratePlan_spending hplan, hnone, hratio, hspending]
    simp only [Option.getD_some, Option.getD_none]
    field_simp
  have hgrowth : -0.1 ≤ storedGrowth payload := by
    rw [← storedGrowth_eq hfields hreads]
    exact hreads.growth_ge
  have hbase : 0 < 1 + storedGrowth payload := by linarith
  rw [hresolved, mul_eq_left₀ hpos.ne', compounding_stored hfields hreads]
  obtain hyears | hyears := le_or_gt (storedWorkingYears clock payload) 1
  · have hexponent : (storedWorkingYears clock payload - 1).toNat = 0 := by omega
    simp [hexponent, hyears]
  · have hexponent : (storedWorkingYears clock payload - 1).toNat ≠ 0 := by omega
    rw [pow_eq_one_iff_of_nonneg hbase.le hexponent, add_eq_left]
    simp [not_le.mpr hyears]

/-- A profile that stores its retirement target in dollars, with working spending that
grows by 2% a year. -/
def dollarPayload : Fields ℚ :=
  [("age", .num 35), ("state", .str "CA"), ("filingStatus", .str "Single"),
    ("retirementAge", .num 65), ("currentSalary", .num 100000), ("salaryGrowthRate", .num 0.02),
    ("currentSpending", .num 50000), ("workingSpendingGrowthRate", .num 0.02),
    ("retirementSpending", .num 40000), ("lifeExpectancy", .num 90),
    ("asOfDate", .str "2025-01-01")]

theorem legacyTarget_resolves_iff_dollar : ∃ plan,
    hydratePlan newYear (some (.obj dollarPayload)) none none none = .ok plan ∧
      ((toSimulationPlan plan).profile.retirementSpending = 40000 ↔
        storedGrowth dollarPayload = 0 ∨ storedWorkingYears newYear dollarPayload ≤ 1) := by
  obtain ⟨plan, hplan, -⟩ := exists_of_okAnd (by decide +kernel :
    okAnd (hydratePlan newYear (some (.obj dollarPayload)) none none none)
      (fun _ => true) = true)
  exact ⟨plan, hplan,
    legacyTarget_resolves_iff newYear rfl (by norm_num) rfl rfl (by norm_num) hplan⟩

/-- Thirty working years of 2% stand between the target stored and the one resolved. -/
theorem dollarTarget_rescaled : ∃ plan,
    hydratePlan newYear (some (.obj dollarPayload)) none none none = .ok plan ∧
      storedTarget dollarPayload = some 40000 ∧
      (toSimulationPlan plan).profile.retirementSpending = 40000 * 1.02 ^ 29 ∧
      (toSimulationPlan plan).profile.retirementSpending ≠ 40000 := by
  obtain ⟨plan, hplan, hresolved⟩ := exists_of_okAnd (by decide +kernel :
    okAnd (hydratePlan newYear (some (.obj dollarPayload)) none none none) (fun plan =>
      decide ((toSimulationPlan plan).profile.retirementSpending = 40000 * 1.02 ^ 29)) = true)
  refine ⟨plan, hplan, rfl, of_decide_eq_true hresolved, ?_⟩
  rw [of_decide_eq_true hresolved]
  norm_num

end RetirementPlanner.Web
