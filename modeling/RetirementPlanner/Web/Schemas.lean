import RetirementPlanner.Engine.Types
import RetirementPlanner.Lib.Schema

/-!
# The plan schemas of the web application

`domain/schemas.ts` and the profile part of `lib/validation.ts`: the plan a browser
keeps, the schemas it is validated with, and the legacy branch that folds a profile
of an older bundle into the current shape. A date is kept as the calendar date its
text names; ages of `domain/age.ts` are differences of dates.

JSON numbers are elements of a field `K`, as the engine's are.
-/

namespace RetirementPlanner.Web

open Schema
open Engine (NaiveDate AccountType FilingStatus State AssetWeights RetirementHealthcare LongTermCare
  SimulationModel RothConversionPolicy RothConversionCeiling daysInMonth)

variable {K : Type} [Field K] [LinearOrder K]

/-! ## Constants -/

def minRetirementAge : ℤ := 45
def maxPlanDollars : K := 1000000000
def maxPlanAccounts : ℕ := 20
def planSchemaVersion : ℕ := 8

/-! ## Dates -/

/-- The number a run of decimal digits stands for. -/
def digitsOf (digits : List Char) : Option ℕ :=
  digits.foldlM (fun n c => if c.isDigit then some (10 * n + (c.toNat - '0'.toNat)) else none) 0

/-- The year, month and day of a `YYYY-MM-DD` text. -/
def isoParts (text : String) : Option (ℕ × ℕ × ℕ) :=
  match text.toList with
  | [y₁, y₂, y₃, y₄, '-', m₁, m₂, '-', d₁, d₂] => do
    let year ← digitsOf [y₁, y₂, y₃, y₄]
    let month ← digitsOf [m₁, m₂]
    let day ← digitsOf [d₁, d₂]
    some (year, month, day)
  | _ => none

/-- A real calendar date between 1900 and 2200. -/
def calendarDate (year month day : ℕ) : Option NaiveDate :=
  if year < 1900 ∨ 2200 < year then none
  else if hmonth : 1 ≤ month ∧ month ≤ 12 then
    if hday : 1 ≤ day ∧ day ≤ daysInMonth year month then
      some ⟨year, month, day, hmonth, hday⟩
    else none
  else none

def isoDateSchema : Parser K NaiveDate
  | some (.str text) =>
    match isoParts text with
    | none => fail none
    | some (year, month, day) =>
      match calendarDate year month day with
      | some date => .ok date
      | none => fail (some "Date must be a real calendar date between 1900 and 2200")
  | _ => fail none

/-- Completed years of life at the as-of date. -/
def ageOn (birthDate asOfDate : NaiveDate) : ℤ :=
  let hadBirthday := decide (birthDate.month < asOfDate.month ∨
    (asOfDate.month = birthDate.month ∧ birthDate.day ≤ asOfDate.day))
  asOfDate.year - birthDate.year - (if hadBirthday then 0 else 1)

/-! ## Accounts -/

structure Account (K : Type) where
  id : String
  name : String
  institution : String
  accountType : AccountType
  balance : K
  assetWeights : AssetWeights K
  deriving DecidableEq, Repr

def accountTypes : List (String × AccountType) :=
  [("Taxable", .taxable), ("Traditional", .traditional), ("Roth", .roth), ("HSA", .hsa)]

def assetWeightsSchema : Parser K (AssetWeights K) :=
  refined (fun value => do
      let fields ← object value
      let stocks ← field "stocks" (between 0 1 none none) fields
      let bonds ← field "bonds" (between 0 1 none none) fields
      .ok { stocks, bonds })
    (fun weights => |weights.stocks + weights.bonds - 1| < 0.001)
    (some "Asset weights must sum to 1.0")

def accountSchema : Parser K (Account K) := fun value => do
  let fields ← object value
  let id ← field "id"
    (refined string (fun s => 1 ≤ utf16Length s) (some "Account ID is required")) fields
  let name ← field "name"
    (refined string (fun s => 1 ≤ utf16Length s) (some "Account name is required")) fields
  let institution ← field "institution" (refined string (fun s => utf16Length s ≤ 100) none) fields
  let accountType ← field "type" (oneOf accountTypes) fields
  let balance ←
    field "balance" (between 0 1000000000000000 (some "Balance must be non-negative") none) fields
  let assetWeights ← field "assetWeights" assetWeightsSchema fields
  .ok { id, name, institution, accountType, balance, assetWeights }

/-! ## Profiles -/

structure UserProfile (K : Type) where
  birthDate : NaiveDate
  state : State
  filingStatus : FilingStatus
  retirementAge : ℤ
  currentSalary : K
  salaryGrowthRate : K
  /-- Current annual spending in real dollars during working years. -/
  currentSpending : K
  workingSpendingGrowthRate : K
  /-- Retirement spending as a share of working-year spending. -/
  retirementSpendingMultiplier : K
  retirementSpendingGrowthRate : K
  lifeExpectancy : ℤ
  retirementHealthcare : RetirementHealthcare K
  longTermCare : LongTermCare K
  asOfDate : NaiveDate
  deriving DecidableEq

def states : List (String × State) :=
  [("CA", .CA), ("TX", .TX), ("FL", .FL), ("NY", .NY), ("WA", .WA), ("Other", .Other)]

def filingStatuses : List (String × FilingStatus) :=
  [("Single", .single), ("MarriedFilingJointly", .marriedFilingJointly),
    ("MarriedFilingSeparately", .marriedFilingSeparately), ("HeadOfHousehold", .headOfHousehold)]

def retirementHealthcareSchema : Parser K (RetirementHealthcare K) := fun value => do
  let fields ← object value
  let premium := between (0 : K) 1000000 (some "Premium must be non-negative") none
  let preMedicarePremium ← field "preMedicarePremium" premium fields
  let medicarePremium ← field "medicarePremium" premium fields
  let outOfPocket ← field "outOfPocket"
    (between 0 1000000 (some "Out-of-pocket cost must be non-negative") none) fields
  let realGrowthRate ← field "realGrowthRate"
    (between (-0.1) 0.1 (some "Healthcare growth rate must be reasonable")
      (some "Healthcare growth rate must be reasonable")) fields
  .ok { preMedicarePremium, medicarePremium, outOfPocket, realGrowthRate }

def longTermCareSchema : Parser K (LongTermCare K) := fun value => do
  let fields ← object value
  let enabled ← field "enabled" boolean fields
  let costMultiplier ← field "costMultiplier"
    (between 0.5 3 (some "Care cost multiplier must be at least 0.5")
      (some "Care cost multiplier must be at most 3")) fields
  .ok { enabled, costMultiplier }

/-- A growth rate, with one message for both ends of its range. -/
def growthRate (low high : K) (message : String) : Parser K K :=
  between low high (some message) (some message)

/-- Age and horizon rules. -/
def profileRules (profile : UserProfile K) : Except Issue (UserProfile K) :=
  let age := ageOn profile.birthDate profile.asOfDate
  if ¬(18 ≤ age ∧ age ≤ 100) then
    .error ⟨["birthDate"], some "Age at the as-of date must be between 18 and 100"⟩
  else if ¬max age profile.retirementAge < profile.lifeExpectancy then
    .error ⟨["lifeExpectancy"],
      some "Life expectancy must be greater than current and retirement ages"⟩
  else .ok profile

variable [FloorRing K]

/-- What the plan stores: retirement spending as a share of today's spending. -/
def userProfileSchema : Parser K (UserProfile K) := fun value => do
  let fields ← object value
  let birthDate ← field "birthDate" isoDateSchema fields
  let state ← field "state" (oneOf states) fields
  let filingStatus ← field "filingStatus" (oneOf filingStatuses) fields
  let retirementAge ← field "retirementAge"
    (integerBetween minRetirementAge 100 (some "Retirement age must be at least 45")
      (some "Retirement age must be reasonable")) fields
  let currentSalary ← field "currentSalary"
    (between 0 maxPlanDollars (some "Salary must be non-negative") none) fields
  let salaryGrowthRate ← field "salaryGrowthRate"
    (growthRate (-0.1) 0.2 "Salary growth rate must be reasonable") fields
  let currentSpending ← field "currentSpending"
    (between 0 maxPlanDollars (some "Current spending must be non-negative") none) fields
  let workingSpendingGrowthRate ← field "workingSpendingGrowthRate"
    (growthRate (-0.1) 0.1 "Working spending growth rate must be reasonable") fields
  let retirementSpendingGrowthRate ← field "retirementSpendingGrowthRate"
    (growthRate (-0.1) 0.1 "Retirement spending growth rate must be reasonable") fields
  let lifeExpectancy ← field "lifeExpectancy"
    (integerBetween 65 120 (some "Life expectancy must be at least 65")
      (some "Life expectancy must be reasonable")) fields
  let retirementHealthcare ← field "retirementHealthcare" retirementHealthcareSchema fields
  let longTermCare ← field "longTermCare" longTermCareSchema fields
  let asOfDate ← field "asOfDate" isoDateSchema fields
  let retirementSpendingMultiplier ←
    field "retirementSpendingMultiplier" (between 0 10 none none) fields
  profileRules
    { birthDate, state, filingStatus, retirementAge, currentSalary, salaryGrowthRate,
      currentSpending, workingSpendingGrowthRate, retirementSpendingMultiplier,
      retirementSpendingGrowthRate, lifeExpectancy, retirementHealthcare, longTermCare, asOfDate }

/-! ## The rest of the plan -/

structure SocialSecuritySettings (K : Type) where
  enabled : Bool
  estimatedBenefit : Option K
  claimAge : ℤ
  manualOverride : Bool
  deriving DecidableEq, Repr

structure AssumptionSettings (K : Type) where
  randomSeed : ℤ
  simulationModel : SimulationModel
  taxableGainRatio : K
  hsaEligible : Bool
  useBackdoorRoth : Bool
  rothConversion : RothConversionPolicy
  magiAwareWithdrawals : Bool
  terminalTaxRate : K
  deriving DecidableEq, Repr

structure RetirementPlan (K : Type) where
  profile : UserProfile K
  accounts : List (Account K)
  socialSecurity : SocialSecuritySettings K
  assumptions : AssumptionSettings K
  deriving DecidableEq

def socialSecuritySettingsSchema : Parser K (SocialSecuritySettings K) := fun value => do
  let fields ← object value
  let enabled ← field "enabled" boolean fields
  let estimatedBenefit ←
    field "estimatedBenefit" (optional (between 0 10000000 none none)) fields
  let claimAge ← field "claimAge"
    (integerBetween 62 70 (some "Claim age must be at least 62")
      (some "Claim age must be at most 70")) fields
  let manualOverride ← field "manualOverride" boolean fields
  .ok { enabled, estimatedBenefit, claimAge, manualOverride }

def rothConversionCeilings : List (String × RothConversionCeiling) :=
  [("bracket12", .bracket12), ("bracket22", .bracket22), ("bracket24", .bracket24),
    ("bracket32", .bracket32), ("irmaaTier", .irmaaTier)]

def rothConversionPolicySchema : Parser K RothConversionPolicy := fun value => do
  let fields ← object value
  let enabled ← field "enabled" boolean fields
  let ceiling ← field "ceiling" (oneOf rothConversionCeilings) fields
  .ok { enabled, ceiling }

def simulationModels : List (String × SimulationModel) :=
  [("historical", .historical), ("parametric", .parametric)]

def projectionSettingsSchema : Parser K (AssumptionSettings K) := fun value => do
  let fields ← object value
  let randomSeed ← field "randomSeed"
    (withDefault 42 (integerBetween 0 (2 ^ 32 - 1) none none)) fields
  let simulationModel ← field "simulationModel" (oneOf simulationModels) fields
  let taxableGainRatio ← field "taxableGainRatio" (between 0 1 none none) fields
  let hsaEligible ← field "hsaEligible" boolean fields
  let useBackdoorRoth ← field "useBackdoorRoth" boolean fields
  let rothConversion ← field "rothConversion"
    (withDefault ⟨false, .bracket24⟩ rothConversionPolicySchema) fields
  let magiAwareWithdrawals ← field "magiAwareWithdrawals" (withDefault true boolean) fields
  let terminalTaxRate ← field "terminalTaxRate"
    (withDefault 0.30 (between 0 1 none none)) fields
  .ok { randomSeed, simulationModel, taxableGainRatio, hsaEligible, useBackdoorRoth,
        rothConversion, magiAwareWithdrawals, terminalTaxRate }

def retirementPlanSchema : Parser K (RetirementPlan K) := fun value => do
  let fields ← object value
  let profile ← field "profile" userProfileSchema fields
  let accounts ← field "accounts" (array accountSchema) fields
  let socialSecurity ← field "socialSecurity" socialSecuritySettingsSchema fields
  let assumptions ← field "assumptions" projectionSettingsSchema fields
  .ok { profile, accounts, socialSecurity, assumptions }

/-! ## Legacy profiles -/

/-- A year as a template prints it. One that is no whole number prints with a point,
which no date has. -/
def yearText (year : K) : String := if (⌊year⌋ : K) = year then toString ⌊year⌋ else "."

/-- The birth date reproducing a legacy plan's stored age, so results don't shift. -/
def birthDateFromLegacyAge (age : K) (birthYear : Option K) (asOfDate : String) : String :=
  match digitsOf (asOfDate.toList.take 4) with
  | none => "NaN-12-31"
  | some asOfYear =>
    let year := birthYear.getD (asOfYear - age)
    -- A stored age one below the calendar difference means the birthday has not
    -- happened yet at the as-of date.
    if asOfYear - year = age then yearText year ++ "-01-01" else yearText year ++ "-12-31"

/-- The legacy keys the transform takes out. -/
def legacyKeys : List String :=
  ["age", "birthYear", "desiredSpending", "retirementSpending", "spendingGrowthRate"]

def zeroHealthcare : Json K :=
  .obj [("preMedicarePremium", .num 0), ("medicarePremium", .num 0), ("outOfPocket", .num 0),
    ("realGrowthRate", .num 0)]

/-- `DEFAULT_LONG_TERM_CARE`. -/
def defaultLongTermCare : Json K := .obj [("enabled", .bool true), ("costMultiplier", .num 1)]

/-- The fields `legacyStoredProfileSchema` reads by name, before its transform. -/
structure LegacyFields (K : Type) where
  age : Option K
  birthYear : Option K
  birthDate : Option String
  currentSpending : Option K
  desiredSpending : Option K
  retirementSpending : Option K
  spendingGrowthRate : Option K
  asOfDate : String

/-- An ISO date that stays the text it is. -/
def isoDateText : Parser K String := fun value => do
  let _ ← isoDateSchema value
  string value

def legacyFields (fields : Fields K) : Except Issue (LegacyFields K) := do
  let age ← field "age" (optional number) fields
  let birthYear ← field "birthYear" (optional number) fields
  let birthDate ← field "birthDate" (optional string) fields
  let currentSpending ← field "currentSpending" (optional number) fields
  let desiredSpending ← field "desiredSpending" (optional number) fields
  let retirementSpending ← field "retirementSpending" (optional number) fields
  let spendingGrowthRate ← field "spendingGrowthRate" (optional number) fields
  let asOfDate ← field "asOfDate" isoDateText fields
  .ok { age, birthYear, birthDate, currentSpending, desiredSpending, retirementSpending,
        spendingGrowthRate, asOfDate }

/-- The transform of `legacyStoredProfileSchema`: an old payload's age and dollar
target, folded back into a birth date and a multiplier. -/
def legacyTransform (fields : Fields K) (legacy : LegacyFields K) : Fields K :=
  let rest := fields.without legacyKeys
  let currentSpending := (legacy.currentSpending.or legacy.desiredSpending).getD 0
  let target := (legacy.retirementSpending.or legacy.desiredSpending).getD currentSpending
  let birthDate := legacy.birthDate.getD
    (birthDateFromLegacyAge (legacy.age.getD 35) legacy.birthYear legacy.asOfDate)
  let growth := (coalesce (rest.get "retirementSpendingGrowthRate")
    (legacy.spendingGrowthRate.map .num)).getD (.num 0)
  let working := (nonNull (rest.get "workingSpendingGrowthRate")).getD (.num 0)
  let healthcare := (nonNull (rest.get "retirementHealthcare")).getD zeroHealthcare
  let care := (nonNull (rest.get "longTermCare")).getD defaultLongTermCare
  -- A plan with no working-year spending has no ratio to recover.
  let multiplier := if 0 < currentSpending then target / currentSpending else 1
  rest.spread
    [("currentSpending", .num currentSpending), ("workingSpendingGrowthRate", working),
      ("retirementSpendingGrowthRate", growth), ("birthDate", .str birthDate),
      ("retirementHealthcare", healthcare), ("longTermCare", care),
      ("retirementSpendingMultiplier", .num multiplier)]

/-- Profile payloads from browser bundles that predate the current shape. -/
def legacyStoredProfileSchema : Parser K (UserProfile K) := fun value => do
  let fields ← object value
  let legacy ← legacyFields fields
  userProfileSchema (some (.obj (legacyTransform fields legacy)))

/-! ## Saves -/

structure SaveProfileData (K : Type) where
  profile : UserProfile K
  socialSecurity : SocialSecuritySettings K
  assumptions : AssumptionSettings K
  revision : Option ℤ

/-- A value that may be null. -/
def nullable {α : Type} (p : Parser K α) : Parser K (Option α)
  | some .null => .ok none
  | value => (p value).map some

/-- `SaveProfileSchema`: the body of a profile save. Its `int()` also refuses what passes 2^53 - 1,
which no number of saves reaches. -/
def saveProfileSchema : Parser K (SaveProfileData K) := fun value => do
  let fields ← strict ["profile", "socialSecurity", "assumptions", "revision"] value
  let profile ← field "profile" (union userProfileSchema legacyStoredProfileSchema) fields
  let socialSecurity ← field "socialSecurity" socialSecuritySettingsSchema fields
  let assumptions ← field "assumptions" projectionSettingsSchema fields
  let revision ← field "revision" (nullable (refined integer (fun n => 0 ≤ n) none)) fields
  .ok { profile, socialSecurity, assumptions, revision }

end RetirementPlanner.Web
