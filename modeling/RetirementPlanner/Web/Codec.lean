import RetirementPlanner.Web.Schemas

/-!
# Plans as JSON

The JSON a plan is where it is stored, sent or validated again: the object the program
holds, with its dates as text. `retirementPlanSchema.safeParse(plan)` of the source is
`retirementPlanSchema (some (planJson plan))` here.
-/

namespace RetirementPlanner.Web

open Schema
open Engine (NaiveDate AccountType FilingStatus State AssetWeights RetirementHealthcare LongTermCare
  SimulationModel RothConversionPolicy RothConversionCeiling)

variable {K : Type}

/-! ## Scalars -/

def twoDigits (n : ℕ) : List Char := [Nat.digitChar (n / 10 % 10), Nat.digitChar (n % 10)]

/-- `YYYY-MM-DD`. -/
def isoText (date : NaiveDate) : String :=
  let year := date.year.toNat
  String.ofList (twoDigits (year / 100) ++ twoDigits year ++ '-' :: twoDigits date.month
    ++ '-' :: twoDigits date.day)

def accountTypeText : AccountType → String
  | .taxable => "Taxable"
  | .traditional => "Traditional"
  | .roth => "Roth"
  | .hsa => "HSA"

def stateText : State → String
  | .CA => "CA"
  | .TX => "TX"
  | .FL => "FL"
  | .NY => "NY"
  | .WA => "WA"
  | .Other => "Other"

def filingStatusText : FilingStatus → String
  | .single => "Single"
  | .marriedFilingJointly => "MarriedFilingJointly"
  | .marriedFilingSeparately => "MarriedFilingSeparately"
  | .headOfHousehold => "HeadOfHousehold"

def ceilingText : RothConversionCeiling → String
  | .bracket12 => "bracket12"
  | .bracket22 => "bracket22"
  | .bracket24 => "bracket24"
  | .bracket32 => "bracket32"
  | .irmaaTier => "irmaaTier"

def simulationModelText : SimulationModel → String
  | .historical => "historical"
  | .parametric => "parametric"

/-! ## Accounts -/

def assetWeightsJson (weights : AssetWeights K) : Json K :=
  .obj [("stocks", .num weights.stocks), ("bonds", .num weights.bonds)]

def accountJson (account : Account K) : Json K :=
  .obj [("id", .str account.id), ("name", .str account.name),
    ("institution", .str account.institution), ("type", .str (accountTypeText account.accountType)),
    ("balance", .num account.balance), ("assetWeights", assetWeightsJson account.assetWeights)]

/-! ## Settings -/

variable [Field K]

def healthcareFields (healthcare : RetirementHealthcare K) : Fields K :=
  [("preMedicarePremium", .num healthcare.preMedicarePremium),
    ("medicarePremium", .num healthcare.medicarePremium),
    ("outOfPocket", .num healthcare.outOfPocket),
    ("realGrowthRate", .num healthcare.realGrowthRate)]

def careFields (care : LongTermCare K) : Fields K :=
  [("enabled", .bool care.enabled), ("costMultiplier", .num care.costMultiplier)]

def profileFields (profile : UserProfile K) : Fields K :=
  [("birthDate", .str (isoText profile.birthDate)), ("state", .str (stateText profile.state)),
    ("filingStatus", .str (filingStatusText profile.filingStatus)),
    ("retirementAge", .num profile.retirementAge), ("currentSalary", .num profile.currentSalary),
    ("salaryGrowthRate", .num profile.salaryGrowthRate),
    ("currentSpending", .num profile.currentSpending),
    ("workingSpendingGrowthRate", .num profile.workingSpendingGrowthRate),
    ("retirementSpendingMultiplier", .num profile.retirementSpendingMultiplier),
    ("retirementSpendingGrowthRate", .num profile.retirementSpendingGrowthRate),
    ("lifeExpectancy", .num profile.lifeExpectancy),
    ("retirementHealthcare", .obj (healthcareFields profile.retirementHealthcare)),
    ("longTermCare", .obj (careFields profile.longTermCare)),
    ("asOfDate", .str (isoText profile.asOfDate))]

/-- An absent benefit has no key. -/
def socialSecurityFields (settings : SocialSecuritySettings K) : Fields K :=
  [("enabled", .bool settings.enabled), ("claimAge", .num settings.claimAge),
    ("manualOverride", .bool settings.manualOverride)]
  ++ (settings.estimatedBenefit.map fun benefit => ("estimatedBenefit", .num benefit)).toList

def assumptionFields (assumptions : AssumptionSettings K) : Fields K :=
  [("randomSeed", .num assumptions.randomSeed),
    ("simulationModel", .str (simulationModelText assumptions.simulationModel)),
    ("taxableGainRatio", .num assumptions.taxableGainRatio),
    ("hsaEligible", .bool assumptions.hsaEligible),
    ("useBackdoorRoth", .bool assumptions.useBackdoorRoth),
    ("rothConversion", .obj [("enabled", .bool assumptions.rothConversion.enabled),
      ("ceiling", .str (ceilingText assumptions.rothConversion.ceiling))]),
    ("magiAwareWithdrawals", .bool assumptions.magiAwareWithdrawals),
    ("terminalTaxRate", .num assumptions.terminalTaxRate)]

def planJson (plan : RetirementPlan K) : Json K :=
  .obj [("profile", .obj (profileFields plan.profile)),
    ("accounts", .arr (plan.accounts.map accountJson)),
    ("socialSecurity", .obj (socialSecurityFields plan.socialSecurity)),
    ("assumptions", .obj (assumptionFields plan.assumptions))]

/-- The body of a save of a plan's settings, made against a revision. -/
def saveBody (plan : RetirementPlan K) (revision : Option ℤ) : Json K :=
  .obj [("profile", .obj (profileFields plan.profile)),
    ("socialSecurity", .obj (socialSecurityFields plan.socialSecurity)),
    ("assumptions", .obj (assumptionFields plan.assumptions)),
    ("revision", (revision.map fun n : ℤ => .num (n : K)).getD .null)]

end RetirementPlanner.Web
