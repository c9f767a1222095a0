import RetirementPlanner.Engine.HistoricalData
import RetirementPlanner.Engine.StateTax
import RetirementPlanner.Lib.Numerals

/-!
# Federal, state, and FICA tax

`tax.rs`: the tax of a working year and of a retirement year, the deduction
behind both, and the cash flow of a working year.
-/

namespace RetirementPlanner.Engine

variable {K : Type*} [Field K] [LinearOrder K]

/-- The tax year every bracket, deduction, and limit here is stated in. -/
def taxLawYear : ℤ := 2025

/-! ## Thresholds and brackets -/

/-- The people a plan models. Ages drive per-person deductions; filing status is
a separate fact, because a married couple with one earner still files jointly. -/
structure Household where
  filingStatus : FilingStatus
  /-- One age, or two when the plan models a spouse. -/
  ages : List ℕ
  deriving DecidableEq, Repr

def Household.single (filingStatus : FilingStatus) (age : ℕ) : Household := ⟨filingStatus, [age]⟩

def Household.primaryAge (h : Household) : ℕ := h.ages.headD 0

def Household.seniors (h : Household) : ℕ := (h.ages.filter (65 ≤ ·)).length

/-- A threshold Congress wrote in nominal dollars and never indexed, in the real
dollars the engine works in. -/
def frozenThreshold (nominal2025 : K) (taxYear : ℤ) : K :=
  let years := taxYear - taxLawYear
  if years ≤ 0 then nominal2025 else nominal2025 / (1 + (longRunInflation : K)) ^ years

def getFederalBrackets : FilingStatus → List (TaxBracket K)
  | .single =>
    [⟨0, some 11925, 0.10⟩, ⟨11925, some 48475, 0.12⟩, ⟨48475, some 103350, 0.22⟩,
      ⟨103350, some 197300, 0.24⟩, ⟨197300, some 250525, 0.32⟩, ⟨250525, some 626350, 0.35⟩,
      ⟨626350, none, 0.37⟩]
  | .marriedFilingJointly =>
    [⟨0, some 23850, 0.10⟩, ⟨23850, some 96950, 0.12⟩, ⟨96950, some 206700, 0.22⟩,
      ⟨206700, some 394600, 0.24⟩, ⟨394600, some 501050, 0.32⟩, ⟨501050, some 751600, 0.35⟩,
      ⟨751600, none, 0.37⟩]
  | .marriedFilingSeparately =>
    [⟨0, some 11925, 0.10⟩, ⟨11925, some 48475, 0.12⟩, ⟨48475, some 103350, 0.22⟩,
      ⟨103350, some 197300, 0.24⟩, ⟨197300, some 250525, 0.32⟩, ⟨250525, some 375800, 0.35⟩,
      ⟨375800, none, 0.37⟩]
  | .headOfHousehold =>
    [⟨0, some 17000, 0.10⟩, ⟨17000, some 64850, 0.12⟩, ⟨64850, some 103350, 0.22⟩,
      ⟨103350, some 197300, 0.24⟩, ⟨197300, some 250525, 0.32⟩, ⟨250525, some 626350, 0.35⟩,
      ⟨626350, none, 0.37⟩]

/-! ## The deduction -/

/-- The OBBBA enhanced senior deduction: per qualifying individual, phased out
on the household total, and scheduled to lapse after 2028. -/
def obbbaPerPerson : K := 6000
def obbbaPhaseoutStartJoint : K := 150000
def obbbaPhaseoutStartOther : K := 75000
def obbbaPhaseoutRate : K := 0.06
def obbbaLastYear : ℤ := 2028

def baseDeduction : FilingStatus → K
  | .single => 15750
  | .marriedFilingJointly => 31500
  | .marriedFilingSeparately => 15750
  | .headOfHousehold => 23625

def perSeniorDeduction : FilingStatus → K
  | .single => 2000
  | .marriedFilingJointly => 1600
  | .marriedFilingSeparately => 1600
  | .headOfHousehold => 2000

/-- The standard deduction the household actually gets. -/
def deductionFor (household : Household) (taxYear : ℤ) (modifiedAdjustedGrossIncome : K) : K :=
  let filingStatus := household.filingStatus
  let base := baseDeduction filingStatus
  let seniors := household.seniors
  if seniors = 0 then base
  else
    let deduction := base + seniors * perSeniorDeduction filingStatus
    -- Separate filers are not eligible, and the enhanced deduction lapses after 2028.
    if filingStatus = .marriedFilingSeparately ∨ obbbaLastYear < taxYear then deduction
    else
      let phaseoutStart :=
        if filingStatus = .marriedFilingJointly then obbbaPhaseoutStartJoint
        else obbbaPhaseoutStartOther
      let reduction := max (modifiedAdjustedGrossIncome - phaseoutStart) 0 * obbbaPhaseoutRate
      deduction + max (seniors * obbbaPerPerson - reduction) 0

/-! ## Schedules -/

/-- The loop of `calculate_progressive_tax`: each bracket takes its width of the
income left. -/
def progressiveTaxLoop (tax remainingIncome : K) : List (TaxBracket K) → K
  | [] => tax
  | bracket :: brackets =>
    if remainingIncome ≤ 0 then tax
    else
      let taxableInBracket :=
        match bracket.max with
        | some bracketMax => min remainingIncome (bracketMax - bracket.min)
        | none => remainingIncome
      if 0 < taxableInBracket then
        progressiveTaxLoop (tax + taxableInBracket * bracket.rate)
          (remainingIncome - taxableInBracket) brackets
      else progressiveTaxLoop tax remainingIncome brackets

def calculateProgressiveTax (income : K) (brackets : List (TaxBracket K)) : K :=
  progressiveTaxLoop 0 income brackets

/-- The 2025 long-term capital gains brackets. -/
def ltcgBrackets : FilingStatus → List (TaxBracket K)
  | .single => [⟨0, some 48450, 0.00⟩, ⟨48450, some 533400, 0.15⟩, ⟨533400, none, 0.20⟩]
  | .marriedFilingJointly =>
    [⟨0, some 96900, 0.00⟩, ⟨96900, some 600050, 0.15⟩, ⟨600050, none, 0.20⟩]
  | .marriedFilingSeparately =>
    [⟨0, some 48450, 0.00⟩, ⟨48450, some 300025, 0.15⟩, ⟨300025, none, 0.20⟩]
  | .headOfHousehold => [⟨0, some 65250, 0.00⟩, ⟨65250, some 566700, 0.15⟩, ⟨566700, none, 0.20⟩]

/-- The loop of `calculate_ltcg_tax`: gains stack on top of ordinary income, from
`currentThreshold` up. -/
def ltcgTaxLoop (tax remainingLtcg currentThreshold : K) : List (TaxBracket K) → K
  | [] => tax
  | bracket :: brackets =>
    if remainingLtcg ≤ 0 then tax
    else
      match bracket.max with
      | some bracketMax =>
        if currentThreshold < bracketMax then
          let applicable := min remainingLtcg (bracketMax - max currentThreshold bracket.min)
          if 0 < applicable then
            ltcgTaxLoop (tax + applicable * bracket.rate) (remainingLtcg - applicable)
              (currentThreshold + applicable) brackets
          else ltcgTaxLoop tax remainingLtcg currentThreshold brackets
        else ltcgTaxLoop tax remainingLtcg currentThreshold brackets
      | none =>
        ltcgTaxLoop (tax + remainingLtcg * bracket.rate) (remainingLtcg - remainingLtcg)
          (currentThreshold + remainingLtcg) brackets

def calculateLtcgTax (ordinaryTaxableIncome ltcgIncome : K) (filingStatus : FilingStatus) : K :=
  if ltcgIncome ≤ 0 then 0
  else ltcgTaxLoop 0 ltcgIncome ordinaryTaxableIncome (ltcgBrackets filingStatus)

/-! ## Federal tax -/

def netInvestmentIncomeThreshold : FilingStatus → K
  | .marriedFilingJointly => 250000
  | .marriedFilingSeparately => 125000
  | _ => 200000

/-- Federal income tax on one year, whether or not wages are still coming in. -/
def federalTaxOn (ordinary qualified deduction : K) (filingStatus : FilingStatus)
    (taxYear : ℤ) : K :=
  let brackets := getFederalBrackets filingStatus
  let taxableIncome := max (ordinary - deduction) 0
  let ordinaryTax := calculateProgressiveTax taxableIncome brackets
  let unusedDeduction := max (deduction - ordinary) 0
  let taxableQualified := max (qualified - unusedDeduction) 0
  let ltcgTax := calculateLtcgTax taxableIncome taxableQualified filingStatus
  let netInvestmentIncomeTax := 0.038 * min (max qualified 0)
    (max (ordinary + qualified
      - frozenThreshold (netInvestmentIncomeThreshold filingStatus) taxYear) 0)
  ordinaryTax + ltcgTax + netInvestmentIncomeTax

/-! ## State tax -/

structure StateTaxInput (K : Type*) where
  wages : K
  otherOrdinary : K
  qualified : K
  socialSecurity : K
  pretaxHsa : K
  pretaxTraditional : K

/-- State income tax from the state's own profile. A state with no income tax and
a state nobody has modeled yet both produce zero here. -/
def stateTaxOf (state : State) (filingStatus : FilingStatus) (input : StateTaxInput K) : K :=
  match stateBrackets state filingStatus, stateStandardDeduction state filingStatus with
  | some brackets, some deduction =>
    let profile := stateTaxProfile state
    let deductiblePretax :=
      if profile.conformsToFederalHsa then input.pretaxHsa + input.pretaxTraditional
      else input.pretaxTraditional
    let socialSecurity := if profile.socialSecurityExempt then 0 else input.socialSecurity
    let taxableIncome := max (input.wages + input.otherOrdinary + input.qualified + socialSecurity
      - deductiblePretax - deduction) 0
    calculateProgressiveTax taxableIncome brackets
  | _, _ => 0

/-! ## Working years -/

/-- Income reaching the household from somewhere other than wages: RMDs and
portfolio withdrawals. -/
structure OtherIncome (K : Type*) where
  ordinary : K
  qualified : K

/-- Household facts that decide which tax-advantaged space is available. -/
structure ContributionPolicy where
  hsaEligible : Bool
  useBackdoorRoth : Bool

structure TaxResult (K : Type*) where
  totalTax : K
  hsaContribution : K
  k401Contribution : K

structure PretaxContributionTargets (K : Type*) where
  hsa : K
  traditional : K

structure WorkingCashFlowResult (K : Type*) where
  tax : TaxResult K
  contributions : AnnualContributions K
  /-- Cash left once taxes, spending, and pretax contributions are paid. -/
  netCashFlow : K

def getK401ContributionLimit (age : ℕ) : K :=
  if 60 ≤ age ∧ age ≤ 63 then 23500 + 11250
  else if 50 ≤ age then 23500 + 7500
  else 23500

def getHsaContributionLimit (age : ℕ) : K :=
  4300 + (if 55 ≤ age then 1000 else 0)

def getIraContributionLimit (age : ℕ) : K :=
  if 50 ≤ age then 7000 + 1000 else 7000

/-- FICA on a year's wages. -/
def ficaTaxOn (grossIncome : K) (filingStatus : FilingStatus) (taxYear : ℤ) : K :=
  let socialSecurityTax := min grossIncome 176100 * 0.062
  let medicareTax := grossIncome * 0.0145
  let additionalMedicareThreshold :=
    frozenThreshold (netInvestmentIncomeThreshold filingStatus) taxYear
  let additionalMedicareTax :=
    if additionalMedicareThreshold < grossIncome then
      (grossIncome - additionalMedicareThreshold) * 0.009
    else 0
  socialSecurityTax + medicareTax + additionalMedicareTax

/-- Federal, state, and FICA tax on a working year. Contribution targets are
clamped to statutory limits and to what the income can actually fund. -/
def calculateTax (grossIncome qualifiedIncome : K) (household : Household) (state : State)
    (taxYear : ℤ) (requested : PretaxContributionTargets K) (otherOrdinaryIncome : K) :
    TaxResult K :=
  let filingStatus := household.filingStatus
  let primaryAge := household.primaryAge
  let hsaContribution :=
    min (min (max requested.hsa 0) (getHsaContributionLimit primaryAge)) grossIncome
  let k401Contribution :=
    min (min (max requested.traditional 0) (getK401ContributionLimit primaryAge))
      (max (grossIncome - hsaContribution) 0)
  let afterPretaxWages := grossIncome - hsaContribution - k401Contribution
  let ordinary := afterPretaxWages + otherOrdinaryIncome
  let deduction := deductionFor household taxYear (ordinary + qualifiedIncome)
  let federalTax := federalTaxOn ordinary qualifiedIncome deduction filingStatus taxYear
  let stateTax := stateTaxOf state filingStatus
    { wages := grossIncome
      otherOrdinary := otherOrdinaryIncome
      qualified := qualifiedIncome
      socialSecurity := 0
      pretaxHsa := hsaContribution
      pretaxTraditional := k401Contribution }
  let ficaTax := ficaTaxOn grossIncome filingStatus taxYear
  { totalTax := federalTax + stateTax + ficaTax, hsaContribution, k401Contribution }

/-- One pass of the pre-tax waterfall: what the cash before contributions can
put into the HSA and then into the 401(k), and the tax once it has. -/
def workingTaxPass (grossIncome annualSpending : K) (household : Household) (state : State)
    (taxYear : ℤ) (hsaMax k401Max : K) (other : OtherIncome K) (tax : TaxResult K) :
    TaxResult K :=
  let availableBeforeContributions :=
    max (grossIncome + other.ordinary - tax.totalTax - annualSpending) 0
  let hsa := min hsaMax availableBeforeContributions
  let traditional := min k401Max (max (availableBeforeContributions - hsa) 0)
  calculateTax grossIncome other.qualified household state taxYear ⟨hsa, traditional⟩ other.ordinary

/-- Savings is the residual: whatever gross income does not lose to taxes and
spending gets invested. -/
def calculateWorkingCashFlow (grossIncome annualSpending : K) (household : Household)
    (state : State) (taxYear : ℤ) (policy : ContributionPolicy) (other : OtherIncome K) :
    WorkingCashFlowResult K :=
  let primaryAge := household.primaryAge
  let hsaMax := if policy.hsaEligible then getHsaContributionLimit primaryAge else 0
  let k401Max := getK401ContributionLimit primaryAge
  let start :=
    calculateTax grossIncome other.qualified household state taxYear ⟨0, 0⟩ other.ordinary
  let tax := (workingTaxPass grossIncome annualSpending household state taxYear hsaMax k401Max
    other)^[4] start
  let cashAfterPretaxAndSpending := grossIncome + other.ordinary - tax.totalTax - annualSpending
    - tax.hsaContribution - tax.k401Contribution
  let afterTaxBudget := max cashAfterPretaxAndSpending 0
  let roth :=
    if policy.useBackdoorRoth then min (getIraContributionLimit primaryAge) afterTaxBudget else 0
  let taxable := afterTaxBudget - roth
  { tax
    contributions := ⟨tax.hsaContribution, tax.k401Contribution, roth, taxable⟩
    netCashFlow := cashAfterPretaxAndSpending }

/-! ## Retirement years -/

/-- The Social Security tiers, fixed in nominal dollars since 1984. -/
def socialSecurityTiers : FilingStatus → K × K
  | .single => (25000, 34000)
  | .marriedFilingJointly => (32000, 44000)
  | .marriedFilingSeparately => (0, 0)
  | .headOfHousehold => (25000, 34000)

def calculateTaxableSocialSecurity (otherIncome socialSecurityBenefit qualifiedIncome : K)
    (filingStatus : FilingStatus) (taxYear : ℤ) : K :=
  if socialSecurityBenefit = 0 then 0
  else
    let combinedIncome := otherIncome + qualifiedIncome + socialSecurityBenefit * 0.5
    let tier1 := frozenThreshold (socialSecurityTiers filingStatus).1 taxYear
    let tier2 := frozenThreshold (socialSecurityTiers filingStatus).2 taxYear
    if combinedIncome ≤ tier1 then 0
    else if combinedIncome ≤ tier2 then
      let excess := combinedIncome - tier1
      min (socialSecurityBenefit * 0.5) (excess * 0.5)
    else
      let lowerTierTaxable := min (socialSecurityBenefit * 0.5) ((tier2 - tier1) * 0.5)
      min (socialSecurityBenefit * 0.85) ((combinedIncome - tier2) * 0.85 + lowerTierTaxable)

/-- Taxable income a retirement year reports, which is what a bracket ceiling is
measured against. -/
def retirementTaxableIncome (traditionalWithdrawals socialSecurityBenefit qualifiedIncome : K)
    (household : Household) (taxYear : ℤ) : K :=
  let taxableSs := calculateTaxableSocialSecurity traditionalWithdrawals socialSecurityBenefit
    qualifiedIncome household.filingStatus taxYear
  let ordinary := traditionalWithdrawals + taxableSs
  let deduction := deductionFor household taxYear (ordinary + qualifiedIncome)
  max (ordinary - deduction) 0

/-- Top of the bounded federal bracket at `rate`. -/
def federalBracketTop (rate : K) (filingStatus : FilingStatus) : Option K :=
  ((getFederalBrackets filingStatus).find? fun bracket => |bracket.rate - rate| < 1e-9).bind
    (·.max)

/-- Tax on a retirement year. Wages have stopped, so there is no FICA and no
contribution to deduct; Social Security is taxed under its own rules. -/
def calculateRetirementTax (traditionalWithdrawals socialSecurityBenefit qualifiedIncome : K)
    (household : Household) (state : State) (taxYear : ℤ) : TaxResult K :=
  let filingStatus := household.filingStatus
  let taxableSs := calculateTaxableSocialSecurity traditionalWithdrawals socialSecurityBenefit
    qualifiedIncome filingStatus taxYear
  let ordinary := traditionalWithdrawals + taxableSs
  let deduction := deductionFor household taxYear (ordinary + qualifiedIncome)
  let federalTax := federalTaxOn ordinary qualifiedIncome deduction filingStatus taxYear
  let stateTax := stateTaxOf state filingStatus
    { wages := 0
      otherOrdinary := traditionalWithdrawals
      qualified := qualifiedIncome
      socialSecurity := socialSecurityBenefit
      pretaxHsa := 0
      pretaxTraditional := 0 }
  { totalTax := federalTax + stateTax, hsaContribution := 0, k401Contribution := 0 }

end RetirementPlanner.Engine
