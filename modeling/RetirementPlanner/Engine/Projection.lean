import RetirementPlanner.Engine.Ltc
import RetirementPlanner.Engine.Rmd
import RetirementPlanner.Engine.RothConversion
import RetirementPlanner.Engine.Ssa
import RetirementPlanner.Engine.Withdrawal

/-!
# The single-path projection

`project_scenario_internal_prepared` of `projection.rs`: one year after another
from the as-of date through life expectancy, a working year settled by the
shortfall loop and a retired year by the withdrawal solve.

The market is a sequence of returns, one pair for each year: each branch of the
source's loop asks its generator exactly once. The care draw is the uniform its
salted stream starts with. Ages and years are natural numbers; the source's
unsigned differences are only formed where they are not negative.
-/

namespace RetirementPlanner.Engine

variable {K : Type*} [Field K] [LinearOrder K]

/-- All-in annual portfolio cost, subtracted from the realized return. -/
def annualPortfolioFee : K := 0.001

def shortfallPasses : ℕ := 50

/-! ## Long-term care -/

def ltcObservationAge : ℕ := 65
def ltcAnnuityRealRate : K := 0.025
def ltcAnnuityMinTerm : ℕ := 5
def ltcTableDollarYear : ℤ := 2020
def ltcCohortAnchorYear : ℤ := 2023
def ltcMaxCohortGrowthYears : ℤ := 40

/-- One path's long-term care episode, held from the draw to its modeled years. -/
structure LongTermCareDraw (K : Type*) [Field K] [LinearOrder K] where
  uniform : Uniform K
  /-- Turns one draw from the 2020-dollar table into this plan's money. -/
  priceScale : K
  povertyLevel : K
  annuityFactor : K
  maximumDurationYears : K
  quintile : Option IncomeQuintile

def annuityFactor (termYears : ℕ) : K :=
  ltcAnnuityRealRate / (1 - (1 + ltcAnnuityRealRate) ^ (-(termYears : ℤ)))

/-- Share of the age-65 lifetime distribution that remains inside this plan's
horizon. -/
def remainingLtcExposure (currentAge lifeExpectancy : ℕ) : K :=
  if currentAge ≤ ltcObservationAge then 1
  else
    let lifetimeYears := lifeExpectancy - ltcObservationAge
    if lifetimeYears = 0 then 0
    else min (max (((lifeExpectancy - currentAge : ℕ) : K) / lifetimeYears) 0) 1

/-- Price level between two calendar years, compounded from the CPI-U series. -/
def priceLevelRatio (fromYear toYear : ℤ) : ℚ :=
  let earlier := min fromYear toYear
  let later := max fromYear toYear
  let growth := ((historicalReturns.filter fun entry =>
    earlier < (entry.year : ℤ) ∧ (entry.year : ℤ) ≤ later).map (1 + ·.inflationRate)).prod
  if fromYear ≤ toYear then growth else 1 / growth

def LongTermCareDraw.start (plan : RetirementPlan K) (uniform : Uniform K) (baseYear birthYear : ℤ)
    (startAge : ℕ) : Option (LongTermCareDraw K) :=
  let profile := plan.profile
  if plan.schemaVersion < ltcModelSchemaVersion ∨ profile.longTermCare.enabled = false then none
  else if profile.lifeExpectancy ≤ ltcObservationAge then none
  else
    let householdSize := if profile.filingStatus = .marriedFilingJointly then 2 else 1
    let term := max (profile.lifeExpectancy - ltcObservationAge) ltcAnnuityMinTerm
    let cohortGrowthYears := min (max (birthYear + (ltcObservationAge : ℤ) - ltcCohortAnchorYear)
      (-ltcMaxCohortGrowthYears)) ltcMaxCohortGrowthYears
    let cohortGrowth := (1 + profile.retirementHealthcare.realGrowthRate) ^ cohortGrowthYears
    some
      { uniform
        priceScale := (priceLevelRatio ltcTableDollarYear baseYear : K) * cohortGrowth
          * profile.longTermCare.costMultiplier
          * remainingLtcExposure startAge profile.lifeExpectancy
        povertyLevel := federalPovertyLevel householdSize
        annuityFactor := Engine.annuityFactor term
        maximumDurationYears :=
          ((profile.lifeExpectancy - max startAge ltcObservationAge : ℕ) : K)
        quintile := none }

/-- Records the first modeled year at or past 65. -/
def LongTermCareDraw.observe (draw : LongTermCareDraw K) (currentAge : ℕ)
    (portfolioValue annualIncome : K) : LongTermCareDraw K :=
  if draw.quintile.isSome ∨ currentAge < ltcObservationAge then draw
  else
    let income := draw.annuityFactor * max portfolioValue 0 + max annualIncome 0
    { draw with quintile := some (quintileFor (income / draw.povertyLevel)) }

/-- Cost in one modeled year when the sampled episode is placed contiguously at
the end of the horizon. -/
def LongTermCareDraw.costForYear (log : NaturalLog K) (draw : LongTermCareDraw K)
    (year totalYears : ℕ) : K :=
  match draw.quintile.bind (drawEpisode log · draw.uniform) with
  | none => 0
  | some episode =>
    let duration := min (min episode.years (totalYears : K)) draw.maximumDurationYears
    if duration ≤ 0 then 0
    else
      let horizonEnd : K := totalYears
      let episodeStart := horizonEnd - duration
      let modeledYearStart : K := year
      let modeledYearEnd := modeledYearStart + 1
      let overlap := min
        (max (min modeledYearEnd horizonEnd - max modeledYearStart episodeStart) 0) 1
      episode.lifetimeCost2020 * draw.priceScale * overlap / duration

/-! ## Healthcare -/

structure HealthcareCost (K : Type*) where
  total : K
  /-- The share an HSA can pay tax-free. -/
  qualified : K

/-- One year's MAGI with the wage share kept separate. -/
structure YearMagi (K : Type*) where
  total : K
  wages : K
  deriving DecidableEq, Repr

structure PremiumIncomeTest (K : Type*) where
  priorYearMagi : Option K
  irmaaLookbackMagi : Option K
  filingStatus : FilingStatus
  householdSize : ℕ

/-- Before Medicare the entered premium is the benchmark plan; after it, what the
household pays at the standard rate, and IRMAA is added. -/
def incomeTestedPremium (listPremium : K) (onMedicare : Bool) (test : PremiumIncomeTest K) : K :=
  if onMedicare then
    if listPremium ≤ 0 then listPremium
    else
      match test.irmaaLookbackMagi with
      | some magi => listPremium + irmaaAnnualSurcharge magi test.filingStatus 1
      | none => listPremium
  else
    match test.priorYearMagi with
    | some magi =>
      match expectedPremiumContribution magi test.householdSize with
      | some expected => max (min expected listPremium) 0
      | none => listPremium
    | none => listPremium

/-- Real growth on the entered healthcare figures. -/
def healthcareGrowthFactor (healthcare : RetirementHealthcare K) (growthYears : ℕ) : K :=
  (1 + healthcare.realGrowthRate) ^ growthYears

/-- What a household would report to the marketplace for its first retirement
year. -/
def estimatedRetirementMagi (prior : YearMagi K) (plannedSpending socialSecurityBenefit : K)
    (accounts : List (Account K)) (age : ℕ) (taxableGainRatio : K)
    (magiTarget : Option (MagiTarget K)) : K :=
  let carriedForward := max (prior.total - prior.wages) 0
  let fromPortfolio := max (plannedSpending - socialSecurityBenefit) 0
  let drawn := (applyWithdrawalOrder accounts (accounts.map (·.balance)) fromPortfolio age
    taxableGainRatio (magiTarget.map fun target =>
      { target with
        committedMagi := target.committedMagi + socialSecurityBenefit + carriedForward })).1
  carriedForward + socialSecurityBenefit + drawn.traditional + drawn.taxableGain

/-- Retirement healthcare for one year. -/
def healthcareCostFor (healthcare : RetirementHealthcare K) (age growthYears : ℕ)
    (incomeTest : Option (PremiumIncomeTest K)) : HealthcareCost K :=
  let growth := healthcareGrowthFactor healthcare growthYears
  let onMedicare := decide (medicareAge ≤ age)
  let listPremium :=
    (if onMedicare then healthcare.medicarePremium else healthcare.preMedicarePremium) * growth
  let premium :=
    match incomeTest with
    | some test => incomeTestedPremium listPremium onMedicare test
    | none => listPremium
  let outOfPocket := healthcare.outOfPocket * growth
  { total := premium + outOfPocket
    qualified := outOfPocket + if onMedicare then premium else 0 }

/-! ## The prepared plan and the state of a path -/

/-- Everything a projection needs that depends on the plan but not the path. -/
structure PreparedPlan (K : Type*) where
  plan : RetirementPlan K
  buckets : List (Account K)
  currentYear : ℤ
  birthYear : ℤ
  age : ℕ
  rmdStartAge : ℕ
  remainingYearFraction : K
  totalYears : ℕ

/-- The prepared plan of calendar dates that parse. -/
def PreparedPlan.onDates (plan : RetirementPlan K) (asOfDate : NaiveDate) (birthYear : ℤ)
    (age : ℕ) : PreparedPlan K :=
  let currentYear := asOfDate.year
  let daysInYear : K := if isLeapYear currentYear then 366 else 365
  let dayOfYear : K := asOfDate.dayOfYear
  { plan
    buckets := toBuckets plan.accounts
    currentYear
    birthYear
    age
    rmdStartAge := getRmdStartAge birthYear
    remainingYearFraction := min (max ((daysInYear - dayOfYear + 1) / daysInYear) 0) 1
    totalYears := plan.profile.lifeExpectancy - age + 1 }

def PreparedPlan.new (plan : RetirementPlan K) : Except DateError (PreparedPlan K) :=
  let profile := plan.profile
  match profile.asOfDate, birthYearOf profile.birthDate,
    ageOn profile.birthDate profile.asOfDate with
  | none, _, _ => .error .format
  | _, .error e, _ => .error e
  | _, _, .error e => .error e
  | some asOfDate, .ok birthYear, .ok age => .ok (PreparedPlan.onDates plan asOfDate birthYear age)

/-- The variables the loop over the years carries. -/
structure ProjectionState (K : Type*) [Field K] [LinearOrder K] where
  accounts : List (Account K)
  rothBasis : RothBasisState K
  portfolioValue : K
  previousYearTraditionalBalance : K
  /-- Medical cost the HSA may still reimburse tax-free, carried year to year. -/
  hsaQualifiedAllowance : K
  magiByYear : List (YearMagi K)
  longTermCare : Option (LongTermCareDraw K)
  success : Bool

def ProjectionState.start (prepared : PreparedPlan K) (uniform : Uniform K) :
    ProjectionState K where
  accounts := prepared.buckets
  rothBasis :=
    { enabled := prepared.plan.assumptions.rothConversion.enabled &&
        decide (prepared.plan.profile.retirementAge < traditionalPenaltyAge)
      regularPrincipal := balanceOfBucket prepared.buckets .roth
      conversionLots := []
      unseasonedPrincipal := 0 }
  portfolioValue := totalBalance prepared.buckets
  previousYearTraditionalBalance := 0
  hsaQualifiedAllowance := 0
  magiByYear := []
  longTermCare := LongTermCareDraw.start prepared.plan uniform prepared.currentYear
    prepared.birthYear prepared.age
  success := true

/-! ## What every year does -/

def PreparedPlan.currentAge (prepared : PreparedPlan K) (year : ℕ) : ℕ := prepared.age + year

def PreparedPlan.taxYear (prepared : PreparedPlan K) (year : ℕ) : ℤ := prepared.currentYear + year

def PreparedPlan.household (prepared : PreparedPlan K) (year : ℕ) : Household :=
  Household.single prepared.plan.profile.filingStatus (prepared.currentAge year)

def PreparedPlan.isRetired (prepared : PreparedPlan K) (year : ℕ) : Bool :=
  prepared.plan.profile.retirementAge ≤ prepared.currentAge year

/-- The share of a year its flows run for: the rest of the calendar year in the
first one. -/
def PreparedPlan.periodFraction (prepared : PreparedPlan K) (year : ℕ) : K :=
  if year = 0 then prepared.remainingYearFraction else 1

/-- The Roth ledger at the start of a year: closed at 60, seasoned before. -/
def rothBasisAtStart (rothBasis : RothBasisState K) (currentAge : ℕ) (taxYear : ℤ) :
    RothBasisState K :=
  if traditionalPenaltyAge ≤ currentAge ∧ rothBasis.enabled then ⟨false, 0, [], 0⟩
  else if rothBasis.enabled then seasonRothConversions rothBasis taxYear
  else rothBasis

/-- The year's required distribution, before proration. -/
def requiredDistribution (accounts : List (Account K)) (previousYearTraditionalBalance : K)
    (currentAge rmdStartAge : ℕ) : K :=
  if rmdStartAge ≤ currentAge then
    let balanceForRmd :=
      if 0 < previousYearTraditionalBalance then previousYearTraditionalBalance
      else balanceOfBucket accounts .traditional
    calculateRmd balanceForRmd currentAge rmdStartAge
  else 0

/-- The MAGI target a year starts from, with nothing committed yet. -/
def magiTargetOf (plan : RetirementPlan K) : Option (MagiTarget K) :=
  if plan.assumptions.magiAwareWithdrawals ∧ healthcareModelSchemaVersion ≤ plan.schemaVersion then
    some
      { healthcare := plan.profile.retirementHealthcare
        retirementAge := plan.profile.retirementAge
        filingStatus := plan.profile.filingStatus
        householdSize := 1
        committedMagi := 0 }
  else none

/-- A bucket's return over the part of the year that is modeled. -/
def effectiveReturn (periodFraction : K) (returns : K × K) (account : Account K) : K :=
  (account.assetWeights.stocks * returns.1 + account.assetWeights.bonds * returns.2
    - annualPortfolioFee) * periodFraction

/-- A year's growth. An extreme drawdown can drive the weighted return below
-100%, so the balance is floored at zero. -/
def growAccounts (periodFraction : K) (returns : K × K) (accounts : List (Account K)) :
    List (Account K) :=
  accounts.map fun account =>
    { account with
      balance := max (account.balance * (1 + effectiveReturn periodFraction returns account)) 0 }

/-- What either branch of the loop leaves of a year. -/
structure YearOutcome (K : Type*) where
  accounts : List (Account K)
  rothBasis : RothBasisState K
  hsaQualifiedAllowance : K
  rmdAmount : K
  income : K
  spending : K
  taxes : K
  savings : K
  rothConversion : K
  socialSecurityBenefit : K
  withdrawalTaxable : K
  withdrawalTraditional : K
  withdrawalRoth : K
  withdrawalHsa : K
  depositTaxable : K
  depositTraditional : K
  depositRoth : K
  depositHsa : K
  healthcareCost : K
  longTermCareCost : K
  insufficientFunds : Bool

/-! ## Working years -/

/-- What the passes of a working year's shortfall loop share. -/
structure WorkingContext (K : Type*) where
  annualSalary : K
  annualWorkingSpending : K
  household : Household
  state : State
  taxYear : ℤ
  policy : ContributionPolicy
  periodFraction : K
  currentAge : ℕ
  taxableGainRatio : K
  magiTarget : Option (MagiTarget K)

/-- An early-withdrawal penalty is cash out the door, so the cash-flow model sees
it the way it sees spending. -/
def WorkingContext.cashFlowWith (c : WorkingContext K) (penalties ordinary qualified : K) :
    WorkingCashFlowResult K :=
  calculateWorkingCashFlow c.annualSalary (c.annualWorkingSpending + penalties / c.periodFraction)
    c.household c.state c.taxYear c.policy ⟨ordinary, qualified⟩

/-- The variables of the shortfall loop. -/
structure ShortfallState (K : Type*) where
  accounts : List (Account K)
  withdrawalTaxable : K
  withdrawalTraditional : K
  withdrawalRoth : K
  withdrawalHsa : K
  shortfallPrincipal : K
  shortfallGains : K
  workingPenalties : K
  workingCashFlow : WorkingCashFlowResult K

/-- The cash a working year still lacks. -/
def WorkingContext.unfunded (c : WorkingContext K) (s : ShortfallState K) : K :=
  max (-s.workingCashFlow.netCashFlow * c.periodFraction - s.shortfallPrincipal) 0

/-- One shortfall draw in the withdrawal order. -/
def WorkingContext.draw (c : WorkingContext K) (s : ShortfallState K) :
    OrderedWithdrawal K × List (Account K) :=
  withdrawInOrder s.accounts (c.unfunded s) c.currentAge c.taxableGainRatio
    (c.magiTarget.map fun target =>
      { target with
        committedMagi := c.annualSalary * c.periodFraction + s.withdrawalTraditional
          + s.withdrawalTaxable * c.taxableGainRatio })

/-- A shortfall draw recorded, and the cash flow once it is income. -/
def WorkingContext.record (c : WorkingContext K) (s : ShortfallState K)
    (drawn : OrderedWithdrawal K) (accounts : List (Account K)) : ShortfallState K :=
  let withdrawalTraditional := s.withdrawalTraditional + drawn.traditional
  let withdrawalHsa := s.withdrawalHsa + drawn.hsa
  let workingPenalties := s.workingPenalties
    + penaltiesOn drawn.traditional drawn.hsa 0 c.currentAge
  let shortfallGains := s.shortfallGains + drawn.taxable * c.taxableGainRatio
  { accounts
    withdrawalTaxable := s.withdrawalTaxable + drawn.taxable
    withdrawalTraditional
    withdrawalRoth := s.withdrawalRoth + drawn.roth
    withdrawalHsa
    shortfallPrincipal := s.shortfallPrincipal + (drawn.taxable + drawn.roth)
    shortfallGains
    workingPenalties
    workingCashFlow := c.cashFlowWith workingPenalties
      ((withdrawalTraditional + withdrawalHsa) / c.periodFraction)
      (shortfallGains / c.periodFraction) }

/-- The shortfall loop. A draw of at most the tolerance means the portfolio is
exhausted: the loop stops with the accounts drawn down and the draw unrecorded. -/
def WorkingContext.shortfallLoop (c : WorkingContext K) : ℕ → ShortfallState K → ShortfallState K
  | 0, s => s
  | passes + 1, s =>
    if c.unfunded s ≤ shortfallTolerance then s
    else
      let (drawn, accounts) := c.draw s
      if drawn.total ≤ shortfallTolerance then { s with accounts }
      else c.shortfallLoop passes (c.record s drawn accounts)

def workingContext (prepared : PreparedPlan K) (year : ℕ) : WorkingContext K :=
  let plan := prepared.plan
  let profile := plan.profile
  { annualSalary := profile.currentSalary * (1 + profile.salaryGrowthRate) ^ year
    annualWorkingSpending :=
      if phaseSpendingSchemaVersion ≤ plan.schemaVersion then
        profile.currentSpending * (1 + profile.workingSpendingGrowthRate) ^ year
      else profile.currentSpending
    household := prepared.household year
    state := profile.state
    taxYear := prepared.taxYear year
    policy := ⟨plan.assumptions.hsaEligible, plan.assumptions.useBackdoorRoth⟩
    periodFraction := prepared.periodFraction year
    currentAge := prepared.currentAge year
    taxableGainRatio := plan.assumptions.taxableGainRatio
    magiTarget := magiTargetOf plan }

/-- The shortfall loop's start: the accounts after the required distribution, and
the cash flow with that distribution as income. -/
def WorkingContext.start (c : WorkingContext K) (rmdAmount : K) (accounts : List (Account K)) :
    ShortfallState K :=
  let (balances, distributed) := drawBucketBalances accounts (accounts.map (·.balance)) .traditional
    (rmdAmount * c.periodFraction)
  { accounts := writeBalances accounts balances
    withdrawalTaxable := 0
    withdrawalTraditional := distributed
    withdrawalRoth := 0
    withdrawalHsa := 0
    shortfallPrincipal := 0
    shortfallGains := 0
    workingPenalties := 0
    workingCashFlow := c.cashFlowWith 0 (distributed / c.periodFraction) 0 }

/-- The working branch of the loop. -/
def workingYear (prepared : PreparedPlan K) (returns : K × K) (year : ℕ)
    (accounts : List (Account K)) (rothBasis : RothBasisState K)
    (hsaQualifiedAllowance rmdAmount : K) : YearOutcome K :=
  let c := workingContext prepared year
  let s₀ := c.start rmdAmount (growAccounts c.periodFraction returns accounts)
  let s := c.shortfallLoop shortfallPasses s₀
  let unfunded := c.unfunded s
  let contributions := s.workingCashFlow.contributions
  let (accounts, depositHsa) := depositToBucket s.accounts .hsa
    (contributions.hsa * c.periodFraction)
  let (accounts, depositTraditional) := depositToBucket accounts .traditional
    (contributions.traditional * c.periodFraction)
  let (accounts, depositRoth) := depositToBucket accounts .roth
    (contributions.roth * c.periodFraction)
  let (accounts, depositTaxable) := depositToBucket accounts .taxable
    (contributions.taxable * c.periodFraction)
  { accounts
    rothBasis :=
      if rothBasis.enabled then
        { rothBasis with
          regularPrincipal :=
            max (rothBasis.regularPrincipal - s.withdrawalRoth) 0 + depositRoth }
      else rothBasis
    hsaQualifiedAllowance
    rmdAmount := s₀.withdrawalTraditional
    income := c.annualSalary * c.periodFraction
    spending := c.annualWorkingSpending * c.periodFraction - unfunded
    taxes := s.workingCashFlow.tax.totalTax * c.periodFraction + s.workingPenalties
    savings := depositTaxable + depositTraditional + depositRoth + depositHsa
      - s.withdrawalTaxable - s.withdrawalTraditional - s.withdrawalRoth - s.withdrawalHsa
    rothConversion := 0
    socialSecurityBenefit := 0
    withdrawalTaxable := s.withdrawalTaxable
    withdrawalTraditional := s.withdrawalTraditional
    withdrawalRoth := s.withdrawalRoth
    withdrawalHsa := s.withdrawalHsa
    depositTaxable
    depositTraditional
    depositRoth
    depositHsa
    healthcareCost := 0
    longTermCareCost := 0
    insufficientFunds := shortfallTolerance < unfunded }

/-! ## Retired years -/

/-- The year's Social Security benefit, prorated in the first modeled year. -/
def socialSecurityBenefitOf [FloorRing K] (prepared : PreparedPlan K) (year : ℕ) : K :=
  let plan := prepared.plan
  let settings := plan.socialSecurity
  if settings.enabled ∧ settings.claimAge ≤ prepared.currentAge year then
    let annualSocialSecurityBenefit :=
      if settings.manualOverride then max (settings.estimatedBenefit.getD 0) 0
      else
        calculateSsaBenefit
          (estimateSalaryHistory plan.profile.currentSalary plan.profile.salaryGrowthRate
            prepared.age plan.profile.retirementAge)
          settings.claimAge prepared.birthYear
    annualSocialSecurityBenefit * prepared.periodFraction year
  else 0

/-- The year's retirement spending before healthcare and care. -/
def baseSpendingOf (prepared : PreparedPlan K) (year : ℕ) : K :=
  let profile := prepared.plan.profile
  let spendingGrowthExponent :=
    if phaseSpendingSchemaVersion ≤ prepared.plan.schemaVersion then
      year - (profile.retirementAge - prepared.age)
    else year
  profile.retirementSpending * (1 + profile.retirementSpendingGrowthRate) ^ spendingGrowthExponent
    * prepared.periodFraction year

/-- The years of real medical growth a year has seen. -/
def healthcareGrowthYears (prepared : PreparedPlan K) (year : ℕ) : ℕ :=
  if healthcareModelSchemaVersion ≤ prepared.plan.schemaVersion then year
  else year - (prepared.plan.profile.retirementAge - prepared.age)

/-- The income test of a year's premiums. The marketplace credit reads last year's
MAGI, or an estimate when that year still had wages; IRMAA reads two years back. -/
def incomeTestOf (prepared : PreparedPlan K) (year : ℕ) (magiByYear : List (YearMagi K))
    (accounts : List (Account K)) (longTermCareCost socialSecurityBenefit : K) :
    Option (PremiumIncomeTest K) :=
  let plan := prepared.plan
  let healthcare := plan.profile.retirementHealthcare
  if healthcareModelSchemaVersion ≤ plan.schemaVersion then
    let prior := if 1 ≤ year then magiByYear[year - 1]? else none
    some
      { priorYearMagi := prior.map fun prior =>
          if prior.wages ≤ 0 ∨ plan.schemaVersion < retirementMagiEstimateSchemaVersion then
            prior.total
          else
            let plannedSpending := baseSpendingOf prepared year
              + healthcare.outOfPocket
                * healthcareGrowthFactor healthcare (healthcareGrowthYears prepared year)
                * prepared.periodFraction year
              + longTermCareCost
            estimatedRetirementMagi prior plannedSpending socialSecurityBenefit accounts
              (prepared.currentAge year) plan.assumptions.taxableGainRatio (magiTargetOf plan)
        irmaaLookbackMagi := (if 2 ≤ year then magiByYear[year - 2]? else none).map (·.total)
        filingStatus := plan.profile.filingStatus
        householdSize := 1 }
  else none

/-- The conversion a funded year is offered before required distributions start. -/
def conversionInput (prepared : PreparedPlan K) (year : ℕ) (accounts : List (Account K))
    (socialSecurityBenefit : K) (result : WithdrawalResult K) : RothConversionInput K :=
  let assumptions := prepared.plan.assumptions
  { policy := assumptions.rothConversion
    traditionalWithdrawals := result.withdrawalTraditional
    socialSecurityBenefit
    qualifiedIncome := result.withdrawalTaxable * assumptions.taxableGainRatio
    taxableWithdrawals := result.withdrawalTaxable
    taxableGainRatio := assumptions.taxableGainRatio
    household := prepared.household year
    state := prepared.plan.profile.state
    taxYear := prepared.taxYear year
    traditionalBalance := balanceOfBucket accounts .traditional
    taxableBalance := balanceOfBucket accounts .taxable }

/-- A conversion carried out: Traditional gives, Taxable pays its share of the tax,
and what was not withheld reaches the Roth. -/
def applyConversion (accounts : List (Account K)) (conversion : RothConversion K) :
    List (Account K) :=
  let accounts := (drawFromBucket accounts .traditional conversion.converted).1
  let accounts := (drawFromBucket accounts .taxable conversion.fromTaxable).1
  (depositToBucket accounts .roth (conversion.converted - conversion.withheld)).1

/-- The ledger after a conversion: a new lot under its tax year. -/
def recordConversion (rothBasis : RothBasisState K) (taxYear : ℤ) (rothConversion : K) :
    RothBasisState K :=
  if rothBasis.enabled then
    { rothBasis with
      conversionLots := rothBasis.conversionLots ++ [⟨taxYear, rothConversion⟩]
      unseasonedPrincipal := rothBasis.unseasonedPrincipal + rothConversion }
  else rothBasis

/-- The tax context of a retired year's withdrawal solve. -/
def withdrawalContext (prepared : PreparedPlan K) (year : ℕ)
    (socialSecurityBenefit rmdAmount hsaQualifiedAllowance : K) : WithdrawalContext K :=
  { household := prepared.household year
    state := prepared.plan.profile.state
    taxYear := prepared.taxYear year
    age := prepared.currentAge year
    socialSecurityBenefit
    rmdAmount
    taxableGainRatio := prepared.plan.assumptions.taxableGainRatio
    hsaQualifiedAllowance
    magiTarget := magiTargetOf prepared.plan }

/-- The retired branch of the loop. -/
def retiredYear [FloorRing K] (log : NaturalLog K) (prepared : PreparedPlan K) (returns : K × K)
    (year : ℕ) (state : ProjectionState K) (rothBasis : RothBasisState K) (rmdAmount : K) :
    YearOutcome K :=
  let plan := prepared.plan
  let fraction := prepared.periodFraction year
  let longTermCareCost := state.longTermCare.elim 0 (·.costForYear log year prepared.totalYears)
  let socialSecurityBenefit := socialSecurityBenefitOf prepared year
  let incomeTest := incomeTestOf prepared year state.magiByYear state.accounts longTermCareCost
    socialSecurityBenefit
  let healthcare := healthcareCostFor plan.profile.retirementHealthcare (prepared.currentAge year)
    (healthcareGrowthYears prepared year) incomeTest
  let hsaQualifiedAllowance :=
    state.hsaQualifiedAllowance + longTermCareCost + healthcare.qualified * fraction
  let healthcareCost := healthcare.total * fraction
  let targetSpending := baseSpendingOf prepared year + healthcareCost + longTermCareCost
  let rmdAmount := rmdAmount * fraction
  let committed := executeOrderedWithdrawals targetSpending
    (growAccounts fraction returns state.accounts) rothBasis
    (withdrawalContext prepared year socialSecurityBenefit rmdAmount hsaQualifiedAllowance)
  let result := committed.result
  -- Reinvest the distribution's excess.
  let accounts := (depositToBucket committed.accounts .taxable result.depositTaxable).1
  let conversion :=
    if prepared.currentAge year < prepared.rmdStartAge ∧ result.insufficientFunds = false then
      rothConversionFor (conversionInput prepared year accounts socialSecurityBenefit result)
    else RothConversion.default
  let converts := 0 < conversion.converted
  let rothConversion := if converts then conversion.converted - conversion.withheld else 0
  let conversionTaxFromTaxable := if converts then conversion.fromTaxable else 0
  let conversionTaxWithheld := if converts then conversion.withheld else 0
  let taxes := result.totalTaxes + if converts then conversion.tax else 0
  { accounts := if converts then applyConversion accounts conversion else accounts
    rothBasis :=
      if converts then
        recordConversion committed.rothBasis (prepared.taxYear year) rothConversion
      else committed.rothBasis
    hsaQualifiedAllowance := hsaQualifiedAllowance - result.hsaQualifiedUsed
    rmdAmount
    income := socialSecurityBenefit
    spending :=
      if result.insufficientFunds then
        max (result.totalWithdrawn - taxes - result.depositTaxable + socialSecurityBenefit) 0
      else targetSpending
    taxes
    savings := result.depositTaxable - result.totalWithdrawn - conversionTaxFromTaxable
      - conversionTaxWithheld
    rothConversion
    socialSecurityBenefit
    withdrawalTaxable := result.withdrawalTaxable + conversionTaxFromTaxable
    withdrawalTraditional := result.withdrawalTraditional + conversionTaxWithheld
    withdrawalRoth := result.withdrawalRoth
    withdrawalHsa := result.withdrawalHsa
    depositTaxable := result.depositTaxable
    depositTraditional := 0
    depositRoth := 0
    depositHsa := 0
    healthcareCost
    longTermCareCost
    insufficientFunds := result.insufficientFunds }

/-! ## The path -/

/-- One year of the path, either branch. -/
def yearOutcome [FloorRing K] (log : NaturalLog K) (prepared : PreparedPlan K) (returns : K × K)
    (year : ℕ) (state : ProjectionState K) : YearOutcome K :=
  let rothBasis := rothBasisAtStart state.rothBasis (prepared.currentAge year)
    (prepared.taxYear year)
  let rmdAmount := requiredDistribution state.accounts state.previousYearTraditionalBalance
    (prepared.currentAge year) prepared.rmdStartAge
  if prepared.isRetired year then
    retiredYear log prepared returns year state rothBasis rmdAmount
  else
    workingYear prepared returns year state.accounts rothBasis state.hsaQualifiedAllowance rmdAmount

/-- The year's MAGI, which the next years' premiums are tested against. -/
def yearMagiOf (prepared : PreparedPlan K) (year : ℕ) (o : YearOutcome K) : YearMagi K where
  total := o.income + o.withdrawalTraditional + o.rothConversion
    + o.withdrawalTaxable * prepared.plan.assumptions.taxableGainRatio
  wages := if prepared.isRetired year then 0 else o.income

/-- The loop's variables after a year. -/
def ProjectionState.after (state : ProjectionState K) (prepared : PreparedPlan K) (year : ℕ)
    (o : YearOutcome K) : ProjectionState K :=
  let portfolioValue := totalBalance o.accounts
  { accounts := o.accounts
    rothBasis := o.rothBasis
    portfolioValue
    previousYearTraditionalBalance := balanceOfBucket o.accounts .traditional
    hsaQualifiedAllowance := o.hsaQualifiedAllowance
    magiByYear := state.magiByYear ++ [yearMagiOf prepared year o]
    longTermCare := state.longTermCare.map fun draw =>
      draw.observe (prepared.currentAge year) portfolioValue
        (if year = 0 then o.income / prepared.remainingYearFraction else o.income)
    success := state.success && !o.insufficientFunds }

/-- The row a year records. Recurring healthcare and care share what the year
actually spent. -/
def projectionRow (prepared : PreparedPlan K) (year : ℕ) (o : YearOutcome K) : PathProjection K :=
  let requestedCare := o.healthcareCost + o.longTermCareCost
  let fundedCare := min requestedCare (max o.spending 0)
  let fundedShare := if 0 < requestedCare then fundedCare / requestedCare else 0
  { year := prepared.taxYear year
    age := prepared.currentAge year
    portfolioValue := totalBalance o.accounts
    income := o.income
    spending := o.spending
    taxes := o.taxes
    savings := o.savings
    socialSecurityBenefit := o.socialSecurityBenefit
    isRetired := prepared.isRetired year
    withdrawalTaxable := o.withdrawalTaxable
    withdrawalTraditional := o.withdrawalTraditional
    withdrawalRoth := o.withdrawalRoth
    withdrawalHsa := o.withdrawalHsa
    rmdAmount := o.rmdAmount
    rothConversion := o.rothConversion
    depositTaxable := o.depositTaxable
    depositTraditional := o.depositTraditional
    depositRoth := o.depositRoth
    depositHsa := o.depositHsa
    healthcareCost := o.healthcareCost * fundedShare
    longTermCareCost := o.longTermCareCost * fundedShare
    insufficientFunds := o.insufficientFunds }

/-- What the portfolio is worth once the tax nobody has paid yet is settled. -/
def afterTaxWealthOf (accounts : List (Account K)) (terminalTaxRate : K) : K :=
  (accounts.map fun account =>
    account.balance *
      if account.accountType = .traditional ∨ account.accountType = .hsa then 1 - terminalTaxRate
      else 1).sum

/-- A path so far: the loop's variables and the rows recorded. -/
structure Path (K : Type*) [Field K] [LinearOrder K] where
  state : ProjectionState K
  projections : List (PathProjection K)

/-- One round of the loop over the years. -/
def Path.step [FloorRing K] (log : NaturalLog K) (prepared : PreparedPlan K) (returns : ℕ → K × K)
    (path : Path K) (year : ℕ) : Path K :=
  let o := yearOutcome log prepared (returns year) year path.state
  { state := path.state.after prepared year o
    projections := path.projections ++ [projectionRow prepared year o] }

/-- The loop over the first `years` years. -/
def Path.upTo [FloorRing K] (log : NaturalLog K) (prepared : PreparedPlan K) (uniform : Uniform K)
    (returns : ℕ → K × K) (years : ℕ) : Path K :=
  (List.range years).foldl (Path.step log prepared returns)
    ⟨ProjectionState.start prepared uniform, []⟩

/-- One deterministic path from the as-of date through life expectancy. -/
def projectScenarioPrepared [FloorRing K] (log : NaturalLog K) (prepared : PreparedPlan K)
    (uniform : Uniform K) (returns : ℕ → K × K) : PathResult K :=
  let path := Path.upTo log prepared uniform returns prepared.totalYears
  { terminalWealth := path.state.portfolioValue
    afterTaxTerminalWealth := afterTaxWealthOf path.state.accounts
      prepared.plan.assumptions.terminalTaxRate
    projections := path.projections
    success := path.state.success }

def projectScenario [FloorRing K] (log : NaturalLog K) (plan : RetirementPlan K)
    (uniform : Uniform K) (returns : ℕ → K × K) : Except DateError (PathResult K) :=
  (PreparedPlan.new plan).map fun prepared => projectScenarioPrepared log prepared uniform returns

end RetirementPlanner.Engine
