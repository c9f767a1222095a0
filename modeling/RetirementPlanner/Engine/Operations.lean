import RetirementPlanner.Engine.MonteCarlo
import RetirementPlanner.Lib.Operations

/-!
# The partial operations of a simulation

What each function of the engine does that can fail, on the arguments it does it with:
unsigned differences, indices, slices and remainders, draws from a range, divisions, powers,
lookups that panic, clamps, and the comparisons of a sort. A function that does none of these
is not listed. Saturating differences and accesses through an `Option` cannot fail; divisors,
bounds and positions that the source writes as literals are left out.
-/

namespace RetirementPlanner.Engine

open Operations

variable {K : Type*} [Field K] [LinearOrder K]

/-! ## The prepared plan -/

def toBucketsOperations (accounts : List (Account K)) : List (Operation K) :=
  bucketOrder.flatMap fun accountType =>
    let members := accounts.filter (·.accountType = accountType)
    if members = [] then []
    else
      let balance := (members.map (·.balance)).sum
      if 0 < balance then [.divide balance] else [.divide (members.length : K)]

/-- Whether `NaiveDate::from_ymd_opt` has the first day of a year. -/
def hasNewYear (year : ℤ) : Bool := -262143 ≤ year ∧ year ≤ 262142

def PreparedPlan.newOperations (plan : RetirementPlan K) : List (Operation K) :=
  match PreparedPlan.new plan with
  | .error _ => []
  | .ok prepared =>
    let daysInYear : K := if isLeapYear prepared.currentYear then 366 else 365
    [.expect (hasNewYear prepared.currentYear), .divide daysInYear,
        .subtract plan.profile.lifeExpectancy prepared.age]
      ++ toBucketsOperations plan.accounts

/-! ## Market returns -/

/-- Both real returns are divided by the year's price level. -/
def AnnualMarketReturn.sampleOperations (entry : AnnualMarketReturn) : List (Operation K) :=
  [.divide (1 + (entry.inflationRate : K))]

section Returns

variable (source : RandomSource K)

def sampleHistoricalReturnsOperations (rng : source.Rng) : List (Operation K) :=
  let index := (source.genRange rng).1
  [.draw historicalReturns.length, .index index historicalReturns.length]
    ++ (historicalReturns.get index).sampleOperations

def sampleBlockOperations (rng : source.Rng) (blockSize : ℕ) : List (Operation K) :=
  let startIndex := (source.genRange rng).1
  let size := min blockSize historicalReturns.length
  .draw historicalReturns.length :: (List.range size).flatMap fun offset =>
    let index := (startIndex + offset) % historicalReturns.length
    [.remainder historicalReturns.length, .index index historicalReturns.length]
      ++ historicalReturns[index]?.elim [] AnnualMarketReturn.sampleOperations

/-- The parametric draw works on statistics that are derived once, `statsOperations`. -/
def MarketReturnsGenerator.nextOperations : MarketReturnsGenerator source → List (Operation K)
  | .singleBootstrap rng => sampleHistoricalReturnsOperations source rng
  | .blockBootstrap rng blockSize currentBlock blockIndex =>
    if currentBlock.length ≤ blockIndex then
      sampleBlockOperations source rng blockSize
        ++ [.index 0 (sampleBlock source rng blockSize).1.length]
    else [.index blockIndex currentBlock.length]
  | .parametric _ => []

def createMarketReturnsGeneratorOperations (plan : RetirementPlan K) (config : ProjectionConfig) :
    List (Operation K) :=
  match plan.assumptions.simulationModel with
  | .parametric => []
  | .historical =>
    if config.useHistoricalBootstrap then
      sampleBlockOperations source (source.seedFromU64 config.seed) config.blockSize
    else []

end Returns

/-! ## Long-term care episodes -/

/-- The position of a quintile's row in the tables. -/
def IncomeQuintile.index : IncomeQuintile → ℕ
  | .second => 0
  | .middle => 1
  | .fourth => 2
  | .highest => 3

def incomeQuintiles : List IncomeQuintile := [.second, .middle, .fourth, .highest]

def conditionalCumulativeOperations (closedPercent : List ℚ) (topPercent : ℚ) :
    List (Operation K) :=
  [.divide ((closedPercent.sum + topPercent : ℚ) : K)]

def buildSpendingModelOperations (row : SpendingRow) : List (Operation K) :=
  let rowSum := row.noSpendingPercent + row.closedPercent.sum + row.topPercent
  let topProbability := row.topPercent / rowSum
  [.divide (rowSum : K)] ++ conditionalCumulativeOperations row.closedPercent row.topPercent
    ++ [.divide (topProbability : K)]

/-- Deriving the models of every quintile and of the duration, on first use. -/
def careModelsOperations : List (Operation K) :=
  incomeQuintiles.flatMap (fun quintile => buildSpendingModelOperations (spendingRow quintile))
    ++ conditionalCumulativeOperations durationRow.1 durationRow.2

def invertClosedBucketsOperations (quantile : K) (lowerCumulative : ℚ) :
    List ℚ → List (ℚ × ℚ) → List (Operation K)
  | upperCumulative :: cumulative, _ :: buckets =>
    if quantile < (upperCumulative : K) then
      let mass : K := ((upperCumulative - lowerCumulative : ℚ) : K)
      if 0 < mass then [.divide mass] else []
    else invertClosedBucketsOperations quantile upperCumulative cumulative buckets
  | _, _ => []

/-- The position in the open-ended tail past `cumulative`'s last entry. -/
def tailPositionOperations (buckets : List (ℚ × ℚ)) (cumulative : List ℚ) : List (Operation K) :=
  [.subtract buckets.length 1, .index (buckets.length - 1) cumulative.length,
    .divide ((1 - cumulative.getLastD 0 : ℚ) : K)]

/-- A quantile read against a distribution, of spending or of years. -/
def quantileOperations (quantile : K) (cumulative : List ℚ) (buckets : List (ℚ × ℚ)) :
    List (Operation K) :=
  invertClosedBucketsOperations quantile 0 cumulative buckets
    ++ match invertClosedBuckets quantile 0 cumulative buckets with
      | some _ => []
      | none => tailPositionOperations buckets cumulative

def spendingForOperations (model : SpendingModel) (quantile : K) : List (Operation K) :=
  quantileOperations quantile model.cumulative spendingBuckets

def yearsForOperations (quantile : K) : List (Operation K) :=
  quantileOperations quantile durationCumulative durationBuckets

def drawEpisodeOperations (quintile : IncomeQuintile) (u : Uniform K) : List (Operation K) :=
  let model := spendingModel quintile
  .index quintile.index incomeQuintiles.length :: careModelsOperations ++
    if u.value < (model.noSpendingProbability : K) then []
    else
      let hasCareProbability : K := ((1 - model.noSpendingProbability : ℚ) : K)
      let conditionalQuantile :=
        min (max ((u.value - (model.noSpendingProbability : K)) / hasCareProbability) 0) 1
      [.divide hasCareProbability] ++ spendingForOperations model conditionalQuantile
        ++ yearsForOperations conditionalQuantile

def annuityFactorOperations (termYears : ℕ) : List (Operation K) :=
  let base : K := 1 + ltcAnnuityRealRate
  [.power base (-(termYears : ℤ)), .divide (1 - base ^ (-(termYears : ℤ)))]

def remainingLtcExposureOperations (currentAge lifeExpectancy : ℕ) : List (Operation K) :=
  if currentAge ≤ ltcObservationAge then []
  else
    let lifetimeYears := lifeExpectancy - ltcObservationAge
    if lifetimeYears = 0 then [] else [.divide (lifetimeYears : K)]

/-- A deflation divides by the growth in between, which is the ratio the other way. -/
def priceLevelRatioOperations (fromYear toYear : ℤ) : List (Operation K) :=
  if fromYear ≤ toYear then [] else [.divide (priceLevelRatio toYear fromYear : K)]

def LongTermCareDraw.startOperations (plan : RetirementPlan K) (baseYear birthYear : ℤ)
    (startAge : ℕ) : List (Operation K) :=
  let profile := plan.profile
  if plan.schemaVersion < ltcModelSchemaVersion ∨ profile.longTermCare.enabled = false then []
  else if profile.lifeExpectancy ≤ ltcObservationAge then []
  else
    let term := max (profile.lifeExpectancy - ltcObservationAge) ltcAnnuityMinTerm
    let cohortGrowthYears := min (max (birthYear + (ltcObservationAge : ℤ) - ltcCohortAnchorYear)
      (-ltcMaxCohortGrowthYears)) ltcMaxCohortGrowthYears
    [.subtract profile.lifeExpectancy ltcObservationAge,
      .power (1 + profile.retirementHealthcare.realGrowthRate) cohortGrowthYears]
      ++ priceLevelRatioOperations ltcTableDollarYear baseYear
      ++ remainingLtcExposureOperations startAge profile.lifeExpectancy
      ++ annuityFactorOperations term

def LongTermCareDraw.observeOperations (draw : LongTermCareDraw K) (currentAge : ℕ) :
    List (Operation K) :=
  if draw.quintile.isSome ∨ currentAge < ltcObservationAge then [] else [.divide draw.povertyLevel]

def LongTermCareDraw.costForYearOperations (log : NaturalLog K) (draw : LongTermCareDraw K)
    (totalYears : ℕ) : List (Operation K) :=
  draw.quintile.elim [] fun quintile =>
    drawEpisodeOperations quintile draw.uniform
      ++ (drawEpisode log quintile draw.uniform).elim [] fun episode =>
        let duration := min (min episode.years (totalYears : K)) draw.maximumDurationYears
        if duration ≤ 0 then [] else [.divide duration]

/-! ## Required distributions and the Roth ledger -/

def calculateRmdOperations (age applicableAge : ℕ) : List (Operation K) :=
  if age < applicableAge then []
  else
    let distributionFactor := rmdFactor (min age 120)
    [.expect distributionFactor.isSome, .divide ((distributionFactor.getD 0 : ℚ) : K)]

def requiredDistributionOperations (currentAge rmdStartAge : ℕ) : List (Operation K) :=
  if rmdStartAge ≤ currentAge then calculateRmdOperations currentAge rmdStartAge else []

/-- The seasoned lots are summed over a slice and drained from the same range. -/
def seasonRothConversionsOperations (state : RothBasisState K) (taxYear : ℤ) :
    List (Operation K) :=
  let seasoned := state.conversionLots.takeWhile fun lot => lot.conversionYear + 5 ≤ taxYear
  if seasoned.length = 0 then [] else [.slice 0 seasoned.length state.conversionLots.length]

def rothBasisAtStartOperations (rothBasis : RothBasisState K) (currentAge : ℕ) (taxYear : ℤ) :
    List (Operation K) :=
  if traditionalPenaltyAge ≤ currentAge ∧ rothBasis.enabled then []
  else if rothBasis.enabled then seasonRothConversionsOperations rothBasis taxYear
  else []

/-! ## Tax -/

/-- Every threshold of a tax year is eroded by the same power. -/
def frozenThresholdOperations (taxYear : ℤ) : List (Operation K) :=
  let years := taxYear - taxLawYear
  if years ≤ 0 then []
  else
    let base : K := 1 + (longRunInflation : K)
    [.divide (historicalReturns.length : K), .power base years, .divide (base ^ years)]

/-- The working-year tax. The passes of `calculate_working_cash_flow` all compute it for one
household and one year. -/
def calculateTaxOperations (household : Household) (taxYear : ℤ) : List (Operation K) :=
  [.clamp 0 (getHsaContributionLimit household.primaryAge),
    .clamp 0 (getK401ContributionLimit household.primaryAge)] ++ frozenThresholdOperations taxYear

def calculateRetirementTaxOperations (taxYear : ℤ) : List (Operation K) :=
  frozenThresholdOperations taxYear

/-! ## Social Security -/

def calculateAimeOperations (salaryHistory : List K) : List (Operation K) :=
  comparisons salaryHistory

def estimateSalaryHistoryOperations (salaryGrowthRate : K) (currentAge retirementAge : ℕ) :
    List (Operation K) :=
  let careerStartAge := min 22 currentAge
  (List.range' careerStartAge (retirementAge - careerStartAge)).map fun age =>
    .power (1 + salaryGrowthRate) ((age : ℤ) - currentAge)

def socialSecurityBenefitOperations (prepared : PreparedPlan K) (year : ℕ) : List (Operation K) :=
  let profile := prepared.plan.profile
  let settings := prepared.plan.socialSecurity
  if settings.enabled ∧ settings.claimAge ≤ prepared.currentAge year then
    if settings.manualOverride then []
    else
      estimateSalaryHistoryOperations profile.salaryGrowthRate prepared.age profile.retirementAge
        ++ calculateAimeOperations (estimateSalaryHistory profile.currentSalary
          profile.salaryGrowthRate prepared.age profile.retirementAge)
  else []

/-! ## Healthcare -/

def applicablePercentOperations (fplRatio lowerRatio : K) :
    List (ApplicablePercentageBand K) → List (Operation K)
  | [] => []
  | band :: bands =>
    if fplRatio ≤ band.upperFplRatio then
      let span := band.upperFplRatio - lowerRatio
      if 0 < span then [.divide span] else []
    else applicablePercentOperations fplRatio band.upperFplRatio bands

def expectedPremiumContributionOperations (magi : K) (householdSize : ℕ) : List (Operation K) :=
  let fplRatio := magi / federalPovertyLevel householdSize
  [.divide (federalPovertyLevel householdSize)] ++
    if subsidyFloorFplRatio ≤ fplRatio ∧ fplRatio ≤ subsidyCliffFplRatio then
      applicablePercentOperations fplRatio 0 applicablePercentageBands
    else []

def incomeTestedPremiumOperations (onMedicare : Bool) (test : PremiumIncomeTest K) :
    List (Operation K) :=
  if onMedicare then []
  else test.priorYearMagi.elim [] (expectedPremiumContributionOperations · test.householdSize)

def healthcareGrowthFactorOperations (healthcare : RetirementHealthcare K) (growthYears : ℕ) :
    List (Operation K) :=
  [.power (1 + healthcare.realGrowthRate) growthYears]

def healthcareCostForOperations (healthcare : RetirementHealthcare K) (age growthYears : ℕ)
    (incomeTest : Option (PremiumIncomeTest K)) : List (Operation K) :=
  healthcareGrowthFactorOperations healthcare growthYears
    ++ incomeTest.elim [] (incomeTestedPremiumOperations (decide (medicareAge ≤ age)))

/-! ## Withdrawals, deposits and conversions -/

/-- Every leg of the withdrawal order reads the shadow balances at an account's position. -/
def applyWithdrawalOrderOperations (accounts : List (Account K)) (balances : List K) :
    List (Operation K) :=
  scan accounts.length balances.length

def withdrawInOrderOperations (accounts : List (Account K)) : List (Operation K) :=
  applyWithdrawalOrderOperations accounts (accounts.map (·.balance))

/-- The required distribution is taken from the shadow balances before the order is. -/
def evaluateOrderedWithdrawalsOperations (accounts : List (Account K))
    (context : WithdrawalContext K) : List (Operation K) :=
  scan accounts.length (accounts.map (·.balance)).length
    ++ applyWithdrawalOrderOperations accounts (accounts.map (·.balance))
    ++ calculateRetirementTaxOperations context.taxYear

/-- The search evaluates one budget after another, all on the same accounts in one context. -/
def executeOrderedWithdrawalsOperations (accounts : List (Account K))
    (context : WithdrawalContext K) : List (Operation K) :=
  evaluateOrderedWithdrawalsOperations accounts context

def depositToBucketOperations (accounts : List (Account K)) (accountType : AccountType)
    (amount : K) : List (Operation K) :=
  if amount ≤ 0 then []
  else
    match accounts.find? (·.accountType = accountType) with
    | some _ => []
    | none => if 0 < totalBalance accounts then [.divide (totalBalance accounts)] else []

def solveStepOperations (b : SolveBracket K) (step : ℕ) : List (Operation K) :=
  if b.high - b.low ≤ solveTolerance then []
  else if step % 2 = 0 ∧ b.lowGap < b.highGap then [.divide (b.highGap - b.lowGap)]
  else []

/-- The tax of every candidate, and the search over them. -/
def rothConversionForOperations (input : RothConversionInput K) : List (Operation K) :=
  if input.policy.enabled = false ∨ input.traditionalBalance ≤ 0 then []
  else (ceilingLimit input).elim [] fun limit =>
    let baseTax := taxOf 0 input.qualifiedIncome input
    let gapAt := fun conversion =>
      measure conversion (outcomeOf conversion input baseTax).fundingGain input - limit
    let high := min input.traditionalBalance (2 * limit + input.socialSecurityBenefit)
    calculateRetirementTaxOperations input.taxYear ++
      if 0 ≤ gapAt 0 ∨ gapAt input.traditionalBalance ≤ 0 then []
      else (List.range solveSteps).flatMap fun step =>
        solveStepOperations
          ((List.range step).foldl (solveStep gapAt) ⟨0, gapAt 0, high, gapAt high⟩) step

/-! ## Working years -/

/-- The cash flow annualizes the year's withdrawals and penalties. -/
def WorkingContext.cashFlowWithOperations (c : WorkingContext K) : List (Operation K) :=
  [.divide c.periodFraction] ++ calculateTaxOperations c.household c.taxYear

def WorkingContext.shortfallLoopOperations (c : WorkingContext K) :
    ℕ → ShortfallState K → List (Operation K)
  | 0, _ => []
  | passes + 1, s =>
    if c.unfunded s ≤ shortfallTolerance then []
    else
      let (drawn, accounts) := c.draw s
      withdrawInOrderOperations s.accounts ++
        if drawn.total ≤ shortfallTolerance then []
        else
          c.cashFlowWithOperations
            ++ c.shortfallLoopOperations passes (c.record s drawn accounts)

/-- Deposits made one after another. -/
def depositsOperations (accounts : List (Account K)) : List (AccountType × K) → List (Operation K)
  | [] => []
  | (accountType, amount) :: deposits =>
    depositToBucketOperations accounts accountType amount
      ++ depositsOperations (depositToBucket accounts accountType amount).1 deposits

def workingYearOperations (prepared : PreparedPlan K) (returns : K × K) (year : ℕ)
    (accounts : List (Account K)) (rmdAmount : K) : List (Operation K) :=
  let profile := prepared.plan.profile
  let c := workingContext prepared year
  let s₀ := c.start rmdAmount (growAccounts c.periodFraction returns accounts)
  let s := c.shortfallLoop shortfallPasses s₀
  let contributions := s.workingCashFlow.contributions
  [.power (1 + profile.salaryGrowthRate) year]
    ++ (if phaseSpendingSchemaVersion ≤ prepared.plan.schemaVersion then
      [.power (1 + profile.workingSpendingGrowthRate) year] else [])
    ++ c.cashFlowWithOperations
    ++ c.shortfallLoopOperations shortfallPasses s₀
    ++ depositsOperations s.accounts
      [(.hsa, contributions.hsa * c.periodFraction),
        (.traditional, contributions.traditional * c.periodFraction),
        (.roth, contributions.roth * c.periodFraction),
        (.taxable, contributions.taxable * c.periodFraction)]

/-! ## Retired years -/

def baseSpendingOperations (prepared : PreparedPlan K) (year : ℕ) : List (Operation K) :=
  let profile := prepared.plan.profile
  let retirementStartYear := profile.retirementAge - prepared.age
  let base := 1 + profile.retirementSpendingGrowthRate
  if phaseSpendingSchemaVersion ≤ prepared.plan.schemaVersion then
    [.subtract year retirementStartYear, .power base ((year - retirementStartYear : ℕ) : ℤ)]
  else [.power base year]

/-- A year after wages prices its premium on an estimate, which pours the planned spending
through the withdrawal order. -/
def incomeTestOperations (prepared : PreparedPlan K) (year : ℕ) (magiByYear : List (YearMagi K))
    (accounts : List (Account K)) : List (Operation K) :=
  let plan := prepared.plan
  if healthcareModelSchemaVersion ≤ plan.schemaVersion then
    (if 1 ≤ year then magiByYear[year - 1]? else none).elim [] fun prior =>
      if prior.wages ≤ 0 ∨ plan.schemaVersion < retirementMagiEstimateSchemaVersion then []
      else
        healthcareGrowthFactorOperations plan.profile.retirementHealthcare
            (healthcareGrowthYears prepared year)
          ++ withdrawInOrderOperations accounts
  else []

/-- A conversion is offered to a funded year before required distributions start. -/
def conversionOperations [FloorRing K] (prepared : PreparedPlan K) (year : ℕ)
    (accounts : List (Account K)) (socialSecurityBenefit : K) (result : WithdrawalResult K) :
    List (Operation K) :=
  if prepared.currentAge year < prepared.rmdStartAge ∧ result.insufficientFunds = false then
    let input := conversionInput prepared year accounts socialSecurityBenefit result
    let conversion := rothConversionFor input
    let accounts := (drawFromBucket accounts .traditional conversion.converted).1
    let accounts := (drawFromBucket accounts .taxable conversion.fromTaxable).1
    rothConversionForOperations input ++
      if 0 < conversion.converted then
        depositToBucketOperations accounts .roth (conversion.converted - conversion.withheld)
      else []
  else []

def retiredYearOperations [FloorRing K] (log : NaturalLog K) (prepared : PreparedPlan K)
    (returns : K × K) (year : ℕ) (state : ProjectionState K) (rothBasis : RothBasisState K)
    (rmdAmount : K) : List (Operation K) :=
  let healthcare := prepared.plan.profile.retirementHealthcare
  let fraction := prepared.periodFraction year
  let longTermCareCost := state.longTermCare.elim 0 (·.costForYear log year prepared.totalYears)
  let socialSecurityBenefit := socialSecurityBenefitOf prepared year
  let incomeTest := incomeTestOf prepared year state.magiByYear state.accounts longTermCareCost
    socialSecurityBenefit
  let cost := healthcareCostFor healthcare (prepared.currentAge year)
    (healthcareGrowthYears prepared year) incomeTest
  let hsaQualifiedAllowance :=
    state.hsaQualifiedAllowance + longTermCareCost + cost.qualified * fraction
  let targetSpending := baseSpendingOf prepared year + cost.total * fraction + longTermCareCost
  let context := withdrawalContext prepared year socialSecurityBenefit (rmdAmount * fraction)
    hsaQualifiedAllowance
  let accounts := growAccounts fraction returns state.accounts
  let committed := executeOrderedWithdrawals targetSpending accounts rothBasis context
  let deposited := depositToBucket committed.accounts .taxable committed.result.depositTaxable
  baseSpendingOperations prepared year
    ++ state.longTermCare.elim [] (·.costForYearOperations log prepared.totalYears)
    ++ socialSecurityBenefitOperations prepared year
    ++ incomeTestOperations prepared year state.magiByYear state.accounts
    ++ healthcareCostForOperations healthcare (prepared.currentAge year)
      (healthcareGrowthYears prepared year) incomeTest
    ++ executeOrderedWithdrawalsOperations accounts context
    ++ depositToBucketOperations committed.accounts .taxable committed.result.depositTaxable
    ++ conversionOperations prepared year deposited.1 socialSecurityBenefit committed.result

/-! ## The path -/

/-- What a year does once its flows are settled: the care draw observes it, with the first
year's income annualized, and the recorded row shares what care was funded. -/
def recordOperations (prepared : PreparedPlan K) (year : ℕ) (state : ProjectionState K)
    (o : YearOutcome K) : List (Operation K) :=
  let requestedCare := o.healthcareCost + o.longTermCareCost
  (state.longTermCare.elim [] fun draw =>
      (if year = 0 then [.divide prepared.remainingYearFraction] else [])
        ++ draw.observeOperations (prepared.currentAge year))
    ++ if 0 < requestedCare then [.divide requestedCare] else []

section Paths

variable [FloorRing K] (log : NaturalLog K) (source : RandomSource K)

/-- One round of the loop over the years, from the state and the generator it starts with. -/
def yearOperations (prepared : PreparedPlan K) (generator : MarketReturnsGenerator source)
    (year : ℕ) (state : ProjectionState K) : List (Operation K) :=
  let currentAge := prepared.currentAge year
  let rothBasis := rothBasisAtStart state.rothBasis currentAge (prepared.taxYear year)
  let rmdAmount := requiredDistribution state.accounts state.previousYearTraditionalBalance
    currentAge prepared.rmdStartAge
  let returns := (generator.next source).1
  rothBasisAtStartOperations state.rothBasis currentAge (prepared.taxYear year)
    ++ requiredDistributionOperations currentAge prepared.rmdStartAge
    ++ generator.nextOperations source
    ++ (if prepared.isRetired year then
      retiredYearOperations log prepared returns year state rothBasis rmdAmount
    else workingYearOperations prepared returns year state.accounts rmdAmount)
    ++ recordOperations prepared year state (yearOutcome log prepared returns year state)

/-- One path, recorded or not. -/
def projectScenarioOperations (prepared : PreparedPlan K) (config : ProjectionConfig) :
    List (Operation K) :=
  createMarketReturnsGeneratorOperations source prepared.plan config
    ++ LongTermCareDraw.startOperations prepared.plan prepared.currentYear prepared.birthYear
      prepared.age
    ++ (List.range prepared.totalYears).flatMap fun year =>
      yearOperations log source prepared (generatorAt source prepared.plan config year) year
        (Path.upTo log prepared (careUniform source config)
          (marketReturns source prepared.plan config) year).state

end Paths

/-! ## Aggregation -/

def percentileIndexOperations (pathCount : ℕ) : List (Operation K) := [.subtract pathCount 1]

def yearlyProjectionOperations [FloorRing K] (summaries : List (PathSummary K)) (yearIndex : ℕ) :
    List (Operation K) :=
  let portfolioValues := sortedPortfolioValues summaries yearIndex
  let quantiles : List K := [0.05, 0.10, 0.15, 0.25, 0.50, 0.75, 0.90]
  summaries.map (fun summary => .index yearIndex summary.portfolioValues.length)
    ++ comparisons portfolioValues
    ++ quantiles.map fun quantile =>
      .index (percentileIndex summaries.length quantile) portfolioValues.length

/-- A year of a cohort: the row of each path at a rank of it. -/
def cohortRowsOperations (summaries : List (PathSummary K)) (cohort : List (TerminalOutcome K))
    (yearIndex : ℕ) : List (Operation K) :=
  .index 0 cohort.length :: cohort.flatMap fun outcome =>
    .index outcome.pathIndex summaries.length ::
      summaries[outcome.pathIndex]?.elim [] fun summary =>
        [.index yearIndex summary.cashFlows.length]

def outcomeBucketOperations (summaries : List (PathSummary K)) (yearCount centerPercentile : ℕ) :
    List (Operation K) :=
  let outcomes := terminalOutcomes summaries
  let bounds := cohortBounds summaries.length centerPercentile
  let cohort := (outcomes.take bounds.2).drop bounds.1
  [.subtract centerPercentile 5, .subtract summaries.length 1,
    .slice bounds.1 bounds.2 outcomes.length]
    ++ (List.range yearCount).flatMap (cohortRowsOperations summaries cohort)
    ++ cohort.map (fun outcome => .index outcome.pathIndex summaries.length)
    ++ [.divide (cohort.length : K)]

section Aggregate

variable [FloorRing K] (log : NaturalLog K) (source : RandomSource K)

/-- The aggregation prepares the plan again and projects the median path again. -/
def aggregateResultsOperations (prepared : PreparedPlan K) (config : MCConfig)
    (summaries : List (PathSummary K)) : List (Operation K) :=
  if summaries.isEmpty then []
  else
    let outcomes := terminalOutcomes summaries
    let outcomeIndex (quantile : K) : ℕ := percentileIndex summaries.length quantile
    let representative := (outcomes.getD (outcomeIndex 0.50) ⟨0, 0, 0⟩).pathIndex
    let yearCount := (runSinglePath log source prepared config representative).projections.length
    let quantiles : List K := [0.05, 0.10, 0.50, 0.90]
    percentileIndexOperations summaries.length
      ++ [.divide (summaries.length : K)]
      ++ comparisons (summaries.map (·.terminalWealth))
      ++ quantiles.map (fun quantile => .index (outcomeIndex quantile) outcomes.length)
      ++ PreparedPlan.newOperations prepared.plan
      ++ projectScenarioOperations log source prepared (config.forPath representative)
      ++ if summaries.any fun summary => decide (summary.portfolioValues.length ≠ yearCount) then []
        else
          (List.range yearCount).flatMap (yearlyProjectionOperations summaries)
            ++ outcomeCenters.flatMap (outcomeBucketOperations summaries yearCount)

/-- A whole run: the plan prepared, every path projected, and the summaries aggregated. -/
def runSimulationOperations (plan : RetirementPlan K) (config : MCConfig) : List (Operation K) :=
  PreparedPlan.newOperations plan ++
    match PreparedPlan.new plan with
    | .error _ => []
    | .ok prepared =>
      (List.range config.paths).flatMap (fun pathIndex =>
          projectScenarioOperations log source prepared (config.forPath pathIndex))
        ++ aggregateResultsOperations log source prepared config
          ((List.range config.paths).map (summarizePath log source prepared config))

end Aggregate

end RetirementPlanner.Engine
