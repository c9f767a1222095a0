import Mathlib.Algebra.Order.Floor.Ring
import Mathlib.Algebra.Order.Field.Basic
import RetirementPlanner.Engine.Age
import RetirementPlanner.Lib.Numerals

/-!
# The wire types of the simulation engine

The plan a simulation runs on, as `types.rs` has it. Amounts, rates and
weights are elements of a field `K`: `f64` read as exact numbers. `ℝ` is the
reading the results are about; on `ℚ` every definition of the engine
evaluates. A date is kept as what the engine makes of its text: the calendar
date it parses to, or `none`.

Left out: serde's names and defaults, and the fields no modelled function
reads.
-/

namespace RetirementPlanner.Engine

def planSchemaVersion : ℕ := 8

/-- Medicare eligibility, which is where retirement premiums step down. -/
def medicareAge : ℕ := 65

/-- Version that introduced phase-based spending. -/
def phaseSpendingSchemaVersion : ℕ := 2

/-- Version that reworked retirement healthcare. -/
def healthcareModelSchemaVersion : ℕ := 5

/-- Version that stopped pricing the first retirement year on a salary the
household no longer earns. -/
def retirementMagiEstimateSchemaVersion : ℕ := 8

/-- Version that introduced the long-term-care episode. -/
def ltcModelSchemaVersion : ℕ := 7

inductive AccountType
  | taxable
  | traditional
  | roth
  | hsa
  deriving DecidableEq, Repr

inductive FilingStatus
  | single
  | marriedFilingJointly
  | marriedFilingSeparately
  | headOfHousehold
  deriving DecidableEq, Repr

inductive State
  | CA
  | TX
  | FL
  | NY
  | WA
  | Other
  deriving DecidableEq, Repr

structure AssetWeights (K : Type*) where
  stocks : K
  bonds : K
  deriving DecidableEq, Repr

structure Account (K : Type*) where
  accountType : AccountType
  balance : K
  assetWeights : AssetWeights K
  /-- Internal cash generated by forced distributions. -/
  isSurplusCash : Bool
  deriving DecidableEq, Repr

/-- Retirement healthcare: household totals in real dollars. -/
structure RetirementHealthcare (K : Type*) where
  preMedicarePremium : K
  medicarePremium : K
  outOfPocket : K
  realGrowthRate : K
  deriving DecidableEq, Repr

structure LongTermCare (K : Type*) where
  enabled : Bool
  costMultiplier : K
  deriving DecidableEq, Repr

structure UserProfile (K : Type*) where
  birthDate : Option NaiveDate
  state : State
  filingStatus : FilingStatus
  retirementAge : ℕ
  currentSalary : K
  salaryGrowthRate : K
  currentSpending : K
  workingSpendingGrowthRate : K
  retirementSpending : K
  retirementSpendingGrowthRate : K
  lifeExpectancy : ℕ
  retirementHealthcare : RetirementHealthcare K
  longTermCare : LongTermCare K
  asOfDate : Option NaiveDate

structure SocialSecuritySettings (K : Type*) where
  enabled : Bool
  estimatedBenefit : Option K
  claimAge : ℕ
  manualOverride : Bool
  deriving DecidableEq, Repr

inductive SimulationModel
  | historical
  | parametric
  deriving DecidableEq, Repr

structure AnnualContributions (K : Type*) where
  hsa : K
  traditional : K
  roth : K
  taxable : K
  deriving DecidableEq, Repr

/-- How much ordinary income a conversion year may reach. -/
inductive RothConversionCeiling
  | bracket12
  | bracket22
  | bracket24
  | bracket32
  | irmaaTier
  deriving DecidableEq, Repr

structure RothConversionPolicy where
  enabled : Bool
  ceiling : RothConversionCeiling
  deriving DecidableEq, Repr

structure ProjectionSettings (K : Type*) where
  simulationModel : SimulationModel
  randomSeed : ℕ
  taxableGainRatio : K
  hsaEligible : Bool
  useBackdoorRoth : Bool
  rothConversion : RothConversionPolicy
  magiAwareWithdrawals : Bool
  terminalTaxRate : K
  deriving DecidableEq, Repr

structure RetirementPlan (K : Type*) where
  schemaVersion : ℕ
  profile : UserProfile K
  accounts : List (Account K)
  socialSecurity : SocialSecuritySettings K
  assumptions : ProjectionSettings K

/-- One recorded year of a path. -/
structure PathProjection (K : Type*) where
  year : ℤ
  age : ℕ
  portfolioValue : K
  income : K
  spending : K
  taxes : K
  savings : K
  socialSecurityBenefit : K
  isRetired : Bool
  withdrawalTaxable : K
  withdrawalTraditional : K
  withdrawalRoth : K
  withdrawalHsa : K
  rmdAmount : K
  rothConversion : K
  depositTaxable : K
  depositTraditional : K
  depositRoth : K
  depositHsa : K
  healthcareCost : K
  longTermCareCost : K
  insufficientFunds : Bool
  deriving DecidableEq, Repr

structure PathResult (K : Type*) where
  terminalWealth : K
  afterTaxTerminalWealth : K
  projections : List (PathProjection K)
  success : Bool
  deriving DecidableEq, Repr

structure MCConfig where
  paths : ℕ
  seed : ℕ
  useHistoricalBootstrap : Bool
  blockSize : ℕ
  deriving DecidableEq, Repr

end RetirementPlanner.Engine
