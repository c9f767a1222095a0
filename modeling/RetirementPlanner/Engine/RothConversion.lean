import RetirementPlanner.Engine.Tax
import RetirementPlanner.Engine.HealthcarePremiums

/-!
# Roth conversions in the gap years

`roth_conversion.rs`: the largest conversion a year absorbs under its ceiling
and what it costs. A candidate is measured together with the sale that pays its
tax; the root is found by false position with a bisection every other step.
-/

namespace RetirementPlanner.Engine

variable {K : Type*} [Field K] [LinearOrder K]

structure RothConversionInput (K : Type*) where
  policy : RothConversionPolicy
  /-- Ordinary income the year has already realized, before any conversion. -/
  traditionalWithdrawals : K
  socialSecurityBenefit : K
  qualifiedIncome : K
  /-- Taxable-account withdrawals, which reach MAGI at the plan's gain ratio. -/
  taxableWithdrawals : K
  taxableGainRatio : K
  household : Household
  state : State
  taxYear : ℤ
  traditionalBalance : K
  taxableBalance : K

structure RothConversion (K : Type*) where
  /-- Pre-tax dollars leaving the Traditional bucket. -/
  converted : K
  /-- Tax the conversion adds to the year, over and above its other tax. -/
  tax : K
  /-- Tax funded by selling from taxable, which keeps the Roth whole. -/
  fromTaxable : K
  /-- Tax withheld out of the conversion, so those dollars never reach the Roth. -/
  withheld : K
  deriving DecidableEq, Repr

def RothConversion.default : RothConversion K := ⟨0, 0, 0, 0⟩

def settlingPasses : ℕ := 4

/-- Cap on root-finding steps. -/
def solveSteps : ℕ := 24

/-- Whole dollars is the answer's resolution, so a narrower bracket is waste. -/
def solveTolerance : K := 1

structure Outcome (K : Type*) where
  tax : K
  fromTaxable : K
  withheld : K
  /-- Gain realized selling to pay, which counts toward MAGI like any other. -/
  fundingGain : K

def ceilingLimit (input : RothConversionInput K) : Option K :=
  let filingStatus := input.household.filingStatus
  match input.policy.ceiling with
  | .irmaaTier => some (irmaaFreeMagiCeiling filingStatus)
  | .bracket12 => federalBracketTop 0.12 filingStatus
  | .bracket22 => federalBracketTop 0.22 filingStatus
  | .bracket24 => federalBracketTop 0.24 filingStatus
  | .bracket32 => federalBracketTop 0.32 filingStatus

def measure (conversion fundingGain : K) (input : RothConversionInput K) : K :=
  if input.policy.ceiling = .irmaaTier then
    input.socialSecurityBenefit + input.traditionalWithdrawals + conversion
      + input.taxableWithdrawals * input.taxableGainRatio + fundingGain
  else
    retirementTaxableIncome (input.traditionalWithdrawals + conversion)
      input.socialSecurityBenefit (input.qualifiedIncome + fundingGain) input.household
      input.taxYear

def taxOf (conversion qualifiedIncome : K) (input : RothConversionInput K) : K :=
  (calculateRetirementTax (input.traditionalWithdrawals + conversion)
    input.socialSecurityBenefit qualifiedIncome input.household input.state input.taxYear).totalTax

/-- The variables of the settling loop of `outcome_of`. -/
structure Settling (K : Type*) where
  qualifiedIncome : K
  tax : K
  fromTaxable : K

/-- One settling pass: the tax with the gain of the sale so far, and the sale
that pays it. -/
def settlingPass (conversion : K) (input : RothConversionInput K) (baseTax : K)
    (s : Settling K) : Settling K :=
  let tax := max (taxOf conversion s.qualifiedIncome input - baseTax) 0
  let fromTaxable := min tax (max input.taxableBalance 0)
  { qualifiedIncome := input.qualifiedIncome + fromTaxable * input.taxableGainRatio
    tax, fromTaxable }

/-- A conversion and everything that follows from its size: what it costs, which
dollars pay for it, and the capital gain those dollars realize on the way out. -/
def outcomeOf (conversion : K) (input : RothConversionInput K) (baseTax : K) : Outcome K :=
  let s := (settlingPass conversion input baseTax)^[settlingPasses] ⟨input.qualifiedIncome, 0, 0⟩
  { tax := s.tax
    fromTaxable := s.fromTaxable
    withheld := min conversion (s.tax - s.fromTaxable)
    fundingGain := s.fromTaxable * input.taxableGainRatio }

def settle (converted : K) (input : RothConversionInput K) (baseTax : K) : RothConversion K :=
  if converted ≤ 0 then RothConversion.default
  else
    let outcome := outcomeOf converted input baseTax
    { converted
      tax := outcome.tax
      fromTaxable := outcome.fromTaxable
      withheld := outcome.withheld }

/-- The bracket of the root search. -/
structure SolveBracket (K : Type*) where
  low : K
  lowGap : K
  high : K
  highGap : K

/-- One step of the root search: interpolation on even steps, bisection on odd
ones, nudged inside so the bracket shrinks. A bracket within the tolerance has
left the loop and stays as it is. -/
def solveStep (gapAt : K → K) (b : SolveBracket K) (step : ℕ) : SolveBracket K :=
  if b.high - b.low ≤ solveTolerance then b
  else
    let interpolate := step % 2 = 0 ∧ b.lowGap < b.highGap
    let guess :=
      if interpolate then b.low + (b.high - b.low) * -b.lowGap / (b.highGap - b.lowGap)
      else (b.low + b.high) / 2
    let mid := min (max guess (b.low + (b.high - b.low) / 64)) (b.high - (b.high - b.low) / 64)
    let gap := gapAt mid
    if gap ≤ 0 then { b with low := mid, lowGap := gap }
    else { b with high := mid, highGap := gap }

/-- The largest conversion a year can absorb without breaching its ceiling, and
what that conversion costs. -/
def rothConversionFor [FloorRing K] (input : RothConversionInput K) : RothConversion K :=
  if input.policy.enabled = false ∨ input.traditionalBalance ≤ 0 then RothConversion.default
  else
    match ceilingLimit input with
    | none => RothConversion.default
    | some limit =>
      let baseTax := taxOf 0 input.qualifiedIncome input
      -- How far a candidate sits over its ceiling, negative while it still fits.
      let gapAt := fun conversion =>
        measure conversion (outcomeOf conversion input baseTax).fundingGain input - limit
      if 0 ≤ gapAt 0 then RothConversion.default
      else if gapAt input.traditionalBalance ≤ 0 then settle input.traditionalBalance input baseTax
      else
        let high := min input.traditionalBalance (2 * limit + input.socialSecurityBenefit)
        let solved := (List.range solveSteps).foldl (solveStep gapAt) ⟨0, gapAt 0, high, gapAt high⟩
        settle (⌊solved.low⌋ : ℤ) input baseTax

end RetirementPlanner.Engine
