import Mathlib.Data.List.Sort
import RetirementPlanner.Web.Plan

/-!
# Levers

`domain/levers.ts`: the levers the Plan page exposes, and for each the range its slider,
its curve and its sweep share. A lever's value is a number whatever it stands for: an age,
an amount, or a position in `conversionSteps`.

The two loops of `multiplesWithin` are given the rounds they can need.
-/

namespace RetirementPlanner.Web

open Engine (RothConversionPolicy)

variable {K : Type} [Field K] [LinearOrder K]

/-! ## Conversion steps -/

/-- Conversion ceilings in the order of how much they actually convert. Index 0 converts
nothing. -/
def conversionSteps : List RothConversionPolicy :=
  [⟨false, .bracket24⟩, ⟨true, .bracket12⟩, ⟨true, .irmaaTier⟩, ⟨true, .bracket22⟩,
    ⟨true, .bracket24⟩, ⟨true, .bracket32⟩]

omit [Field K] [LinearOrder K] in
/-- Where a plan's policy sits on the slider. Anything unrecognized reads as off. -/
def conversionStepOf (plan : RetirementPlan K) : ℕ :=
  let policy := plan.assumptions.rothConversion
  if ¬policy.enabled then 0
  else (conversionSteps.findIdx? fun step =>
    step.enabled && decide (step.ceiling = policy.ceiling)).getD 0

/-! ## Specifications -/

inductive LeverKey
  | retirementAge
  | spending
  | socialSecurityClaimAge
  | rothConversion
  deriving DecidableEq, Repr

structure LeverRange (K : Type) where
  min : K
  max : K
  step : K
  ticks : List K
  sweepValues : List K

structure LeverSpec (K : Type) where
  /-- The standard band, before the range grows to contain a plan value outside it. -/
  base : RetirementPlan K → K × K
  step : K
  tickStep : K
  sweepStep : K
  maxTicks : ℕ
  maxSweepValues : ℕ
  value : RetirementPlan K → K
  /-- Whether the selected value is also part of the plotted line. -/
  includeCurrentInSweep : Bool
  /-- Hard limits the range may never grow past, however extreme the plan value. -/
  bounds : RetirementPlan K → K × K

variable [FloorRing K]

def minSpendingBand : K := 20000

def roundUpToTick (value tick : K) : K := (⌈value / tick⌉ : K) * tick

/-- `Math.round` -/
def mathRound (x : K) : K := (⌊x + 1 / 2⌋ : K)

/-- The spending comparison window: roughly one quarter to all of gross salary, in bands
that spending itself only counts. -/
def spendingAxisRange (plan : RetirementPlan K) : K × K :=
  let salary := max plan.profile.currentSalary minSpendingBand
  let bottom := max minSpendingBand (mathRound (salary * 0.25 / 20000) * 20000)
  let bandTop := max (bottom + minSpendingBand) (roundUpToTick salary 20000)
  let top := bandTop * max 1 (⌈plan.profile.currentSpending / bandTop⌉ : K)
  (bottom, top)

def specs : LeverKey → LeverSpec K
  | .retirementAge =>
    { base := fun _ => ((minRetirementAge : K), 70)
      step := 1
      tickStep := 5
      sweepStep := 5
      maxTicks := 8
      maxSweepValues := 8
      value := fun plan => (plan.profile.retirementAge : K)
      includeCurrentInSweep := true
      -- Retiring at or past the modeled lifetime leaves no projection to run.
      bounds := fun plan =>
        ((minRetirementAge : K), min 100 ((plan.profile.lifeExpectancy : K) - 1)) }
  | .spending =>
    { base := spendingAxisRange
      step := 1000
      tickStep := 20000
      sweepStep := 10000
      maxTicks := 7
      maxSweepValues := 14
      value := fun plan => plan.profile.currentSpending
      includeCurrentInSweep := false
      bounds := fun _ => (0, maxPlanDollars) }
  | .rothConversion =>
    { base := fun _ => (0, (conversionSteps.length : K) - 1)
      step := 1
      tickStep := 1
      sweepStep := 1
      maxTicks := conversionSteps.length
      maxSweepValues := conversionSteps.length
      value := fun plan => (conversionStepOf plan : K)
      includeCurrentInSweep := true
      bounds := fun _ => (0, (conversionSteps.length : K) - 1) }
  | .socialSecurityClaimAge =>
    { base := fun _ => (62, 70)
      step := 1
      tickStep := 2
      sweepStep := 2
      maxTicks := 8
      maxSweepValues := 7
      value := fun plan => (plan.socialSecurity.claimAge : K)
      includeCurrentInSweep := true
      bounds := fun _ => (62, 70) }

/-! ## Ranges -/

omit [FloorRing K] in
/-- The spacing, doubled until the range holds few enough multiples. -/
def widen (width : K) (maxCount : ℕ) : (rounds : ℕ) → (spacing : K) → K
  | 0, spacing => spacing
  | rounds + 1, spacing =>
    if (maxCount : K) < width / spacing + 1 then widen width maxCount rounds (spacing * 2)
    else spacing

omit [FloorRing K] in
/-- The values from `v` up to `max`, a spacing apart. -/
def valuesUpTo (max spacing : K) : (rounds : ℕ) → (v : K) → List K
  | 0, _ => []
  | rounds + 1, v =>
    if v ≤ max then v :: valuesUpTo max spacing rounds (v + spacing) else []

def multiplesWithin (min max step : K) (maxCount : ℕ) : List K :=
  let spacing := widen (max - min) maxCount ⌈(max - min) / step⌉.toNat step
  valuesUpTo max spacing maxCount ((⌈min / spacing⌉ : K) * spacing)

def leverRange (key : LeverKey) (plan : RetirementPlan K) : LeverRange K :=
  let spec := specs key
  let (lowBound, highBound) := spec.bounds plan
  let (baseLow, baseHigh) := spec.base plan
  let current := spec.value plan
  -- A plan value outside the standard band still needs to remain reachable.
  let low := max lowBound (min baseLow ((⌊current / spec.tickStep⌋ : K) * spec.tickStep))
  let high := max low
    (min highBound (max baseHigh ((⌈current / spec.tickStep⌉ : K) * spec.tickStep)))
  let sweepValues := multiplesWithin low high spec.sweepStep spec.maxSweepValues
  let sweepValues :=
    if spec.includeCurrentInSweep ∧ low ≤ current ∧ current ≤ high then sweepValues ++ [current]
    else sweepValues
  { min := low
    max := high
    step := spec.step
    ticks := multiplesWithin low high spec.tickStep spec.maxTicks
    sweepValues := sweepValues.dedup.insertionSort (· ≤ ·) }

/-! ## The handle of the spending slider -/

/-- What the slider writes when the handle lands at `fraction` along its track. -/
def drag (plan : RetirementPlan K) (fraction : K) : K :=
  let range := leverRange .spending plan
  mathRound ((range.min + fraction * (range.max - range.min)) / range.step) * range.step

/-- The plan that landing leaves. -/
def dragged (fraction : K) (plan : RetirementPlan K) : RetirementPlan K :=
  { plan with profile := { plan.profile with currentSpending := drag plan fraction } }

end RetirementPlanner.Web
