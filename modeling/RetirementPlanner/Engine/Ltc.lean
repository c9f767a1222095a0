import Mathlib.Tactic
import Mathlib.Analysis.SpecialFunctions.Log.Basic
import RetirementPlanner.Lib.Numerals

/-!
# Long-term care episodes

`ltc.rs`: one lifetime out-of-pocket total per path, drawn from the published
distribution by inverting it at one uniform.

The tail of the distribution takes a natural logarithm, which the platform
supplies. `NaturalLog` is a logarithm with the two facts the engine's results
use; over `ℝ` it is `Real.log` (`NaturalLog.real`).
-/

namespace RetirementPlanner.Engine

variable {K : Type*} [Field K] [LinearOrder K]

/-- A natural logarithm on the positive numbers. -/
structure NaturalLog (K : Type*) [Field K] [LinearOrder K] where
  ln : K → K
  ln_one : ln 1 = 0
  ln_mono : ∀ {x y : K}, 0 < x → x ≤ y → ln x ≤ ln y

noncomputable def NaturalLog.real : NaturalLog ℝ where
  ln := Real.log
  ln_one := Real.log_one
  ln_mono := Real.log_le_log

/-- A uniform draw from `[0, 1)`. -/
structure Uniform (K : Type*) [Field K] [LinearOrder K] where
  value : K
  nonneg : 0 ≤ value
  lt_one : value < 1

/-- The draw that is zero. -/
def Uniform.zero {K : Type*} [Field K] [LinearOrder K] [IsStrictOrderedRing K] : Uniform K :=
  ⟨0, le_rfl, one_pos⟩

/-- One path's lifetime long-term care episode: its cost in 2020 dollars and its
years of paid service. -/
structure LtcEpisode (K : Type*) where
  lifetimeCost2020 : K
  years : K
  deriving DecidableEq, Repr

/-- ASPE's income quintiles at 65, less the lowest. -/
inductive IncomeQuintile
  | second
  | middle
  | fourth
  | highest
  deriving DecidableEq, Repr

/-- Income at 65 as a multiple of the federal poverty level to the quintile whose
spending distribution the path draws from. -/
def quintileFor (incomeToFplRatio : K) : IncomeQuintile :=
  if incomeToFplRatio < 1.51 then .second
  else if incomeToFplRatio < 2.59 then .second
  else if incomeToFplRatio < 3.96 then .middle
  else if incomeToFplRatio < 6.33 then .fourth
  else .highest

/-- Table 9's closed spending buckets. -/
def spendingBuckets : List (ℚ × ℚ) := [
  (0, 10000), (10000, 25000), (25000, 50000), (50000, 75000), (75000, 100000), (100000, 150000),
  (150000, 200000), (200000, 250000)]

def spendingTailFloor : ℚ := 250000

/-- The open-ended top bucket needs a bound to keep a path finite. -/
def spendingCap : ℚ := 2000000

/-- Table 2's closed duration buckets. -/
def durationBuckets : List (ℚ × ℚ) := [(0, 1), (1, 2), (2, 5)]

def durationTailFloor : ℚ := 5
def durationCap : ℚ := 10

structure SpendingRow where
  publishedMean : ℚ
  noSpendingPercent : ℚ
  closedPercent : List ℚ
  topPercent : ℚ

/-- Table 9, in 2020 dollars. -/
def spendingRow : IncomeQuintile → SpendingRow
  | .second => ⟨34200, 67.1, [6.2, 4.5, 4.2, 4.4, 2.3, 3.8, 1.9, 1.2], 4.4⟩
  | .middle => ⟨43200, 65.3, [6.1, 4.8, 4.7, 3.5, 1.5, 3.9, 2.0, 1.9], 6.3⟩
  | .fourth => ⟨57900, 61.9, [6.2, 5.7, 4.4, 2.9, 2.5, 3.7, 2.8, 2.0], 7.9⟩
  | .highest => ⟨75400, 58.5, [5.6, 5.6, 4.7, 3.5, 3.3, 3.7, 3.1, 1.9], 10.3⟩

/-- Table 2's highest-quintile row, used for every quintile: the percentages of
the closed buckets and of the open one. -/
def durationRow : List ℚ × ℚ := ([22.9, 7.7, 10.1], 3.1)

structure SpendingModel where
  noSpendingProbability : ℚ
  /-- Conditional cumulative probability at the upper edge of each closed bucket. -/
  cumulative : List ℚ
  /-- Mean of the exponential excess above the tail floor. -/
  tailMeanExcess : ℚ
  deriving DecidableEq, Repr

/-- Conditional cumulative probabilities over the closed buckets, given that the
path has care at all. -/
def conditionalCumulative (closedPercent : List ℚ) (topPercent : ℚ) : List ℚ :=
  let hasCarePercent := closedPercent.sum + topPercent
  (closedPercent.inits.tail.map List.sum).map (· / hasCarePercent)

/-- Every row is divided by its own sum before anything is derived from it. -/
def buildSpendingModel (row : SpendingRow) : SpendingModel :=
  let rowSum := row.noSpendingPercent + row.closedPercent.sum + row.topPercent
  let closedContribution := (List.zipWith (fun percent (bucket : ℚ × ℚ) =>
    percent / rowSum * ((bucket.1 + bucket.2) / 2)) row.closedPercent spendingBuckets).sum
  let topProbability := row.topPercent / rowSum
  { noSpendingProbability := row.noSpendingPercent / rowSum
    cumulative := conditionalCumulative row.closedPercent row.topPercent
    tailMeanExcess :=
      (row.publishedMean - closedContribution) / topProbability - spendingTailFloor }

def spendingModel (quintile : IncomeQuintile) : SpendingModel :=
  buildSpendingModel (spendingRow quintile)

def durationCumulative : List ℚ := conditionalCumulative durationRow.1 durationRow.2

/-- The loop of `invert_closed_buckets`: the conditional CDF inverted within the
closed buckets, `none` in the open-ended tail. -/
def invertClosedBuckets (quantile : K) (lowerCumulative : ℚ) : List ℚ → List (ℚ × ℚ) → Option K
  | upperCumulative :: cumulative, (low, high) :: buckets =>
    if quantile < (upperCumulative : K) then
      let mass : K := ((upperCumulative - lowerCumulative : ℚ) : K)
      let position := if 0 < mass then (quantile - (lowerCumulative : K)) / mass else 0
      some ((low : K) + position * ((high - low : ℚ) : K))
    else invertClosedBuckets quantile upperCumulative cumulative buckets
  | _, _ => none

def tailPosition (quantile : K) (tailEntry : ℚ) : K :=
  min (max ((quantile - (tailEntry : K)) / ((1 - tailEntry : ℚ) : K)) 0) 1

def spendingFor (log : NaturalLog K) (model : SpendingModel) (quantile : K) : K :=
  match invertClosedBuckets quantile 0 model.cumulative spendingBuckets with
  | some dollars => dollars
  | none =>
    let position := tailPosition quantile (model.cumulative.getLastD 0)
    min ((spendingTailFloor : K) - (model.tailMeanExcess : K) * log.ln (1 - position))
      (spendingCap : K)

def yearsFor (quantile : K) : K :=
  match invertClosedBuckets quantile 0 durationCumulative durationBuckets with
  | some years => years
  | none =>
    let position := tailPosition quantile (durationCumulative.getLastD 0)
    (durationTailFloor : K) + position * ((durationCap - durationTailFloor : ℚ) : K)

/-- A path's episode from a single uniform, read against the spending and duration
distributions at the same quantile. -/
def drawEpisode (log : NaturalLog K) (quintile : IncomeQuintile) (u : Uniform K) :
    Option (LtcEpisode K) :=
  let model := spendingModel quintile
  if u.value < (model.noSpendingProbability : K) then none
  else
    let conditionalQuantile := min (max ((u.value - (model.noSpendingProbability : K))
      / ((1 - model.noSpendingProbability : ℚ) : K)) 0) 1
    some
      { lifetimeCost2020 := spendingFor log model conditionalQuantile
        years := yearsFor conditionalQuantile }

end RetirementPlanner.Engine
