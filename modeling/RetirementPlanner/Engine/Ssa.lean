import Mathlib.Tactic
import RetirementPlanner.Lib.Numerals

/-!
# Social Security benefits

`ssa.rs`: average indexed monthly earnings, the primary insurance amount and
the claim-age adjustment.
-/

namespace RetirementPlanner.Engine

variable {K : Type*} [Field K] [LinearOrder K] [FloorRing K]

structure SSABendPoint (K : Type*) where
  threshold : Option K
  rate : K

/-- 2025 estimated bend points. -/
def bendPoints : List (SSABendPoint K) := [⟨some 1226, 0.90⟩, ⟨some 7391, 0.32⟩, ⟨none, 0.15⟩]

def maxTaxableWage : K := 176100

/-- Average monthly earnings from the highest 35 annual values. Missing years in
a shorter history remain zero because the divisor is always 420 months. -/
def calculateAime (salaryHistory : List K) : K :=
  let sortedSalaries := salaryHistory.mergeSort (fun a b => decide (b ≤ a))
  let top35Years := sortedSalaries.take (min 35 salaryHistory.length)
  let totalEarnings := (top35Years.map fun salary => min (max salary 0) maxTaxableWage).sum
  (⌊totalEarnings / 420⌋ : ℤ)

/-- The loop of `calculate_pia` over the bend points. -/
def piaLoop (pia remainingAime previousThreshold : K) : List (SSABendPoint K) → K
  | [] => pia
  | bendPoint :: rest =>
    let applicableAmount :=
      match bendPoint.threshold with
      | some currentThreshold => min remainingAime (currentThreshold - previousThreshold)
      | none => remainingAime
    let taken := 0 < applicableAmount
    let pia' := if taken then pia + applicableAmount * bendPoint.rate else pia
    let remaining' := if taken then remainingAime - applicableAmount else remainingAime
    if remaining' ≤ 0 then pia'
    else
      match bendPoint.threshold with
      | some currentThreshold => piaLoop pia' remaining' currentThreshold rest
      -- Past the open bend point nothing of a positive amount is left.
      | none => pia'

/-- The monthly primary insurance amount from AIME and bend points. -/
def calculatePia (aime : K) (points : List (SSABendPoint K)) : K :=
  (⌊piaLoop 0 aime 0 points * 10⌋ : ℤ) / 10

/-- Full retirement age in months for a birth-year cohort. -/
def getFullRetirementAgeMonths (birthYear : ℤ) : ℤ :=
  if birthYear ≤ 1937 then 65 * 12
  else if birthYear ≤ 1942 then 65 * 12 + (birthYear - 1937) * 2
  else if birthYear ≤ 1954 then 66 * 12
  else if birthYear ≤ 1959 then 66 * 12 + (birthYear - 1954) * 2
  else 67 * 12

def delayedRetirementCreditPerMonth (birthYear : ℤ) : K :=
  if birthYear ≤ 1934 then 11 / 2400
  else if birthYear ≤ 1936 then 1 / 200
  else if birthYear ≤ 1938 then 13 / 2400
  else if birthYear ≤ 1940 then 7 / 1200
  else if birthYear ≤ 1942 then 1 / 160
  else 1 / 150

/-- The PIA multiplier for claiming at an integer age from 62 through 70. -/
def getClaimAgeAdjustment (claimAge : ℕ) (birthYear : ℤ) : K :=
  let claimMonths : ℤ := min (max claimAge 62) 70 * 12
  let fullRetirementAgeMonths := getFullRetirementAgeMonths birthYear
  if claimMonths < fullRetirementAgeMonths then
    let monthsEarly := fullRetirementAgeMonths - claimMonths
    let first36Months := min monthsEarly 36
    let additionalMonths := max (monthsEarly - 36) 0
    1 - (first36Months : K) / 180 - (additionalMonths : K) / 240
  else
    let monthsDelayed := min claimMonths (70 * 12) - fullRetirementAgeMonths
    1 + (monthsDelayed : K) * delayedRetirementCreditPerMonth birthYear

/-- An annual benefit from earnings history and claiming age. -/
def calculateSsaBenefit (salaryHistory : List K) (claimAge : ℕ) (birthYear : ℤ) : K :=
  let aime := calculateAime salaryHistory
  let pia := calculatePia aime bendPoints
  let claimAdjustment := getClaimAgeAdjustment claimAge birthYear
  pia * claimAdjustment * 12

/-- Annual earnings from career start through the year before retirement. -/
def estimateSalaryHistory (currentSalary salaryGrowthRate : K) (currentAge retirementAge : ℕ) :
    List K :=
  let careerStartAge := min 22 currentAge
  (List.range' careerStartAge (retirementAge - careerStartAge)).map fun age =>
    let yearsFromCurrentAge : ℤ := age - currentAge
    currentSalary * (1 + salaryGrowthRate) ^ yearsFromCurrentAge

end RetirementPlanner.Engine
