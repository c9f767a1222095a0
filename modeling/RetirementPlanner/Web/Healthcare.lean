import RetirementPlanner.Engine.HealthcarePremiums
import RetirementPlanner.Web.Schemas

/-!
# The premium preview

`estimatedFirstRetirementYearMagi` of `domain/healthcare.ts`, the income the profile
page prices a first retirement year's premium on, with what it reads of
`data/healthcare-premiums.ts`. The tables there are a copy of the engine's.
-/

namespace RetirementPlanner.Web

open Engine (AccountType FilingStatus medicareAge)

variable {K : Type} [Field K] [LinearOrder K]

def federalPovertyLevel (householdSize : ℕ) : K :=
  let people := max 1 householdSize
  15650 + ((people : K) - 1) * 5500

def subsidyCliffFplRatio : K := 4

/-- The upper bound of the first IRMAA tier. -/
def irmaaFirstTier : K := 109000

/-- The most MAGI a household can report and still owe no surcharge. -/
def irmaaFreeMagiCeiling (filingStatus : FilingStatus) : K :=
  if filingStatus = .marriedFilingSeparately then 109000
  else if filingStatus = .marriedFilingJointly then irmaaFirstTier * 2
  else irmaaFirstTier

/-- How far short of a threshold the estimate aims. -/
def ceilingMargin : K := 1

/-- What the accounts of one type hold. -/
def balanceOf (accounts : List (Account K)) (accountType : AccountType) : K :=
  ((accounts.filter (·.accountType = accountType)).map (·.balance)).sum

/-- The threshold a first retirement year aims under: below 64 next year's subsidy
cliff, from 64 on the IRMAA threshold. -/
def previewThreshold (age : ℕ) (filingStatus : FilingStatus) : K :=
  if age + 1 < medicareAge then federalPovertyLevel 1 * subsidyCliffFplRatio
  else irmaaFreeMagiCeiling filingStatus

/-- What a household would report to the marketplace for its first retirement year.
`plannedSpending` is everything the year has to fund except the premium itself; a
headroom of `none` is the source's `Infinity`. -/
def estimatedFirstRetirementYearMagi (age : ℕ) (filingStatus : FilingStatus)
    (plannedSpending socialSecurityBenefit : K) (accounts : List (Account K))
    (taxableGainRatio : K) (magiAware : Bool) : K :=
  let remaining := max 0 (plannedSpending - socialSecurityBenefit)
  let taxable := min remaining (balanceOf accounts .taxable)
  let remaining := remaining - taxable
  let gain := taxable * taxableGainRatio
  let ceiling := previewThreshold age filingStatus
  let headroom :=
    if magiAware then some (max 0 (ceiling - ceilingMargin - gain - socialSecurityBenefit))
    else none
  let traditional :=
    headroom.elim (min remaining (balanceOf accounts .traditional))
      (min (min remaining (balanceOf accounts .traditional)))
  socialSecurityBenefit + gain + traditional

end RetirementPlanner.Web
