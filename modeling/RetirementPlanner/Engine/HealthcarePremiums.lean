import RetirementPlanner.Engine.Types
import Mathlib.Tactic
import RetirementPlanner.Lib.Numerals

/-!
# Income-tested healthcare premiums

`healthcare_premiums.rs`: the ACA premium tax credit before Medicare, and the
IRMAA surcharge after it. Both tests are cliffs, and the band `magiBandFor`
gives is what a year's income should stay under.
-/

namespace RetirementPlanner.Engine

variable {K : Type*} [Field K] [LinearOrder K]

def federalPovertyLevel (householdSize : ℕ) : K :=
  let people := (max householdSize 1 : ℕ)
  15650 + ((people : K) - 1) * 5500

structure ApplicablePercentageBand (K : Type*) where
  upperFplRatio : K
  startPercent : K
  endPercent : K

def applicablePercentageBands : List (ApplicablePercentageBand K) := [
  ⟨1.33, 0.0210, 0.0210⟩,
  ⟨1.5, 0.0314, 0.0419⟩,
  ⟨2.0, 0.0419, 0.0660⟩,
  ⟨2.5, 0.0660, 0.0844⟩,
  ⟨3.0, 0.0844, 0.0996⟩,
  ⟨4.0, 0.0996, 0.0996⟩]

def subsidyCliffFplRatio : K := 4

/-- The credit starts at the poverty level. -/
def subsidyFloorFplRatio : K := 1

/-- The loop of `expected_premium_contribution` over the bands. -/
def applicablePercent (fplRatio lowerRatio : K) : List (ApplicablePercentageBand K) → Option K
  | [] => none
  | band :: bands =>
    if fplRatio ≤ band.upperFplRatio then
      let span := band.upperFplRatio - lowerRatio
      let position := if 0 < span then min (max ((fplRatio - lowerRatio) / span) 0) 1 else 0
      some (band.startPercent + (band.endPercent - band.startPercent) * position)
    else applicablePercent fplRatio band.upperFplRatio bands

/-- What the household is expected to pay toward the benchmark plan, or `none`
when no credit reaches it: over the cliff, or under the floor. -/
def expectedPremiumContribution (magi : K) (householdSize : ℕ) : Option K :=
  let fplRatio := magi / federalPovertyLevel householdSize
  if subsidyFloorFplRatio ≤ fplRatio ∧ fplRatio ≤ subsidyCliffFplRatio then
    (applicablePercent fplRatio 0 applicablePercentageBands).map (max magi 0 * ·)
  else none

/-- IRMAA tiers for 2026: the bound (`none`: no bound) and the monthly surcharge
per enrolled person. A dollar over a bound owes the whole next tier. -/
def irmaaTiers2026 : List (Option K × K) := [
  (some 109000, 0), (some 137000, 95.70), (some 171000, 240.40), (some 205000, 385.00),
  (some 500000, 529.70), (none, 578.00)]

/-- Married filing separately has its own schedule: standard to the first bound,
then straight to the top two tiers. -/
def irmaaSeparateBounds : K × K := (109000, 391000)

def irmaaScale (filingStatus : FilingStatus) : K :=
  if filingStatus = .marriedFilingJointly then 2 else 1

/-- The most MAGI a household can report and still owe no surcharge. -/
def irmaaFreeMagiCeiling : FilingStatus → K
  | .marriedFilingSeparately => irmaaSeparateBounds.1
  | .marriedFilingJointly => 109000 * 2
  | _ => 109000

/-- The most MAGI a household can report without buying a tier above the one
`magi` already sits in, `none` in the top tier. -/
def irmaaCeilingAbove (magi : K) (filingStatus : FilingStatus) : Option K :=
  if filingStatus = .marriedFilingSeparately then
    [irmaaSeparateBounds.1, irmaaSeparateBounds.2].find? (magi ≤ ·)
  else
    (irmaaTiers2026.map fun tier => tier.1.map (· * irmaaScale filingStatus)).find?
      (fun bound => bound.all (magi ≤ ·)) |>.join

/-- How far short of a threshold the band aims. -/
def ceilingMargin : K := 1

/-- The MAGI range a year's own income should try to land in. -/
structure MagiBand (K : Type*) where
  floor : K
  ceiling : K
  deriving DecidableEq, Repr

/-- The band year `t`'s composition should aim for, or `none` when nothing will
read that year's MAGI and the plain withdrawal order stands. -/
def magiBandFor (age retirementAge : ℕ) (filingStatus : FilingStatus) (householdSize : ℕ)
    (committedMagi : K) (healthcare : RetirementHealthcare K) : Option (MagiBand K) :=
  let marketplaceApplies := age + 1 < medicareAge ∧ age + 1 ≥ retirementAge ∧
    0 < healthcare.preMedicarePremium
  let irmaaApplies := age + 2 ≥ medicareAge ∧ age + 2 ≥ retirementAge ∧
    0 < healthcare.medicarePremium
  let povertyLevel : K := federalPovertyLevel householdSize
  let cliff := subsidyCliffFplRatio * povertyLevel
  let marketplaceCeiling := if marketplaceApplies ∧ committedMagi ≤ cliff then some cliff else none
  let irmaaCeiling := if irmaaApplies then irmaaCeilingAbove committedMagi filingStatus else none
  let ceiling :=
    match marketplaceCeiling, irmaaCeiling with
    | some marketplace, some irmaa => some (min marketplace irmaa)
    | some only, none => some only
    | none, some only => some only
    | none, none => none
  ceiling.map fun ceiling =>
    { floor := if marketplaceCeiling.isSome then subsidyFloorFplRatio * povertyLevel else 0
      ceiling := max (ceiling - ceilingMargin) committedMagi }

def irmaaAnnualSurcharge (magi : K) (filingStatus : FilingStatus) (peopleOnMedicare : ℕ) : K :=
  let perPerson :=
    if filingStatus = .marriedFilingSeparately then
      if magi ≤ irmaaSeparateBounds.1 then 0
      else if magi < irmaaSeparateBounds.2 then 529.70
      else 578.00
    else
      ((irmaaTiers2026.find? fun tier =>
        tier.1.all fun bound => magi ≤ bound * irmaaScale filingStatus).map (·.2)).getD 578.00
  perPerson * 12 * peopleOnMedicare

end RetirementPlanner.Engine
