import RetirementPlanner.Lib.Drain
import Mathlib.Algebra.Order.Field.Basic

/-!
# The rows of the cash-flow chart

`components/ui/charts/cash-flow-data.ts`: what the chart plots of each modeled year, both
cash-flow stacks in one row. A cost that the answer of an older engine does not have is `none`.
-/

namespace RetirementPlanner.Web

open Drain

variable {K : Type} [Field K] [LinearOrder K]

structure OutcomeCashFlowRow (K : Type) where
  age : K
  isRetired : Bool
  income : K
  spending : K
  taxes : K
  savings : K
  socialSecurityBenefit : K
  withdrawalTaxable : K
  withdrawalTraditional : K
  withdrawalRoth : K
  withdrawalHSA : K
  healthcareCost : Option K
  longTermCareCost : Option K
  deriving DecidableEq, Repr

structure CashFlowRow (K : Type) where
  age : K
  salary : K
  socialSecurity : K
  fromTraditional : K
  fromTaxable : K
  fromRoth : K
  fromHSA : K
  portfolio : K
  living : K
  healthcare : K
  longTermCare : K
  tax : K
  deriving DecidableEq, Repr

/-- The first modeled year, when the plan starts within it: its age, and the fraction of
the year that is left. -/
structure PartialYear (K : Type) where
  age : K
  fraction : K

omit [LinearOrder K] in
def annualize (row : OutcomeCashFlowRow K) (multiplier : K) : OutcomeCashFlowRow K :=
  { row with
    income := row.income * multiplier
    spending := row.spending * multiplier
    taxes := row.taxes * multiplier
    savings := row.savings * multiplier
    socialSecurityBenefit := row.socialSecurityBenefit * multiplier
    withdrawalTaxable := row.withdrawalTaxable * multiplier
    withdrawalTraditional := row.withdrawalTraditional * multiplier
    withdrawalRoth := row.withdrawalRoth * multiplier
    withdrawalHSA := row.withdrawalHSA * multiplier
    healthcareCost := row.healthcareCost.map (· * multiplier)
    longTermCareCost := row.longTermCareCost.map (· * multiplier) }

/-! ## Withdrawals -/

inductive DrawnKey
  | fromTraditional
  | fromTaxable
  | fromRoth
  | fromHSA
  deriving DecidableEq, Repr

/-- `Object.keys(drawn)`, in the order of the literal. -/
def drawnKeys : List DrawnKey := [.fromTraditional, .fromTaxable, .fromRoth, .fromHSA]

omit [Field K] [LinearOrder K] in
def OutcomeCashFlowRow.drawn (row : OutcomeCashFlowRow K) : DrawnKey → K
  | .fromTraditional => row.withdrawalTraditional
  | .fromTaxable => row.withdrawalTaxable
  | .fromRoth => row.withdrawalRoth
  | .fromHSA => row.withdrawalHSA

/-- What each account gave that was not paid straight back, and the sum of it.
Draining Traditional first is where a required distribution comes from. -/
def netWithdrawals (row : OutcomeCashFlowRow K) : (DrawnKey → K) × K :=
  let gross := (drawnKeys.map row.drawn).sum
  let reinvested := max 0 (gross - max 0 (-row.savings))
  let drawn := drain row.drawn reinvested drawnKeys
  (drawn, (drawnKeys.map drawn).sum)

/-! ## Rows -/

/-- What a row is scaled by: the partial year to a whole one, any other not at all. -/
def multiplierOf (partialYear : Option (PartialYear K)) (projection : OutcomeCashFlowRow K) : K :=
  partialYear.elim 1 fun partialYear =>
    if partialYear.age = projection.age ∧ 0 < partialYear.fraction ∧ partialYear.fraction ≤ 1
    then 1 / partialYear.fraction
    else 1

/-- A row on an annual footing. -/
def annualizedRow (partialYear : Option (PartialYear K)) (projection : OutcomeCashFlowRow K) :
    OutcomeCashFlowRow K :=
  let multiplier := multiplierOf partialYear projection
  if multiplier = 1 then projection else annualize projection multiplier

/-- What is plotted of a row on an annual footing, holding both cash-flow stacks. -/
def plottedRow (row : OutcomeCashFlowRow K) : CashFlowRow K :=
  let (drawn, portfolio) := netWithdrawals row
  let salary := if row.isRetired then 0 else row.income
  -- The proportions of the care costs are kept if they exceed what was spent.
  let reportedHealthcare := max 0 (row.healthcareCost.getD 0)
  let reportedLongTermCare := max 0 (row.longTermCareCost.getD 0)
  let reportedCare := reportedHealthcare + reportedLongTermCare
  let fundedCare := min reportedCare (max 0 row.spending)
  let fundedShare := if 0 < reportedCare then fundedCare / reportedCare else 0
  let healthcare := reportedHealthcare * fundedShare
  let longTermCare := reportedLongTermCare * fundedShare
  { age := row.age
    salary
    socialSecurity := row.socialSecurityBenefit
    fromTraditional := drawn .fromTraditional
    fromTaxable := drawn .fromTaxable
    fromRoth := drawn .fromRoth
    fromHSA := drawn .fromHSA
    portfolio
    living := row.spending - healthcare - longTermCare
    healthcare
    longTermCare
    tax := row.taxes }

/-- One plotted row per modeled year. -/
def toCashFlowRows (projections : List (OutcomeCashFlowRow K))
    (partialYear : Option (PartialYear K)) : List (CashFlowRow K) :=
  projections.map fun projection => plottedRow (annualizedRow partialYear projection)

end RetirementPlanner.Web
