import Mathlib.Algebra.Order.Floor.Ring
import RetirementPlanner.Engine.Tax
import RetirementPlanner.Engine.HealthcarePremiums
import RetirementPlanner.Lib.Numerals

/-!
# The withdrawal order and the retirement solve

The part of `projection.rs` that takes money out of the buckets: the shared
withdrawal order, the Roth basis ledger, and the search for the voluntary budget
that funds a retirement year. A candidate is evaluated on shadow balances beside
the accounts and committed by `finishOrderedWithdrawals`.

Loops over accounts recurse on the accounts and the shadow balances together. A
`break` out of a counted loop is a step that changes nothing any more; the
doubling loop of the search runs on fuel, which `Proof/Solver` shows it never
uses up.
-/

namespace RetirementPlanner.Engine

variable {K : Type*} [Field K] [LinearOrder K]

/-! ## Constants -/

/-- Cash tolerance, in dollars, below which a shortfall is considered funded. -/
def shortfallTolerance : K := 1

def earlyTraditionalPenaltyRate : K := 0.10

/-- The early-withdrawal penalty is charged through 59 and dropped at 60. -/
def traditionalPenaltyAge : ℕ := 60

/-- An HSA distribution that is not for medical care, taken before 65. -/
def nonQualifiedHsaPenaltyRate : K := 0.20

/-! ## The Roth basis ledger -/

structure RothConversionLot (K : Type*) where
  conversionYear : ℤ
  remainingPrincipal : K
  deriving DecidableEq, Repr

structure RothBasisState (K : Type*) where
  /-- False when conversions are off or the household cannot owe this penalty. -/
  enabled : Bool
  /-- Existing Roth money and direct contributions, which are penalty-free. -/
  regularPrincipal : K
  /-- Conversion principal, consumed oldest-first. -/
  conversionLots : List (RothConversionLot K)
  /-- Sum of the still-unseasoned lots. -/
  unseasonedPrincipal : K
  deriving DecidableEq, Repr

/-- Money taken out of a retirement wrapper too early owes a penalty on top of
ordinary income tax. -/
def penaltiesOn (traditionalWithdrawal nonQualifiedHsaWithdrawal rothConversionPenalty : K)
    (age : ℕ) : K :=
  let traditionalPenalty :=
    if age < traditionalPenaltyAge then traditionalWithdrawal * earlyTraditionalPenaltyRate else 0
  let hsaPenalty :=
    if age < medicareAge then nonQualifiedHsaWithdrawal * nonQualifiedHsaPenaltyRate else 0
  traditionalPenalty + hsaPenalty + rothConversionPenalty

/-- The penalty on conversion principal withdrawn inside its five-tax-year
window, once the regular principal is used up. -/
def rothConversionPenaltyFor (withdrawal : K) (state : RothBasisState K) (age : ℕ) : K :=
  if state.enabled = false ∨ withdrawal ≤ 0 ∨ traditionalPenaltyAge ≤ age then 0
  else
    let conversionPrincipal :=
      min (max (withdrawal - state.regularPrincipal) 0) state.unseasonedPrincipal
    conversionPrincipal * earlyTraditionalPenaltyRate

/-- Move five-year-old conversion principal into the penalty-free basis pool. -/
def seasonRothConversions (state : RothBasisState K) (taxYear : ℤ) : RothBasisState K :=
  let seasoned := state.conversionLots.takeWhile fun lot => lot.conversionYear + 5 ≤ taxYear
  if seasoned.length = 0 then state
  else
    let seasonedPrincipal := (seasoned.map (·.remainingPrincipal)).sum
    { state with
      unseasonedPrincipal := max (state.unseasonedPrincipal - seasonedPrincipal) 0
      regularPrincipal := state.regularPrincipal + seasonedPrincipal
      conversionLots := state.conversionLots.drop seasoned.length }

/-- The lot loop of `consume_roth_basis`. -/
def consumeLots (remaining : K) : List (RothConversionLot K) → List (RothConversionLot K)
  | [] => []
  | lot :: lots =>
    if remaining ≤ 0 then lot :: lots
    else
      let used := min remaining lot.remainingPrincipal
      { lot with remainingPrincipal := lot.remainingPrincipal - used }
        :: consumeLots (remaining - used) lots

/-- Commit the selected withdrawal to the basis ledger. -/
def consumeRothBasis (withdrawal : K) (state : RothBasisState K) : RothBasisState K :=
  if state.enabled = false ∨ withdrawal ≤ 0 then state
  else
    let regularUsed := min withdrawal state.regularPrincipal
    let remaining := withdrawal - regularUsed
    let conversionPrincipalUsed := min remaining state.unseasonedPrincipal
    { state with
      regularPrincipal := state.regularPrincipal - regularUsed
      unseasonedPrincipal := max (state.unseasonedPrincipal - conversionPrincipalUsed) 0
      conversionLots := consumeLots remaining state.conversionLots }

/-! ## Drawing from the buckets -/

structure OrderedWithdrawal (K : Type*) where
  taxable : K
  traditional : K
  roth : K
  hsa : K
  total : K
  /-- The share of the taxable draw that is realized gain. -/
  taxableGain : K
  deriving DecidableEq, Repr

/-- What the withdrawal order needs to keep a year's MAGI inside the band the
household's later premiums are tested against. -/
structure MagiTarget (K : Type*) where
  healthcare : RetirementHealthcare K
  retirementAge : ℕ
  filingStatus : FilingStatus
  householdSize : ℕ
  /-- Income the year reports whatever the order does. -/
  committedMagi : K

/-- What one pass over the accounts takes: the balances it leaves, the dollars it
drew, and the gain among them. -/
structure Draw (K : Type*) where
  balances : List K
  drawn : K
  gain : K
  deriving DecidableEq, Repr

/-- Take up to `remaining` from the accounts of one type, in list order. A
surplus-cash bucket was never invested and realizes no gain. -/
def drawLoop (accountType : AccountType) (gainRatio remaining : K) :
    List (Account K) → List K → Draw K
  | account :: accounts, balance :: balances =>
    if remaining ≤ 0 then ⟨balance :: balances, 0, 0⟩
    else if account.accountType ≠ accountType ∨ balance ≤ 0 then
      let rest := drawLoop accountType gainRatio remaining accounts balances
      { rest with balances := balance :: rest.balances }
    else
      let withdrawal := min remaining balance
      let rest := drawLoop accountType gainRatio (remaining - withdrawal) accounts balances
      { balances := (balance - withdrawal) :: rest.balances
        drawn := withdrawal + rest.drawn
        gain := (if account.isSurplusCash then 0 else withdrawal * gainRatio) + rest.gain }
  | _, balances => ⟨balances, 0, 0⟩

/-- Take up to `limit` from one bucket type, writing through to the shadow
balances. -/
def drawBucketBalances (accounts : List (Account K)) (balances : List K)
    (accountType : AccountType) (limit : K) : List K × K :=
  let d := drawLoop accountType 0 (max limit 0) accounts balances
  (d.balances, d.drawn)

/-- Room left for ordinary income under the MAGI ceiling, `none` without one. -/
def traditionalHeadroom (age : ℕ) (taxableGainRatio taxable : K)
    (magiTarget : Option (MagiTarget K)) : Option K :=
  magiTarget.bind fun target =>
    let committed := target.committedMagi + taxable * taxableGainRatio
    (magiBandFor age target.retirementAge target.filingStatus target.householdSize committed
      target.healthcare).map fun band => max (band.ceiling - committed) 0

/-- The withdrawal order: Taxable, then Traditional as far as the MAGI band
allows, then Roth, then whatever Traditional the band could not hold, and HSA
last. -/
def applyWithdrawalOrder (accounts : List (Account K)) (balances : List K) (amount : K) (age : ℕ)
    (taxableGainRatio : K) (magiTarget : Option (MagiTarget K)) : OrderedWithdrawal K × List K :=
  let remaining := max amount 0
  let taxable := drawLoop .taxable taxableGainRatio remaining accounts balances
  let remaining := remaining - taxable.drawn
  let limit := (traditionalHeadroom age taxableGainRatio taxable.drawn magiTarget).elim remaining
    (min remaining ·)
  let (balances, capped) := drawBucketBalances accounts taxable.balances .traditional limit
  let remaining := remaining - capped
  let (balances, roth) := drawBucketBalances accounts balances .roth remaining
  let remaining := remaining - roth
  let (balances, overTheCeiling) := drawBucketBalances accounts balances .traditional remaining
  let remaining := remaining - overTheCeiling
  let (balances, hsa) := drawBucketBalances accounts balances .hsa remaining
  let traditional := capped + overTheCeiling
  ({ taxable := taxable.drawn
     traditional
     roth
     hsa
     total := taxable.drawn + traditional + roth + hsa
     taxableGain := taxable.gain }, balances)

/-- Write shadow balances back to the accounts. -/
def writeBalances : List (Account K) → List K → List (Account K)
  | account :: accounts, balance :: balances =>
    { account with balance } :: writeBalances accounts balances
  | accounts, _ => accounts

/-- Drain buckets in the withdrawal order until `amount` is raised or nothing is
left, committing the result to the accounts themselves. -/
def withdrawInOrder (accounts : List (Account K)) (amount : K) (age : ℕ) (taxableGainRatio : K)
    (magiTarget : Option (MagiTarget K)) : OrderedWithdrawal K × List (Account K) :=
  let (drawn, balances) := applyWithdrawalOrder accounts (accounts.map (·.balance)) amount age
    taxableGainRatio magiTarget
  (drawn, writeBalances accounts balances)

/-! ## Buckets -/

def bucketOrder : List AccountType := [.taxable, .traditional, .roth, .hsa]

/-- Collapse accounts into one bucket per type. Weights blend by balance; an empty
bucket keeps the plain average. -/
def toBuckets (accounts : List (Account K)) : List (Account K) :=
  bucketOrder.filterMap fun accountType =>
    let members := accounts.filter (·.accountType = accountType)
    if members = [] then none
    else
      let balance := (members.map (·.balance)).sum
      let stocks :=
        if 0 < balance then (members.map fun a => a.balance * a.assetWeights.stocks).sum / balance
        else (members.map (·.assetWeights.stocks)).sum / members.length
      some
        { accountType
          balance
          assetWeights := ⟨stocks, 1 - stocks⟩
          isSurplusCash := false }

def totalBalance (accounts : List (Account K)) : K := (accounts.map (·.balance)).sum

def balanceOfBucket (accounts : List (Account K)) (accountType : AccountType) : K :=
  ((accounts.filter (·.accountType = accountType)).map (·.balance)).sum

/-- Set the balance of the first account of a type. -/
def setBucketBalance (accountType : AccountType) (balance : K) : List (Account K) → List (Account K)
  | [] => []
  | account :: accounts =>
    if account.accountType = accountType then { account with balance } :: accounts
    else account :: setBucketBalance accountType balance accounts

/-- Take `amount` from one bucket, or whatever of it that bucket holds. -/
def drawFromBucket (accounts : List (Account K)) (accountType : AccountType) (amount : K) :
    List (Account K) × K :=
  if amount ≤ 0 then (accounts, 0)
  else
    match accounts.find? (·.accountType = accountType) with
    | some bucket =>
      let drawn := min amount bucket.balance
      (setBucketBalance accountType (bucket.balance - drawn) accounts, drawn)
    | none => (accounts, 0)

/-- Deposit into a type's bucket, opening it when the household holds no account
of that kind. A new bucket inherits the portfolio's blend; with nothing to blend
it stays in cash. The amount deposited comes back for the cash-flow row. -/
def depositToBucket (accounts : List (Account K)) (accountType : AccountType) (amount : K) :
    List (Account K) × K :=
  if amount ≤ 0 then (accounts, 0)
  else
    match accounts.find? (·.accountType = accountType) with
    | some bucket => (setBucketBalance accountType (bucket.balance + amount) accounts, amount)
    | none =>
      let total := totalBalance accounts
      let stocks :=
        if 0 < total then (accounts.map fun a => a.balance * a.assetWeights.stocks).sum / total
        else 0
      (accounts ++ [
        { accountType
          balance := amount
          assetWeights := ⟨stocks, if 0 < total then 1 - stocks else 0⟩
          isSurplusCash := total = 0 }], amount)

/-! ## The retirement solve -/

structure WithdrawalResult (K : Type*) where
  withdrawalTaxable : K
  withdrawalTraditional : K
  withdrawalRoth : K
  withdrawalHsa : K
  totalWithdrawn : K
  totalTaxes : K
  insufficientFunds : Bool
  depositTaxable : K
  hsaQualifiedUsed : K
  deriving DecidableEq, Repr

structure WithdrawalEvaluation (K : Type*) where
  balances : List K
  withdrawalTaxable : K
  withdrawalTraditional : K
  withdrawalRoth : K
  withdrawalHsa : K
  totalWithdrawn : K
  totalTaxes : K
  cashAvailableAfterTax : K
  hsaQualifiedUsed : K
  deriving DecidableEq, Repr

structure WithdrawalContext (K : Type*) where
  household : Household
  state : State
  taxYear : ℤ
  age : ℕ
  socialSecurityBenefit : K
  rmdAmount : K
  taxableGainRatio : K
  hsaQualifiedAllowance : K
  /-- Absent when the setting is off. -/
  magiTarget : Option (MagiTarget K)

/-- What a voluntary budget raises: the forced distribution first, then the
withdrawal order, then the year's tax and penalties on both. -/
def evaluateOrderedWithdrawals (accounts : List (Account K)) (rothBasis : RothBasisState K)
    (voluntaryBudget : K) (context : WithdrawalContext K) : WithdrawalEvaluation K :=
  let (balances, forced) :=
    drawBucketBalances accounts (accounts.map (·.balance)) .traditional context.rmdAmount
  let (voluntary, balances) := applyWithdrawalOrder accounts balances voluntaryBudget context.age
    context.taxableGainRatio (context.magiTarget.map fun target =>
      { target with committedMagi := context.socialSecurityBenefit + forced })
  let withdrawalTraditional := forced + voluntary.traditional
  let rothConversionPenalty :=
    if rothBasis.enabled ∧ 0 < voluntary.roth then
      rothConversionPenaltyFor voluntary.roth rothBasis context.age
    else 0
  let hsaQualifiedUsed := min voluntary.hsa context.hsaQualifiedAllowance
  let nonQualifiedHsa := voluntary.hsa - hsaQualifiedUsed
  let tax := (calculateRetirementTax (withdrawalTraditional + nonQualifiedHsa)
    context.socialSecurityBenefit voluntary.taxableGain context.household context.state
    context.taxYear).totalTax
  let penalties := penaltiesOn withdrawalTraditional nonQualifiedHsa rothConversionPenalty
    context.age
  let totalTaxes := tax + penalties
  let totalWithdrawn := voluntary.taxable + withdrawalTraditional + voluntary.roth + voluntary.hsa
  { balances
    withdrawalTaxable := voluntary.taxable
    withdrawalTraditional
    withdrawalRoth := voluntary.roth
    withdrawalHsa := voluntary.hsa
    totalWithdrawn
    totalTaxes
    cashAvailableAfterTax := context.socialSecurityBenefit + totalWithdrawn - totalTaxes
    hsaQualifiedUsed }

/-- What a committed year leaves behind. -/
structure Committed (K : Type*) where
  accounts : List (Account K)
  rothBasis : RothBasisState K
  result : WithdrawalResult K

def finishOrderedWithdrawals (accounts : List (Account K)) (rothBasis : RothBasisState K)
    (evaluation : WithdrawalEvaluation K) (targetSpending tolerance : K) : Committed K :=
  let difference := evaluation.cashAvailableAfterTax - targetSpending
  { accounts := writeBalances accounts evaluation.balances
    rothBasis :=
      if rothBasis.enabled ∧ 0 < evaluation.withdrawalRoth then
        let consumed := consumeRothBasis evaluation.withdrawalRoth rothBasis
        { consumed with
          conversionLots := consumed.conversionLots.filter fun lot => 0 < lot.remainingPrincipal }
      else rothBasis
    result :=
      { withdrawalTaxable := evaluation.withdrawalTaxable
        withdrawalTraditional := evaluation.withdrawalTraditional
        withdrawalRoth := evaluation.withdrawalRoth
        withdrawalHsa := evaluation.withdrawalHsa
        totalWithdrawn := evaluation.totalWithdrawn
        totalTaxes := evaluation.totalTaxes
        insufficientFunds := difference < -tolerance
        depositTaxable := if tolerance < difference then difference else 0
        hsaQualifiedUsed := evaluation.hsaQualifiedUsed } }

/-- The bracket of the budget search and the candidate evaluated at its top. -/
structure BudgetBracket (K : Type*) where
  low : K
  high : K
  best : WithdrawalEvaluation K

/-- The bracketing `while`: the top of the bracket doubles until it funds the
target or is the whole budget. -/
def bracketLoop (evaluate : K → WithdrawalEvaluation K) (targetSpending maxVoluntaryBudget : K) :
    ℕ → BudgetBracket K → BudgetBracket K
  | 0, b => b
  | fuel + 1, b =>
    if b.best.cashAvailableAfterTax + 1 < targetSpending ∧ b.high < maxVoluntaryBudget then
      let high := min maxVoluntaryBudget (b.high * 2)
      bracketLoop evaluate targetSpending maxVoluntaryBudget fuel ⟨b.high, high, evaluate high⟩
    else b

def bisectionPasses : ℕ := 48

/-- One pass of the bisection; a candidate within the tolerance has left the loop. -/
def bisectStep (evaluate : K → WithdrawalEvaluation K) (targetSpending : K) (b : BudgetBracket K) :
    BudgetBracket K :=
  if |b.best.cashAvailableAfterTax - targetSpending| ≤ 1 then b
  else
    let midpoint := (b.low + b.high) / 2
    let candidate := evaluate midpoint
    if targetSpending ≤ candidate.cashAvailableAfterTax + 1 then ⟨b.low, midpoint, candidate⟩
    else { b with low := midpoint }

/-- Enough fuel for the bracketing loop: a top of at least one dollar doubles past
the whole budget. -/
def bracketFuel [FloorRing K] (maxVoluntaryBudget : K) : ℕ := ⌈maxVoluntaryBudget⌉.toNat

/-- The voluntary budget the year settles on, evaluated. -/
def settledEvaluation [FloorRing K] (targetSpending : K) (evaluate : K → WithdrawalEvaluation K) :
    WithdrawalEvaluation K :=
  let forced := evaluate 0
  if targetSpending ≤ forced.cashAvailableAfterTax + 1 then forced
  else
    let maxVoluntaryBudget := forced.balances.sum
    if maxVoluntaryBudget ≤ 0 then forced
    else
      let high := min maxVoluntaryBudget
        (max ((targetSpending - forced.cashAvailableAfterTax) * 2) 1)
      let bracket := bracketLoop evaluate targetSpending maxVoluntaryBudget
        (bracketFuel maxVoluntaryBudget) ⟨0, high, evaluate high⟩
      if bracket.best.cashAvailableAfterTax + 1 < targetSpending then bracket.best
      else ((bisectStep evaluate targetSpending)^[bisectionPasses] bracket).best

/-- Execute the deterministic Taxable → Traditional → Roth → HSA order for a
target: the search bisects after-tax cash, and every exit commits the candidate
it settled on. -/
def executeOrderedWithdrawals [FloorRing K] (targetSpending : K) (accounts : List (Account K))
    (rothBasis : RothBasisState K) (context : WithdrawalContext K) : Committed K :=
  finishOrderedWithdrawals accounts rothBasis
    (settledEvaluation targetSpending fun budget =>
      evaluateOrderedWithdrawals accounts rothBasis budget context) targetSpending 1

end RetirementPlanner.Engine
