import RetirementPlanner.Proof.Conversion
import RetirementPlanner.Proof.Ledger
import RetirementPlanner.Proof.Solver

/-!
# Retired years

A committed candidate takes out of the buckets what it records
(`finishOrderedWithdrawals_books`), and so does a conversion, whose tax is all that
leaves the household (`applyConversion_totalBalance`). A retired year is one after
the other (`retiredYear_books`).
-/

namespace RetirementPlanner.Engine

variable {K : Type*} [Field K] [LinearOrder K]

/-! ## What a solve commits -/

/-- What a committed solve leaves of `accounts`. -/
structure Committed.Books (accounts : List (Account K)) (context : WithdrawalContext K)
    (target : K) (committed : Committed K) : Prop where
  buckets : Buckets committed.accounts
  ledger : committed.rothBasis.Valid
  taxable_nonneg : 0 ≤ committed.result.withdrawalTaxable
  deposit_nonneg : 0 ≤ committed.result.depositTaxable
  hsaUsed_le : committed.result.hsaQualifiedUsed ≤ context.hsaQualifiedAllowance
  total_eq : committed.result.totalWithdrawn = committed.result.withdrawalTaxable
    + committed.result.withdrawalTraditional + committed.result.withdrawalRoth
    + committed.result.withdrawalHsa
  conserved : totalBalance committed.accounts
    = totalBalance accounts - committed.result.totalWithdrawn
  funded : committed.result.insufficientFunds = false →
    |context.socialSecurityBenefit + committed.result.totalWithdrawn - committed.result.totalTaxes
      - committed.result.depositTaxable - target| ≤ 1
  short : committed.result.insufficientFunds = true →
    committed.result.depositTaxable = 0 ∧
      0 ≤ context.socialSecurityBenefit + committed.result.totalWithdrawn
        - committed.result.totalTaxes

variable [IsStrictOrderedRing K]

/-- Taxes and penalties never take more than what was drawn and the benefit. -/
theorem yearTaxes_le {rothBasis : RothBasisState K} (hs : rothBasis.Valid)
    {context : WithdrawalContext K} (hc : context.Valid) {t r h g : K} (ht : 0 ≤ t) (hr : 0 ≤ r)
    (hh : 0 ≤ h) (hg : 0 ≤ g) :
    yearTaxes rothBasis context t r h g ≤ context.socialSecurityBenefit + t + r + h + g := by
  have hn0 := nonQualifiedHsa_nonneg h context.hsaQualifiedAllowance
  have hn := nonQualifiedHsa_le hh hc.allowance_nonneg
  have hb := hc.benefit_nonneg
  have htax := retirementTax_le context.household context.state context.taxYear hb
    (add_nonneg ht hn0) hg
  have hroth : rothConversionPenaltyFor r rothBasis context.age ≤ r * 0.10 := by
    have hslope := rothPenalty_slope hs (le_refl (0 : K)) hr context.age
    have hzero : rothConversionPenaltyFor 0 rothBasis context.age = 0 := by
      rw [rothConversionPenaltyFor, if_pos (.inr (.inl le_rfl))]
    rw [hzero, sub_zero, sub_zero, earlyTraditionalPenaltyRate] at hslope
    refine hslope.trans ?_
    split
    · exact le_rfl
    · exact mul_nonneg hr (by norm_num)
  have hpenalties : penaltiesOn t (nonQualifiedHsa h context.hsaQualifiedAllowance)
      (rothConversionPenaltyFor r rothBasis context.age) context.age
      ≤ t * 0.10 + nonQualifiedHsa h context.hsaQualifiedAllowance * 0.20 + r * 0.10 := by
    refine add_le_add (add_le_add ?_ ?_) hroth
    · split
      · exact le_rfl
      · exact mul_nonneg ht (by norm_num)
    · split
      · exact le_rfl
      · exact mul_nonneg hn0 (by norm_num)
  rw [yearTaxes]
  linarith

theorem cash_nonneg {accounts : List (Account K)} (h : Solvent accounts)
    {rothBasis : RothBasisState K} (hs : rothBasis.Valid) {context : WithdrawalContext K}
    (hc : context.Valid) (budget : K) : 0 ≤ cash accounts rothBasis context budget := by
  have hforced := forcedDraw_nonneg h context
  have htaxable := voluntary_nonneg h context budget .taxable
  have htraditional := voluntary_nonneg h context budget .traditional
  have hroth := voluntary_nonneg h context budget .roth
  have hhsa := voluntary_nonneg h context budget .hsa
  simp only [OrderedWithdrawal.of] at htaxable htraditional hroth hhsa
  obtain ⟨hgain0, hgain⟩ := voluntary_gain hc accounts budget
  have hshare := hgain.trans (mul_le_of_le_one_right htaxable hc.gainRatio_le_one)
  have htaxes := yearTaxes_le hs hc (add_nonneg hforced htraditional) hroth hhsa hgain0
  have htotal := (voluntaryDraw_spec h context budget).total_eq
  rw [cash_eq]
  linarith

theorem evaluate_balances_sum {accounts : List (Account K)} (h : Solvent accounts)
    (rothBasis : RothBasisState K) (budget : K) (context : WithdrawalContext K) :
    let e := evaluateOrderedWithdrawals accounts rothBasis budget context
    Shadow accounts e.balances ∧ e.balances.sum = totalBalance accounts - e.totalWithdrawn := by
  have hforced := forcedDraw_spec h context
  have hspec := voluntaryDraw_spec h context budget
  simp only [evaluate_eq]
  refine ⟨hspec.shadow, ?_⟩
  rw [hspec.sum_eq hforced.shadow, hforced.sum_eq h.shadow, hspec.total_eq, totalBalance]
  ring

/-- Any candidate that is committed leaves books in order. -/
theorem finishOrderedWithdrawals_books {accounts : List (Account K)} (h : Buckets accounts)
    {rothBasis : RothBasisState K} (hs : rothBasis.Valid) {context : WithdrawalContext K}
    (hc : context.Valid) (budget target : K) :
    (finishOrderedWithdrawals accounts rothBasis
      (evaluateOrderedWithdrawals accounts rothBasis budget context) target 1).Books accounts
        context target := by
  obtain ⟨hshadow, hsum⟩ := evaluate_balances_sum h.solvent rothBasis budget context
  have hcash := cash_nonneg h.solvent hs hc budget
  have hledger := finishOrderedWithdrawals_ledger hs accounts
    (evaluateOrderedWithdrawals accounts rothBasis budget context) target 1
  have htaxable := voluntary_nonneg h.solvent context budget .taxable
  have hcashDef : cash accounts rothBasis context budget
      = context.socialSecurityBenefit
        + (evaluateOrderedWithdrawals accounts rothBasis budget context).totalWithdrawn
        - (evaluateOrderedWithdrawals accounts rothBasis budget context).totalTaxes := rfl
  set e := evaluateOrderedWithdrawals accounts rothBasis budget context with he
  have hdifference : e.cashAvailableAfterTax = cash accounts rothBasis context budget := rfl
  refine ⟨h.writeBalances hshadow, hledger, htaxable, ?_, min_le_right _ _, rfl, ?_, ?_, ?_⟩
  · change 0 ≤ if 1 < e.cashAvailableAfterTax - target then e.cashAvailableAfterTax - target else 0
    split
    · linarith
    · exact le_rfl
  · change totalBalance (writeBalances accounts e.balances) = _
    rw [totalBalance, map_balance_writeBalances hshadow, hsum]
    rfl
  · intro hfunded
    change decide (e.cashAvailableAfterTax - target < -1) = false at hfunded
    change |context.socialSecurityBenefit + e.totalWithdrawn - e.totalTaxes
      - (if 1 < e.cashAvailableAfterTax - target then e.cashAvailableAfterTax - target else 0)
      - target| ≤ 1
    have hge := not_lt.mp (of_decide_eq_false hfunded)
    rw [← hcashDef, ← hdifference]
    split
    · rw [sub_sub_cancel, sub_self, abs_zero]
      exact zero_le_one
    · rename_i hle
      rw [sub_zero, abs_le]
      exact ⟨hge, not_lt.mp hle⟩
  · intro hshort
    change decide (e.cashAvailableAfterTax - target < -1) = true at hshort
    have hlt := of_decide_eq_true hshort
    refine ⟨if_neg ?_, ?_⟩
    · linarith
    · change 0 ≤ context.socialSecurityBenefit + e.totalWithdrawn - e.totalTaxes
      rwa [← hcashDef]

/-- So the solve does, whichever candidate it settles on. -/
theorem executeOrderedWithdrawals_books [FloorRing K] {accounts : List (Account K)}
    (h : Buckets accounts) {rothBasis : RothBasisState K} (hs : rothBasis.Valid)
    {context : WithdrawalContext K} (hc : context.Valid) (target : K) :
    (executeOrderedWithdrawals target accounts rothBasis context).Books accounts context
      target := by
  obtain ⟨b, -, -, heq, -⟩ := executeOrderedWithdrawals_spec h.solvent hs hc target
  rw [heq]
  exact finishOrderedWithdrawals_books h hs hc b target

/-! ## Conversions -/

/-- A conversion moves money between buckets: the tax it books is all that leaves. -/
theorem applyConversion_spec {accounts : List (Account K)} (h : Buckets accounts)
    {input : RothConversionInput K} {conversion : RothConversion K}
    (htraditional : input.traditionalBalance = balanceOfBucket accounts .traditional)
    (htaxable : input.taxableBalance = balanceOfBucket accounts .taxable)
    (hbooks : conversion.Books input) :
    Buckets (applyConversion accounts conversion) ∧
      totalBalance (applyConversion accounts conversion)
        = totalBalance accounts - conversion.tax := by
  have h1 := drawFromBucket_spec h .traditional hbooks.converted_nonneg
    (htraditional ▸ hbooks.converted_le)
  have h2 := drawFromBucket_spec h1.buckets .taxable hbooks.fromTaxable_nonneg
    (by rw [h1.other .taxable (by decide)]; exact htaxable ▸ hbooks.fromTaxable_le)
  have h3 := (depositToBucket_spec h2.buckets .roth (conversion.converted - conversion.withheld)).1
  refine ⟨h3.buckets, ?_⟩
  rw [applyConversion, h3.totalBalance, h2.totalBalance, h1.totalBalance,
    max_eq_left (sub_nonneg.mpr hbooks.withheld_le), ← hbooks.tax_eq]
  ring

theorem conversionInput_valid [FloorRing K] {prepared : PreparedPlan K} (h : Prepared prepared)
    (year : ℕ) {accounts : List (Account K)} (hbuckets : Buckets accounts)
    {result : WithdrawalResult K} (htaxable : 0 ≤ result.withdrawalTaxable) :
    (conversionInput prepared year accounts (socialSecurityBenefitOf prepared year)
      result).Valid where
  household_eq := ⟨_, _, rfl⟩
  benefit_nonneg := socialSecurityBenefitOf_nonneg h year
  qualified_nonneg := mul_nonneg htaxable h.plan_valid.taxableGainRatio_nonneg
  gainRatio_nonneg := h.plan_valid.taxableGainRatio_nonneg
  gainRatio_le_one := h.plan_valid.taxableGainRatio_le_one
  taxable_nonneg := balanceOfBucket_nonneg hbuckets.solvent .taxable
  traditional_nonneg := balanceOfBucket_nonneg hbuckets.solvent .traditional

/-! ## The year -/

/-- The medical cost a retired year adds to what the HSA may reimburse. -/
theorem retiredAllowance_nonneg (log : NaturalLog K) {prepared : PreparedPlan K}
    (h : Prepared prepared) (year : ℕ) {state : ProjectionState K}
    (hallowance : 0 ≤ state.hsaQualifiedAllowance)
    (hcare : ∀ draw, state.longTermCare = some draw → draw.Valid)
    (incomeTest : Option (PremiumIncomeTest K)) :
    0 ≤ state.hsaQualifiedAllowance
      + state.longTermCare.elim 0 (·.costForYear log year prepared.totalYears)
      + (healthcareCostFor prepared.plan.profile.retirementHealthcare (prepared.currentAge year)
          (healthcareGrowthYears prepared year) incomeTest).qualified
        * prepared.periodFraction year := by
  refine add_nonneg (add_nonneg hallowance ?_) (mul_nonneg ?_ (h.periodFraction_pos year).le)
  · cases hdraw : state.longTermCare with
    | none => exact le_rfl
    | some draw => exact LongTermCareDraw.costForYear_nonneg log (hcare draw hdraw) _ _
  · exact healthcareCostFor_nonneg h.plan_valid.healthcare _ _ _

section Year

variable [FloorRing K] (log : NaturalLog K) (prepared : PreparedPlan K) (returns : K × K)
  (year : ℕ) (state : ProjectionState K) (rothBasis : RothBasisState K) (rmdAmount : K)

/-- What a retired year pays for care. -/
def retiredCare : K := state.longTermCare.elim 0 (·.costForYear log year prepared.totalYears)

/-- What a retired year pays for healthcare. -/
def retiredHealthcare : HealthcareCost K :=
  healthcareCostFor prepared.plan.profile.retirementHealthcare (prepared.currentAge year)
    (healthcareGrowthYears prepared year)
    (incomeTestOf prepared year state.magiByYear state.accounts
      (retiredCare log prepared year state) (socialSecurityBenefitOf prepared year))

/-- The tax context a retired year is solved in. -/
def retiredContext : WithdrawalContext K :=
  withdrawalContext prepared year (socialSecurityBenefitOf prepared year)
    (rmdAmount * prepared.periodFraction year)
    (state.hsaQualifiedAllowance + retiredCare log prepared year state
      + (retiredHealthcare log prepared year state).qualified * prepared.periodFraction year)

/-- The withdrawals a retired year settles on. -/
def retiredCommitted : Committed K :=
  executeOrderedWithdrawals
    (baseSpendingOf prepared year
      + (retiredHealthcare log prepared year state).total * prepared.periodFraction year
      + retiredCare log prepared year state)
    (growAccounts (prepared.periodFraction year) returns state.accounts) rothBasis
    (retiredContext log prepared year state rmdAmount)

/-- The accounts of a retired year before its conversion. -/
def retiredAccounts : List (Account K) :=
  let committed := retiredCommitted log prepared returns year state rothBasis rmdAmount
  (depositToBucket committed.accounts .taxable committed.result.depositTaxable).1

/-- What a retired year's conversion is decided on. -/
def retiredConversionInput : RothConversionInput K :=
  conversionInput prepared year
    (retiredAccounts log prepared returns year state rothBasis rmdAmount)
    (socialSecurityBenefitOf prepared year)
    (retiredCommitted log prepared returns year state rothBasis rmdAmount).result

/-- The conversion of a retired year. -/
def retiredConversion : RothConversion K :=
  if prepared.currentAge year < prepared.rmdStartAge ∧
      (retiredCommitted log prepared returns year state rothBasis
        rmdAmount).result.insufficientFunds = false then
    rothConversionFor (retiredConversionInput log prepared returns year state rothBasis rmdAmount)
  else RothConversion.default

omit [IsStrictOrderedRing K] in
/-- What a retired year records of its conversion. -/
theorem retiredYear_conversion :
    let o := retiredYear log prepared returns year state rothBasis rmdAmount
    let committed := retiredCommitted log prepared returns year state rothBasis rmdAmount
    let conversion := retiredConversion log prepared returns year state rothBasis rmdAmount
    (0 < conversion.converted →
      o.rothConversion = conversion.converted - conversion.withheld ∧
      o.withdrawalTaxable = committed.result.withdrawalTaxable + conversion.fromTaxable ∧
      o.withdrawalTraditional = committed.result.withdrawalTraditional + conversion.withheld ∧
      o.rothBasis = recordConversion committed.rothBasis (prepared.taxYear year)
        (conversion.converted - conversion.withheld)) ∧
    (¬0 < conversion.converted → o.rothConversion = 0 ∧ o.rothBasis = committed.rothBasis) := by
  intro o committed conversion
  refine ⟨fun hconverts => ⟨if_pos hconverts, ?_, ?_, ?_⟩,
    fun hnone => ⟨if_neg hnone, if_neg hnone⟩⟩
  · change committed.result.withdrawalTaxable + (if 0 < conversion.converted then
      conversion.fromTaxable else 0) = _
    rw [if_pos hconverts]
  · change committed.result.withdrawalTraditional + (if 0 < conversion.converted then
      conversion.withheld else 0) = _
    rw [if_pos hconverts]
  · change (if 0 < conversion.converted then recordConversion committed.rothBasis
      (prepared.taxYear year) (if 0 < conversion.converted then
        conversion.converted - conversion.withheld else 0) else committed.rothBasis) = _
    rw [if_pos hconverts, if_pos hconverts]

variable {prepared state rothBasis rmdAmount}

theorem retiredContext_valid (h : Prepared prepared) (hallowance : 0 ≤ state.hsaQualifiedAllowance)
    (hcare : ∀ draw, state.longTermCare = some draw → draw.Valid) (hrmd : 0 ≤ rmdAmount) :
    (retiredContext log prepared year state rmdAmount).Valid :=
  withdrawalContext_valid h year (mul_nonneg hrmd (h.periodFraction_pos year).le)
    (retiredAllowance_nonneg log h year hallowance hcare _)

theorem retiredCommitted_books (h : Prepared prepared) (hbuckets : Buckets state.accounts)
    (hallowance : 0 ≤ state.hsaQualifiedAllowance)
    (hcare : ∀ draw, state.longTermCare = some draw → draw.Valid) (hledger : rothBasis.Valid)
    (hrmd : 0 ≤ rmdAmount) :
    (retiredCommitted log prepared returns year state rothBasis rmdAmount).Books
      (growAccounts (prepared.periodFraction year) returns state.accounts)
      (retiredContext log prepared year state rmdAmount)
      (baseSpendingOf prepared year
        + (retiredHealthcare log prepared year state).total * prepared.periodFraction year
        + retiredCare log prepared year state) :=
  executeOrderedWithdrawals_books
    (growAccounts_buckets hbuckets (prepared.periodFraction year) returns) hledger
    (retiredContext_valid log year h hallowance hcare hrmd) _

theorem retiredConversionInput_valid (h : Prepared prepared) (hbuckets : Buckets state.accounts)
    (hallowance : 0 ≤ state.hsaQualifiedAllowance)
    (hcare : ∀ draw, state.longTermCare = some draw → draw.Valid) (hledger : rothBasis.Valid)
    (hrmd : 0 ≤ rmdAmount) :
    (retiredConversionInput log prepared returns year state rothBasis rmdAmount).Valid := by
  have hsolve := retiredCommitted_books log returns year h hbuckets hallowance hcare hledger hrmd
  exact conversionInput_valid h year (depositToBucket_spec hsolve.buckets .taxable _).1.buckets
    hsolve.taxable_nonneg

/-- The conversion of a retired year accounts for every dollar. -/
theorem retiredConversion_books (h : Prepared prepared) (hbuckets : Buckets state.accounts)
    (hallowance : 0 ≤ state.hsaQualifiedAllowance)
    (hcare : ∀ draw, state.longTermCare = some draw → draw.Valid) (hledger : rothBasis.Valid)
    (hrmd : 0 ≤ rmdAmount) :
    (retiredConversion log prepared returns year state rothBasis rmdAmount).Books
      (retiredConversionInput log prepared returns year state rothBasis rmdAmount) := by
  have hvalid := retiredConversionInput_valid log returns year h hbuckets hallowance hcare hledger
    hrmd
  rw [retiredConversion]
  split
  · exact rothConversionFor_spec hvalid
  · exact RothConversion.books_default hvalid

end Year

theorem retiredYear_books [FloorRing K] (log : NaturalLog K) {prepared : PreparedPlan K}
    (h : Prepared prepared) (returns : K × K) (year : ℕ) {state : ProjectionState K}
    (hbuckets : Buckets state.accounts) (hallowance : 0 ≤ state.hsaQualifiedAllowance)
    (hcare : ∀ draw, state.longTermCare = some draw → draw.Valid) {rothBasis : RothBasisState K}
    (hledger : rothBasis.Valid) {rmdAmount : K} (hrmd : 0 ≤ rmdAmount) :
    (retiredYear log prepared returns year state rothBasis rmdAmount).Books
      (totalBalance (growAccounts (prepared.periodFraction year) returns state.accounts)) 0 := by
  set target := baseSpendingOf prepared year
    + (retiredHealthcare log prepared year state).total * prepared.periodFraction year
    + retiredCare log prepared year state
  set benefit := socialSecurityBenefitOf prepared year
  have hsolve := retiredCommitted_books log returns year h hbuckets hallowance hcare hledger hrmd
  set committed := retiredCommitted log prepared returns year state rothBasis rmdAmount
  set result := committed.result
  have hdeposit := (depositToBucket_spec hsolve.buckets .taxable result.depositTaxable).1
  rw [max_eq_left hsolve.deposit_nonneg] at hdeposit
  set accounts := (depositToBucket committed.accounts .taxable result.depositTaxable).1
  have hconversion := retiredConversion_books log returns year h hbuckets hallowance hcare hledger
    hrmd
  set conversion := retiredConversion log prepared returns year state rothBasis rmdAmount
  obtain ⟨hmovedBuckets, hmovedTotal⟩ := applyConversion_spec hdeposit.buckets rfl rfl hconversion
  have hlegs : (if 0 < conversion.converted then conversion.fromTaxable else 0)
      + (if 0 < conversion.converted then conversion.withheld else 0)
      = if 0 < conversion.converted then conversion.tax else 0 := by
    split
    · exact hconversion.tax_eq
    · exact add_zero 0
  refine ⟨?_, ?_, ?_, ?_, ?_⟩
  · change Buckets (if 0 < conversion.converted then applyConversion accounts conversion
      else accounts)
    split
    · exact hmovedBuckets
    · exact hdeposit.buckets
  · change RothBasisState.Valid (if 0 < conversion.converted then
      recordConversion committed.rothBasis (prepared.taxYear year)
        (if 0 < conversion.converted then conversion.converted - conversion.withheld else 0)
      else committed.rothBasis)
    split
    · exact recordConversion_valid hsolve.ledger _ (sub_nonneg.mpr hconversion.withheld_le)
    · exact hsolve.ledger
  · exact sub_nonneg.mpr hsolve.hsaUsed_le
  · change |benefit
      + (result.withdrawalTaxable + (if 0 < conversion.converted then conversion.fromTaxable else 0)
        + (result.withdrawalTraditional
          + (if 0 < conversion.converted then conversion.withheld else 0))
        + result.withdrawalRoth + result.withdrawalHsa)
      - (result.totalTaxes + if 0 < conversion.converted then conversion.tax else 0)
      - (result.depositTaxable + 0 + 0 + 0)
      - (if result.insufficientFunds then
          max (result.totalWithdrawn
            - (result.totalTaxes + if 0 < conversion.converted then conversion.tax else 0)
            - result.depositTaxable + benefit) 0
        else target)| ≤ 1
    have htotal := hsolve.total_eq
    cases hfunds : result.insufficientFunds with
    | false =>
      -- A funded year is on its target, and a conversion pays its own tax.
      have hfunded := hsolve.funded hfunds
      change |benefit + result.totalWithdrawn - result.totalTaxes - result.depositTaxable
        - target| ≤ 1 at hfunded
      rw [if_neg Bool.false_ne_true, ← hlegs]
      convert hfunded using 2
      linarith
    | true =>
      -- An underfunded one spends what it has, and offers no conversion.
      obtain ⟨hzero, hcash⟩ := hsolve.short hfunds
      change 0 ≤ benefit + result.totalWithdrawn - result.totalTaxes at hcash
      have hnone : ¬0 < conversion.converted := by
        have hdefault : conversion = RothConversion.default :=
          if_neg fun hand => Bool.noConfusion (hfunds.symm.trans hand.2)
        rw [hdefault]
        exact lt_irrefl 0
      change result.depositTaxable = 0 at hzero
      simp only [if_neg hnone, if_true, hzero]
      rw [max_eq_left (by linarith)]
      have hexact : benefit + (result.withdrawalTaxable + 0 + (result.withdrawalTraditional + 0)
          + result.withdrawalRoth + result.withdrawalHsa) - (result.totalTaxes + 0)
          - (0 + 0 + 0 + 0) - (result.totalWithdrawn - (result.totalTaxes + 0) - 0 + benefit)
          = 0 := by linarith
      rw [hexact, abs_zero]
      exact zero_le_one
  · change totalBalance (if 0 < conversion.converted then applyConversion accounts conversion
        else accounts)
      = totalBalance (growAccounts (prepared.periodFraction year) returns state.accounts)
        + (result.depositTaxable + 0 + 0 + 0)
        - (result.withdrawalTaxable
          + (if 0 < conversion.converted then conversion.fromTaxable else 0)
          + (result.withdrawalTraditional
            + (if 0 < conversion.converted then conversion.withheld else 0))
          + result.withdrawalRoth + result.withdrawalHsa) - 0
    have htotal := hsolve.total_eq
    have hdrawn := hsolve.conserved
    have hdeposited := hdeposit.totalBalance
    have hleft : totalBalance (if 0 < conversion.converted then applyConversion accounts conversion
        else accounts)
        = totalBalance accounts - if 0 < conversion.converted then conversion.tax else 0 := by
      split
      · exact hmovedTotal
      · exact (sub_zero _).symm
    rw [hleft, ← hlegs, hdeposited]
    linarith

end RetirementPlanner.Engine
