import RetirementPlanner.Proof.Path

/-!
# The accounts of a projection

What a projection of an accepted plan records reconciles, year by year: the cash of
every row (`projectScenario_cash`), and the balances between one row and the next
(`projectScenario_conserves_iff`), except for the dollar or less that a working year
can strand (`strandedPlan`).
-/

namespace RetirementPlanner.Engine

variable {K : Type*} [Field K] [LinearOrder K]

/-- What the row records as withdrawn, over the four account types. -/
def PathProjection.withdrawals (row : PathProjection K) : K :=
  row.withdrawalTaxable + row.withdrawalTraditional + row.withdrawalRoth + row.withdrawalHsa

/-- What the row records as deposited, over the four account types. -/
def PathProjection.deposits (row : PathProjection K) : K :=
  row.depositTaxable + row.depositTraditional + row.depositRoth + row.depositHsa

/-- What the buckets carried into a year are worth after its returns. -/
def grownValue (accounts : List (Account K)) (periodFraction : K) (returns : K × K) : K :=
  (accounts.map fun bucket =>
    max 0 (bucket.balance * (1 + effectiveReturn periodFraction returns bucket))).sum

theorem totalBalance_growAccounts (accounts : List (Account K)) (periodFraction : K)
    (returns : K × K) :
    totalBalance (growAccounts periodFraction returns accounts)
      = grownValue accounts periodFraction returns := by
  rw [totalBalance, growAccounts, List.map_map, grownValue]
  exact congrArg List.sum (List.map_congr_left fun bucket _ => max_comm _ _)

/-- A conserving row: what the year started with, grown, and what it recorded. -/
def Conserves (prepared : PreparedPlan K) (returns : K × K) (year : ℕ) (before : ProjectionState K)
    (row : PathProjection K) : Prop :=
  row.portfolioValue = grownValue before.accounts (prepared.periodFraction year) returns
    + row.deposits - row.withdrawals

instance (prepared : PreparedPlan K) (returns : K × K) (year : ℕ) (before : ProjectionState K)
    (row : PathProjection K) : Decidable (Conserves prepared returns year before row) :=
  inferInstanceAs (Decidable (_ = _))

variable [IsStrictOrderedRing K]

omit [IsStrictOrderedRing K] in
theorem projectScenario_of_new [FloorRing K] (log : NaturalLog K) {plan : RetirementPlan K}
    {prepared : PreparedPlan K} (hnew : PreparedPlan.new plan = .ok prepared) (uniform : Uniform K)
    (returns : ℕ → K × K) :
    projectScenario log plan uniform returns
      = .ok (projectScenarioPrepared log prepared uniform returns) := by
  rw [projectScenario, hnew]
  rfl

omit [IsStrictOrderedRing K] in
theorem projections_getElem? [FloorRing K] (log : NaturalLog K) (prepared : PreparedPlan K)
    (uniform : Uniform K) (returns : ℕ → K × K) {year : ℕ} (hyear : year < prepared.totalYears) :
    (projectScenarioPrepared log prepared uniform returns).projections[year]?
      = some (projectionRow prepared year (outcomeAt log prepared uniform returns year)) := by
  change (Path.upTo log prepared uniform returns prepared.totalYears).projections[year]? = _
  rw [Path.upTo_projections, List.getElem?_map, List.getElem?_range hyear]
  rfl

/-! ## Plans to evaluate on -/

/-- A logarithm on the rationals, the line that touches the natural one at 1. The plans
below insure no long-term care, so no logarithm is taken on them. -/
def tangentLog : NaturalLog ℚ where
  ln x := x - 1
  ln_one := sub_self 1
  ln_mono := fun _ hle => sub_le_sub_right hle 1

/-- A worker of 44 without salary, a thousand dollars of spending to fund, and fifty
cents in a taxable account. -/
def strandedPlan : RetirementPlan ℚ where
  schemaVersion := 8
  profile :=
    { birthDate := some (newYear 1981)
      state := .TX
      filingStatus := .single
      retirementAge := 45
      currentSalary := 0
      salaryGrowthRate := 0
      currentSpending := 1000
      workingSpendingGrowthRate := 0
      retirementSpending := 1000
      retirementSpendingGrowthRate := 0
      lifeExpectancy := 46
      retirementHealthcare := ⟨0, 0, 0, 0⟩
      longTermCare := ⟨false, 1⟩
      asOfDate := some (newYear 2025) }
  accounts := [⟨.taxable, 1 / 2, ⟨1, 0⟩, false⟩]
  socialSecurity := ⟨false, none, 67, false⟩
  assumptions :=
    { simulationModel := .historical
      randomSeed := 1
      taxableGainRatio := 1 / 2
      hsaEligible := false
      useBackdoorRoth := false
      rothConversion := ⟨false, .bracket12⟩
      magiAwareWithdrawals := false
      terminalTaxRate := 0 }

/-- `strandedPlan`, prepared. -/
def strandedPrepared : PreparedPlan ℚ :=
  PreparedPlan.onDates strandedPlan (newYear 2025) 1981 44

/-- Returns that pay the portfolio's annual cost and no more. -/
def feeReturns : ℕ → ℚ × ℚ := fun _ => (1 / 1000, 0)

def zeroUniform : Uniform ℚ := ⟨0, le_rfl, zero_lt_one⟩

theorem strandedPlan_valid : validatePlan strandedPlan = .ok () := by decide +kernel

/-- A Californian of 61 who saves most of a last year's salary and then retires on a
taxable and a Traditional account. -/
def workerPlan : RetirementPlan ℚ :=
  { strandedPlan with
    profile :=
      { strandedPlan.profile with
        birthDate := some (newYear 1964)
        state := .CA
        retirementAge := 62
        currentSalary := 150000
        currentSpending := 50000
        retirementSpending := 60000
        lifeExpectancy := 65 }
    accounts := [⟨.taxable, 100000, ⟨1, 0⟩, false⟩, ⟨.traditional, 400000, ⟨0, 1⟩, false⟩]
    assumptions := { strandedPlan.assumptions with hsaEligible := true } }

/-- `workerPlan`, prepared. -/
def workerPrepared : PreparedPlan ℚ := PreparedPlan.onDates workerPlan (newYear 2025) 1964 61

/-! ## Cash -/

/-- In every row of a projection of an accepted plan, what came in and was withdrawn,
less taxes and deposits, is what was spent, to within a dollar. -/
theorem projectScenario_cash [FloorRing K] (log : NaturalLog K) {plan : RetirementPlan K}
    (hplan : validatePlan plan = .ok ()) (uniform : Uniform K) (returns : ℕ → K × K) :
    ∃ prepared result, PreparedPlan.new plan = .ok prepared ∧
      projectScenario log plan uniform returns = .ok result ∧
      ∀ year < prepared.totalYears, ∃ row, result.projections[year]? = some row ∧
        row.year = prepared.taxYear year ∧
        |row.income + row.withdrawals - row.taxes - row.deposits - row.spending| ≤ 1 := by
  obtain ⟨prepared, hnew⟩ := exists_prepared hplan
  obtain ⟨h, -⟩ := prepared_of_new hplan hnew
  refine ⟨prepared, _, hnew, projectScenario_of_new log hnew uniform returns, fun year hyear =>
    ⟨_, projections_getElem? log prepared uniform returns hyear, rfl, ?_⟩⟩
  obtain ⟨lost, hbooks, -⟩ := yearOutcome_books log h (returns year) year
    (stateAt_valid log uniform returns h year)
  exact hbooks.cash

/-- The last salary is taxed and saved from, and in the fourth year the Traditional account
pays the spending and the tax on what it pays. -/
theorem projectScenario_cash_worker :
    ∃ prepared result, PreparedPlan.new workerPlan = .ok prepared ∧
      projectScenario tangentLog workerPlan zeroUniform feeReturns = .ok result ∧
      (∃ row, result.projections[0]? = some row ∧ row.income = 150000 ∧ 30000 < row.taxes ∧
        60000 < row.deposits) ∧
      (∃ row, result.projections[3]? = some row ∧ 7000 < row.taxes ∧
        row.spending + 7000 < row.withdrawals) ∧
      ∀ year < prepared.totalYears, ∃ row, result.projections[year]? = some row ∧
        row.year = prepared.taxYear year ∧
        |row.income + row.withdrawals - row.taxes - row.deposits - row.spending| ≤ 1 := by
  obtain ⟨prepared, result, hnew, hresult, hcash⟩ :=
    projectScenario_cash tangentLog (by decide +kernel : validatePlan workerPlan = .ok ())
      zeroUniform feeReturns
  have hworker : PreparedPlan.new workerPlan = .ok workerPrepared := rfl
  obtain rfl : workerPrepared = prepared := Except.ok.inj (hworker.symm.trans hnew)
  obtain rfl : projectScenarioPrepared tangentLog workerPrepared zeroUniform feeReturns = result :=
    Except.ok.inj ((projectScenario_of_new tangentLog hworker zeroUniform feeReturns).symm.trans
      hresult)
  refine ⟨_, _, hnew, hresult, ⟨_, projections_getElem? _ _ _ _ (by decide), ?_⟩,
    ⟨_, projections_getElem? _ _ _ _ (by decide), ?_⟩, hcash⟩
  · decide +kernel
  · decide +kernel

/-! ## Conservation -/

/-- A row conserves exactly when its year strands nothing. -/
theorem conserves_iff [FloorRing K] (log : NaturalLog K) {prepared : PreparedPlan K}
    (h : Prepared prepared) (uniform : Uniform K) (returns : ℕ → K × K) (year : ℕ) :
    Conserves prepared (returns year) year (stateAt log prepared uniform returns year)
        (projectionRow prepared year (outcomeAt log prepared uniform returns year)) ↔
      ¬prepared.StrandsIn (returns year) year (stateAt log prepared uniform returns year) := by
  obtain ⟨lost, hbooks, hlost⟩ := yearOutcome_books log h (returns year) year
    (stateAt_valid log uniform returns h year)
  have hconserved := hbooks.conserved
  rw [totalBalance_growAccounts] at hconserved
  rw [← hlost]
  change totalBalance (outcomeAt log prepared uniform returns year).accounts
    = grownValue (stateAt log prepared uniform returns year).accounts
        (prepared.periodFraction year) (returns year)
      + (outcomeAt log prepared uniform returns year).deposits
      - (outcomeAt log prepared uniform returns year).withdrawals ↔ _
  rw [outcomeAt, hconserved]
  exact sub_eq_self

omit [IsStrictOrderedRing K] in
theorem stateAt_portfolioValue [FloorRing K] (log : NaturalLog K) (prepared : PreparedPlan K)
    (uniform : Uniform K) (returns : ℕ → K × K) (year : ℕ) :
    (stateAt log prepared uniform returns (year + 1)).portfolioValue
      = (projectionRow prepared year
        (outcomeAt log prepared uniform returns year)).portfolioValue := by
  rw [stateAt_succ]
  rfl

/-- After every year of a projection of an accepted plan there is one solvent bucket for
each type held, worth what the row records, and the row conserves exactly when its
year's shortfall loop strands nothing, as it does in every funded year; the terminal wealth
is the last row's; and a conversion takes nothing out of the buckets but the tax it books. -/
theorem projectScenario_conserves_iff [FloorRing K] (log : NaturalLog K) {plan : RetirementPlan K}
    (hplan : validatePlan plan = .ok ()) (uniform : Uniform K) (returns : ℕ → K × K) :
    ∃ prepared result, PreparedPlan.new plan = .ok prepared ∧
      projectScenario log plan uniform returns = .ok result ∧
      (∀ year < prepared.totalYears, ∃ row, result.projections[year]? = some row ∧
        ((stateAt log prepared uniform returns (year + 1)).accounts.map (·.accountType)).Nodup ∧
        (∀ bucket ∈ (stateAt log prepared uniform returns (year + 1)).accounts,
          0 ≤ bucket.balance) ∧
        row.portfolioValue
          = totalBalance (stateAt log prepared uniform returns (year + 1)).accounts ∧
        (Conserves prepared (returns year) year (stateAt log prepared uniform returns year) row ↔
          ¬prepared.StrandsIn (returns year) year
            (stateAt log prepared uniform returns year)) ∧
        (prepared.StrandsIn (returns year) year (stateAt log prepared uniform returns year) →
          row.insufficientFunds = true)) ∧
      result.projections.getLast?.map (·.portfolioValue) = some result.terminalWealth ∧
      (∀ (year : ℕ) (accounts : List (Account K)) (r : WithdrawalResult K), Buckets accounts →
        0 ≤ r.withdrawalTaxable →
        let conversion := rothConversionFor
          (conversionInput prepared year accounts (socialSecurityBenefitOf prepared year) r)
        totalBalance (applyConversion accounts conversion)
          = totalBalance accounts - conversion.tax) := by
  obtain ⟨prepared, hnew⟩ := exists_prepared hplan
  obtain ⟨h, -⟩ := prepared_of_new hplan hnew
  refine ⟨prepared, _, hnew, projectScenario_of_new log hnew uniform returns, fun year hyear => ?_,
    ?_, fun year accounts r haccounts htaxable => ?_⟩
  · have hvalid := stateAt_valid log uniform returns h (year + 1)
    refine ⟨_, projections_getElem? log prepared uniform returns hyear, hvalid.buckets.nodup,
      hvalid.buckets.solvent, ?_, conserves_iff log h uniform returns year,
      insufficientFunds_of_strandsIn log h _ _ (stateAt_valid log uniform returns h year)⟩
    rw [stateAt_succ]
    rfl
  · obtain ⟨years, hyears⟩ : ∃ years, prepared.totalYears = years + 1 := ⟨_, h.totalYears_eq⟩
    change (Path.upTo log prepared uniform returns prepared.totalYears).projections.getLast?.map _
      = some (stateAt log prepared uniform returns prepared.totalYears).portfolioValue
    rw [Path.upTo_projections, hyears, List.range_succ, List.map_append, List.map_singleton,
      List.getLast?_concat, stateAt_portfolioValue]
    rfl
  · intro conversion
    have hvalid := conversionInput_valid h year haccounts htaxable
    exact (applyConversion_spec haccounts rfl rfl (rothConversionFor_spec hvalid)).2

theorem projectScenario_conserves_iff_stranded :
    ∃ prepared result, PreparedPlan.new strandedPlan = .ok prepared ∧
      projectScenario tangentLog strandedPlan zeroUniform feeReturns = .ok result ∧
      result.projections.getLast?.map (·.portfolioValue) = some result.terminalWealth := by
  obtain ⟨prepared, result, hnew, hresult, -, hlast, -⟩ :=
    projectScenario_conserves_iff tangentLog strandedPlan_valid zeroUniform feeReturns
  exact ⟨prepared, result, hnew, hresult, hlast⟩

/-- The fifty cents are gone after the first year, and no row has withdrawn them. -/
theorem not_conserves_stranded :
    validatePlan strandedPlan = .ok () ∧ PreparedPlan.new strandedPlan = .ok strandedPrepared ∧
      ∃ row, (projectScenarioPrepared tangentLog strandedPrepared zeroUniform
          feeReturns).projections[0]? = some row ∧
        row.withdrawals = 0 ∧ row.portfolioValue = 0 ∧
        ¬Conserves strandedPrepared (feeReturns 0) 0
          (stateAt tangentLog strandedPrepared zeroUniform feeReturns 0) row := by
  refine ⟨strandedPlan_valid, rfl, _, projections_getElem? _ _ _ _ (by decide), ?_, ?_, ?_⟩
  · decide +kernel
  · decide +kernel
  · decide +kernel

end RetirementPlanner.Engine
