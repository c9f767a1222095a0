import RetirementPlanner.Proof.ConversionCeiling

/-!
# Required distributions are taken

The distribution a year requires is drawn before anything else: ahead of the voluntary draws
of every candidate a retired year is solved from (`evaluate_takes_required`), and ahead of the
shortfall loop of a working year, which only adds to it (`shortfallLoop_traditional_le`). It
is computed from what the Traditional bucket held when the year began (`requiredIn_eq`), and a
year that has one converts nothing: `requiredDistribution_taken`.
-/

namespace RetirementPlanner.Engine

variable {K : Type*} [Field K] [LinearOrder K] [IsStrictOrderedRing K]

/-! ## One year -/

/-- The forced draw takes what is required or all there is. -/
theorem evaluate_takes_required {accounts : List (Account K)} (h : Solvent accounts)
    (rothBasis : RothBasisState K) (budget : K) {context : WithdrawalContext K}
    (hrmd : 0 ≤ context.rmdAmount) :
    min context.rmdAmount (balanceOfBucket accounts .traditional)
      ≤ (evaluateOrderedWithdrawals accounts rothBasis budget context).withdrawalTraditional := by
  have hforced := (forcedDraw_spec h context).drawn_eq
  rw [max_eq_left hrmd, ← balanceOfBucket_eq_held] at hforced
  have hvoluntary := voluntary_nonneg h context budget .traditional
  rw [evaluate_eq, ← hforced]
  exact le_add_of_nonneg_right hvoluntary

/-- Shortfall draws add to what was distributed. -/
theorem WorkingContext.shortfallLoop_traditional_le {c : WorkingContext K} (passes : ℕ)
    {s : ShortfallState K} (h : Buckets s.accounts) :
    s.withdrawalTraditional ≤ (c.shortfallLoop passes s).withdrawalTraditional := by
  induction passes generalizing s with
  | zero => exact le_rfl
  | succ passes ih =>
    have hdraw := c.draw_spec h
    rw [shortfallLoop_succ]
    split
    · exact le_rfl
    · split
      · exact le_rfl
      · have hrecorded : s.withdrawalTraditional
            ≤ (c.record s (c.draw s).1 (c.draw s).2).withdrawalTraditional :=
          le_add_of_nonneg_right (hdraw.of_nonneg .traditional)
        exact hrecorded.trans (ih hdraw.buckets)

theorem workingYear_takes_required {prepared : PreparedPlan K} (returns : K × K) (year : ℕ)
    {accounts : List (Account K)} (h : Buckets accounts) (rothBasis : RothBasisState K)
    (allowance : K) {rmdAmount : K} (hrmd : 0 ≤ rmdAmount * prepared.periodFraction year) :
    min (rmdAmount * prepared.periodFraction year)
        (balanceOfBucket (growAccounts (prepared.periodFraction year) returns accounts)
          .traditional)
      ≤ (workingYear prepared returns year accounts rothBasis allowance
          rmdAmount).withdrawalTraditional := by
  have hgrown := growAccounts_buckets h (prepared.periodFraction year) returns
  set grown := growAccounts (prepared.periodFraction year) returns accounts
  set c := workingContext prepared year
  have hdraws := drawBucketBalances_spec hgrown.solvent.shadow .traditional
    (rmdAmount * prepared.periodFraction year)
  have hdistributed := hdraws.drawn_eq
  rw [max_eq_left hrmd, ← balanceOfBucket_eq_held] at hdistributed
  have hstart : Buckets (c.start rmdAmount grown).accounts := hgrown.writeBalances hdraws.shadow
  calc min (rmdAmount * prepared.periodFraction year) (balanceOfBucket grown .traditional)
      = (c.start rmdAmount grown).withdrawalTraditional := hdistributed.symm
    _ ≤ (c.shortfallLoop shortfallPasses (c.start rmdAmount grown)).withdrawalTraditional :=
      c.shortfallLoop_traditional_le shortfallPasses hstart

section Retired

variable [FloorRing K] (log : NaturalLog K) {prepared : PreparedPlan K} (returns : K × K)
  (year : ℕ) {state : ProjectionState K} {rothBasis : RothBasisState K} {rmdAmount : K}

omit [IsStrictOrderedRing K] in
/-- Nothing is converted from the applicable age on. -/
theorem retiredYear_no_conversion (hage : prepared.rmdStartAge ≤ prepared.currentAge year) :
    (retiredYear log prepared returns year state rothBasis rmdAmount).rothConversion = 0 ∧
      (retiredYear log prepared returns year state rothBasis rmdAmount).withdrawalTraditional
        = (retiredCommitted log prepared returns year state rothBasis
            rmdAmount).result.withdrawalTraditional := by
  have hdefault : retiredConversion log prepared returns year state rothBasis rmdAmount
      = RothConversion.default := if_neg fun hyoung => absurd hyoung.1 (not_lt.mpr hage)
  have hnone : ¬ 0 < (retiredConversion log prepared returns year state rothBasis
      rmdAmount).converted := by
    rw [hdefault]
    exact lt_irrefl 0
  obtain ⟨-, hno⟩ := retiredYear_conversion log prepared returns year state rothBasis rmdAmount
  refine ⟨(hno hnone).1, ?_⟩
  change (retiredCommitted log prepared returns year state rothBasis
    rmdAmount).result.withdrawalTraditional + (if 0 < (retiredConversion log prepared returns year
      state rothBasis rmdAmount).converted then (retiredConversion log prepared returns year state
        rothBasis rmdAmount).withheld else 0) = _
  rw [if_neg hnone, add_zero]

theorem retiredYear_takes_required (h : Prepared prepared) (hstate : state.Valid)
    (hledger : rothBasis.Valid) (hrmd : 0 ≤ rmdAmount)
    (hage : prepared.rmdStartAge ≤ prepared.currentAge year) :
    min (rmdAmount * prepared.periodFraction year)
        (balanceOfBucket (growAccounts (prepared.periodFraction year) returns state.accounts)
          .traditional)
      ≤ (retiredYear log prepared returns year state rothBasis
          rmdAmount).withdrawalTraditional := by
  have hgrown := growAccounts_buckets hstate.buckets (prepared.periodFraction year) returns
  have hcontext := retiredContext_valid log year h hstate.allowance_nonneg hstate.care_valid hrmd
  obtain ⟨b, -, -, hsettled, -⟩ := executeOrderedWithdrawals_spec hgrown.solvent hledger hcontext
    (baseSpendingOf prepared year
      + (retiredHealthcare log prepared year state).total * prepared.periodFraction year
      + retiredCare log prepared year state)
  rw [(retiredYear_no_conversion log returns year hage).2, retiredCommitted, hsettled]
  exact evaluate_takes_required hgrown.solvent rothBasis b hcontext.rmd_nonneg

end Retired

/-! ## The path -/

section Path

variable [FloorRing K] (log : NaturalLog K) {prepared : PreparedPlan K} (uniform : Uniform K)
  (returns : ℕ → K × K)

omit [IsStrictOrderedRing K] in
/-- The balance a year is measured by is the one the year before left. -/
theorem stateAt_previous (year : ℕ) :
    (stateAt log prepared uniform returns year).previousYearTraditionalBalance = 0 ∧ year = 0 ∨
      (stateAt log prepared uniform returns year).previousYearTraditionalBalance
        = balanceOfBucket (stateAt log prepared uniform returns year).accounts .traditional := by
  cases year with
  | zero => exact .inl ⟨rfl, rfl⟩
  | succ year =>
    rw [stateAt_succ]
    exact .inr rfl

/-- A year's requirement, from what the Traditional bucket holds when the year begins. -/
theorem requiredIn_eq (h : Prepared prepared) {year : ℕ}
    (hage : prepared.rmdStartAge ≤ prepared.currentAge year) :
    prepared.requiredIn year (stateAt log prepared uniform returns year)
      = calculateRmd
        (balanceOfBucket (stateAt log prepared uniform returns year).accounts .traditional)
        (prepared.currentAge year) prepared.rmdStartAge := by
  have hstate := stateAt_valid log uniform returns h year
  have hnonneg := balanceOfBucket_nonneg hstate.buckets.solvent .traditional
  rw [PreparedPlan.requiredIn, requiredDistribution, if_pos hage]
  have hprevious : (stateAt log prepared uniform returns year).previousYearTraditionalBalance = 0
      ∧ year = 0 ∨ _ := stateAt_previous log uniform returns year
  rcases hprevious with ⟨hzero, -⟩ | hcarried
  · rw [hzero, if_neg (lt_irrefl _)]
  · rw [hcarried]
    split
    · rfl
    · rfl

end Path

/-- In every modeled year of an accepted plan from the household's RMD start age on, the recorded
Traditional withdrawal is at least the year's required distribution, or all that the bucket holds
once it has grown; so is that of every candidate a retired year is solved from; and nothing is
converted. -/
theorem requiredDistribution_taken [FloorRing K] (log : NaturalLog K) {plan : RetirementPlan K}
    {prepared : PreparedPlan K} (hplan : validatePlan plan = .ok ())
    (hnew : PreparedPlan.new plan = .ok prepared) (uniform : Uniform K) (returns : ℕ → K × K)
    {year : ℕ} (hmodeled : year < prepared.totalYears)
    (hage : prepared.rmdStartAge ≤ prepared.currentAge year) :
    let state := stateAt log prepared uniform returns year
    let fraction := prepared.periodFraction year
    let required := calculateRmd (balanceOfBucket state.accounts .traditional)
      (prepared.currentAge year) prepared.rmdStartAge * fraction
    let grown := growAccounts fraction (returns year) state.accounts
    (∃ row, (projectScenarioPrepared log prepared uniform returns).projections[year]? = some row ∧
      min required (balanceOfBucket grown .traditional) ≤ row.withdrawalTraditional ∧
      row.rothConversion = 0) ∧
    ∀ budget, min required (balanceOfBucket grown .traditional)
      ≤ (evaluateOrderedWithdrawals grown
          (rothBasisAtStart state.rothBasis (prepared.currentAge year) (prepared.taxYear year))
          budget
          (retiredContext log prepared year state
            (prepared.requiredIn year state))).withdrawalTraditional := by
  intro state fraction required grown
  obtain ⟨hprepared, -⟩ := prepared_of_new hplan hnew
  have hstate := stateAt_valid log uniform returns hprepared year
  have hledger := rothBasisAtStart_valid hstate.ledger (prepared.currentAge year)
    (prepared.taxYear year)
  have hrequired : required = prepared.requiredIn year state * fraction := by
    rw [requiredIn_eq log uniform returns hprepared hage]
  have hnonneg := requiredIn_nonneg prepared year hstate
  have hfraction := hprepared.periodFraction_pos year
  have hrow : (projectScenarioPrepared log prepared uniform returns).projections[year]?
      = some (projectionRow prepared year (outcomeAt log prepared uniform returns year)) := by
    rw [projectScenarioPrepared, Path.upTo_projections, List.getElem?_map,
      List.getElem?_range hmodeled]
    rfl
  refine ⟨⟨_, hrow, ?_⟩, fun budget => ?_⟩
  · change min required (balanceOfBucket grown .traditional)
        ≤ (outcomeAt log prepared uniform returns year).withdrawalTraditional ∧
      (outcomeAt log prepared uniform returns year).rothConversion = 0
    rw [hrequired, outcomeAt, yearOutcome]
    split
    · exact ⟨retiredYear_takes_required log (returns year) year hprepared hstate hledger hnonneg
          hage, (retiredYear_no_conversion log (returns year) year hage).1⟩
    · exact ⟨workingYear_takes_required (returns year) year hstate.buckets _ _
        (mul_nonneg hnonneg hfraction.le), rfl⟩
  · have hrmd : 0 ≤ (retiredContext log prepared year state
        (prepared.requiredIn year state)).rmdAmount := mul_nonneg hnonneg hfraction.le
    rw [hrequired]
    exact evaluate_takes_required
      (growAccounts_buckets hstate.buckets fraction (returns year)).solvent _ budget hrmd

/-- A retiree of 75 who would convert if it were still allowed. -/
def requiredPlan : RetirementPlan ℚ :=
  { gapYearPlan with
    profile :=
      { gapYearPlan.profile with
        birthDate := some (newYear 1950)
        retirementAge := 70
        lifeExpectancy := 80 } }

/-- `requiredPlan`, prepared. -/
def requiredPrepared : PreparedPlan ℚ :=
  PreparedPlan.onDates requiredPlan (newYear 2025) 1950 75

/-- Half a million is divided by 24.6. -/
theorem requiredDistribution_taken_at_75 :
    ∃ row, (projectScenarioPrepared NaturalLog.flat requiredPrepared ⟨0, le_rfl, one_pos⟩
        (fun _ => (1 / 1000, 0))).projections[0]? = some row ∧
      20325 < row.withdrawalTraditional ∧ row.rothConversion = 0 := by
  obtain ⟨⟨row, hrow, htaken, hnone⟩, -⟩ := requiredDistribution_taken NaturalLog.flat
    (by decide +kernel : validatePlan requiredPlan = .ok ())
    (rfl : PreparedPlan.new requiredPlan = .ok requiredPrepared) ⟨0, le_rfl, one_pos⟩
    (fun _ => (1 / 1000, 0)) (by decide +kernel : 0 < requiredPrepared.totalYears)
    (by decide +kernel)
  refine ⟨row, hrow, lt_of_lt_of_le ?_ htaken, hnone⟩
  decide +kernel

end RetirementPlanner.Engine
