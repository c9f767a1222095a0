import RetirementPlanner.Proof.ConversionCeiling

/-!
# How a new bucket is invested

Every bucket of a path is wholly in stocks and bonds, unless a deposit opened it with nothing
to blend and left it in cash (`Account.Placed`, `bucketLists_placed`). A deposit that opens a
bucket splits it by the stocks of the others and puts the rest in bonds, so its return is
theirs exactly when none of them holds cash: `newBucket_return_iff`.
-/

namespace RetirementPlanner.Engine

variable {K : Type*} [Field K] [LinearOrder K]

/-! ## What a bucket is in -/

/-- In stocks and bonds, or opened in cash. -/
def Account.Placed (account : Account K) : Prop :=
  account.isSurplusCash = false ∧ account.assetWeights.stocks + account.assetWeights.bonds = 1 ∨
    account.isSurplusCash = true ∧ account.assetWeights = ⟨0, 0⟩

/-- What no draw, deposit or return changes of a bucket. -/
def placement (account : Account K) : AssetWeights K × Bool :=
  (account.assetWeights, account.isSurplusCash)

omit [LinearOrder K] in
theorem placed_of_placement {accounts accounts' : List (Account K)}
    (h : accounts'.map placement = accounts.map placement)
    (hplaced : ∀ account ∈ accounts, account.Placed) : ∀ account ∈ accounts', account.Placed := by
  intro account hmem
  have hsame : placement account ∈ accounts.map placement := h ▸ List.mem_map_of_mem hmem
  obtain ⟨before, hbefore, heq⟩ := List.mem_map.mp hsame
  obtain ⟨hweights, hcash⟩ := Prod.mk.inj heq
  rw [Account.Placed, ← hweights, ← hcash]
  exact hplaced before hbefore

omit [Field K] [LinearOrder K] in
theorem placement_writeBalances (accounts : List (Account K)) (balances : List K) :
    (writeBalances accounts balances).map placement = accounts.map placement := by
  induction accounts generalizing balances with
  | nil => cases balances <;> rfl
  | cons account accounts ih =>
    cases balances with
    | nil => rfl
    | cons balance balances =>
      rw [writeBalances, List.map_cons, List.map_cons, ih]
      rfl

omit [Field K] [LinearOrder K] in
theorem placement_setBucketBalance (t : AccountType) (balance : K) (accounts : List (Account K)) :
    (setBucketBalance t balance accounts).map placement = accounts.map placement := by
  induction accounts with
  | nil => rfl
  | cons account accounts ih =>
    rw [setBucketBalance]
    split
    · rfl
    · rw [List.map_cons, List.map_cons, ih]

theorem placement_drawFromBucket (accounts : List (Account K)) (t : AccountType) (amount : K) :
    (drawFromBucket accounts t amount).1.map placement = accounts.map placement := by
  rw [drawFromBucket]
  split
  · rfl
  · split
    · exact placement_setBucketBalance _ _ _
    · rfl

theorem placement_growAccounts (fraction : K) (returns : K × K) (accounts : List (Account K)) :
    (growAccounts fraction returns accounts).map placement = accounts.map placement := by
  rw [growAccounts, List.map_map]
  rfl

theorem WorkingContext.placement_shortfallLoop (c : WorkingContext K) (passes : ℕ)
    (s : ShortfallState K) :
    (c.shortfallLoop passes s).accounts.map placement = s.accounts.map placement := by
  induction passes generalizing s with
  | zero => rfl
  | succ passes ih =>
    have hdraw : (c.draw s).2.map placement = s.accounts.map placement :=
      placement_writeBalances _ _
    rw [shortfallLoop_succ]
    split
    · rfl
    · split
      · exact hdraw
      · rw [ih]
        exact hdraw

theorem toBuckets_placed (accounts : List (Account K)) :
    ∀ account ∈ toBuckets accounts, account.Placed := by
  intro account hmem
  obtain ⟨accountType, -, hbucket⟩ := List.mem_filterMap.mp hmem
  simp only at hbucket
  split at hbucket
  · cases hbucket
  · cases hbucket
    exact .inl ⟨rfl, add_sub_cancel _ _⟩

/-! ## What a deposit opens -/

/-- The portfolio's return, each bucket's weighed by its balance. -/
def blendedReturn (returns : K × K) (accounts : List (Account K)) : K :=
  (accounts.map fun a => a.balance * effectiveReturn 1 returns a).sum / totalBalance accounts

/-- The balance held in one asset class. -/
def heldIn (share : AssetWeights K → K) (accounts : List (Account K)) : K :=
  (accounts.map fun a => a.balance * share a.assetWeights).sum

/-- What a deposit opens where the household holds money. -/
theorem depositToBucket_opens {accounts : List (Account K)} {t : AccountType} {amount : K}
    (hamount : 0 < amount) (htotal : 0 < totalBalance accounts)
    (hnew : ∀ account ∈ accounts, account.accountType ≠ t) :
    (depositToBucket accounts t amount).1 = accounts ++ [
      { accountType := t
        balance := amount
        assetWeights := ⟨heldIn (·.stocks) accounts / totalBalance accounts,
          1 - heldIn (·.stocks) accounts / totalBalance accounts⟩
        isSurplusCash := false }] := by
  have hfind : accounts.find? (·.accountType = t) = none := by
    rw [List.find?_eq_none]
    simpa using hnew
  rw [depositToBucket, if_neg hamount.not_ge, hfind]
  simp only [if_pos htotal, htotal.ne', decide_false]
  rfl

theorem blendedReturn_eq {accounts : List (Account K)} (htotal : 0 < totalBalance accounts)
    (returns : K × K) :
    blendedReturn returns accounts
      = (heldIn (·.stocks) accounts * returns.1 + heldIn (·.bonds) accounts * returns.2)
        / totalBalance accounts - annualPortfolioFee := by
  have hsum : (accounts.map fun a => a.balance * effectiveReturn 1 returns a).sum
      = heldIn (·.stocks) accounts * returns.1 + heldIn (·.bonds) accounts * returns.2
        - annualPortfolioFee * totalBalance accounts := by
    clear htotal
    induction accounts with
    | nil => simp [heldIn, totalBalance]
    | cons account accounts ih =>
      simp only [heldIn, totalBalance, List.map_cons, List.sum_cons, effectiveReturn] at ih ⊢
      rw [ih]
      ring
  rw [blendedReturn, hsum, sub_div, mul_div_cancel_right₀ _ htotal.ne']

variable [IsStrictOrderedRing K]

/-- What is neither in stocks nor in bonds is in cash. -/
theorem heldIn_add {accounts : List (Account K)} (h : ∀ account ∈ accounts, account.Placed) :
    heldIn (·.stocks) accounts + heldIn (·.bonds) accounts
      + (accounts.map fun a => if a.isSurplusCash then a.balance else 0).sum
      = totalBalance accounts := by
  induction accounts with
  | nil => simp [heldIn, totalBalance]
  | cons account accounts ih =>
    obtain ⟨hfirst, hrest⟩ := List.forall_mem_cons.mp h
    have hsum := ih hrest
    simp only [heldIn, totalBalance, List.map_cons, List.sum_cons] at hsum ⊢
    rcases hfirst with ⟨hinvested, hweights⟩ | ⟨hcash, hweights⟩
    · rw [hinvested, ← hsum]
      have hall : account.balance * account.assetWeights.stocks
          + account.balance * account.assetWeights.bonds = account.balance := by
        rw [← mul_add, hweights, mul_one]
      simp only [Bool.false_eq_true, if_false]
      linarith
    · rw [hcash, hweights, ← hsum]
      simp only [if_true]
      ring

/-- The cash that buckets hold is nothing exactly when each of them holds nothing. -/
theorem cash_eq_zero_iff {accounts : List (Account K)} (h : Solvent accounts) :
    (accounts.map fun a => if a.isSurplusCash then a.balance else 0).sum = 0
      ↔ ∀ account ∈ accounts, account.isSurplusCash = true → account.balance = 0 := by
  constructor
  · intro hsum account hmem hcash
    have hnonneg : ∀ x ∈ accounts.map fun a => if a.isSurplusCash then a.balance else 0, 0 ≤ x := by
      intro x hx
      obtain ⟨a, ha, rfl⟩ := List.mem_map.mp hx
      split
      · exact h a ha
      · exact le_rfl
    have hzero := List.all_zero_of_le_zero_le_of_sum_eq_zero hnonneg hsum
      (List.mem_map_of_mem hmem)
    rwa [if_pos hcash] at hzero
  · intro hall
    refine List.sum_eq_zero fun x hx => ?_
    obtain ⟨a, ha, rfl⟩ := List.mem_map.mp hx
    split
    · rename_i hcash
      exact hall a ha hcash
    · rfl

/-- A new bucket returns what the others do exactly when none of those holds cash. -/
theorem opens_blended_iff {accounts : List (Account K)} (hsolvent : Solvent accounts)
    (hplaced : ∀ account ∈ accounts, account.Placed) (htotal : 0 < totalBalance accounts)
    {t : AccountType} {amount : K} (hamount : 0 < amount)
    (hnew : ∀ account ∈ accounts, account.accountType ≠ t) :
    ∃ bucket, (depositToBucket accounts t amount).1 = accounts ++ [bucket] ∧
      ((∀ returns, effectiveReturn 1 returns bucket = blendedReturn returns accounts) ↔
        ∀ account ∈ accounts, account.isSurplusCash = true → account.balance = 0) := by
  refine ⟨_, depositToBucket_opens hamount htotal hnew, ?_⟩
  have hadd := heldIn_add hplaced
  rw [← cash_eq_zero_iff hsolvent]
  simp only [blendedReturn_eq htotal, effectiveReturn, mul_one, sub_left_inj, add_div]
  constructor
  · intro hreturns
    have hbonds := hreturns (0, 1)
    simp only [mul_zero, zero_add, mul_one, zero_div] at hbonds
    rw [sub_eq_iff_eq_add, ← add_div, eq_div_iff htotal.ne', one_mul] at hbonds
    linarith
  · intro hcash returns
    have hbonds : 1 - heldIn (·.stocks) accounts / totalBalance accounts
        = heldIn (·.bonds) accounts / totalBalance accounts := by
      rw [sub_eq_iff_eq_add, ← add_div, eq_div_iff htotal.ne', one_mul]
      linarith
    rw [hbonds]
    ring

/-! ## The lists a path deposits into -/

/-- Buckets in order, each invested or in cash. -/
structure Invested (accounts : List (Account K)) : Prop where
  buckets : Buckets accounts
  placed : ∀ account ∈ accounts, account.Placed

theorem Invested.deposit {accounts : List (Account K)} (h : Invested accounts) (t : AccountType)
    (amount : K) : Invested (depositToBucket accounts t amount).1 := by
  refine ⟨(depositToBucket_spec h.buckets t amount).1.buckets, ?_⟩
  rw [depositToBucket]
  split
  · exact h.placed
  · cases accounts.find? (·.accountType = t) with
    | some bucket => exact placed_of_placement (placement_setBucketBalance _ _ _) h.placed
    | none =>
      refine List.forall_mem_append.mpr ⟨h.placed, List.forall_mem_singleton.mpr ?_⟩
      by_cases htotal : 0 < totalBalance accounts
      · refine .inl ⟨decide_eq_false htotal.ne', ?_⟩
        simp only [if_pos htotal, add_sub_cancel]
      · have hzero : totalBalance accounts = 0 :=
          le_antisymm (not_lt.mp htotal) (totalBalance_nonneg h.buckets.solvent)
        refine .inr ⟨decide_eq_true hzero, ?_⟩
        simp only [if_neg htotal]

theorem Invested.draw {accounts : List (Account K)} (h : Invested accounts) (t : AccountType)
    (amount : K) : Invested (drawFromBucket accounts t amount).1 := by
  refine ⟨?_, placed_of_placement (placement_drawFromBucket _ _ _) h.placed⟩
  rw [drawFromBucket]
  split
  · exact h.buckets
  · cases hfind : accounts.find? (·.accountType = t) with
    | none => exact h.buckets
    | some bucket =>
      exact (setBucketBalance_spec h.buckets hfind (sub_nonneg.mpr (min_le_right _ _))).buckets

omit [IsStrictOrderedRing K] in
theorem Invested.grow {accounts : List (Account K)} (h : Invested accounts) (fraction : K)
    (returns : K × K) : Invested (growAccounts fraction returns accounts) :=
  ⟨growAccounts_buckets h.buckets fraction returns,
    placed_of_placement (placement_growAccounts _ _ _) h.placed⟩

section Working

variable {prepared : PreparedPlan K} (returns : K × K) (year : ℕ)

/-- A working year once its required distribution and its shortfall draws are made. -/
def workingLoop (prepared : PreparedPlan K) (returns : K × K) (year : ℕ)
    (accounts : List (Account K)) (rmdAmount : K) : ShortfallState K :=
  let c := workingContext prepared year
  c.shortfallLoop shortfallPasses
    (c.start rmdAmount (growAccounts c.periodFraction returns accounts))

/-- The bucket lists a working year deposits its contributions into, and what they leave. -/
def workingDepositLists (prepared : PreparedPlan K) (returns : K × K) (year : ℕ)
    (accounts : List (Account K)) (rmdAmount : K) : List (List (Account K)) :=
  let fraction := prepared.periodFraction year
  let s := workingLoop prepared returns year accounts rmdAmount
  let contributions := s.workingCashFlow.contributions
  let afterHsa := (depositToBucket s.accounts .hsa (contributions.hsa * fraction)).1
  let afterTraditional :=
    (depositToBucket afterHsa .traditional (contributions.traditional * fraction)).1
  let afterRoth := (depositToBucket afterTraditional .roth (contributions.roth * fraction)).1
  [s.accounts, afterHsa, afterTraditional, afterRoth,
    (depositToBucket afterRoth .taxable (contributions.taxable * fraction)).1]

theorem workingDepositLists_invested (h : Prepared prepared) {accounts : List (Account K)}
    (haccounts : Invested accounts) (rmdAmount : K) :
    ∀ buckets ∈ workingDepositLists prepared returns year accounts rmdAmount, Invested buckets := by
  have hcontext := workingContext_valid h year
  have hgrown := haccounts.grow (prepared.periodFraction year) returns
  have hbooks := (workingContext prepared year).shortfallLoop_books hcontext shortfallPasses
    ((workingContext prepared year).start_books hcontext rmdAmount hgrown.buckets)
  have hdrawn : Invested (workingLoop prepared returns year accounts rmdAmount).accounts := by
    refine ⟨hbooks.buckets, placed_of_placement ?_ hgrown.placed⟩
    exact (WorkingContext.placement_shortfallLoop _ _ _).trans (placement_writeBalances _ _)
  have hhsa := hdrawn.deposit .hsa
  have htraditional := fun amount amount' => (hhsa amount).deposit .traditional amount'
  intro buckets hmem
  simp only [workingDepositLists, List.mem_cons, List.not_mem_nil, or_false] at hmem
  rcases hmem with rfl | rfl | rfl | rfl | rfl
  · exact hdrawn
  · exact hhsa _
  · exact htraditional _ _
  · exact (htraditional _ _).deposit _ _
  · exact ((htraditional _ _).deposit _ _).deposit _ _

omit [IsStrictOrderedRing K] in
theorem workingYear_accounts_mem (accounts : List (Account K)) (rothBasis : RothBasisState K)
    (allowance rmdAmount : K) :
    (workingYear prepared returns year accounts rothBasis allowance rmdAmount).accounts
      ∈ workingDepositLists prepared returns year accounts rmdAmount := by
  simp only [workingDepositLists, List.mem_cons, List.not_mem_nil, or_false]
  exact .inr (.inr (.inr (.inr rfl)))

end Working

section Retired

variable [FloorRing K] (log : NaturalLog K) {prepared : PreparedPlan K} (returns : K × K)
  (year : ℕ) {state : ProjectionState K} {rothBasis : RothBasisState K} {rmdAmount : K}

/-- The bucket lists a retired year deposits its excess distribution and its conversion into,
and what those leave. -/
def retiredDepositLists (log : NaturalLog K) (prepared : PreparedPlan K) (returns : K × K)
    (year : ℕ) (state : ProjectionState K) (rothBasis : RothBasisState K) (rmdAmount : K) :
    List (List (Account K)) :=
  let committed := retiredCommitted log prepared returns year state rothBasis rmdAmount
  let accounts := retiredAccounts log prepared returns year state rothBasis rmdAmount
  let conversion := retiredConversion log prepared returns year state rothBasis rmdAmount
  let drawn := (drawFromBucket accounts .traditional conversion.converted).1
  [committed.accounts, accounts, (drawFromBucket drawn .taxable conversion.fromTaxable).1,
    applyConversion accounts conversion]

theorem retiredDepositLists_invested (h : Prepared prepared) (hstate : state.Valid)
    (hinvested : Invested state.accounts) (hledger : rothBasis.Valid) (hrmd : 0 ≤ rmdAmount) :
    ∀ buckets ∈ retiredDepositLists log prepared returns year state rothBasis rmdAmount,
      Invested buckets := by
  have hbooks := retiredCommitted_books log returns year h hstate.buckets hstate.allowance_nonneg
    hstate.care_valid hledger hrmd
  have hgrown := hinvested.grow (prepared.periodFraction year) returns
  have hcommitted : Invested
      (retiredCommitted log prepared returns year state rothBasis rmdAmount).accounts :=
    ⟨hbooks.buckets, placed_of_placement (placement_writeBalances _ _) hgrown.placed⟩
  have haccounts : Invested
      (retiredAccounts log prepared returns year state rothBasis rmdAmount) :=
    hcommitted.deposit .taxable _
  intro buckets hmem
  simp only [retiredDepositLists, List.mem_cons, List.not_mem_nil, or_false] at hmem
  rcases hmem with rfl | rfl | rfl | rfl
  · exact hcommitted
  · exact haccounts
  · exact (haccounts.draw _ _).draw _ _
  · exact ((haccounts.draw _ _).draw _ _).deposit _ _

omit [IsStrictOrderedRing K] in
theorem retiredYear_accounts_mem :
    (retiredYear log prepared returns year state rothBasis rmdAmount).accounts
      ∈ retiredDepositLists log prepared returns year state rothBasis rmdAmount := by
  have haccounts : (retiredYear log prepared returns year state rothBasis rmdAmount).accounts
      = if 0 < (retiredConversion log prepared returns year state rothBasis rmdAmount).converted
        then applyConversion (retiredAccounts log prepared returns year state rothBasis rmdAmount)
          (retiredConversion log prepared returns year state rothBasis rmdAmount)
        else retiredAccounts log prepared returns year state rothBasis rmdAmount := rfl
  rw [haccounts]
  simp only [retiredDepositLists, List.mem_cons, List.not_mem_nil, or_false]
  split
  · exact .inr (.inr (.inr rfl))
  · exact .inr (.inl rfl)

end Retired

/-! ## The path -/

section Path

variable [FloorRing K] (log : NaturalLog K) {prepared : PreparedPlan K} (uniform : Uniform K)
  (returns : ℕ → K × K)

/-- The bucket lists of a year: the one it starts with, those it deposits into, and the one it
ends with. -/
def bucketLists (log : NaturalLog K) (prepared : PreparedPlan K) (returns : K × K) (year : ℕ)
    (state : ProjectionState K) : List (List (Account K)) :=
  state.accounts ::
    if prepared.isRetired year then
      retiredDepositLists log prepared returns year state
        (rothBasisAtStart state.rothBasis (prepared.currentAge year) (prepared.taxYear year))
        (prepared.requiredIn year state)
    else workingDepositLists prepared returns year state.accounts (prepared.requiredIn year state)

theorem bucketLists_invested (h : Prepared prepared) (returns : K × K) (year : ℕ)
    {state : ProjectionState K} (hstate : state.Valid) (hinvested : Invested state.accounts) :
    (∀ buckets ∈ bucketLists log prepared returns year state, Invested buckets) ∧
      (yearOutcome log prepared returns year state).accounts
        ∈ bucketLists log prepared returns year state := by
  rw [bucketLists, yearOutcome]
  split
  · refine ⟨List.forall_mem_cons.mpr ⟨hinvested, ?_⟩, List.mem_cons_of_mem _ ?_⟩
    · exact retiredDepositLists_invested log returns year h hstate hinvested
        (rothBasisAtStart_valid hstate.ledger _ _) (requiredIn_nonneg prepared year hstate)
    · exact retiredYear_accounts_mem log returns year
  · refine ⟨List.forall_mem_cons.mpr ⟨hinvested, ?_⟩, List.mem_cons_of_mem _ ?_⟩
    · exact workingDepositLists_invested returns year h hinvested _
    · exact workingYear_accounts_mem returns year _ _ _ _

omit [IsStrictOrderedRing K] [FloorRing K] in
theorem buckets_of_new {plan : RetirementPlan K} (hnew : PreparedPlan.new plan = .ok prepared) :
    prepared.buckets = toBuckets plan.accounts := by
  rw [PreparedPlan.new] at hnew
  split at hnew
  · cases hnew
  · cases hnew
  · cases hnew
  · cases hnew
    rfl

theorem stateAt_invested (h : Prepared prepared) (hstart : Invested prepared.buckets) (year : ℕ) :
    Invested (stateAt log prepared uniform returns year).accounts := by
  induction year with
  | zero => exact hstart
  | succ year ih =>
    obtain ⟨hlists, houtcome⟩ := bucketLists_invested log h (returns year) year
      (stateAt_valid log uniform returns h year) ih
    rw [stateAt_succ]
    exact hlists _ houtcome

end Path

/-- In every bucket list of every year of an accepted plan's path that holds money, what a deposit
opens for a type the household does not hold returns what the portfolio does, for all returns of
stocks and bonds, if and only if no bucket that was opened in cash holds money. -/
theorem newBucket_return_iff [FloorRing K] (log : NaturalLog K) {plan : RetirementPlan K}
    {prepared : PreparedPlan K} (hplan : validatePlan plan = .ok ())
    (hnew : PreparedPlan.new plan = .ok prepared) (uniform : Uniform K) (returns : ℕ → K × K)
    (year : ℕ) {accounts : List (Account K)}
    (hreached : accounts ∈ bucketLists log prepared (returns year) year
      (stateAt log prepared uniform returns year))
    (htotal : 0 < totalBalance accounts) {t : AccountType} {amount : K} (hamount : 0 < amount)
    (hnotHeld : ∀ account ∈ accounts, account.accountType ≠ t) :
    ∃ bucket, (depositToBucket accounts t amount).1 = accounts ++ [bucket] ∧
      ((∀ marketReturns, effectiveReturn 1 marketReturns bucket
          = blendedReturn marketReturns accounts) ↔
        ∀ account ∈ accounts, account.isSurplusCash = true → account.balance = 0) := by
  obtain ⟨hprepared, -⟩ := prepared_of_new hplan hnew
  have hstart : Invested prepared.buckets := by
    refine ⟨hprepared.buckets, ?_⟩
    rw [buckets_of_new hnew]
    exact toBuckets_placed _
  have hinvested := (bucketLists_invested log hprepared (returns year) year
    (stateAt_valid log uniform returns hprepared year)
    (stateAt_invested log uniform returns hprepared hstart year)).1 accounts hreached
  exact opens_blended_iff hinvested.buckets.solvent hinvested.placed htotal hamount hnotHeld

/-- The buckets of `gapYearPlan` are both invested, and a Roth opened beside them would be as
they are. -/
theorem newBucket_return_iff_gapYear :
    ∃ bucket, (depositToBucket gapYearPrepared.buckets .roth 100).1
        = gapYearPrepared.buckets ++ [bucket] ∧
      ∀ marketReturns, effectiveReturn 1 marketReturns bucket
        = blendedReturn marketReturns gapYearPrepared.buckets := by
  obtain ⟨bucket, hopened, hiff⟩ := newBucket_return_iff NaturalLog.flat gapYearPlan_valid
    (rfl : PreparedPlan.new gapYearPlan = .ok gapYearPrepared) ⟨0, le_rfl, one_pos⟩
    (fun _ => (1 / 1000, 0)) 0 List.mem_cons_self
    (by decide +kernel : 0 < totalBalance gapYearPrepared.buckets)
    (by norm_num : (0 : ℚ) < 100) (by decide +kernel : ∀ account ∈ gapYearPrepared.buckets,
      account.accountType ≠ .roth)
  refine ⟨bucket, hopened, hiff.mpr ?_⟩
  decide +kernel

/-- A worker of 45 without savings, who is paid well and may use an HSA. -/
def unsavedPlan : RetirementPlan ℚ :=
  { gapYearPlan with
    profile :=
      { gapYearPlan.profile with
        birthDate := some (newYear 1980)
        retirementAge := 65
        lifeExpectancy := 90
        currentSalary := 200000
        currentSpending := 50000 }
    accounts := []
    assumptions := { gapYearPlan.assumptions with hsaEligible := true } }

/-- `unsavedPlan`, prepared. -/
def unsavedPrepared : PreparedPlan ℚ :=
  PreparedPlan.onDates unsavedPlan (newYear 2025) 1980 45

/-- The HSA of `unsavedPlan` opens in cash, and the Traditional contribution of the same year
opens all in bonds. -/
theorem newBucket_not_blended_unsaved :
    validatePlan unsavedPlan = .ok () ∧ PreparedPlan.new unsavedPlan = .ok unsavedPrepared ∧
      ∃ accounts ∈ bucketLists NaturalLog.flat unsavedPrepared (1 / 1000, 0) 0
          (stateAt NaturalLog.flat unsavedPrepared ⟨0, le_rfl, one_pos⟩ (fun _ => (1 / 1000, 0)) 0),
        0 < totalBalance accounts ∧ (∀ account ∈ accounts, account.accountType ≠ .traditional) ∧
        ∃ bucket, (depositToBucket accounts .traditional 23500).1 = accounts ++ [bucket] ∧
          effectiveReturn 1 (0, 1 / 10) bucket ≠ blendedReturn (0, 1 / 10) accounts :=
  ⟨by decide +kernel, rfl, [⟨.hsa, 4300, ⟨0, 0⟩, true⟩], by decide +kernel, by decide +kernel,
    by decide, ⟨.traditional, 23500, ⟨0, 1⟩, false⟩, by decide +kernel, by decide +kernel⟩

end RetirementPlanner.Engine
