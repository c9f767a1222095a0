import RetirementPlanner.Proof.Path

/-!
# What is held, not how it is listed

A projection reads the accounts only through its buckets
(`projectScenarioPrepared_listing`), and a bucket only adds over its members. So
another order of the accounts, or other accounts with the money of one type at the
same blend, is the same projection (`projectScenario_sameHoldings`).
-/

namespace RetirementPlanner.Engine

variable {K : Type*} [Field K] [LinearOrder K]

/-! ## Listings -/

/-- The balances of some accounts times their stock weights. -/
def stocksHeld (accounts : List (Account K)) : K :=
  (accounts.map fun a => a.balance * a.assetWeights.stocks).sum

/-- The balance-weighted stock share of some accounts. -/
def stockShare (accounts : List (Account K)) : K := stocksHeld accounts / totalBalance accounts

/-- An account of a type that holds money. -/
def Account.IsFunded (accountType : AccountType) (account : Account K) : Prop :=
  account.accountType = accountType ∧ 0 < account.balance

instance (accountType : AccountType) (account : Account K) :
    Decidable (account.IsFunded accountType) :=
  inferInstanceAs (Decidable (_ ∧ _))

/-- Listings of the same holdings: the accounts in another order, or with those of one
type that hold money replaced by others of the type with the same total and the same
stock share. -/
inductive SameHoldings (accounts : List (Account K)) : List (Account K) → Prop
  | reorder {accounts' : List (Account K)} (h : accounts.Perm accounts') :
    SameHoldings accounts accounts'
  | regroup {accounts' : List (Account K)} (accountType : AccountType)
    (replacement : List (Account K))
    (type_eq : ∀ account ∈ replacement, account.accountType = accountType)
    (total_pos : 0 < totalBalance replacement)
    (total_eq : totalBalance replacement
      = totalBalance (accounts.filter (·.IsFunded accountType)))
    (share_eq : stockShare replacement = stockShare (accounts.filter (·.IsFunded accountType)))
    (h : (replacement ++ accounts.filter (¬·.IsFunded accountType)).Perm accounts') :
    SameHoldings accounts accounts'

/-! ## Buckets -/

/-- The bucket of one type. -/
def bucketOf (accountType : AccountType) (members : List (Account K)) : Option (Account K) :=
  if members = [] then none
  else
    let stocks :=
      if 0 < totalBalance members then stocksHeld members / totalBalance members
      else (members.map (·.assetWeights.stocks)).sum / members.length
    some ⟨accountType, totalBalance members, ⟨stocks, 1 - stocks⟩, false⟩

theorem toBuckets_eq (accounts : List (Account K)) :
    toBuckets accounts = bucketOrder.filterMap fun accountType =>
      bucketOf accountType (accounts.filter (·.accountType = accountType)) := rfl

omit [LinearOrder K] in
theorem totalBalance_perm {accounts accounts' : List (Account K)} (h : accounts.Perm accounts') :
    totalBalance accounts = totalBalance accounts' :=
  (h.map _).sum_eq

omit [LinearOrder K] in
theorem stocksHeld_perm {accounts accounts' : List (Account K)} (h : accounts.Perm accounts') :
    stocksHeld accounts = stocksHeld accounts' :=
  (h.map _).sum_eq

omit [LinearOrder K] in
theorem totalBalance_append (accounts accounts' : List (Account K)) :
    totalBalance (accounts ++ accounts') = totalBalance accounts + totalBalance accounts' := by
  rw [totalBalance, List.map_append, List.sum_append]
  rfl

omit [LinearOrder K] in
theorem stocksHeld_append (accounts accounts' : List (Account K)) :
    stocksHeld (accounts ++ accounts') = stocksHeld accounts + stocksHeld accounts' := by
  rw [stocksHeld, List.map_append, List.sum_append]
  rfl

theorem bucketOf_perm (accountType : AccountType) {members members' : List (Account K)}
    (h : members.Perm members') : bucketOf accountType members = bucketOf accountType members' := by
  have hnil : members = [] ↔ members' = [] := by
    rw [← List.length_eq_zero_iff, h.length_eq, List.length_eq_zero_iff]
  simp only [bucketOf, hnil, totalBalance_perm h, stocksHeld_perm h, h.length_eq,
    (h.map fun a : Account K => a.assetWeights.stocks).sum_eq]

/-- A bucket with money in it shows its total and its blend, nothing else. -/
theorem bucketOf_of_total (accountType : AccountType) {members members' : List (Account K)}
    (hpos : 0 < totalBalance members) (htotal : totalBalance members' = totalBalance members)
    (hstocks : stocksHeld members' = stocksHeld members) :
    bucketOf accountType members' = bucketOf accountType members := by
  have hne {l : List (Account K)} (hl : 0 < totalBalance l) : l ≠ [] := by
    rintro rfl
    exact lt_irrefl _ hl
  rw [bucketOf, bucketOf, if_neg (hne hpos), if_neg (hne (htotal ▸ hpos))]
  simp only [htotal, hstocks, if_pos hpos]

theorem toBuckets_perm {accounts accounts' : List (Account K)} (h : accounts.Perm accounts') :
    toBuckets accounts = toBuckets accounts' := by
  rw [toBuckets_eq, toBuckets_eq]
  exact List.filterMap_congr fun accountType _ => bucketOf_perm accountType (h.filter _)

/-- The members of a type, those that hold money first. -/
theorem filter_type_perm (accountType : AccountType) (accounts : List (Account K)) :
    (accounts.filter (·.IsFunded accountType) ++ (accounts.filter (¬·.IsFunded accountType)).filter
        (·.accountType = accountType)).Perm
      (accounts.filter (·.accountType = accountType)) := by
  have hfilter : (accounts.filter (·.IsFunded accountType)).filter (·.accountType = accountType)
      = accounts.filter (·.IsFunded accountType) := by
    rw [List.filter_eq_self]
    intro account hmem
    rw [List.mem_filter] at hmem
    exact decide_eq_true (of_decide_eq_true hmem.2).1
  have hperm := (List.filter_append_perm (fun a : Account K => decide (a.IsFunded accountType))
    accounts).filter (fun a => decide (a.accountType = accountType))
  rw [List.filter_append, hfilter] at hperm
  simpa only [decide_not] using hperm

variable [IsStrictOrderedRing K]

theorem toBuckets_regroup {accounts accounts' replacement : List (Account K)}
    (hsolvent : Solvent accounts) {accountType : AccountType}
    (htype : ∀ account ∈ replacement, account.accountType = accountType)
    (hpos : 0 < totalBalance replacement)
    (htotal : totalBalance replacement
      = totalBalance (accounts.filter (·.IsFunded accountType)))
    (hshare : stockShare replacement = stockShare (accounts.filter (·.IsFunded accountType)))
    (h : (replacement ++ accounts.filter (¬·.IsFunded accountType)).Perm accounts') :
    toBuckets accounts' = toBuckets accounts := by
  have hstocks : stocksHeld replacement
      = stocksHeld (accounts.filter (·.IsFunded accountType)) := by
    rw [stockShare, stockShare, ← htotal] at hshare
    exact (div_left_inj' hpos.ne').mp hshare
  rw [← toBuckets_perm h, toBuckets_eq, toBuckets_eq]
  refine List.filterMap_congr fun t _ => ?_
  rw [List.filter_append]
  by_cases ht : t = accountType
  · subst ht
    have hmembers : replacement.filter (·.accountType = t) = replacement :=
      List.filter_eq_self.mpr fun account hmem => decide_eq_true (htype account hmem)
    have hothers : 0 ≤ totalBalance
        ((accounts.filter (¬·.IsFunded t)).filter (·.accountType = t)) := by
      refine List.sum_nonneg fun v hv => ?_
      obtain ⟨account, haccount, rfl⟩ := List.mem_map.mp hv
      exact hsolvent account (List.mem_of_mem_filter (List.mem_of_mem_filter haccount))
    rw [hmembers, ← bucketOf_perm t (filter_type_perm t accounts)]
    refine bucketOf_of_total t ?_ ?_ ?_
    · rw [totalBalance_append, ← htotal]
      linarith
    · rw [totalBalance_append, totalBalance_append, htotal]
    · rw [stocksHeld_append, stocksHeld_append, hstocks]
  · -- The other types keep their accounts.
    have hnone : replacement.filter (·.accountType = t) = [] := by
      refine List.filter_eq_nil_iff.mpr fun account hmem => ?_
      rw [htype account hmem, decide_eq_true_eq]
      exact fun heq => ht heq.symm
    have hkept : (accounts.filter (¬·.IsFunded accountType)).filter (·.accountType = t)
        = accounts.filter (·.accountType = t) := by
      rw [List.filter_filter]
      refine List.filter_congr fun account _ => ?_
      rw [← Bool.decide_and, decide_eq_decide]
      exact ⟨And.left, fun htype => ⟨htype, fun hfunded => ht (htype.symm.trans hfunded.1)⟩⟩
    rw [hnone, hkept, List.nil_append]

theorem toBuckets_sameHoldings {accounts accounts' : List (Account K)}
    (hsolvent : Solvent accounts) (h : SameHoldings accounts accounts') :
    toBuckets accounts' = toBuckets accounts := by
  cases h with
  | reorder h => exact (toBuckets_perm h).symm
  | regroup accountType replacement htype hpos htotal hshare h =>
    exact toBuckets_regroup hsolvent htype hpos htotal hshare h

/-! ## The projection -/

/-- The prepared plan with its accounts listed otherwise. -/
def PreparedPlan.listing (prepared : PreparedPlan K) (accounts : List (Account K)) :
    PreparedPlan K :=
  { prepared with plan := { prepared.plan with accounts } }

section Listing

omit [IsStrictOrderedRing K]

variable (prepared : PreparedPlan K) (accounts : List (Account K))

theorem workingYear_listing : workingYear (prepared.listing accounts) = workingYear prepared :=
  (rfl)

variable [FloorRing K] (log : NaturalLog K)

theorem retiredYear_listing :
    retiredYear log (prepared.listing accounts) = retiredYear log prepared :=
  (rfl)

theorem yearOutcome_listing :
    yearOutcome log (prepared.listing accounts) = yearOutcome log prepared := by
  funext returns year state
  simp only [yearOutcome, workingYear_listing, retiredYear_listing]
  rfl

theorem Path.step_listing (returns : ℕ → K × K) :
    Path.step log (prepared.listing accounts) returns = Path.step log prepared returns := by
  funext path year
  simp only [Path.step, yearOutcome_listing]
  rfl

/-- Past its buckets, nothing of a projection reads the accounts of the plan. -/
theorem projectScenarioPrepared_listing (uniform : Uniform K) (returns : ℕ → K × K) :
    projectScenarioPrepared log (prepared.listing accounts) uniform returns
      = projectScenarioPrepared log prepared uniform returns := by
  simp only [projectScenarioPrepared, Path.upTo, Path.step_listing]
  rfl

end Listing

omit [IsStrictOrderedRing K] in
theorem prepared_sameHoldings {plan : RetirementPlan K} {accounts : List (Account K)}
    (hbuckets : toBuckets accounts = toBuckets plan.accounts) :
    PreparedPlan.new { plan with accounts } = (PreparedPlan.new plan).map (·.listing accounts) := by
  simp only [PreparedPlan.new]
  split <;> simp_all [Except.map, PreparedPlan.onDates, PreparedPlan.listing]

/-- A projection depends on what is held, not on how it is listed: the accounts in
another order, or those of one type that hold money replaced by others of the type with
the same positive total and the same balance-weighted stock share, whatever else the
plan lists, make for the same rows and the same verdict. -/
theorem projectScenario_sameHoldings [FloorRing K] (log : NaturalLog K) {plan : RetirementPlan K}
    (hplan : validatePlan plan = .ok ()) {accounts : List (Account K)}
    (hsame : SameHoldings plan.accounts accounts) (uniform : Uniform K) (returns : ℕ → K × K) :
    ∃ result, projectScenario log plan uniform returns = .ok result ∧
      projectScenario log { plan with accounts } uniform returns = .ok result := by
  obtain ⟨prepared, hnew⟩ := exists_prepared hplan
  have hbuckets := toBuckets_sameHoldings (validPlan_of_validatePlan hplan).solvent hsame
  refine ⟨projectScenarioPrepared log prepared uniform returns, ?_, ?_⟩
  · rw [projectScenario, hnew]
    rfl
  · rw [projectScenario, prepared_sameHoldings hbuckets, hnew]
    exact congrArg _ (projectScenarioPrepared_listing prepared accounts log uniform returns)

/-- A Traditional balance in two accounts of different blends, beside an empty account
of the type. -/
def splitHoldingsPlan : RetirementPlan ℚ :=
  { largeBenefitPlan with
    accounts := [⟨.traditional, 1000000, ⟨9 / 10, 1 / 10⟩, false⟩,
      ⟨.traditional, 0, ⟨0, 1⟩, false⟩, ⟨.hsa, 500000, ⟨1, 0⟩, false⟩,
      ⟨.traditional, 2000000, ⟨6 / 10, 4 / 10⟩, false⟩] }

theorem projectScenario_sameHoldings_merged :
    ∃ result, projectScenario NaturalLog.flat splitHoldingsPlan ⟨0, le_rfl, one_pos⟩
        (fun _ => (0, 0)) = .ok result ∧
      projectScenario NaturalLog.flat
        { splitHoldingsPlan with
          accounts := [⟨.hsa, 500000, ⟨1, 0⟩, false⟩,
            ⟨.traditional, 3000000, ⟨7 / 10, 3 / 10⟩, false⟩,
            ⟨.traditional, 0, ⟨0, 1⟩, false⟩] }
        ⟨0, le_rfl, one_pos⟩ (fun _ => (0, 0)) = .ok result :=
  projectScenario_sameHoldings NaturalLog.flat (by decide +kernel)
    (.regroup .traditional [⟨.traditional, 3000000, ⟨7 / 10, 3 / 10⟩, false⟩] (by decide)
      (by decide +kernel) (by decide +kernel) (by decide +kernel) (by decide +kernel))
    ⟨0, le_rfl, one_pos⟩ (fun _ => (0, 0))

end RetirementPlanner.Engine
