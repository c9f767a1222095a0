import RetirementPlanner.Proof.YearTax

/-!
# The cash flow of a working year

What four passes of the pre-tax waterfall settle on (`cashFlow_spec`). Each pass
deducts what the pass before left, so the contributions only rise
(`cashFlowPasses`), and the last pass has the money for them: a household is never
short of cash because it contributed (`CashFlow.short`). Otherwise the year balances to
the dollar, with every contribution within its limit (`calculateWorkingCashFlow_balances`).
-/

namespace RetirementPlanner.Engine

variable {K : Type*} [Field K] [LinearOrder K] [IsStrictOrderedRing K]

/-- Cash before contributions, on a year's tax. -/
def cashBeforeContributions (grossIncome annualSpending : K) (other : OtherIncome K) (tax : K) :
    K :=
  grossIncome + other.ordinary - tax - annualSpending

/-! ## The contributions of one pass -/

section Pass

variable (grossIncome hsaMax k401Max : K) (age : ℕ)

/-- The HSA contribution of a pass with `available` cash. -/
def hsaOfPass (available : K) : K :=
  min (min (max (min hsaMax (max available 0)) 0) (getHsaContributionLimit age)) grossIncome

/-- The 401(k) contribution of a pass with `available` cash. -/
def k401OfPass (available : K) : K :=
  min (min (max (min k401Max (max (max available 0 - min hsaMax (max available 0)) 0)) 0)
    (getK401ContributionLimit age))
    (max (grossIncome - hsaOfPass grossIncome hsaMax age available) 0)

theorem getHsaContributionLimit_nonneg : (0 : K) ≤ getHsaContributionLimit age := by
  rw [getHsaContributionLimit]
  split <;> norm_num

theorem getK401ContributionLimit_nonneg : (0 : K) ≤ getK401ContributionLimit age := by
  rw [getK401ContributionLimit]
  split_ifs <;> norm_num

theorem getIraContributionLimit_nonneg : (0 : K) ≤ getIraContributionLimit age := by
  rw [getIraContributionLimit]
  split <;> norm_num

variable {grossIncome hsaMax k401Max} {age}

theorem hsaOfPass_nonneg (hg : 0 ≤ grossIncome) (available : K) :
    0 ≤ hsaOfPass grossIncome hsaMax age available :=
  le_min (le_min (le_max_right _ _) (getHsaContributionLimit_nonneg age)) hg

theorem k401OfPass_nonneg (available : K) :
    0 ≤ k401OfPass grossIncome hsaMax k401Max age available :=
  le_min (le_min (le_max_right _ _) (getK401ContributionLimit_nonneg age)) (le_max_right _ _)

omit [IsStrictOrderedRing K] in
theorem hsaOfPass_mono {a a' : K} (h : a ≤ a') :
    hsaOfPass grossIncome hsaMax age a ≤ hsaOfPass grossIncome hsaMax age a' :=
  min_le_min (min_le_min (max_le_max (min_le_min le_rfl (max_le_max h le_rfl)) le_rfl) le_rfl)
    le_rfl

/-- The 401(k) is only funded once the HSA has all it may hold, so what a richer
pass adds to the HSA never comes out of it. -/
theorem k401OfPass_mono {a a' : K} (h : a ≤ a') :
    k401OfPass grossIncome hsaMax k401Max age a ≤ k401OfPass grossIncome hsaMax k401Max age a' := by
  have hmax : max a 0 ≤ max a' 0 := max_le_max h le_rfl
  rcases le_or_gt (max a 0) hsaMax with hle | hgt
  · -- Nothing is left for the 401(k).
    have hzero : k401OfPass grossIncome hsaMax k401Max age a ≤ 0 := by
      refine (min_le_left _ _).trans ((min_le_left _ _).trans (max_le ?_ le_rfl))
      rw [min_eq_right hle, sub_self, max_self]
      exact min_le_right _ _
    exact hzero.trans (k401OfPass_nonneg a')
  · have hhsa : hsaOfPass grossIncome hsaMax age a = hsaOfPass grossIncome hsaMax age a' := by
      rw [hsaOfPass, hsaOfPass, min_eq_left hgt.le, min_eq_left (hgt.le.trans hmax)]
    rw [k401OfPass, k401OfPass, hhsa, min_eq_left hgt.le, min_eq_left (hgt.le.trans hmax)]
    refine min_le_min (min_le_min (max_le_max (min_le_min le_rfl ?_) le_rfl) le_rfl) le_rfl
    exact max_le_max (by linarith) le_rfl

theorem hsaOfPass_of_nonpos (hg : 0 ≤ grossIncome) (hhsa : 0 ≤ hsaMax) {available : K}
    (h : available ≤ 0) : hsaOfPass grossIncome hsaMax age available = 0 := by
  rw [hsaOfPass, max_eq_right h, min_eq_right hhsa, max_self,
    min_eq_left (getHsaContributionLimit_nonneg _), min_eq_left hg]

theorem k401OfPass_of_nonpos (hhsa : 0 ≤ hsaMax) (hk401 : 0 ≤ k401Max) {available : K}
    (h : available ≤ 0) : k401OfPass grossIncome hsaMax k401Max age available = 0 := by
  rw [k401OfPass, max_eq_right h, min_eq_right hhsa, sub_zero, max_self, min_eq_right hk401,
    max_self, min_eq_left (getK401ContributionLimit_nonneg _), min_eq_left (le_max_right _ _)]

/-- A pass never contributes more than the cash it has. -/
theorem contributions_le (hsaMax_nonneg : 0 ≤ hsaMax) (available : K) :
    hsaOfPass grossIncome hsaMax age available + k401OfPass grossIncome hsaMax k401Max age available
      ≤ max available 0 := by
  have hroom : 0 ≤ max available 0 := le_max_right _ _
  have h1 : hsaOfPass grossIncome hsaMax age available ≤ min hsaMax (max available 0) := by
    refine (min_le_left _ _).trans ((min_le_left _ _).trans ?_)
    rw [max_eq_left (le_min hsaMax_nonneg hroom)]
  have h2 : k401OfPass grossIncome hsaMax k401Max age available
      ≤ max available 0 - min hsaMax (max available 0) := by
    have hrest : 0 ≤ max available 0 - min hsaMax (max available 0) :=
      sub_nonneg.mpr (min_le_right _ _)
    refine (min_le_left _ _).trans ((min_le_left _ _).trans (max_le ?_ hrest))
    rw [max_eq_left hrest]
    exact min_le_right _ _
  linarith

end Pass

/-! ## The passes -/

/-- A tax result at the contributions of a pass with `available` cash. -/
structure PassResult (grossIncome hsaMax k401Max : K) (household : Household) (state : State)
    (taxYear : ℤ) (other : OtherIncome K) (available : K) (tax : TaxResult K) : Prop where
  hsa_eq : tax.hsaContribution = hsaOfPass grossIncome hsaMax household.primaryAge available
  k401_eq : tax.k401Contribution
    = k401OfPass grossIncome hsaMax k401Max household.primaryAge available
  tax_eq : tax.totalTax = workingTaxOn grossIncome household state taxYear tax.hsaContribution
    tax.k401Contribution other.ordinary other.qualified

section Passes

variable (grossIncome annualSpending hsaMax k401Max : K) (household : Household) (state : State)
  (taxYear : ℤ) {other : OtherIncome K}

theorem workingTaxPass_result (hq : 0 ≤ other.qualified) (tax : TaxResult K) :
    PassResult grossIncome hsaMax k401Max household state taxYear other
      (cashBeforeContributions grossIncome annualSpending other tax.totalTax)
      (workingTaxPass grossIncome annualSpending household state taxYear hsaMax k401Max other
        tax) :=
  ⟨rfl, rfl, calculateTax_totalTax grossIncome hq household state taxYear _ _⟩

variable {grossIncome}

/-- The tax the passes start from deducts no contribution. -/
theorem startTax_eq (hg : 0 ≤ grossIncome) (hq : 0 ≤ other.qualified) :
    (calculateTax grossIncome other.qualified household state taxYear ⟨0, 0⟩
        other.ordinary).totalTax
      = workingTaxOn grossIncome household state taxYear 0 0 other.ordinary other.qualified := by
  set start := calculateTax grossIncome other.qualified household state taxYear ⟨0, 0⟩
    other.ordinary with hstart
  have hhsa : start.hsaContribution = 0 := by
    change min (min (max (0 : K) 0) _) grossIncome = 0
    rw [max_self, min_eq_left (getHsaContributionLimit_nonneg _), min_eq_left hg]
  have hk401 : start.k401Contribution = 0 := by
    change min (min (max (0 : K) 0) _) (max (grossIncome - _) 0) = 0
    rw [max_self, min_eq_left (getK401ContributionLimit_nonneg _), min_eq_left (le_max_right _ _)]
  have htax := calculateTax_totalTax grossIncome hq household state taxYear ⟨0, 0⟩ other.ordinary
  rwa [← hstart, hhsa, hk401] at htax

/-- Every pass leaves at least the cash the pass before it left. -/
theorem cashFlowPasses (hg : 0 ≤ grossIncome) (hq : 0 ≤ other.qualified) (passes : ℕ) :
    let pass := workingTaxPass grossIncome annualSpending household state taxYear hsaMax k401Max
      other
    let start := calculateTax grossIncome other.qualified household state taxYear ⟨0, 0⟩
      other.ordinary
    let cash := cashBeforeContributions grossIncome annualSpending other
    cash start.totalTax ≤ cash (pass^[passes] start).totalTax ∧
      cash (pass^[passes] start).totalTax ≤ cash (pass^[passes + 1] start).totalTax := by
  intro pass start cash
  have hstart := startTax_eq household state taxYear hg hq
  have hresult (tax : TaxResult K) : PassResult grossIncome hsaMax k401Max household state taxYear
      other (cash tax.totalTax) (pass tax) :=
    workingTaxPass_result grossIncome annualSpending hsaMax k401Max household state taxYear hq tax
  induction passes with
  | zero =>
    have hfirst := hresult start
    have htax : (pass start).totalTax ≤ start.totalTax := by
      rw [hfirst.tax_eq, hstart, hfirst.hsa_eq, hfirst.k401_eq]
      exact workingTax_mono _ _ _ _ (hsaOfPass_nonneg hg _) (k401OfPass_nonneg _) le_rfl hq le_rfl
    refine ⟨le_rfl, ?_⟩
    simp only [cash, cashBeforeContributions, Nat.zero_add, Function.iterate_one,
      Function.iterate_zero, id_eq]
    linarith
  | succ passes ih =>
    obtain ⟨ih1, ih2⟩ := ih
    refine ⟨ih1.trans ih2, ?_⟩
    rw [Function.iterate_succ_apply' pass (passes + 1), Function.iterate_succ_apply' pass passes]
    rw [Function.iterate_succ_apply' pass passes] at ih2
    have h1 := hresult (pass^[passes] start)
    have h2 := hresult (pass (pass^[passes] start))
    have htax : (pass (pass (pass^[passes] start))).totalTax
        ≤ (pass (pass^[passes] start)).totalTax := by
      rw [h2.tax_eq, h1.tax_eq, h2.hsa_eq, h2.k401_eq, h1.hsa_eq, h1.k401_eq]
      exact workingTax_mono _ _ _ _ (hsaOfPass_mono ih2) (k401OfPass_mono ih2) le_rfl hq le_rfl
    simp only [cash, cashBeforeContributions]
    linarith

/-- Without cash to contribute, no pass changes anything. -/
theorem cashFlowPasses_of_nonpos (hg : 0 ≤ grossIncome) (hq : 0 ≤ other.qualified)
    (hhsa : 0 ≤ hsaMax) (hk401 : 0 ≤ k401Max)
    (hshort : cashBeforeContributions grossIncome annualSpending other
      (workingTaxOn grossIncome household state taxYear 0 0 other.ordinary other.qualified) ≤ 0)
    (passes : ℕ) :
    ((workingTaxPass grossIncome annualSpending household state taxYear hsaMax k401Max
      other)^[passes] (calculateTax grossIncome other.qualified household state taxYear ⟨0, 0⟩
        other.ordinary)).totalTax
      = workingTaxOn grossIncome household state taxYear 0 0 other.ordinary other.qualified := by
  induction passes with
  | zero => exact startTax_eq household state taxYear hg hq
  | succ passes ih =>
    rw [Function.iterate_succ_apply']
    have hresult := workingTaxPass_result grossIncome annualSpending hsaMax k401Max household state
      taxYear hq
      ((workingTaxPass grossIncome annualSpending household state taxYear hsaMax k401Max
        other)^[passes] (calculateTax grossIncome other.qualified household state taxYear ⟨0, 0⟩
          other.ordinary))
    rw [ih] at hresult
    rw [hresult.tax_eq, hresult.hsa_eq, hresult.k401_eq, hsaOfPass_of_nonpos hg hhsa hshort,
      k401OfPass_of_nonpos hhsa hk401 hshort]

end Passes

/-! ## The settled cash flow -/

/-- The cash of a working year that contributes nothing before tax. -/
def uncontributedCash (grossIncome annualSpending : K) (household : Household) (state : State)
    (taxYear : ℤ) (other : OtherIncome K) : K :=
  cashBeforeContributions grossIncome annualSpending other
    (workingTaxOn grossIncome household state taxYear 0 0 other.ordinary other.qualified)

/-- What a working year's cash flow settles on. -/
structure CashFlow (grossIncome annualSpending : K) (household : Household) (state : State)
    (taxYear : ℤ) (other : OtherIncome K) (r : WorkingCashFlowResult K) : Prop where
  hsa_nonneg : 0 ≤ r.contributions.hsa
  traditional_nonneg : 0 ≤ r.contributions.traditional
  roth_nonneg : 0 ≤ r.contributions.roth
  taxable_nonneg : 0 ≤ r.contributions.taxable
  net_eq : r.netCashFlow = cashBeforeContributions grossIncome annualSpending other r.tax.totalTax
    - r.contributions.hsa - r.contributions.traditional
  /-- After-tax savings are what is left. -/
  saved : r.contributions.roth + r.contributions.taxable = max r.netCashFlow 0
  /-- A household without cash contributes nothing. -/
  short : uncontributedCash grossIncome annualSpending household state taxYear other ≤ 0 →
    r.contributions.hsa = 0 ∧ r.contributions.traditional = 0 ∧
      r.netCashFlow = uncontributedCash grossIncome annualSpending household state taxYear other
  /-- One with cash stays out of the red whatever it contributes. -/
  funded : 0 < uncontributedCash grossIncome annualSpending household state taxYear other →
    0 ≤ r.netCashFlow

theorem cashFlow_spec {grossIncome : K} (annualSpending : K) (household : Household) (state : State)
    (taxYear : ℤ) (policy : ContributionPolicy) {other : OtherIncome K} (hg : 0 ≤ grossIncome)
    (hq : 0 ≤ other.qualified) :
    CashFlow grossIncome annualSpending household state taxYear other
      (calculateWorkingCashFlow grossIncome annualSpending household state taxYear policy
        other) := by
  set hsaMax : K := if policy.hsaEligible then getHsaContributionLimit household.primaryAge else 0
    with hhsaMax
  set k401Max : K := getK401ContributionLimit household.primaryAge with hk401Max
  have hhsa0 : 0 ≤ hsaMax := by
    rw [hhsaMax]
    split
    · exact getHsaContributionLimit_nonneg _
    · exact le_rfl
  have hk4010 : 0 ≤ k401Max := getK401ContributionLimit_nonneg _
  have hira : 0 ≤ getIraContributionLimit (K := K) household.primaryAge :=
    getIraContributionLimit_nonneg _
  obtain ⟨hrise, hlast⟩ := cashFlowPasses annualSpending hsaMax k401Max household state taxYear hg
    hq 3
  have hstart := startTax_eq household state taxYear hg hq
  have hnone := cashFlowPasses_of_nonpos annualSpending hsaMax k401Max household state taxYear hg hq
    hhsa0 hk4010
  set start := calculateTax grossIncome other.qualified household state taxYear ⟨0, 0⟩
    other.ordinary
  set pass := workingTaxPass grossIncome annualSpending household state taxYear hsaMax k401Max other
  set cash := cashBeforeContributions grossIncome annualSpending other with hcash
  have hresult : PassResult grossIncome hsaMax k401Max household state taxYear other
      (cash (pass^[3] start).totalTax) (pass^[3 + 1] start) := by
    rw [Function.iterate_succ_apply']
    exact workingTaxPass_result grossIncome annualSpending hsaMax k401Max household state taxYear hq
      (pass^[3] start)
  set last := pass^[3 + 1] start with hlastDef
  have huncontributed : uncontributedCash grossIncome annualSpending household state taxYear other
      = cash start.totalTax := by rw [hstart]; rfl
  have hhsa : 0 ≤ last.hsaContribution := hresult.hsa_eq ▸ hsaOfPass_nonneg hg _
  have hk401 : 0 ≤ last.k401Contribution := hresult.k401_eq ▸ k401OfPass_nonneg _
  set net := cash last.totalTax - last.hsaContribution - last.k401Contribution with hnet
  have hcashFlow : calculateWorkingCashFlow grossIncome annualSpending household state taxYear
      policy other
      = ⟨last, ⟨last.hsaContribution, last.k401Contribution,
          if policy.useBackdoorRoth then min (getIraContributionLimit household.primaryAge)
            (max net 0) else 0,
          max net 0 - if policy.useBackdoorRoth then
            min (getIraContributionLimit household.primaryAge) (max net 0) else 0⟩, net⟩ := rfl
  rw [hcashFlow]
  have hroth : 0 ≤ (if policy.useBackdoorRoth then
      min (getIraContributionLimit household.primaryAge) (max net 0) else 0) := by
    split
    · exact le_min hira (le_max_right _ _)
    · exact le_rfl
  have hroth_le : (if policy.useBackdoorRoth then
      min (getIraContributionLimit household.primaryAge) (max net 0) else 0) ≤ max net 0 := by
    split
    · exact min_le_right _ _
    · exact le_max_right _ _
  refine ⟨hhsa, hk401, hroth, sub_nonneg.mpr hroth_le, rfl, add_sub_cancel _ _, fun hshort => ?_,
    fun hfunded => ?_⟩
  · have htax := hnone hshort
    have hle : cash (pass^[3] start).totalTax ≤ 0 := by
      rw [htax 3]
      exact hshort
    have h1 : last.hsaContribution = 0 := hresult.hsa_eq.trans (hsaOfPass_of_nonpos hg hhsa0 hle)
    have h2 : last.k401Contribution = 0 :=
      hresult.k401_eq.trans (k401OfPass_of_nonpos hhsa0 hk4010 hle)
    have htotal : last.totalTax
        = workingTaxOn grossIncome household state taxYear 0 0 other.ordinary other.qualified :=
      htax (3 + 1)
    refine ⟨h1, h2, ?_⟩
    change net = _
    rw [hnet, h1, h2, htotal, sub_zero, sub_zero]
    rfl
  · have hle : last.hsaContribution + last.k401Contribution
        ≤ max (cash (pass^[3] start).totalTax) 0 := by
      rw [hresult.hsa_eq, hresult.k401_eq]
      exact contributions_le hhsa0 _
    have hpos : 0 ≤ cash (pass^[3] start).totalTax := (huncontributed ▸ hfunded).le.trans hrise
    rw [max_eq_left hpos] at hle
    change 0 ≤ net
    rw [hnet]
    linarith

/-! ## Limits -/

/-- What a policy lets a household put into its HSA. -/
def hsaLimitOf (policy : ContributionPolicy) (age : ℕ) : K :=
  if policy.hsaEligible then getHsaContributionLimit age else 0

/-- What a policy lets a household put into its Roth. -/
def rothLimitOf (policy : ContributionPolicy) (age : ℕ) : K :=
  if policy.useBackdoorRoth then getIraContributionLimit age else 0

theorem hsaLimitOf_nonneg (policy : ContributionPolicy) (age : ℕ) :
    (0 : K) ≤ hsaLimitOf policy age := by
  rw [hsaLimitOf]
  split
  · exact getHsaContributionLimit_nonneg age
  · exact le_rfl

omit [IsStrictOrderedRing K] in
theorem hsaOfPass_le {hsaMax : K} (h : 0 ≤ hsaMax) (grossIncome : K) (age : ℕ) (available : K) :
    hsaOfPass grossIncome hsaMax age available ≤ hsaMax :=
  (min_le_left _ _).trans ((min_le_left _ _).trans (max_le (min_le_left _ _) h))

omit [IsStrictOrderedRing K] in
theorem k401OfPass_le (grossIncome hsaMax k401Max : K) (age : ℕ) (available : K) :
    k401OfPass grossIncome hsaMax k401Max age available ≤ getK401ContributionLimit age :=
  (min_le_left _ _).trans (min_le_right _ _)

/-- No contribution of a working year exceeds what the law and the policy allow. -/
theorem contributions_within_limits (grossIncome annualSpending : K) (household : Household)
    (state : State) (taxYear : ℤ) (policy : ContributionPolicy) (other : OtherIncome K)
    (hq : 0 ≤ other.qualified) :
    let c := (calculateWorkingCashFlow grossIncome annualSpending household state taxYear policy
      other).contributions
    c.hsa ≤ hsaLimitOf policy household.primaryAge ∧
      c.traditional ≤ getK401ContributionLimit household.primaryAge ∧
      c.roth ≤ rothLimitOf policy household.primaryAge := by
  intro c
  set pass := workingTaxPass grossIncome annualSpending household state taxYear
    (hsaLimitOf policy household.primaryAge) (getK401ContributionLimit household.primaryAge) other
  set start := calculateTax grossIncome other.qualified household state taxYear ⟨0, 0⟩
    other.ordinary
  have hlast := workingTaxPass_result grossIncome annualSpending
    (hsaLimitOf policy household.primaryAge) (getK401ContributionLimit household.primaryAge)
    household state taxYear hq (pass^[3] start)
  have hpass : c.hsa = (pass (pass^[3] start)).hsaContribution ∧
      c.traditional = (pass (pass^[3] start)).k401Contribution := by
    rw [← Function.iterate_succ_apply' pass 3]
    exact ⟨rfl, rfl⟩
  refine ⟨?_, ?_, ?_⟩
  · rw [hpass.1, hlast.hsa_eq]
    exact hsaOfPass_le (hsaLimitOf_nonneg policy _) _ _ _
  · rw [hpass.2, hlast.k401_eq]
    exact k401OfPass_le _ _ _ _ _
  · change (if policy.useBackdoorRoth then min (getIraContributionLimit household.primaryAge) _
      else 0) ≤ if policy.useBackdoorRoth then getIraContributionLimit household.primaryAge else 0
    split
    · exact min_le_left _ _
    · exact le_rfl

/-! ## The balance -/

/-- The cash of a working year balances, and a household in the red contributes
nothing: the contributions are nonnegative and within their limits; unless the year is
short, tax, spending and contributions are the income exactly; and a short year has no
contribution at all. -/
theorem calculateWorkingCashFlow_balances (filingStatus : FilingStatus) (age : ℕ) (state : State)
    (taxYear : ℤ) (policy : ContributionPolicy) {grossIncome : K} (annualSpending ordinary : K)
    {qualified : K} (hg : 0 ≤ grossIncome) (hq : 0 ≤ qualified) :
    let r := calculateWorkingCashFlow grossIncome annualSpending (.single filingStatus age) state
      taxYear policy ⟨ordinary, qualified⟩
    let c := r.contributions
    (0 ≤ c.hsa ∧ c.hsa ≤ hsaLimitOf policy age) ∧
      (0 ≤ c.traditional ∧ c.traditional ≤ getK401ContributionLimit age) ∧
      (0 ≤ c.roth ∧ c.roth ≤ rothLimitOf policy age) ∧ 0 ≤ c.taxable ∧
      (0 ≤ r.netCashFlow →
        r.tax.totalTax + annualSpending + (c.hsa + c.traditional + c.roth + c.taxable)
          = grossIncome + ordinary) ∧
      (r.netCashFlow < 0 → c.hsa = 0 ∧ c.traditional = 0 ∧ c.roth = 0 ∧ c.taxable = 0) := by
  intro r c
  have hspec : CashFlow grossIncome annualSpending (.single filingStatus age) state taxYear
      ⟨ordinary, qualified⟩ r := cashFlow_spec _ _ _ _ _ hg hq
  obtain ⟨hhsa, htraditional, hroth⟩ := contributions_within_limits grossIncome annualSpending
    (.single filingStatus age) state taxYear policy ⟨ordinary, qualified⟩ hq
  refine ⟨⟨hspec.hsa_nonneg, hhsa⟩, ⟨hspec.traditional_nonneg, htraditional⟩,
    ⟨hspec.roth_nonneg, hroth⟩, hspec.taxable_nonneg, fun hnet => ?_, fun hnet => ?_⟩
  · have hsaved := hspec.saved
    rw [max_eq_left hnet, hspec.net_eq, cashBeforeContributions] at hsaved
    linarith
  · -- A year that ends short was short before it contributed.
    have hshort := not_lt.mp fun hfunded => hnet.not_ge (hspec.funded hfunded)
    obtain ⟨h1, h2, -⟩ := hspec.short hshort
    have hsaved := hspec.saved
    rw [max_eq_right hnet.le] at hsaved
    have h3 := hspec.roth_nonneg
    have h4 := hspec.taxable_nonneg
    exact ⟨h1, h2, by linarith, by linarith⟩

theorem calculateWorkingCashFlow_balances_overspent :
    let r := calculateWorkingCashFlow (50000 : ℚ) 200000 (.single .single 40) .CA 2025
      ⟨true, true⟩ ⟨10000, 5000⟩
    r.netCashFlow < 0 ∧ r.contributions.hsa = 0 ∧ r.contributions.taxable = 0 := by
  have hshort : (calculateWorkingCashFlow (50000 : ℚ) 200000 (.single .single 40) .CA 2025
      ⟨true, true⟩ ⟨10000, 5000⟩).netCashFlow < 0 := by decide +kernel
  obtain ⟨-, -, -, -, -, hnone⟩ := calculateWorkingCashFlow_balances .single 40 .CA 2025
    ⟨true, true⟩ 200000 10000 (by norm_num : (0 : ℚ) ≤ 50000) (by norm_num : (0 : ℚ) ≤ 5000)
  exact ⟨hshort, (hnone hshort).1, (hnone hshort).2.2.2⟩

end RetirementPlanner.Engine
