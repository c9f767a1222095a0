import RetirementPlanner.Proof.Solver

/-!
# When after-tax cash is monotone in the budget

Only the HSA leg can lower after-tax cash, before 65, by dollars no medical cost covers.
By then every other bucket is drained, so what such a dollar costs is the year's tax at
known amounts (`drainedTax`) and the penalty. `afterTaxCash_monotone_iff` is the exact condition,
and `not_monotone_largeBenefit` a year that fails it.
-/

namespace RetirementPlanner.Engine

open Waterfall

variable {K : Type*} [Field K] [LinearOrder K]

/-! ## The gain of a drained taxable account -/

/-- The gain that draining the taxable accounts realizes. -/
def drainedGain (gainRatio : K) : List (Account K) → List K → K
  | account :: accounts, balance :: balances =>
    (if account.accountType = .taxable ∧ ¬account.isSurplusCash then balance * gainRatio else 0)
      + drainedGain gainRatio accounts balances
  | _, _ => 0

/-- What drawing from Traditional leaves unchanged. -/
theorem drainedGain_drawLoop (gainRatio ratio remaining : K) (accounts : List (Account K))
    (balances : List K) :
    drainedGain gainRatio accounts
        (drawLoop .traditional ratio remaining accounts balances).balances
      = drainedGain gainRatio accounts balances := by
  induction accounts generalizing balances remaining with
  | nil => cases balances <;> rfl
  | cons account accounts ih =>
    cases balances with
    | nil => rfl
    | cons balance balances =>
      by_cases hdone : remaining ≤ 0
      · rw [drawLoop, if_pos hdone]
      by_cases hskip : account.accountType ≠ .traditional ∨ balance ≤ 0
      · rw [drawLoop, if_neg hdone, if_pos hskip]
        simp only [drainedGain, ih]
      · have htype : account.accountType = .traditional := not_not.mp (not_or.mp hskip).1
        rw [drawLoop, if_neg hdone, if_neg hskip]
        simp only [drainedGain, ih, htype]
        rfl

variable [IsStrictOrderedRing K]

theorem drainedGain_of_empty (gainRatio : K) {accounts : List (Account K)} {balances : List K}
    (h : Shadow accounts balances) (hempty : held .taxable accounts balances ≤ 0) :
    drainedGain gainRatio accounts balances = 0 := by
  induction h with
  | nil => rfl
  | @cons account balance accounts balances hb htail ih =>
    have hrest := held_nonneg htail .taxable
    rw [held] at hempty
    rw [drainedGain]
    split at hempty
    · have hzero : balance = 0 := le_antisymm (by linarith) hb
      rw [ih (by linarith), hzero, zero_mul, ite_self, add_zero]
    · rename_i htype
      rw [ih (by linarith), if_neg fun hand => htype hand.1, add_zero]

/-- A draw of all that Taxable holds realizes all of its gain. -/
theorem drawLoop_gain_drained (gainRatio : K) {accounts : List (Account K)} {balances : List K}
    (h : Shadow accounts balances) {remaining : K}
    (hdrained : held .taxable accounts balances ≤ remaining) :
    (drawLoop .taxable gainRatio remaining accounts balances).gain
      = drainedGain gainRatio accounts balances := by
  induction h generalizing remaining with
  | nil => rfl
  | @cons account balance accounts balances hb htail ih =>
    by_cases hdone : remaining ≤ 0
    · rw [drawLoop, if_pos hdone,
        drainedGain_of_empty gainRatio (List.Forall₂.cons hb htail) (hdrained.trans hdone)]
    have hrest := held_nonneg htail .taxable
    rw [held] at hdrained
    by_cases hskip : account.accountType ≠ .taxable ∨ balance ≤ 0
    · have hnone : (if account.accountType = .taxable ∧ ¬account.isSurplusCash then
          balance * gainRatio else 0) = 0 := by
        rcases hskip with htype | hempty
        · exact if_neg fun hand => htype hand.1
        · rw [le_antisymm hempty hb, zero_mul, ite_self]
      have hle : held .taxable accounts balances ≤ remaining := by
        split at hdrained <;> linarith
      rw [drawLoop, if_neg hdone, if_pos hskip, drainedGain, hnone, zero_add]
      exact ih hle
    · have htype : account.accountType = .taxable := not_not.mp (not_or.mp hskip).1
      rw [if_pos htype] at hdrained
      have hall : min remaining balance = balance := min_eq_right (by linarith)
      rw [drawLoop, if_neg hdone, if_neg hskip, drainedGain]
      simp only [hall, htype, true_and, ih (by linarith : held .taxable accounts balances
        ≤ remaining - balance)]
      cases account.isSurplusCash <;> rfl

/-! ## The drained portfolio -/

section Drained

variable (accounts : List (Account K)) (context : WithdrawalContext K)

/-- The year's income tax once every account but the HSA is drained, with `hsa` dollars of
it taken past the qualified allowance. -/
def drainedTax (hsa : K) : K :=
  retirementTaxOn context.household context.state context.taxYear
    (balanceOfBucket accounts .traditional + hsa) context.socialSecurityBenefit
    (drainedGain context.taxableGainRatio accounts (accounts.map (·.balance)))

/-- Each HSA dollar past the qualified allowance pays for itself: it is past the penalty,
or leaves the income tax room for it. -/
def HsaLegPays : Prop :=
  medicareAge ≤ context.age ∨ ∀ hsa hsa', 0 ≤ hsa → hsa ≤ hsa' →
    hsa' ≤ balanceOfBucket accounts .hsa - context.hsaQualifiedAllowance →
      drainedTax accounts context hsa' - drainedTax accounts context hsa ≤ 0.8 * (hsa' - hsa)

/-- What the forced draw leaves in front of the HSA. -/
def beforeHsa : K :=
  held .taxable accounts (forcedDraw accounts context).1
    + held .traditional accounts (forcedDraw accounts context).1
    + held .roth accounts (forcedDraw accounts context).1

variable {accounts context}

theorem held_forcedDraw (h : Solvent accounts) :
    (forcedDraw accounts context).2 + held .traditional accounts (forcedDraw accounts context).1
        = balanceOfBucket accounts .traditional ∧
      held .hsa accounts (forcedDraw accounts context).1 = balanceOfBucket accounts .hsa := by
  have hforced := forcedDraw_spec h context
  rw [balanceOfBucket_eq_held, balanceOfBucket_eq_held, hforced.held_same,
    hforced.held_other .hsa (by decide)]
  exact ⟨add_sub_cancel _ _, rfl⟩

theorem beforeHsa_nonneg (h : Solvent accounts) : 0 ≤ beforeHsa accounts context := by
  have hshadow := (forcedDraw_spec h context).shadow
  exact add_nonneg (add_nonneg (held_nonneg hshadow _) (held_nonneg hshadow _))
    (held_nonneg hshadow _)

/-- The legs of a budget that drains everything in front of the HSA. -/
theorem voluntaryDraw_drained (h : Solvent accounts) {budget : K}
    (hb : beforeHsa accounts context ≤ budget) :
    let drawn := (voluntaryDraw accounts context budget).1
    drawn.taxable = held .taxable accounts (forcedDraw accounts context).1 ∧
      drawn.traditional = held .traditional accounts (forcedDraw accounts context).1 ∧
      drawn.roth = held .roth accounts (forcedDraw accounts context).1 ∧
      drawn.hsa = stage (beforeHsa accounts context) (balanceOfBucket accounts .hsa) budget ∧
      drawn.taxableGain
        = drainedGain context.taxableGainRatio accounts (accounts.map (·.balance)) := by
  intro drawn
  have hshadow := (forcedDraw_spec h context).shadow
  have hspec := voluntaryDraw_spec h context budget
  obtain ⟨hcap, hcap'⟩ := contextCap_mem h context
  have hbudget : max budget 0 = budget := max_eq_left ((beforeHsa_nonneg h).trans hb)
  have hT := held_nonneg hshadow .taxable
  have hR := held_nonneg hshadow .traditional
  have hO := held_nonneg hshadow .roth
  rw [hbudget] at hspec
  rw [beforeHsa] at hb
  refine ⟨?_, ?_, ?_, ?_, ?_⟩
  · exact hspec.taxable_eq.trans (stage_eq_capacity hT (by linarith))
  · refine hspec.traditional_eq.trans ?_
    rw [stage_eq_capacity hcap (by linarith), stage_eq_capacity (by linarith) (by linarith),
      add_sub_cancel]
  · exact hspec.roth_eq.trans (stage_eq_capacity hO (by linarith))
  · rw [← (held_forcedDraw h).2]
    exact hspec.hsa_eq
  · have hgain : drawn.taxableGain = (drawLoop .taxable context.taxableGainRatio (max budget 0)
        accounts (forcedDraw accounts context).1).gain := voluntary_gain_eq accounts context budget
    rw [hgain, hbudget, drawLoop_gain_drained _ hshadow (by linarith)]
    exact drainedGain_drawLoop _ _ _ _ _

/-- Past the qualified allowance, the cash of a draining budget is a constant, the HSA
dollars past the allowance, and what they cost. -/
theorem cash_drained (h : Solvent accounts) (rothBasis : RothBasisState K)
    {budget hsa : K} (hb : beforeHsa accounts context ≤ budget) (hhsa : 0 ≤ hsa)
    (hstage : stage (beforeHsa accounts context) (balanceOfBucket accounts .hsa) budget
      = context.hsaQualifiedAllowance + hsa) :
    cash accounts rothBasis context budget =
      context.socialSecurityBenefit + (forcedDraw accounts context).2 + beforeHsa accounts context
        + context.hsaQualifiedAllowance
        - penaltiesOn (balanceOfBucket accounts .traditional) 0 (rothConversionPenaltyFor
          (held .roth accounts (forcedDraw accounts context).1) rothBasis context.age) context.age
        + hsa * (1 - if context.age < medicareAge then nonQualifiedHsaPenaltyRate else 0)
        - drainedTax accounts context hsa := by
  obtain ⟨htaxable, htraditional, hroth, hleg, hgain⟩ := voluntaryDraw_drained h hb
  have htotal : (voluntaryDraw accounts context budget).1.total
      = (voluntaryDraw accounts context budget).1.taxable
        + (voluntaryDraw accounts context budget).1.traditional
        + (voluntaryDraw accounts context budget).1.roth
        + (voluntaryDraw accounts context budget).1.hsa := rfl
  have hnonQualified : nonQualifiedHsa (context.hsaQualifiedAllowance + hsa)
      context.hsaQualifiedAllowance = hsa := by
    rw [nonQualifiedHsa, min_eq_right (le_add_of_nonneg_right hhsa), add_sub_cancel_left]
  rw [cash_eq, htotal, htaxable, htraditional, hroth, hleg, hgain, hstage,
    (held_forcedDraw h).1, yearTaxes, hnonQualified, penaltiesOn_eq, penaltiesOn_eq, drainedTax,
    beforeHsa]
  ring

/-- Past the qualified allowance two budgets differ by their HSA dollars, the penalty on
them, and the income tax. -/
theorem cash_sub_drained (h : Solvent accounts) (rothBasis : RothBasisState K)
    (hage : context.age < medicareAge) {budget budget' hsa hsa' : K}
    (hb : beforeHsa accounts context ≤ budget) (hb' : beforeHsa accounts context ≤ budget')
    (hhsa : 0 ≤ hsa) (hhsa' : 0 ≤ hsa')
    (hstage : stage (beforeHsa accounts context) (balanceOfBucket accounts .hsa) budget
      = context.hsaQualifiedAllowance + hsa)
    (hstage' : stage (beforeHsa accounts context) (balanceOfBucket accounts .hsa) budget'
      = context.hsaQualifiedAllowance + hsa') :
    cash accounts rothBasis context budget' - cash accounts rothBasis context budget
      = 0.8 * (hsa' - hsa)
        - (drainedTax accounts context hsa' - drainedTax accounts context hsa) := by
  have hrate : (1 : K) - nonQualifiedHsaPenaltyRate = 0.8 := by
    norm_num [nonQualifiedHsaPenaltyRate]
  rw [cash_drained h rothBasis hb hhsa hstage, cash_drained h rothBasis hb' hhsa' hstage',
    if_pos hage, hrate]
  ring

/-- Where each HSA dollar past the allowance pays for itself, so do all of them
together. -/
theorem cash_le_cash_drained (h : Solvent accounts) (rothBasis : RothBasisState K)
    (hc : context.Valid) (hage : context.age < medicareAge) (hpays : HsaLegPays accounts context)
    (hallowance : context.hsaQualifiedAllowance ≤ balanceOfBucket accounts .hsa)
    {budget budget' : K}
    (hb : beforeHsa accounts context + context.hsaQualifiedAllowance ≤ budget)
    (hle : budget ≤ budget') :
    cash accounts rothBasis context budget ≤ cash accounts rothBasis context budget' := by
  have hallowance0 := hc.allowance_nonneg
  have hroom := sub_nonneg.mpr hallowance
  set past := stage (beforeHsa accounts context + context.hsaQualifiedAllowance)
    (balanceOfBucket accounts .hsa - context.hsaQualifiedAllowance)
  have hstage {budget : K}
      (hb : beforeHsa accounts context + context.hsaQualifiedAllowance ≤ budget) :
      stage (beforeHsa accounts context) (balanceOfBucket accounts .hsa) budget
        = context.hsaQualifiedAllowance + past budget := by
    have hsplit := stage_add (beforeHsa accounts context) hallowance0 hroom budget
    rw [stage_eq_capacity hallowance0 hb, add_sub_cancel] at hsplit
    exact hsplit.symm
  have hleft := hpays.resolve_left (not_le.mpr hage) (past budget) (past budget')
    (stage_nonneg _ hroom _) (stage_mono _ _ hle) (stage_le_capacity _ _ _)
  have hdifference := cash_sub_drained h rothBasis hage (by linarith) (by linarith)
    (stage_nonneg _ hroom _) (stage_nonneg _ hroom _) (hstage hb) (hstage (hb.trans hle))
  linarith

/-- After-tax cash is monotone in the budget exactly when each HSA dollar past the
qualified allowance pays for itself. -/
theorem monotone_cash_iff (h : Solvent accounts) {rothBasis : RothBasisState K}
    (hs : rothBasis.Valid) (hc : context.Valid) :
    Monotone (cash accounts rothBasis context) ↔ HsaLegPays accounts context := by
  have hallowance0 := hc.allowance_nonneg
  have hbefore : 0 ≤ beforeHsa accounts context := beforeHsa_nonneg h
  refine ⟨fun hmono => ?_, fun hpays b b' hb => ?_⟩
  · by_cases hage : medicareAge ≤ context.age
    · exact .inl hage
    refine .inr fun hsa hsa' h0 hle hmax => ?_
    have hstage {hsa : K} (h0 : 0 ≤ hsa)
        (hmax : hsa ≤ balanceOfBucket accounts .hsa - context.hsaQualifiedAllowance) :
        stage (beforeHsa accounts context) (balanceOfBucket accounts .hsa)
          (beforeHsa accounts context + (context.hsaQualifiedAllowance + hsa))
          = context.hsaQualifiedAllowance + hsa :=
      stage_before_add _ (add_nonneg hallowance0 h0) (by linarith)
    have hdifference := cash_sub_drained h rothBasis (not_le.mp hage) (by linarith) (by linarith)
      h0 (h0.trans hle) (hstage h0 (hle.trans hmax)) (hstage (h0.trans hle) hmax)
    have hrises := hmono (by linarith : beforeHsa accounts context
        + (context.hsaQualifiedAllowance + hsa)
      ≤ beforeHsa accounts context + (context.hsaQualifiedAllowance + hsa'))
    linarith
  · by_cases hage : medicareAge ≤ context.age
    · exact cash_mono h hs hc (.inl hage) hb
    by_cases hallowance : context.hsaQualifiedAllowance ≤ balanceOfBucket accounts .hsa
    · -- The budgets are compared through the one that takes the last qualified dollar.
      set full := beforeHsa accounts context + context.hsaQualifiedAllowance with hfull
      have hqualified {b b' : K} (hb : b ≤ b') (hb' : b' ≤ full) :
          cash accounts rothBasis context b ≤ cash accounts rothBasis context b' := by
        refine cash_le_cash h hs hc hb (.inr (.inr ?_))
        rw [(voluntaryDraw_spec h context b').hsa_eq]
        refine (min_le_left _ _).trans (max_le ?_ hallowance0)
        rw [beforeHsa] at hbefore hfull
        have hmax : max b' 0 ≤ full := max_le hb' (by linarith)
        linarith
      rcases le_total b' full with hb' | hb'
      · exact hqualified hb hb'
      rcases le_total full b with hfullb | hbfull
      · exact cash_le_cash_drained h rothBasis hc (not_le.mp hage) hpays hallowance hfullb hb
      · exact (hqualified hbfull le_rfl).trans
          (cash_le_cash_drained h rothBasis hc (not_le.mp hage) hpays hallowance le_rfl hb')
    · refine cash_mono h hs hc (.inr (.inr ?_)) hb
      rw [(held_forcedDraw h).2]
      exact (not_le.mp hallowance).le

/-- So it does past the penalty, without a benefit, or with every HSA dollar qualified. -/
theorem hsaLegPays_of_cashMonotone (h : Solvent accounts) (hc : context.Valid)
    (hwhen : CashMonotone accounts context) : HsaLegPays accounts context := by
  have hclosed : (⟨false, 0, [], 0⟩ : RothBasisState K).Valid :=
    ⟨le_rfl, le_rfl, fun _ hlot => absurd hlot List.not_mem_nil⟩
  exact (monotone_cash_iff h hclosed hc).mp fun _ _ => cash_mono h hclosed hc hwhen

end Drained

/-! ## On an accepted plan -/

/-- In every context a projection of an accepted plan can build, after-tax cash is monotone
in the budget exactly when each HSA dollar past the qualified allowance pays for itself:
the household is 65, or, with every other account drained, no such dollar raises the
year's income tax by more than the 80 cents the penalty leaves of it. -/
theorem afterTaxCash_monotone_iff [FloorRing K] {plan : RetirementPlan K}
    {prepared : PreparedPlan K} (hplan : validatePlan plan = .ok ())
    (hnew : PreparedPlan.new plan = .ok prepared) (year : ℕ) {rmdAmount allowance : K}
    (hrmd : 0 ≤ rmdAmount) (hallowance : 0 ≤ allowance) (magiTarget : Option (MagiTarget K))
    {accounts : List (Account K)} (h : Solvent accounts) {rothBasis : RothBasisState K}
    (hledger : rothBasis.Valid) {context : WithdrawalContext K}
    (hcontext : context = (withdrawalContext prepared year (socialSecurityBenefitOf prepared year)
      rmdAmount allowance).withTarget magiTarget) :
    (∀ budget budget', budget ≤ budget' →
      (evaluateOrderedWithdrawals accounts rothBasis budget context).cashAvailableAfterTax
        ≤ (evaluateOrderedWithdrawals accounts rothBasis budget' context).cashAvailableAfterTax) ↔
      HsaLegPays accounts context := by
  obtain ⟨hprepared, -⟩ := prepared_of_new hplan hnew
  have hvalid := (withdrawalContext_valid hprepared year hrmd hallowance).withTarget magiTarget
  subst hcontext
  exact ⟨fun hmono => (monotone_cash_iff h hledger hvalid).mp fun _ _ hle => hmono _ _ hle,
    fun hpays _ _ hle => (monotone_cash_iff h hledger hvalid).mpr hpays hle⟩

/-- With a million dollars of medical care to pay, every HSA dollar of `largeBenefitPlan`
is qualified. -/
theorem afterTaxCash_monotone_iff_largeBenefit :
    (evaluateOrderedWithdrawals largeBenefitBuckets ⟨false, 0, [], 0⟩ 1000000
        { largeBenefitContext with hsaQualifiedAllowance := 1000000 }).cashAvailableAfterTax
      ≤ (evaluateOrderedWithdrawals largeBenefitBuckets ⟨false, 0, [], 0⟩ 1500000
        { largeBenefitContext with hsaQualifiedAllowance := 1000000 }).cashAvailableAfterTax := by
  refine (afterTaxCash_monotone_iff largeBenefitPlan_valid largeBenefitPlan_prepared 0
    (le_refl (0 : ℚ)) (by norm_num : (0 : ℚ) ≤ 1000000) none (by decide +kernel)
    ⟨by decide, by decide, by simp⟩ rfl).mpr (.inr fun hsa hsa' h0 hle hmax => ?_) _ _
    (by norm_num)
  have hcovered : balanceOfBucket largeBenefitBuckets .hsa - 1000000 ≤ (0 : ℚ) := by decide +kernel
  have hzero : hsa' = 0 := le_antisymm (hmax.trans hcovered) (h0.trans hle)
  rw [hzero, le_antisymm (hle.trans hzero.le) h0, sub_self, sub_self, mul_zero]

/-- In its first year `largeBenefitPlan` has less cash with half a million dollars of HSA
money than with none: each makes 85 cents of the benefit taxable too, at the top rates,
and owes the penalty. -/
theorem not_monotone_largeBenefit :
    ¬∀ budget budget', budget ≤ budget' →
      (evaluateOrderedWithdrawals largeBenefitBuckets ⟨false, 0, [], 0⟩ budget
          largeBenefitContext).cashAvailableAfterTax
        ≤ (evaluateOrderedWithdrawals largeBenefitBuckets ⟨false, 0, [], 0⟩ budget'
          largeBenefitContext).cashAvailableAfterTax := by
  intro h
  exact absurd (h 1000000 1500000 (by norm_num)) (by decide +kernel)

end RetirementPlanner.Engine
