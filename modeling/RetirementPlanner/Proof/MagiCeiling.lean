import RetirementPlanner.Proof.Solver

/-!
# The MAGI ceiling is a preference

A MAGI target moves dollars of a draw from Traditional to Roth and does nothing
else, so it never costs a year its funding. The two searches, with the target and
without, probe the same budgets (`cash_zero`), and each probe that funds the year
without the target funds it with it.
-/

namespace RetirementPlanner.Engine

open Waterfall

variable {K : Type*} [Field K] [LinearOrder K] [IsStrictOrderedRing K]

/-- The order withdraws the same total with any target. -/
theorem total_of_target {accounts : List (Account K)} {balances : List K}
    (h : Shadow accounts balances) (amount : K) (age : ℕ) (ratio : K)
    (magiTarget : Option (MagiTarget K)) :
    (applyWithdrawalOrder accounts balances amount age ratio magiTarget).1.total
      = stage 0 balances.sum (max amount 0) :=
  (applyWithdrawalOrder_spec h amount age ratio magiTarget).total_stage h
    (traditionalCap_nonneg h _ _ _) (traditionalCap_le _ _ _ _ _)

/-- The forced draw alone raises the same cash under any target. -/
theorem cash_zero {accounts : List (Account K)} (h : Solvent accounts)
    (rothBasis : RothBasisState K) {context : WithdrawalContext K} (hc : context.Valid) :
    cash accounts rothBasis context 0
      = context.socialSecurityBenefit + (forcedDraw accounts context).2
        - yearTaxes rothBasis context (forcedDraw accounts context).2 0 0 0 := by
  have hshadow := (forcedDraw_spec h context).shadow
  have hspec := voluntaryDraw_spec h context 0
  have hcap := contextCap_mem h context
  have hT := held_nonneg hshadow .taxable
  have hR := held_nonneg hshadow .traditional
  have hO := held_nonneg hshadow .roth
  have hH := held_nonneg hshadow .hsa
  rw [max_self] at hspec
  have htaxable : (voluntaryDraw accounts context 0).1.taxable = 0 :=
    hspec.taxable_eq.trans (stage_of_le hT le_rfl)
  have htraditional : (voluntaryDraw accounts context 0).1.traditional = 0 := by
    rw [hspec.traditional_eq, stage_of_le hcap.1 hT,
      stage_of_le (sub_nonneg.mpr hcap.2) (by linarith [hcap.1]), add_zero]
  have hroth : (voluntaryDraw accounts context 0).1.roth = 0 :=
    hspec.roth_eq.trans (stage_of_le hO (by linarith [hcap.1]))
  have hhsa : (voluntaryDraw accounts context 0).1.hsa = 0 :=
    hspec.hsa_eq.trans (stage_of_le hH (by linarith))
  have hgain : (voluntaryDraw accounts context 0).1.taxableGain = 0 := by
    have hg := voluntary_gain hc accounts 0
    rw [htaxable, zero_mul] at hg
    exact le_antisymm hg.2 hg.1
  rw [cash_eq, voluntary_total h, max_self, stage_of_le hshadow.sum_nonneg le_rfl, htraditional,
    hroth, hhsa, hgain, add_zero, add_zero]

/-- A year the plain order funds is funded under any target. -/
theorem insufficient_of_target [FloorRing K] {accounts : List (Account K)} (h : Solvent accounts)
    {rothBasis : RothBasisState K} (hs : rothBasis.Valid) {context : WithdrawalContext K}
    (hc : context.Valid) (target : K)
    (hgives : (executeOrderedWithdrawals target accounts rothBasis context).result.insufficientFunds
      = true) :
    (executeOrderedWithdrawals target accounts rothBasis
      (context.withTarget none)).result.insufficientFunds = true := by
  have hplain := hc.withTarget none
  rw [insufficientFunds_iff h hs hc] at hgives
  rw [insufficientFunds_iff h hs hplain]
  have hmore (b : K) (hb : BudgetFunds accounts rothBasis (context.withTarget none) target b) :
      BudgetFunds accounts rothBasis context target b :=
    hb.trans (add_le_add_left (cash_le_cash_of_target h hs hc b) 1)
  -- The searches start from the same cash, so they probe the same budgets.
  have hzero : cash accounts rothBasis (context.withTarget none) 0
      = cash accounts rothBasis context 0 :=
    (cash_zero h rothBasis hplain).trans (cash_zero h rothBasis hc).symm
  have hprobe (k : ℕ) : probedBudget accounts rothBasis (context.withTarget none) target k
      = probedBudget accounts rothBasis context target k := by
    simp only [probedBudget, hzero]
    rfl
  refine ⟨fun h0 => hgives.1 (hmore 0 h0), fun ⟨k, hk⟩ => hgives.2 ⟨k, ?_⟩⟩
  rw [hprobe] at hk
  exact hmore _ hk

/-- In every context a projection of an accepted plan can build, a MAGI target leaves
the total of a draw as it is, never lowers after-tax cash, and never turns a year
that is funded without it into one that is not. -/
theorem magiTarget_never_costs_funding [FloorRing K] {plan : RetirementPlan K}
    {prepared : PreparedPlan K} (hplan : validatePlan plan = .ok ())
    (hnew : PreparedPlan.new plan = .ok prepared) (year : ℕ) {rmdAmount allowance : K}
    (hrmd : 0 ≤ rmdAmount) (hallowance : 0 ≤ allowance) (magiTarget : MagiTarget K)
    {accounts : List (Account K)} (hbuckets : Buckets accounts) {rothBasis : RothBasisState K}
    (hledger : rothBasis.Valid) {context : WithdrawalContext K}
    (hcontext : context = withdrawalContext prepared year (socialSecurityBenefitOf prepared year)
      rmdAmount allowance) :
    (∀ (balances : List K) (amount : K) (age : ℕ) (ratio : K), Shadow accounts balances →
      (applyWithdrawalOrder accounts balances amount age ratio (some magiTarget)).1.total
        = (applyWithdrawalOrder accounts balances amount age ratio none).1.total) ∧
    (∀ budget,
      (evaluateOrderedWithdrawals accounts rothBasis budget
          (context.withTarget none)).cashAvailableAfterTax
        ≤ (evaluateOrderedWithdrawals accounts rothBasis budget
          (context.withTarget (some magiTarget))).cashAvailableAfterTax) ∧
    (∀ spending,
      (executeOrderedWithdrawals spending accounts rothBasis
          (context.withTarget none)).result.insufficientFunds = false →
        (executeOrderedWithdrawals spending accounts rothBasis
          (context.withTarget (some magiTarget))).result.insufficientFunds = false) := by
  obtain ⟨hprepared, -⟩ := prepared_of_new hplan hnew
  have hvalid : (context.withTarget (some magiTarget)).Valid :=
    (hcontext ▸ withdrawalContext_valid hprepared year hrmd hallowance).withTarget _
  refine ⟨fun balances amount age ratio h => ?_, fun budget => ?_, fun spending hfunded => ?_⟩
  · rw [total_of_target h, total_of_target h]
  · exact cash_le_cash_of_target hbuckets.solvent hledger hvalid budget
  · by_contra hnot
    have hgives := insufficient_of_target hbuckets.solvent hledger hvalid spending
      (Bool.not_eq_false _ ▸ hnot)
    change (executeOrderedWithdrawals spending accounts rothBasis
      (context.withTarget none)).result.insufficientFunds = true at hgives
    rw [hfunded] at hgives
    cases hgives

theorem magiTarget_never_costs_funding_largeBenefit :
    (executeOrderedWithdrawals 3500000 largeBenefitBuckets ⟨false, 0, [], 0⟩
      (largeBenefitContext.withTarget
        (some ⟨⟨0, 3000, 0, 0⟩, 62, .single, 1, 0⟩))).result.insufficientFunds = false :=
  (magiTarget_never_costs_funding largeBenefitPlan_valid largeBenefitPlan_prepared 0
    (le_refl (0 : ℚ)) (le_refl (0 : ℚ)) ⟨⟨0, 3000, 0, 0⟩, 62, .single, 1, 0⟩
    ⟨by decide +kernel, by decide +kernel⟩ ⟨by decide, by decide, by simp⟩ rfl).2.2 3500000
    (by decide +kernel)

end RetirementPlanner.Engine
