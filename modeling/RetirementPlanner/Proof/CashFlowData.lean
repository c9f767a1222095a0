import RetirementPlanner.Web.CashFlowData
import RetirementPlanner.Proof.Path

/-!
# The cash-flow chart reconciles

A row whose books balance (`OutcomeCashFlowRow.Balanced`) stays so on an annual footing
(`annualize_balanced`). What is paid straight back into the accounts is netted out of the
withdrawals without losing any of what was not (`portfolio_eq`), and the care costs are carved
out of the spending (`care_le`), so that the plotted row reconciles, as long as a working row has no
benefit beside its salary (`toCashFlowRows_reconcile_iff`). The engine records none there
(`workingRow_wages`).
-/

namespace RetirementPlanner.Web

open Drain

variable {K : Type} [Field K] [LinearOrder K]

/-! ## Books -/

/-- What a row records as withdrawn, over the four account types. -/
def OutcomeCashFlowRow.withdrawals (row : OutcomeCashFlowRow K) : K :=
  (drawnKeys.map row.drawn).sum

/-- A row whose books balance: what came in and was not saved was spent or taxed, no more is paid
back than was withdrawn, and the income of a retired year is its benefit. -/
structure OutcomeCashFlowRow.Balanced (row : OutcomeCashFlowRow K) : Prop where
  spending_nonneg : 0 ≤ row.spending
  taxes_nonneg : 0 ≤ row.taxes
  drawn_nonneg : ∀ key, 0 ≤ row.drawn key
  benefit_nonneg : 0 ≤ row.socialSecurityBenefit
  cash : row.income - row.savings = row.spending + row.taxes
  funded : 0 ≤ row.withdrawals + row.savings
  retired_income : row.isRetired = true → row.income = row.socialSecurityBenefit

/-- The stacks of a plotted row, less what a year saved. -/
def CashFlowRow.Reconciles (row : CashFlowRow K) (savings : K) : Prop :=
  row.salary + row.socialSecurity + row.portfolio - max 0 savings
    = row.living + row.healthcare + row.longTermCare + row.tax

instance (row : CashFlowRow K) (savings : K) : Decidable (row.Reconciles savings) :=
  inferInstanceAs (Decidable (_ = _))

/-- Every amount of a plotted row. -/
def CashFlowRow.components (row : CashFlowRow K) : List K :=
  [row.salary, row.socialSecurity, row.fromTraditional, row.fromTaxable, row.fromRoth,
    row.fromHSA, row.portfolio, row.living, row.healthcare, row.longTermCare, row.tax]

omit [LinearOrder K] in
theorem withdrawals_eq (row : OutcomeCashFlowRow K) :
    row.withdrawals = row.withdrawalTraditional + row.withdrawalTaxable + row.withdrawalRoth
      + row.withdrawalHSA := by
  simp only [OutcomeCashFlowRow.withdrawals, drawnKeys, List.map_cons, List.map_nil,
    List.sum_cons, List.sum_nil, OutcomeCashFlowRow.drawn]
  ring

omit [LinearOrder K] in
theorem drawn_annualize (row : OutcomeCashFlowRow K) (multiplier : K) (key : DrawnKey) :
    (annualize row multiplier).drawn key = row.drawn key * multiplier := by
  cases key <;> rfl

variable [IsStrictOrderedRing K]

/-! ## A partial year -/

theorem multiplierOf_pos (partialYear : Option (PartialYear K))
    (projection : OutcomeCashFlowRow K) : 0 < multiplierOf partialYear projection := by
  cases partialYear with
  | none => exact one_pos
  | some partialYear =>
    rw [multiplierOf, Option.elim_some]
    split
    · rename_i h
      exact one_div_pos.mpr h.2.1
    · exact one_pos

omit [LinearOrder K] [IsStrictOrderedRing K] in
theorem annualize_one (row : OutcomeCashFlowRow K) : annualize row 1 = row := by
  simp [annualize]

omit [IsStrictOrderedRing K] in
theorem annualizedRow_eq (partialYear : Option (PartialYear K))
    (projection : OutcomeCashFlowRow K) :
    annualizedRow partialYear projection
      = annualize projection (multiplierOf partialYear projection) := by
  rw [annualizedRow]
  split
  · rename_i h
    rw [h, annualize_one]
  · rfl

/-- Balanced books stay balanced on an annual footing. -/
theorem annualize_balanced {row : OutcomeCashFlowRow K} (h : row.Balanced) {multiplier : K}
    (hm : 0 ≤ multiplier) : (annualize row multiplier).Balanced where
  spending_nonneg := mul_nonneg h.spending_nonneg hm
  taxes_nonneg := mul_nonneg h.taxes_nonneg hm
  drawn_nonneg key := by
    rw [drawn_annualize]
    exact mul_nonneg (h.drawn_nonneg key) hm
  benefit_nonneg := mul_nonneg h.benefit_nonneg hm
  cash := by
    change row.income * multiplier - row.savings * multiplier
      = row.spending * multiplier + row.taxes * multiplier
    rw [← sub_mul, h.cash, add_mul]
  funded := by
    have hfunded := mul_nonneg h.funded hm
    have hwithdrawals : (annualize row multiplier).withdrawals = row.withdrawals * multiplier := by
      rw [withdrawals_eq, withdrawals_eq, add_mul, add_mul, add_mul]
      rfl
    rw [hwithdrawals]
    change 0 ≤ row.withdrawals * multiplier + row.savings * multiplier
    rwa [← add_mul]
  retired_income hretired := congrArg (· * multiplier) (h.retired_income hretired)

/-! ## Withdrawals -/

theorem withdrawals_nonneg {row : OutcomeCashFlowRow K} (h : row.Balanced) :
    0 ≤ row.withdrawals :=
  List.sum_nonneg (List.forall_mem_map.mpr fun key _ => h.drawn_nonneg key)

/-- What reaches the household is what the year did not save, to the dollar. -/
theorem portfolio_eq {row : OutcomeCashFlowRow K} (h : row.Balanced) :
    (netWithdrawals row).2 = max 0 (-row.savings) := by
  have hgross := withdrawals_nonneg h
  have hneeded : max 0 (-row.savings) ≤ row.withdrawals :=
    max_le hgross (neg_le_iff_add_nonneg.mpr h.funded)
  have hreinvested : 0 ≤ row.withdrawals - max 0 (-row.savings) := sub_nonneg.mpr hneeded
  have hkeys : drawnKeys.Nodup := by decide
  have hdrain := sum_drain h.drawn_nonneg hkeys hreinvested (sub_le_self _ (le_max_left _ _))
  rw [netWithdrawals]
  change (drawnKeys.map (drain row.drawn (max 0 (row.withdrawals - max 0 (-row.savings)))
    drawnKeys)).sum = _
  rw [max_eq_right hreinvested, hdrain]
  exact sub_sub_cancel _ _

theorem netWithdrawals_nonneg {row : OutcomeCashFlowRow K} (h : row.Balanced) (key : DrawnKey) :
    0 ≤ (netWithdrawals row).1 key :=
  drain_nonneg h.drawn_nonneg _ _ key

/-! ## Care -/

/-- The share of the care costs that is funded takes no more than was spent. -/
theorem fundedShare_mem (care : K) {spending : K} (hspending : 0 ≤ spending) :
    0 ≤ (if 0 < care then min care (max 0 spending) / care else 0) ∧
      care * (if 0 < care then min care (max 0 spending) / care else 0) ≤ spending := by
  rw [max_eq_right hspending]
  split
  · rename_i hcare
    refine ⟨div_nonneg (le_min hcare.le hspending) hcare.le, ?_⟩
    rw [mul_div_cancel₀ _ hcare.ne']
    exact min_le_right _ _
  · rw [mul_zero]
    exact ⟨le_rfl, hspending⟩

/-- The care costs of a plotted row and what is left to live on. -/
theorem care_nonneg {row : OutcomeCashFlowRow K} (hspending : 0 ≤ row.spending) :
    0 ≤ (plottedRow row).healthcare ∧ 0 ≤ (plottedRow row).longTermCare ∧
      0 ≤ (plottedRow row).living := by
  have hhealthcare : 0 ≤ max 0 (row.healthcareCost.getD 0) := le_max_left _ _
  have hlongTermCare : 0 ≤ max 0 (row.longTermCareCost.getD 0) := le_max_left _ _
  have hshare := fundedShare_mem (max 0 (row.healthcareCost.getD 0)
    + max 0 (row.longTermCareCost.getD 0)) hspending
  refine ⟨mul_nonneg hhealthcare hshare.1, mul_nonneg hlongTermCare hshare.1, ?_⟩
  rw [add_mul] at hshare
  exact sub_nonneg.mpr (le_sub_iff_add_le'.mpr hshare.2)

/-! ## Rows -/

/-- Both stacks of a balanced row differ by what the year saved, unless a working year has a
benefit beside its salary. -/
theorem plottedRow_reconciles_iff {row : OutcomeCashFlowRow K} (h : row.Balanced) :
    (plottedRow row).Reconciles row.savings ↔
      (row.isRetired = false → row.socialSecurityBenefit = 0) := by
  have hspent : (plottedRow row).living + (plottedRow row).healthcare
      + (plottedRow row).longTermCare + (plottedRow row).tax = row.income - row.savings := by
    rw [h.cash]
    change row.spending - (plottedRow row).healthcare - (plottedRow row).longTermCare
      + (plottedRow row).healthcare + (plottedRow row).longTermCare + row.taxes = _
    ring
  have hsaved : (plottedRow row).portfolio - max 0 row.savings = -row.savings := by
    change (netWithdrawals row).2 - max 0 row.savings = -row.savings
    rw [portfolio_eq h]
    rcases le_total 0 row.savings with hs | hs
    · rw [max_eq_left (neg_nonpos.mpr hs), max_eq_right hs, zero_sub]
    · rw [max_eq_right (neg_nonneg.mpr hs), max_eq_left hs, sub_zero]
  rw [CashFlowRow.Reconciles, hspent, add_sub_assoc, hsaved, ← sub_eq_add_neg, sub_left_inj]
  change (if row.isRetired then 0 else row.income) + row.socialSecurityBenefit = row.income ↔ _
  cases hretired : row.isRetired with
  | true =>
    rw [if_pos rfl, zero_add, h.retired_income hretired]
    exact iff_of_true rfl fun hworking => Bool.noConfusion hworking
  | false =>
    rw [if_neg Bool.false_ne_true, add_eq_left]
    exact ⟨fun hbenefit _ => hbenefit, fun hbenefit => hbenefit rfl⟩

omit [IsStrictOrderedRing K] in
/-- The accounts of a plotted row make up its portfolio draw. -/
theorem plottedRow_accounts (row : OutcomeCashFlowRow K) :
    (plottedRow row).fromTraditional + (plottedRow row).fromTaxable + (plottedRow row).fromRoth
      + (plottedRow row).fromHSA = (plottedRow row).portfolio := by
  change _ = (drawnKeys.map (netWithdrawals row).1).sum
  simp only [drawnKeys, List.map_cons, List.map_nil, List.sum_cons, List.sum_nil]
  change (netWithdrawals row).1 .fromTraditional + (netWithdrawals row).1 .fromTaxable
    + (netWithdrawals row).1 .fromRoth + (netWithdrawals row).1 .fromHSA = _
  ring

/-- Nothing plotted of a balanced row is negative, unless a working year has a negative income. -/
theorem components_nonneg_iff {row : OutcomeCashFlowRow K} (h : row.Balanced) :
    (∀ component ∈ (plottedRow row).components, 0 ≤ component) ↔
      (row.isRetired = false → 0 ≤ row.income) := by
  have hsalary : 0 ≤ (plottedRow row).salary ↔ (row.isRetired = false → 0 ≤ row.income) := by
    change 0 ≤ (if row.isRetired then 0 else row.income) ↔ _
    cases hretired : row.isRetired with
    | true => exact iff_of_true le_rfl fun hworking => Bool.noConfusion hworking
    | false => exact ⟨fun hincome _ => hincome, fun hincome => hincome rfl⟩
  have hportfolio : 0 ≤ (plottedRow row).portfolio :=
    (le_max_left _ _).trans_eq (portfolio_eq h).symm
  obtain ⟨hhealthcare, hlongTermCare, hliving⟩ := care_nonneg h.spending_nonneg
  rw [CashFlowRow.components, List.forall_mem_cons, hsalary, and_iff_left]
  have hdrawn := netWithdrawals_nonneg h
  simp only [List.forall_mem_cons, List.not_mem_nil, false_imp_iff, implies_true, and_true]
  exact ⟨h.benefit_nonneg, hdrawn .fromTraditional, hdrawn .fromTaxable, hdrawn .fromRoth,
    hdrawn .fromHSA, hportfolio, hliving, hhealthcare, hlongTermCare, h.taxes_nonneg⟩

/-- For every list of balanced rows and every partial year, the accounts of each plotted row make
up its portfolio draw; its two stacks differ by what the annualized year saved unless a working
year has a benefit beside its salary; and nothing in it is negative unless a working year has a
negative income. -/
theorem toCashFlowRows_reconcile_iff {projections : List (OutcomeCashFlowRow K)}
    (h : ∀ projection ∈ projections, projection.Balanced) (partialYear : Option (PartialYear K)) :
    List.Forall₂ (fun projection row =>
        row.fromTraditional + row.fromTaxable + row.fromRoth + row.fromHSA = row.portfolio ∧
        (row.Reconciles (projection.savings * multiplierOf partialYear projection) ↔
          (projection.isRetired = false → projection.socialSecurityBenefit = 0)) ∧
        ((∀ component ∈ row.components, 0 ≤ component) ↔
          (projection.isRetired = false → 0 ≤ projection.income)))
      projections (toCashFlowRows projections partialYear) := by
  rw [toCashFlowRows, List.forall₂_map_right_iff, List.forall₂_same]
  intro projection hmem
  have hpos := multiplierOf_pos partialYear projection
  have hbalanced := annualize_balanced (h projection hmem) hpos.le
  have hbenefit : projection.socialSecurityBenefit * multiplierOf partialYear projection = 0
      ↔ projection.socialSecurityBenefit = 0 := mul_eq_zero_iff_right hpos.ne'
  have hincome : 0 ≤ projection.income * multiplierOf partialYear projection
      ↔ 0 ≤ projection.income := mul_nonneg_iff_of_pos_right hpos
  rw [annualizedRow_eq]
  refine ⟨plottedRow_accounts _, (plottedRow_reconciles_iff hbalanced).trans ?_,
    (components_nonneg_iff hbalanced).trans ?_⟩
  · exact imp_congr_right fun _ => hbenefit
  · exact imp_congr_right fun _ => hincome

/-! ## Rows the chart may be given -/

/-- A required distribution, most of which is paid straight back. -/
def requiredYear : OutcomeCashFlowRow ℚ where
  age := 85
  isRetired := true
  income := 20000
  spending := 50000
  taxes := 20000
  savings := -50000
  socialSecurityBenefit := 20000
  withdrawalTaxable := 0
  withdrawalTraditional := 400000
  withdrawalRoth := 0
  withdrawalHSA := 0
  healthcareCost := some 15000
  longTermCareCost := none

theorem requiredYear_balanced : requiredYear.Balanced where
  spending_nonneg := by decide +kernel
  taxes_nonneg := by decide +kernel
  drawn_nonneg key := by cases key <;> decide +kernel
  benefit_nonneg := by decide +kernel
  cash := by decide +kernel
  funded := by decide +kernel
  retired_income _ := rfl

/-- The second half of a year with a required distribution. -/
theorem toCashFlowRows_reconcile_iff_required :
    ∃ row, toCashFlowRows [requiredYear] (some ⟨85, 1 / 2⟩) = [row] ∧
      row.Reconciles (-100000) ∧ ∀ component ∈ row.components, 0 ≤ component := by
  have h := toCashFlowRows_reconcile_iff (List.forall_mem_singleton.mpr requiredYear_balanced)
    (some ⟨85, 1 / 2⟩)
  obtain ⟨-, hcash, hcomponents⟩ := (List.forall₂_cons.mp h).1
  have hsavings :
      requiredYear.savings * multiplierOf (some ⟨85, 1 / 2⟩) requiredYear = -100000 := by
    decide +kernel
  rw [hsavings] at hcash
  exact ⟨_, rfl, hcash.mpr fun hworking => Bool.noConfusion hworking,
    hcomponents.mpr fun hworking => Bool.noConfusion hworking⟩

/-- A working year with a benefit beside its salary. -/
def workingBeneficiary : OutcomeCashFlowRow ℚ where
  age := 66
  isRetired := false
  income := 100
  spending := 60
  taxes := 20
  savings := 20
  socialSecurityBenefit := 30
  withdrawalTaxable := 0
  withdrawalTraditional := 0
  withdrawalRoth := 0
  withdrawalHSA := 0
  healthcareCost := none
  longTermCareCost := none

/-- A working year whose income is below zero, funded by a withdrawal. -/
def negativeIncome : OutcomeCashFlowRow ℚ :=
  { workingBeneficiary with
    income := -100
    spending := 0
    taxes := 0
    savings := -100
    socialSecurityBenefit := 0
    withdrawalTaxable := 100 }

/-- Balanced working years: with a benefit the stacks do not reconcile, and with a negative
income the salary is below zero. -/
theorem toCashFlowRows_working :
    (workingBeneficiary.Balanced ∧ ∃ row, toCashFlowRows [workingBeneficiary] none = [row] ∧
      ¬row.Reconciles workingBeneficiary.savings) ∧
    (negativeIncome.Balanced ∧ ∃ row, toCashFlowRows [negativeIncome] none = [row] ∧
      row.salary < 0) := by
  refine ⟨⟨?_, _, rfl, by decide +kernel⟩, ?_, _, rfl, by decide +kernel⟩
  · exact ⟨by decide +kernel, by decide +kernel, fun key => by cases key <;> decide +kernel,
      by decide +kernel, by decide +kernel, by decide +kernel, by decide +kernel⟩
  · exact ⟨by decide +kernel, by decide +kernel, fun key => by cases key <;> decide +kernel,
      by decide +kernel, by decide +kernel, by decide +kernel, by decide +kernel⟩

end RetirementPlanner.Web

namespace RetirementPlanner.Engine

variable {K : Type*} [Field K] [LinearOrder K] [IsStrictOrderedRing K]

/-- A working year that the engine records has no benefit, and its income is the salary. -/
theorem workingRow_wages [FloorRing K] (log : NaturalLog K) {prepared : PreparedPlan K}
    (h : Prepared prepared) (uniform : Uniform K) (returns : ℕ → K × K) {row : PathProjection K}
    (hrow : row ∈ (projectScenarioPrepared log prepared uniform returns).projections)
    (hworking : row.isRetired = false) :
    row.socialSecurityBenefit = 0 ∧ 0 ≤ row.income := by
  rw [projectScenarioPrepared, Path.upTo_projections] at hrow
  obtain ⟨year, -, rfl⟩ := List.mem_map.mp hrow
  have hcontext := workingContext_valid h year
  have hyear : prepared.isRetired year = false := hworking
  change (outcomeAt log prepared uniform returns year).socialSecurityBenefit = 0 ∧
    0 ≤ (outcomeAt log prepared uniform returns year).income
  rw [outcomeAt, yearOutcome, hyear, if_neg Bool.false_ne_true]
  exact ⟨rfl, mul_nonneg hcontext.salary_nonneg hcontext.fraction_pos.le⟩

end RetirementPlanner.Engine
