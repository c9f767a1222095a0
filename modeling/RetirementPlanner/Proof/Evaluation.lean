import RetirementPlanner.Proof.Withdrawals
import RetirementPlanner.Proof.YearTax

/-!
# What a voluntary budget raises

A candidate of the retirement solve, as the waterfall of its draws and the taxes
on them (`evaluate_spec`). The taxes rise with every leg of the withdrawal
(`yearTaxes_mono`), and moving dollars from Traditional to Roth never raises them
(`yearTaxes_swap`). So a MAGI ceiling, which does nothing else, never costs cash
(`cash_le_cash_of_target`).
-/

namespace RetirementPlanner.Engine

open Waterfall

variable {K : Type*} [Field K] [LinearOrder K]

/-! ## Contexts -/

/-- A Roth ledger without debts. -/
structure RothBasisState.Valid (state : RothBasisState K) : Prop where
  regular_nonneg : 0 ≤ state.regularPrincipal
  unseasoned_nonneg : 0 ≤ state.unseasonedPrincipal
  lots_nonneg : ∀ lot ∈ state.conversionLots, 0 ≤ lot.remainingPrincipal

/-- The contexts a projection solves in. -/
structure WithdrawalContext.Valid (context : WithdrawalContext K) : Prop where
  household_eq : ∃ filingStatus, context.household = .single filingStatus context.age
  benefit_nonneg : 0 ≤ context.socialSecurityBenefit
  /-- Benefits start at 62 at the earliest. -/
  benefit_age : context.socialSecurityBenefit ≠ 0 → 62 ≤ context.age
  rmd_nonneg : 0 ≤ context.rmdAmount
  gainRatio_nonneg : 0 ≤ context.taxableGainRatio
  gainRatio_le_one : context.taxableGainRatio ≤ 1
  allowance_nonneg : 0 ≤ context.hsaQualifiedAllowance

/-- The context with another MAGI target. -/
def WithdrawalContext.withTarget (context : WithdrawalContext K)
    (magiTarget : Option (MagiTarget K)) : WithdrawalContext K :=
  { context with magiTarget }

theorem WithdrawalContext.Valid.withTarget {context : WithdrawalContext K} (h : context.Valid)
    (magiTarget : Option (MagiTarget K)) : (context.withTarget magiTarget).Valid :=
  ⟨h.household_eq, h.benefit_nonneg, h.benefit_age, h.rmd_nonneg, h.gainRatio_nonneg,
    h.gainRatio_le_one, h.allowance_nonneg⟩

/-! ## Taxes on a withdrawal -/

/-- The part of an HSA draw no medical cost covers. -/
def nonQualifiedHsa (hsa allowance : K) : K := hsa - min hsa allowance

/-- The tax and penalties on a year's withdrawals. -/
def yearTaxes (rothBasis : RothBasisState K) (context : WithdrawalContext K)
    (traditional roth hsa gain : K) : K :=
  retirementTaxOn context.household context.state context.taxYear
      (traditional + nonQualifiedHsa hsa context.hsaQualifiedAllowance)
      context.socialSecurityBenefit gain
    + penaltiesOn traditional (nonQualifiedHsa hsa context.hsaQualifiedAllowance)
      (rothConversionPenaltyFor roth rothBasis context.age) context.age

variable [IsStrictOrderedRing K]

theorem nonQualifiedHsa_nonneg (hsa allowance : K) : 0 ≤ nonQualifiedHsa hsa allowance :=
  sub_nonneg.mpr (min_le_left _ _)

theorem nonQualifiedHsa_le {hsa allowance : K} (hh : 0 ≤ hsa) (ha : 0 ≤ allowance) :
    nonQualifiedHsa hsa allowance ≤ hsa :=
  sub_le_self _ (le_min hh ha)

theorem nonQualifiedHsa_mono (allowance : K) {h h' : K} (hle : h ≤ h') :
    nonQualifiedHsa h allowance ≤ nonQualifiedHsa h' allowance := by
  simp only [nonQualifiedHsa]
  rcases min_choice h' allowance with hm | hm
  · rw [hm, sub_self, min_eq_left (hle.trans (min_eq_left_iff.mp hm)), sub_self]
  · rw [hm]
    rcases min_choice h allowance with hm' | hm' <;> rw [hm']
    · linarith [min_eq_right_iff.mp hm]
    · linarith

theorem rothPenalty_nonneg {state : RothBasisState K} (hs : state.Valid) (withdrawal : K)
    (age : ℕ) : 0 ≤ rothConversionPenaltyFor withdrawal state age := by
  rw [rothConversionPenaltyFor]
  split
  · exact le_rfl
  · exact mul_nonneg (le_min (le_max_right _ _) hs.unseasoned_nonneg)
      (by norm_num [earlyTraditionalPenaltyRate])

theorem rothPenalty_mono {state : RothBasisState K} (hs : state.Valid) {w w' : K} (h : w ≤ w')
    (age : ℕ) :
    rothConversionPenaltyFor w state age ≤ rothConversionPenaltyFor w' state age := by
  by_cases hw : state.enabled = false ∨ w ≤ 0 ∨ traditionalPenaltyAge ≤ age
  · rw [rothConversionPenaltyFor, if_pos hw]
    exact rothPenalty_nonneg hs w' age
  · have hw' : ¬(state.enabled = false ∨ w' ≤ 0 ∨ traditionalPenaltyAge ≤ age) := by
      simp only [not_or, not_le] at hw ⊢
      exact ⟨hw.1, hw.2.1.trans_le h, hw.2.2⟩
    simp only [rothConversionPenaltyFor, if_neg hw, if_neg hw']
    refine mul_le_mul_of_nonneg_right (min_le_min (max_le_max (by linarith) le_rfl) le_rfl) ?_
    norm_num [earlyTraditionalPenaltyRate]

/-- Roth dollars are penalized at most at the early-withdrawal rate, and only at an
age where Traditional ones are. -/
theorem rothPenalty_slope {state : RothBasisState K} (hs : state.Valid) {w w' : K} (h0 : 0 ≤ w)
    (h : w ≤ w') (age : ℕ) :
    rothConversionPenaltyFor w' state age - rothConversionPenaltyFor w state age
      ≤ if age < traditionalPenaltyAge then (w' - w) * earlyTraditionalPenaltyRate else 0 := by
  have hrate : (0 : K) ≤ earlyTraditionalPenaltyRate := by norm_num [earlyTraditionalPenaltyRate]
  by_cases hw' : state.enabled = false ∨ w' ≤ 0 ∨ traditionalPenaltyAge ≤ age
  · have := rothPenalty_nonneg hs w age
    have hpos : (0 : K) ≤ if age < traditionalPenaltyAge then
        (w' - w) * earlyTraditionalPenaltyRate else 0 := by
      split
      · exact mul_nonneg (sub_nonneg.mpr h) hrate
      · exact le_rfl
    rw [rothConversionPenaltyFor, if_pos hw']
    linarith
  obtain ⟨henabled, hpos, hage⟩ := by simpa only [not_or, not_le] using hw'
  rw [if_pos hage]
  have hmin {x y : K} (hxy : x ≤ y) : min (max (y - state.regularPrincipal) 0)
      state.unseasonedPrincipal ≤ min (max (x - state.regularPrincipal) 0)
        state.unseasonedPrincipal + (y - x) := by
    have := stage_sub_le state.regularPrincipal state.unseasonedPrincipal hxy
    simp only [stage] at this
    linarith
  by_cases hw : w ≤ 0
  · -- The first Roth dollars come out of the regular principal.
    have hzero : w = 0 := le_antisymm hw h0
    have hfirst : min (max (w - state.regularPrincipal) 0) state.unseasonedPrincipal = 0 := by
      rw [hzero, max_eq_right (by linarith [hs.regular_nonneg]), min_eq_left hs.unseasoned_nonneg]
    have := hmin h
    rw [rothConversionPenaltyFor, rothConversionPenaltyFor, if_neg hw', if_pos (.inr (.inl hw)),
      sub_zero]
    refine mul_le_mul_of_nonneg_right ?_ hrate
    linarith
  · have hcond : ¬(state.enabled = false ∨ w ≤ 0 ∨ traditionalPenaltyAge ≤ age) := by
      simp only [not_or, not_le]
      exact ⟨henabled, not_le.mp hw, hage⟩
    have := hmin h
    rw [rothConversionPenaltyFor, rothConversionPenaltyFor, if_neg hw', if_neg hcond, ← sub_mul]
    refine mul_le_mul_of_nonneg_right ?_ hrate
    linarith

omit [LinearOrder K] [IsStrictOrderedRing K] in
/-- Penalties are linear in each leg, at rates that depend on the age alone. -/
theorem penaltiesOn_eq (traditional hsa penalty : K) (age : ℕ) :
    penaltiesOn traditional hsa penalty age
      = traditional * (if age < traditionalPenaltyAge then earlyTraditionalPenaltyRate else 0)
        + hsa * (if age < medicareAge then nonQualifiedHsaPenaltyRate else 0) + penalty := by
  simp only [penaltiesOn, mul_ite, mul_zero]

theorem penaltyRates (age : ℕ) :
    (0 : K) ≤ (if age < traditionalPenaltyAge then earlyTraditionalPenaltyRate else 0) ∧
      (0 : K) ≤ (if age < medicareAge then nonQualifiedHsaPenaltyRate else 0) := by
  constructor <;> split <;> norm_num [earlyTraditionalPenaltyRate, nonQualifiedHsaPenaltyRate]

theorem penaltiesOn_mono (age : ℕ) {t t' h h' p p' : K} (ht : t ≤ t') (hh : h ≤ h')
    (hp : p ≤ p') : penaltiesOn t h p age ≤ penaltiesOn t' h' p' age := by
  obtain ⟨ht0, hh0⟩ := penaltyRates (K := K) age
  rw [penaltiesOn_eq, penaltiesOn_eq]
  exact add_le_add (add_le_add (mul_le_mul_of_nonneg_right ht ht0)
    (mul_le_mul_of_nonneg_right hh hh0)) hp

/-- Taxes rise with every leg of the withdrawal. -/
theorem yearTaxes_mono {rothBasis : RothBasisState K} (hs : rothBasis.Valid)
    {context : WithdrawalContext K} (hc : context.Valid) {t t' r r' h h' g g' : K} (ht : t ≤ t')
    (hr : r ≤ r') (hh : h ≤ h') (hg0 : 0 ≤ g) (hg : g ≤ g') :
    yearTaxes rothBasis context t r h g ≤ yearTaxes rothBasis context t' r' h' g' := by
  have hn := nonQualifiedHsa_mono context.hsaQualifiedAllowance hh
  refine add_le_add ?_ (penaltiesOn_mono _ ht hn (rothPenalty_mono hs hr _))
  exact retirementTax_mono _ _ _ hc.benefit_nonneg (add_le_add ht hn) hg0 hg

/-- Taking dollars from Roth that would have come from Traditional never raises the
taxes. -/
theorem yearTaxes_swap {rothBasis : RothBasisState K} (hs : rothBasis.Valid)
    {context : WithdrawalContext K} (hc : context.Valid) {t t' r r' h g : K} (hr0 : 0 ≤ r)
    (ht : t' ≤ t) (hsum : t' + r' = t + r) (hg : 0 ≤ g) :
    yearTaxes rothBasis context t' r' h g ≤ yearTaxes rothBasis context t r h g := by
  have htax := retirementTax_mono context.household context.state context.taxYear
    hc.benefit_nonneg
    (add_le_add_left ht (nonQualifiedHsa h context.hsaQualifiedAllowance)) hg le_rfl
  have hpenalty := rothPenalty_slope hs hr0 (by linarith : r ≤ r') context.age
  simp only [yearTaxes, penaltiesOn_eq]
  rw [show r' - r = t - t' by linarith] at hpenalty
  have hrate : (if context.age < traditionalPenaltyAge then
      (t - t') * earlyTraditionalPenaltyRate else 0)
      = (t - t') * (if context.age < traditionalPenaltyAge then
        earlyTraditionalPenaltyRate else 0) := by
    rw [mul_ite, mul_zero]
  rw [hrate, sub_mul] at hpenalty
  linarith

/-! ## Evaluation -/

/-- The balances after the forced distribution, and the distribution. -/
def forcedDraw (accounts : List (Account K)) (context : WithdrawalContext K) : List K × K :=
  drawBucketBalances accounts (accounts.map (·.balance)) .traditional context.rmdAmount

/-- The voluntary draw of a candidate. -/
def voluntaryDraw (accounts : List (Account K)) (context : WithdrawalContext K) (budget : K) :
    OrderedWithdrawal K × List K :=
  applyWithdrawalOrder accounts (forcedDraw accounts context).1 budget context.age
    context.taxableGainRatio (context.magiTarget.map fun target =>
      { target with
        committedMagi := context.socialSecurityBenefit + (forcedDraw accounts context).2 })

/-- The first Traditional stage's capacity in a context. -/
def contextCap (accounts : List (Account K)) (context : WithdrawalContext K) : K :=
  traditionalCap accounts (forcedDraw accounts context).1 context.age context.taxableGainRatio
    (context.magiTarget.map fun target =>
      { target with
        committedMagi := context.socialSecurityBenefit + (forcedDraw accounts context).2 })

omit [IsStrictOrderedRing K] in
/-- The guard around the Roth penalty repeats the penalty's own. -/
theorem rothPenalty_guard (roth : K) (state : RothBasisState K) (age : ℕ) :
    (if state.enabled ∧ 0 < roth then rothConversionPenaltyFor roth state age else 0)
      = rothConversionPenaltyFor roth state age := by
  split
  · rfl
  · rename_i h
    rw [rothConversionPenaltyFor, if_pos]
    rw [not_and_or, Bool.not_eq_true, not_lt] at h
    exact h.imp_right .inl

omit [IsStrictOrderedRing K] in
/-- A candidate's figures: the draws, and the taxes on them. -/
theorem evaluate_eq (accounts : List (Account K)) (rothBasis : RothBasisState K) (budget : K)
    (context : WithdrawalContext K) :
    evaluateOrderedWithdrawals accounts rothBasis budget context =
      let forced := (forcedDraw accounts context).2
      let voluntary := (voluntaryDraw accounts context budget).1
      let taxes := yearTaxes rothBasis context (forced + voluntary.traditional) voluntary.roth
        voluntary.hsa voluntary.taxableGain
      let total := voluntary.taxable + (forced + voluntary.traditional) + voluntary.roth
        + voluntary.hsa
      { balances := (voluntaryDraw accounts context budget).2
        withdrawalTaxable := voluntary.taxable
        withdrawalTraditional := forced + voluntary.traditional
        withdrawalRoth := voluntary.roth
        withdrawalHsa := voluntary.hsa
        totalWithdrawn := total
        totalTaxes := taxes
        cashAvailableAfterTax := context.socialSecurityBenefit + total - taxes
        hsaQualifiedUsed := min voluntary.hsa context.hsaQualifiedAllowance } := by
  simp only [evaluateOrderedWithdrawals, rothPenalty_guard]
  rfl

/-- After-tax cash of a candidate. -/
def cash (accounts : List (Account K)) (rothBasis : RothBasisState K)
    (context : WithdrawalContext K) (budget : K) : K :=
  (evaluateOrderedWithdrawals accounts rothBasis budget context).cashAvailableAfterTax

theorem forcedDraw_spec {accounts : List (Account K)} (h : Solvent accounts)
    (context : WithdrawalContext K) :
    Draws accounts (accounts.map (·.balance)) .traditional (max context.rmdAmount 0)
      (forcedDraw accounts context).1 (forcedDraw accounts context).2 :=
  drawBucketBalances_spec h.shadow .traditional context.rmdAmount

theorem forcedDraw_nonneg {accounts : List (Account K)} (h : Solvent accounts)
    (context : WithdrawalContext K) : 0 ≤ (forcedDraw accounts context).2 :=
  (forcedDraw_spec h context).nonneg h.shadow (le_max_right _ _)

theorem voluntaryDraw_spec {accounts : List (Account K)} (h : Solvent accounts)
    (context : WithdrawalContext K) (budget : K) :
    OrderSpec accounts (forcedDraw accounts context).1 (contextCap accounts context)
      (max budget 0) (voluntaryDraw accounts context budget).1
      (voluntaryDraw accounts context budget).2 :=
  applyWithdrawalOrder_spec (forcedDraw_spec h context).shadow _ _ _ _

theorem contextCap_mem {accounts : List (Account K)} (h : Solvent accounts)
    (context : WithdrawalContext K) :
    0 ≤ contextCap accounts context ∧
      contextCap accounts context
        ≤ held .traditional accounts (forcedDraw accounts context).1 :=
  ⟨traditionalCap_nonneg (forcedDraw_spec h context).shadow _ _ _, traditionalCap_le _ _ _ _ _⟩

theorem voluntary_nonneg {accounts : List (Account K)} (h : Solvent accounts)
    (context : WithdrawalContext K) (budget : K) (t : AccountType) :
    0 ≤ (voluntaryDraw accounts context budget).1.of t :=
  (voluntaryDraw_spec h context budget).of_nonneg (forcedDraw_spec h context).shadow
    (contextCap_mem h context).1 (contextCap_mem h context).2 t

omit [IsStrictOrderedRing K] in
theorem voluntary_gain_eq (accounts : List (Account K)) (context : WithdrawalContext K)
    (budget : K) :
    (voluntaryDraw accounts context budget).1.taxableGain
      = (drawLoop .taxable context.taxableGainRatio (max budget 0) accounts
        (forcedDraw accounts context).1).gain := rfl

omit [IsStrictOrderedRing K] in
theorem voluntary_taxable_eq (accounts : List (Account K)) (context : WithdrawalContext K)
    (budget : K) :
    (voluntaryDraw accounts context budget).1.taxable
      = (drawLoop .taxable context.taxableGainRatio (max budget 0) accounts
        (forcedDraw accounts context).1).drawn := rfl

/-- The gain is between nothing and the taxable draw's share. -/
theorem voluntary_gain {context : WithdrawalContext K} (hc : context.Valid)
    (accounts : List (Account K)) (budget : K) :
    0 ≤ (voluntaryDraw accounts context budget).1.taxableGain ∧
      (voluntaryDraw accounts context budget).1.taxableGain
        ≤ (voluntaryDraw accounts context budget).1.taxable * context.taxableGainRatio := by
  rw [voluntary_gain_eq, voluntary_taxable_eq]
  exact drawLoop_gain .taxable hc.gainRatio_nonneg _ _ _

/-- Every leg of the withdrawal rises with the budget. -/
theorem voluntary_mono {accounts : List (Account K)} (h : Solvent accounts)
    (context : WithdrawalContext K) {b b' : K} (hb : b ≤ b') (t : AccountType) :
    (voluntaryDraw accounts context b).1.of t ≤ (voluntaryDraw accounts context b').1.of t := by
  have hs := voluntaryDraw_spec h context b
  have hs' := voluntaryDraw_spec h context b'
  have hmax : max b 0 ≤ max b' 0 := max_le_max hb le_rfl
  cases t with
  | taxable =>
    simp only [OrderedWithdrawal.of, hs.taxable_eq, hs'.taxable_eq]
    exact stage_mono _ _ hmax
  | traditional =>
    simp only [OrderedWithdrawal.of, hs.traditional_eq, hs'.traditional_eq]
    exact add_le_add (stage_mono _ _ hmax) (stage_mono _ _ hmax)
  | roth =>
    simp only [OrderedWithdrawal.of, hs.roth_eq, hs'.roth_eq]
    exact stage_mono _ _ hmax
  | hsa =>
    simp only [OrderedWithdrawal.of, hs.hsa_eq, hs'.hsa_eq]
    exact stage_mono _ _ hmax

theorem voluntary_total {accounts : List (Account K)} (h : Solvent accounts)
    (context : WithdrawalContext K) (budget : K) :
    (voluntaryDraw accounts context budget).1.total
      = stage 0 (forcedDraw accounts context).1.sum (max budget 0) :=
  (voluntaryDraw_spec h context budget).total_stage (forcedDraw_spec h context).shadow
    (contextCap_mem h context).1 (contextCap_mem h context).2

omit [IsStrictOrderedRing K] in
/-- After-tax cash of a candidate, from its draws. -/
theorem cash_eq (accounts : List (Account K)) (rothBasis : RothBasisState K)
    (context : WithdrawalContext K) (budget : K) :
    cash accounts rothBasis context budget =
      context.socialSecurityBenefit + (forcedDraw accounts context).2
        + (voluntaryDraw accounts context budget).1.total
        - yearTaxes rothBasis context
          ((forcedDraw accounts context).2 + (voluntaryDraw accounts context budget).1.traditional)
          (voluntaryDraw accounts context budget).1.roth
          (voluntaryDraw accounts context budget).1.hsa
          (voluntaryDraw accounts context budget).1.taxableGain := by
  have htotal : (voluntaryDraw accounts context budget).1.total
      = (voluntaryDraw accounts context budget).1.taxable
        + (voluntaryDraw accounts context budget).1.traditional
        + (voluntaryDraw accounts context budget).1.roth
        + (voluntaryDraw accounts context budget).1.hsa := rfl
  rw [cash, evaluate_eq, htotal]
  ring

/-- A larger budget raises at most the difference in cash: no leg of it lowers the
taxes. -/
theorem cash_sub_le {accounts : List (Account K)} (h : Solvent accounts)
    {rothBasis : RothBasisState K} (hs : rothBasis.Valid) {context : WithdrawalContext K}
    (hc : context.Valid) {b b' : K} (hb : b ≤ b') :
    cash accounts rothBasis context b' - cash accounts rothBasis context b ≤ b' - b := by
  have hgain : (voluntaryDraw accounts context b).1.taxableGain
      ≤ (voluntaryDraw accounts context b').1.taxableGain := by
    rw [voluntary_gain_eq, voluntary_gain_eq]
    exact (drawLoop_gain_mono .taxable hc.gainRatio_nonneg _ _ (max_le_max hb le_rfl)).1
  have htaxes := yearTaxes_mono hs hc
    (add_le_add_right (voluntary_mono h context hb .traditional) (forcedDraw accounts context).2)
    (voluntary_mono h context hb .roth) (voluntary_mono h context hb .hsa)
    (voluntary_gain hc accounts b).1 hgain
  have htotal := stage_sub_le 0 (forcedDraw accounts context).1.sum
    (max_le_max hb le_rfl : max b 0 ≤ max b' 0)
  have hmax : max b' 0 - max b 0 ≤ b' - b := by
    rcases le_total b' 0 with h' | h'
    · rw [max_eq_right h', max_eq_right (hb.trans h'), sub_self]
      linarith
    · rw [max_eq_left h']
      linarith [le_max_left b 0]
  rw [cash_eq, cash_eq, voluntary_total h, voluntary_total h]
  simp only [OrderedWithdrawal.of] at htaxes
  linarith

/-! ## Where cash is monotone -/

/-- The years whose after-tax cash cannot fall with the budget: past the HSA penalty,
without a benefit to become taxable, or with every HSA dollar covered by medical
cost. -/
def CashMonotone (accounts : List (Account K)) (context : WithdrawalContext K) : Prop :=
  medicareAge ≤ context.age ∨ context.socialSecurityBenefit = 0 ∨
    held .hsa accounts (forcedDraw accounts context).1 ≤ context.hsaQualifiedAllowance

theorem taxableBenefitOf_zero (filingStatus : FilingStatus) (taxYear : ℤ)
    (income : K) : taxableBenefitOf filingStatus taxYear 0 income = 0 := by
  have h1 := taxableBenefit_nonneg (le_refl (0 : K))
    (frozenThreshold (socialSecurityTiers filingStatus).1 taxYear)
    (frozenThreshold (socialSecurityTiers filingStatus).2 taxYear) (income + 0 * 0.5)
  have h2 := taxableBenefit_le (0 : K)
    (frozenThreshold (socialSecurityTiers filingStatus).1 taxYear)
    (frozenThreshold (socialSecurityTiers filingStatus).2 taxYear) (income + 0 * 0.5)
  rw [mul_zero] at h2
  exact le_antisymm h2 h1

/-- Before 65 and without a benefit, the top rates leave room for the penalties. -/
theorem retirementTax_slope_no_benefit (filingStatus : FilingStatus) {age : ℕ}
    (hage : age < medicareAge) (state : State) (taxYear : ℤ) {x x' q q' : K} (hx : x ≤ x')
    (hq0 : 0 ≤ q) (hq : q ≤ q') :
    retirementTaxOn (.single filingStatus age) state taxYear x' 0 q'
        - retirementTaxOn (.single filingStatus age) state taxYear x 0 q
      ≤ 0.6 * (x' - x) + 0.4 * (q' - q) := by
  have hne := not_enhancedApplies filingStatus hage taxYear
  have hincome := incomeTax_slope filingStatus
    (sub_le_sub_right hx (fixedDeduction (.single filingStatus age))) hq
  have hinvest := investmentTax_slope filingStatus taxYear hx hq0 hq
  have hstate := stateSchedule_slope state filingStatus (add_le_add hx hq)
  have hstatus : (Household.single filingStatus age).filingStatus = filingStatus := rfl
  rw [retirementTaxOn_eq _ _ _ le_rfl hq0, retirementTaxOn_eq _ _ _ le_rfl (hq0.trans hq)]
  simp only [ordinaryWithBenefit, hstatus, taxableBenefitOf_zero, add_zero,
    deductionFor_of_not_enhanced hne]
  linarith

/-- Taxes take at most what the withdrawal adds. -/
theorem yearTaxes_slope {rothBasis : RothBasisState K} (hs : rothBasis.Valid)
    {context : WithdrawalContext K} (hc : context.Valid) {t t' r r' h h' g g' : K} (ht : t ≤ t')
    (hr0 : 0 ≤ r) (hr : r ≤ r') (hh : h ≤ h') (hg0 : 0 ≤ g) (hg : g ≤ g')
    (hwhen : medicareAge ≤ context.age ∨ context.socialSecurityBenefit = 0 ∨
      h' ≤ context.hsaQualifiedAllowance) :
    yearTaxes rothBasis context t' r' h' g' - yearTaxes rothBasis context t r h g
      ≤ (t' - t) + (r' - r) + (h' - h) + (g' - g) := by
  obtain ⟨filingStatus, hhousehold⟩ := hc.household_eq
  have hn := nonQualifiedHsa_mono context.hsaQualifiedAllowance hh
  have hn' : nonQualifiedHsa h' context.hsaQualifiedAllowance
      - nonQualifiedHsa h context.hsaQualifiedAllowance ≤ h' - h := by
    have := min_le_min_right context.hsaQualifiedAllowance hh
    simp only [nonQualifiedHsa]
    linarith
  have hslope := retirementTax_slope filingStatus context.age context.state context.taxYear
    hc.benefit_nonneg (add_le_add ht hn) hg0 hg
  have hpenalty := rothPenalty_slope hs hr0 hr context.age
  have hage : medicareAge ≤ context.age → traditionalPenaltyAge ≤ context.age :=
    fun h => le_trans (by decide) h
  simp only [yearTaxes, penaltiesOn_eq, hhousehold]
  set n := nonQualifiedHsa h context.hsaQualifiedAllowance
  set n' := nonQualifiedHsa h' context.hsaQualifiedAllowance with hnDef'
  by_cases hmedicare : medicareAge ≤ context.age
  · -- No penalties are left.
    rw [if_neg (not_lt.mpr (hage hmedicare)), if_neg (not_lt.mpr hmedicare)]
    rw [if_neg (not_lt.mpr (hage hmedicare))] at hpenalty
    linarith
  rw [if_pos (not_le.mp hmedicare)]
  rcases hwhen with h65 | hbenefit | hcovered
  · exact absurd h65 hmedicare
  · -- Without a benefit the rates leave room for the penalties.
    have hslope' := retirementTax_slope_no_benefit filingStatus (not_le.mp hmedicare)
      context.state context.taxYear (add_le_add ht hn) hg0 hg
    rw [hbenefit]
    simp only [earlyTraditionalPenaltyRate] at hpenalty ⊢
    simp only [nonQualifiedHsaPenaltyRate]
    split at hpenalty
    · rename_i hlt
      rw [if_pos hlt]
      linarith
    · rename_i hlt
      rw [if_neg hlt]
      linarith
  · -- No HSA dollar is penalized or taxed, and a benefit is past the early penalty.
    have hzero' : n' = 0 := by rw [hnDef', nonQualifiedHsa, min_eq_left hcovered, sub_self]
    have hzero : n = 0 := le_antisymm (hzero' ▸ hn) (nonQualifiedHsa_nonneg _ _)
    rw [hzero, hzero'] at hslope ⊢
    by_cases hbenefit : context.socialSecurityBenefit = 0
    · have hslope' := retirementTax_slope_no_benefit filingStatus (not_le.mp hmedicare)
        context.state context.taxYear (add_le_add ht (le_refl (0 : K))) hg0 hg
      rw [hbenefit]
      simp only [earlyTraditionalPenaltyRate] at hpenalty ⊢
      split at hpenalty
      · rename_i hlt
        rw [if_pos hlt]
        linarith
      · rename_i hlt
        rw [if_neg hlt]
        linarith
    · have h62 := hc.benefit_age hbenefit
      have hlt : ¬context.age < traditionalPenaltyAge :=
        not_lt.mpr (le_trans (by decide : traditionalPenaltyAge ≤ 62) h62)
      rw [if_neg hlt]
      rw [if_neg hlt] at hpenalty
      linarith

/-- A larger budget raises no less cash, unless its HSA leg passes the qualified
allowance before 65 in a year with a benefit. -/
theorem cash_le_cash {accounts : List (Account K)} (h : Solvent accounts)
    {rothBasis : RothBasisState K} (hs : rothBasis.Valid) {context : WithdrawalContext K}
    (hc : context.Valid) {b b' : K} (hb : b ≤ b')
    (hwhen : medicareAge ≤ context.age ∨ context.socialSecurityBenefit = 0 ∨
      (voluntaryDraw accounts context b').1.hsa ≤ context.hsaQualifiedAllowance) :
    cash accounts rothBasis context b ≤ cash accounts rothBasis context b' := by
  have hmax : max b 0 ≤ max b' 0 := max_le_max hb le_rfl
  obtain ⟨hgain, hslope⟩ := drawLoop_gain_mono .taxable hc.gainRatio_nonneg accounts
    (forcedDraw accounts context).1 hmax
  rw [← voluntary_gain_eq, ← voluntary_gain_eq] at hgain hslope
  rw [← voluntary_taxable_eq, ← voluntary_taxable_eq] at hslope
  have htaxable := voluntary_mono h context hb .taxable
  simp only [OrderedWithdrawal.of] at htaxable
  have hshare : (voluntaryDraw accounts context b').1.taxableGain
      - (voluntaryDraw accounts context b).1.taxableGain
      ≤ (voluntaryDraw accounts context b').1.taxable
        - (voluntaryDraw accounts context b).1.taxable :=
    hslope.trans (mul_le_of_le_one_right (sub_nonneg.mpr htaxable) hc.gainRatio_le_one)
  have htaxes := yearTaxes_slope hs hc
    (add_le_add_right (voluntary_mono h context hb .traditional) (forcedDraw accounts context).2)
    (voluntary_nonneg h context b .roth) (voluntary_mono h context hb .roth)
    (voluntary_mono h context hb .hsa) (voluntary_gain hc accounts b).1 hgain hwhen
  have htotal (b : K) : (voluntaryDraw accounts context b).1.total
      = (voluntaryDraw accounts context b).1.taxable
        + (voluntaryDraw accounts context b).1.traditional
        + (voluntaryDraw accounts context b).1.roth + (voluntaryDraw accounts context b).1.hsa :=
    rfl
  rw [cash_eq, cash_eq, htotal, htotal]
  simp only [OrderedWithdrawal.of] at htaxes
  linarith

theorem cash_mono {accounts : List (Account K)} (h : Solvent accounts)
    {rothBasis : RothBasisState K} (hs : rothBasis.Valid) {context : WithdrawalContext K}
    (hc : context.Valid) (hwhen : CashMonotone accounts context) {b b' : K} (hb : b ≤ b') :
    cash accounts rothBasis context b ≤ cash accounts rothBasis context b' := by
  have hhsa : (voluntaryDraw accounts context b').1.hsa
      ≤ held .hsa accounts (forcedDraw accounts context).1 := by
    rw [(voluntaryDraw_spec h context b').hsa_eq]
    exact stage_le_capacity _ _ _
  exact cash_le_cash h hs hc hb
    (hwhen.imp_right fun hrest => hrest.imp_right fun hcovered => hhsa.trans hcovered)

/-! ## The MAGI ceiling -/

/-- With a ceiling and without, the order takes the same from Taxable and the HSA
and the same from Traditional and Roth together; with it, less from Traditional. -/
theorem order_of_target {accounts : List (Account K)} {balances b₁ b₂ : List K}
    (h : Shadow accounts balances) {cap amount : K} {d₁ d₂ : OrderedWithdrawal K} (hcap : 0 ≤ cap)
    (hle : cap ≤ held .traditional accounts balances)
    (h₁ : OrderSpec accounts balances cap amount d₁ b₁)
    (h₂ : OrderSpec accounts balances (held .traditional accounts balances) amount d₂ b₂) :
    d₁.taxable = d₂.taxable ∧ d₁.hsa = d₂.hsa ∧ d₁.traditional ≤ d₂.traditional ∧
      d₁.traditional + d₁.roth = d₂.traditional + d₂.roth := by
  have hR := held_nonneg h .traditional
  have hO := held_nonneg h .roth
  have hrest := sub_nonneg.mpr hle
  set T := held .taxable accounts balances
  set R := held .traditional accounts balances
  set O := held .roth accounts balances
  -- Both are one stage of the joint capacity of Traditional and Roth.
  have hsum₁ : d₁.traditional + d₁.roth = stage T (R + O) amount := by
    have e1 := stage_add T hcap hO amount
    have e2 := stage_add T (add_nonneg hcap hO) hrest amount
    rw [show T + (cap + O) = T + cap + O by ring, show cap + O + (R - cap) = R + O by ring] at e2
    rw [h₁.traditional_eq, h₁.roth_eq]
    linarith
  have hsum₂ : d₂.traditional + d₂.roth = stage T (R + O) amount := by
    rw [h₂.traditional_eq, h₂.roth_eq, sub_self, stage_zero_capacity, add_zero,
      stage_add T hR hO]
  have hroth : d₂.roth ≤ d₁.roth := by
    rw [h₁.roth_eq, h₂.roth_eq]
    exact stage_antitone _ _ (by linarith)
  refine ⟨h₁.taxable_eq.trans h₂.taxable_eq.symm, h₁.hsa_eq.trans h₂.hsa_eq.symm, ?_,
    hsum₁.trans hsum₂.symm⟩
  linarith

omit [IsStrictOrderedRing K] in
theorem contextCap_none (accounts : List (Account K)) (context : WithdrawalContext K) :
    contextCap accounts (context.withTarget none)
      = held .traditional accounts (forcedDraw accounts context).1 := rfl

/-- The ceiling never costs after-tax cash. -/
theorem cash_le_cash_of_target {accounts : List (Account K)} (h : Solvent accounts)
    {rothBasis : RothBasisState K} (hs : rothBasis.Valid) {context : WithdrawalContext K}
    (hc : context.Valid) (budget : K) :
    cash accounts rothBasis (context.withTarget none) budget
      ≤ cash accounts rothBasis context budget := by
  have hspec := voluntaryDraw_spec h context budget
  have hspec' := voluntaryDraw_spec h (context.withTarget none) budget
  rw [contextCap_none] at hspec'
  obtain ⟨-, hhsa, htraditional, hsum⟩ := order_of_target (forcedDraw_spec h context).shadow
    (contextCap_mem h context).1 (contextCap_mem h context).2 hspec hspec'
  have htotal : (voluntaryDraw accounts context budget).1.total
      = (voluntaryDraw accounts (context.withTarget none) budget).1.total :=
    (voluntary_total h context budget).trans
      (voluntary_total h (context.withTarget none) budget).symm
  have hgain : (voluntaryDraw accounts context budget).1.taxableGain
      = (voluntaryDraw accounts (context.withTarget none) budget).1.taxableGain := rfl
  have htaxes := yearTaxes_swap hs hc
    (h := (voluntaryDraw accounts context budget).1.hsa)
    (voluntary_nonneg h (context.withTarget none) budget .roth)
    (add_le_add_right htraditional (forcedDraw accounts context).2)
    (by rw [add_assoc, add_assoc]; exact congrArg _ hsum) (voluntary_gain hc accounts budget).1
  rw [cash_eq, cash_eq, htotal]
  refine sub_le_sub_left ?_ _
  rw [hhsa, hgain] at htaxes
  rw [hhsa, hgain]
  exact htaxes

end RetirementPlanner.Engine
