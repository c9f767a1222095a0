import RetirementPlanner.Proof.CashFlow
import RetirementPlanner.Proof.Ledger

/-!
# Working years

The invariant of the shortfall loop is `ShortfallState.Books`: what left the buckets
is recorded, the cash flow is the one with those draws as income, and a household
that had to draw never ends up with a surplus. A round keeps it
(`WorkingContext.record_books`), so the loop does (`shortfallLoop_books`), up to the
draw its last round may take without recording it: `WorkingContext.Strands` says
when that happens.
-/

namespace RetirementPlanner.Engine

variable {K : Type*} [Field K] [LinearOrder K]

/-- What the loop of a working year may be run on. -/
structure WorkingContext.Valid (c : WorkingContext K) : Prop where
  salary_nonneg : 0 ≤ c.annualSalary
  fraction_pos : 0 < c.periodFraction
  gainRatio_nonneg : 0 ≤ c.taxableGainRatio

/-- What the loop has recorded as drawn. -/
def ShortfallState.withdrawn (s : ShortfallState K) : K :=
  s.withdrawalTaxable + s.withdrawalTraditional + s.withdrawalRoth + s.withdrawalHsa

/-- The income a working year has beside wages. -/
def WorkingContext.otherIncome (c : WorkingContext K) (s : ShortfallState K) : OtherIncome K where
  ordinary := (s.withdrawalTraditional + s.withdrawalHsa) / c.periodFraction
  qualified := s.shortfallGains / c.periodFraction

/-- The spending a working year has beside penalties, and those. -/
def WorkingContext.spendingWith (c : WorkingContext K) (s : ShortfallState K) : K :=
  c.annualWorkingSpending + s.workingPenalties / c.periodFraction

/-- The cash of the year if the household contributed nothing. -/
def WorkingContext.uncontributed (c : WorkingContext K) (s : ShortfallState K) : K :=
  uncontributedCash c.annualSalary (c.spendingWith s) c.household c.state c.taxYear
    (c.otherIncome s)

/-- The tax of the year if the household contributed nothing. -/
def WorkingContext.taxWith (c : WorkingContext K) (s : ShortfallState K) : K :=
  workingTaxOn c.annualSalary c.household c.state c.taxYear 0 0 (c.otherIncome s).ordinary
    (c.otherIncome s).qualified

/-- What a draw costs: the tax on its income, and its penalties. -/
def WorkingContext.drawCost (c : WorkingContext K) (s : ShortfallState K)
    (drawn : OrderedWithdrawal K) (accounts : List (Account K)) : K :=
  (c.taxWith (c.record s drawn accounts) - c.taxWith s) * c.periodFraction
    + penaltiesOn drawn.traditional drawn.hsa 0 c.currentAge

/-- The books of the loop over buckets that held `total`: all but `lost` of it is
still there or recorded as drawn. -/
structure ShortfallState.Books (c : WorkingContext K) (total lost : K) (s : ShortfallState K) :
    Prop where
  buckets : Buckets s.accounts
  principal_eq : s.shortfallPrincipal = s.withdrawalTaxable + s.withdrawalRoth
  principal_nonneg : 0 ≤ s.shortfallPrincipal
  gains_nonneg : 0 ≤ s.shortfallGains
  cashFlow : CashFlow c.annualSalary (c.spendingWith s) c.household c.state c.taxYear
    (c.otherIncome s) s.workingCashFlow
  no_surplus : 0 < s.shortfallPrincipal →
    s.workingCashFlow.netCashFlow * c.periodFraction + s.shortfallPrincipal ≤ 0
  conserved : totalBalance s.accounts + s.withdrawn + lost = total

/-- At some pass the household is short by more than the tolerance and holds no more
than the tolerance, but not nothing: the draw that takes it is not recorded. -/
def WorkingContext.Strands (c : WorkingContext K) : ℕ → ShortfallState K → Prop
  | 0, _ => False
  | passes + 1, s =>
    shortfallTolerance < c.unfunded s ∧
      if totalBalance s.accounts ≤ shortfallTolerance then 0 < totalBalance s.accounts
      else c.Strands passes (c.record s (c.draw s).1 (c.draw s).2)

/-- What the loop draws without recording it. -/
def WorkingContext.stranded (c : WorkingContext K) : ℕ → ShortfallState K → K
  | 0, _ => 0
  | passes + 1, s =>
    if c.unfunded s ≤ shortfallTolerance then 0
    else if totalBalance s.accounts ≤ shortfallTolerance then totalBalance s.accounts
    else c.stranded passes (c.record s (c.draw s).1 (c.draw s).2)

variable [IsStrictOrderedRing K]

theorem shortfallTolerance_pos : (0 : K) < shortfallTolerance := zero_lt_one

/-! ## One draw -/

theorem WorkingContext.draw_spec (c : WorkingContext K) {s : ShortfallState K}
    (h : Buckets s.accounts) :
    WithdrawSpec s.accounts (c.unfunded s) (c.draw s).1 (c.draw s).2 :=
  withdrawInOrder_spec h _ _ _ _

/-- A household that is short draws what it needs or all it has. -/
theorem WorkingContext.draw_total (c : WorkingContext K) {s : ShortfallState K}
    (h : Buckets s.accounts) :
    (c.draw s).1.total = min (c.unfunded s) (totalBalance s.accounts) := by
  rw [(c.draw_spec h).total_min, WorkingContext.unfunded, max_eq_left (le_max_right _ _)]

theorem WorkingContext.draw_total_le_iff (c : WorkingContext K) {s : ShortfallState K}
    (h : Buckets s.accounts) (hshort : ¬c.unfunded s ≤ shortfallTolerance) :
    (c.draw s).1.total ≤ shortfallTolerance ↔ totalBalance s.accounts ≤ shortfallTolerance := by
  rw [c.draw_total h, min_le_iff]
  exact or_iff_right hshort

omit [IsStrictOrderedRing K] in
theorem WithdrawSpec.totalBalance_eq {accounts accounts' : List (Account K)} {amount : K}
    {drawn : OrderedWithdrawal K} (h : WithdrawSpec accounts amount drawn accounts') :
    totalBalance accounts' = totalBalance accounts - drawn.total := by
  rw [Engine.totalBalance_eq, Engine.totalBalance_eq accounts, h.balance_eq, h.balance_eq,
    h.balance_eq, h.balance_eq, h.total_eq]
  simp only [OrderedWithdrawal.of]
  ring

theorem totalBalance_nonneg {accounts : List (Account K)} (h : Solvent accounts) :
    0 ≤ totalBalance accounts :=
  h.shadow.sum_nonneg

/-! ## The start of the loop -/

theorem WorkingContext.cashFlowWith_spec {c : WorkingContext K} (hc : c.Valid)
    (penalties ordinary : K) {qualified : K} (hq : 0 ≤ qualified) :
    CashFlow c.annualSalary (c.annualWorkingSpending + penalties / c.periodFraction) c.household
      c.state c.taxYear ⟨ordinary, qualified⟩ (c.cashFlowWith penalties ordinary qualified) :=
  cashFlow_spec _ _ _ _ _ hc.salary_nonneg hq

theorem drawBucketBalances_totalBalance {accounts : List (Account K)}
    (h : Solvent accounts) (t : AccountType) (limit : K) :
    let d := drawBucketBalances accounts (accounts.map (·.balance)) t limit
    totalBalance (writeBalances accounts d.1) = totalBalance accounts - d.2 := by
  intro d
  have hd := drawBucketBalances_spec h.shadow t limit
  rw [totalBalance, map_balance_writeBalances hd.shadow, hd.sum_eq h.shadow, totalBalance]

/-- The required distribution leaves the books in order. -/
theorem WorkingContext.start_books {c : WorkingContext K} (hc : c.Valid) (rmdAmount : K)
    {accounts : List (Account K)} (h : Buckets accounts) :
    (c.start rmdAmount accounts).Books c (totalBalance accounts) 0 := by
  have hd := drawBucketBalances_spec h.solvent.shadow .traditional (rmdAmount * c.periodFraction)
  have htotal := drawBucketBalances_totalBalance h.solvent .traditional
    (rmdAmount * c.periodFraction)
  set d := drawBucketBalances accounts (accounts.map (·.balance)) .traditional
    (rmdAmount * c.periodFraction) with hdDef
  have hstart : c.start rmdAmount accounts
      = ⟨writeBalances accounts d.1, 0, d.2, 0, 0, 0, 0, 0,
        c.cashFlowWith 0 (d.2 / c.periodFraction) 0⟩ := rfl
  rw [hstart]
  refine ⟨h.writeBalances hd.shadow, (add_zero 0).symm, le_rfl, le_rfl, ?_,
    fun hpos => absurd hpos (lt_irrefl _), ?_⟩
  · have hflow := c.cashFlowWith_spec hc 0 (d.2 / c.periodFraction) le_rfl
    simpa only [spendingWith, otherIncome, add_zero, zero_div] using hflow
  · simp only [ShortfallState.withdrawn]
    rw [htotal]
    ring

/-! ## One round -/

/-- A household that lacks cash contributes nothing, and lacks what it had too little of
before the principal it drew. -/
theorem ShortfallState.Books.lacks {c : WorkingContext K} (hc : c.Valid) {total lost : K}
    {s : ShortfallState K} (h : s.Books c total lost)
    (hshort : ¬c.unfunded s ≤ shortfallTolerance) :
    c.uncontributed s ≤ 0 ∧
      c.unfunded s = -(c.uncontributed s * c.periodFraction) - s.shortfallPrincipal := by
  have hpf := hc.fraction_pos
  have hlack : 0 < -s.workingCashFlow.netCashFlow * c.periodFraction - s.shortfallPrincipal := by
    by_contra hle
    rw [WorkingContext.unfunded, max_eq_right (not_lt.mp hle)] at hshort
    exact hshort shortfallTolerance_pos.le
  have hneg : s.workingCashFlow.netCashFlow < 0 := by
    by_contra hnn
    have := mul_nonneg (not_lt.mp hnn) hpf.le
    have := h.principal_nonneg
    linarith
  have hbefore : c.uncontributed s ≤ 0 := by
    by_contra hpos
    exact absurd (h.cashFlow.funded (not_le.mp hpos)) (not_le.mpr hneg)
  have hnet : s.workingCashFlow.netCashFlow = c.uncontributed s := (h.cashFlow.short hbefore).2.2
  rw [WorkingContext.unfunded, max_eq_left hlack.le, hnet, neg_mul]
  exact ⟨hbefore, rfl⟩

/-- A draw adds to the year's other income, both ordinary and qualified. -/
theorem WorkingContext.otherIncome_record {c : WorkingContext K} (hc : c.Valid)
    {s : ShortfallState K} (hgains : 0 ≤ s.shortfallGains) {d : OrderedWithdrawal K}
    (accounts : List (Account K)) (hd : ∀ t, 0 ≤ d.of t) :
    (c.otherIncome s).ordinary ≤ (c.otherIncome (c.record s d accounts)).ordinary ∧
      0 ≤ (c.otherIncome s).qualified ∧
      (c.otherIncome s).qualified ≤ (c.otherIncome (c.record s d accounts)).qualified := by
  have hpf := hc.fraction_pos
  have htaxable : 0 ≤ d.taxable := hd .taxable
  have htraditional : 0 ≤ d.traditional := hd .traditional
  have hhsa : 0 ≤ d.hsa := hd .hsa
  have hgain : 0 ≤ d.taxable * c.taxableGainRatio := mul_nonneg htaxable hc.gainRatio_nonneg
  have hordinary : s.withdrawalTraditional + s.withdrawalHsa
      ≤ s.withdrawalTraditional + d.traditional + (s.withdrawalHsa + d.hsa) := by linarith
  have hqualified : s.shortfallGains ≤ s.shortfallGains + d.taxable * c.taxableGainRatio := by
    linarith
  exact ⟨div_le_div_of_nonneg_right hordinary hpf.le, div_nonneg hgains hpf.le,
    div_le_div_of_nonneg_right hqualified hpf.le⟩

/-- A draw never saves tax. -/
theorem WorkingContext.drawCost_nonneg {c : WorkingContext K} (hc : c.Valid)
    {s : ShortfallState K} (hgains : 0 ≤ s.shortfallGains) {d : OrderedWithdrawal K}
    (accounts : List (Account K)) (hd : ∀ t, 0 ≤ d.of t) : 0 ≤ c.drawCost s d accounts := by
  have htraditional : 0 ≤ d.traditional := hd .traditional
  have hhsa : 0 ≤ d.hsa := hd .hsa
  have hpenalty := penaltiesOn_mono c.currentAge htraditional hhsa (le_refl (0 : K))
  rw [penaltiesOn_eq, zero_mul, zero_mul, add_zero, add_zero] at hpenalty
  obtain ⟨hordinary, hgains0, hqualified⟩ := c.otherIncome_record hc hgains accounts hd
  have htax := workingTax_mono c.annualSalary c.household c.state c.taxYear (le_refl (0 : K))
    (le_refl (0 : K)) hordinary hgains0 hqualified
  exact add_nonneg (mul_nonneg (sub_nonneg.mpr htax) hc.fraction_pos.le) hpenalty

omit [IsStrictOrderedRing K] in
/-- A draw adds its ordinary income to the cash of the year, less what it costs. -/
theorem WorkingContext.uncontributed_record {c : WorkingContext K} (hc : c.Valid)
    (s : ShortfallState K) (d : OrderedWithdrawal K) (accounts : List (Account K)) :
    c.uncontributed (c.record s d accounts) * c.periodFraction
      = c.uncontributed s * c.periodFraction + d.traditional + d.hsa - c.drawCost s d accounts := by
  have hpf := hc.fraction_pos.ne'
  simp only [uncontributed, uncontributedCash, cashBeforeContributions, drawCost, taxWith,
    otherIncome, spendingWith, WorkingContext.record]
  field_simp
  ring

/-- A draw leaves what it does not cover of the gap, and what it costs. -/
theorem WorkingContext.gap_record {c : WorkingContext K} (hc : c.Valid) {total : K}
    {s : ShortfallState K} (h : s.Books c total 0)
    (hshort : ¬c.unfunded s ≤ shortfallTolerance) :
    let s' := c.record s (c.draw s).1 (c.draw s).2
    let gap := c.unfunded s - (c.draw s).1.total + c.drawCost s (c.draw s).1 (c.draw s).2
    gap = -(c.uncontributed s' * c.periodFraction) - s'.shortfallPrincipal ∧ 0 ≤ gap := by
  intro s' gap
  have hspec := c.draw_spec h.buckets
  have htotal : (c.draw s).1.total ≤ c.unfunded s := by
    rw [c.draw_total h.buckets]
    exact min_le_left _ _
  have hcost := c.drawCost_nonneg hc h.gains_nonneg (c.draw s).2 hspec.of_nonneg
  have hrise := c.uncontributed_record hc s (c.draw s).1 (c.draw s).2
  have hunfunded := (h.lacks hc hshort).2
  have hsum := hspec.total_eq
  have hprincipal : s'.shortfallPrincipal
      = s.shortfallPrincipal + ((c.draw s).1.taxable + (c.draw s).1.roth) := rfl
  refine ⟨?_, add_nonneg (sub_nonneg.mpr htotal) hcost⟩
  simp only [s', gap, hprincipal]
  linarith

/-- Recording a draw no larger than the shortfall keeps the books. The draw is income,
so taxes and penalties can only take more of it: the household stays short, and one
that is short contributes nothing. -/
theorem WorkingContext.record_books {c : WorkingContext K} (hc : c.Valid) {total : K}
    {s : ShortfallState K} (h : s.Books c total 0)
    (hshort : ¬c.unfunded s ≤ shortfallTolerance) :
    (c.record s (c.draw s).1 (c.draw s).2).Books c total 0 := by
  have hpf := hc.fraction_pos
  have hspec := c.draw_spec h.buckets
  obtain ⟨hgap, hleft⟩ := c.gap_record hc h hshort
  rw [hgap] at hleft
  set d := (c.draw s).1 with hd
  have htaxable : 0 ≤ d.taxable := hspec.of_nonneg .taxable
  have hroth : 0 ≤ d.roth := hspec.of_nonneg .roth
  have hgain : 0 ≤ d.taxable * c.taxableGainRatio := mul_nonneg htaxable hc.gainRatio_nonneg
  set s' := c.record s d (c.draw s).2 with hs'
  have hflow : CashFlow c.annualSalary (c.spendingWith s') c.household c.state c.taxYear
      (c.otherIncome s') s'.workingCashFlow :=
    c.cashFlowWith_spec hc _ _ (div_nonneg (add_nonneg h.gains_nonneg hgain) hpf.le)
  have hprincipal : s'.shortfallPrincipal = s.shortfallPrincipal + (d.taxable + d.roth) := rfl
  have hprincipal0 : 0 ≤ s'.shortfallPrincipal := by
    rw [hprincipal]
    exact add_nonneg h.principal_nonneg (add_nonneg htaxable hroth)
  have hafter : c.uncontributed s' ≤ 0 := by
    by_contra hpos
    have := mul_pos (not_le.mp hpos) hpf
    linarith
  refine ⟨hspec.buckets, ?_, hprincipal0, add_nonneg h.gains_nonneg hgain, hflow, fun _ => ?_, ?_⟩
  · rw [hprincipal, h.principal_eq]
    simp only [hs', WorkingContext.record]
    ring
  · have hnet : s'.workingCashFlow.netCashFlow = c.uncontributed s' := (hflow.short hafter).2.2
    rw [hnet]
    linarith
  · have hconserved := h.conserved
    have haccounts : totalBalance s'.accounts = totalBalance s.accounts - d.total :=
      hspec.totalBalance_eq
    rw [haccounts, hspec.total_eq, ← hconserved]
    simp only [ShortfallState.withdrawn, hs', WorkingContext.record]
    ring

/-! ## The loop -/

omit [IsStrictOrderedRing K] in
theorem WorkingContext.shortfallLoop_succ (c : WorkingContext K) (passes : ℕ)
    (s : ShortfallState K) :
    c.shortfallLoop (passes + 1) s =
      if c.unfunded s ≤ shortfallTolerance then s
      else if (c.draw s).1.total ≤ shortfallTolerance then { s with accounts := (c.draw s).2 }
      else c.shortfallLoop passes (c.record s (c.draw s).1 (c.draw s).2) := rfl

theorem WorkingContext.shortfallLoop_books {c : WorkingContext K} (hc : c.Valid) {total : K}
    (passes : ℕ) {s : ShortfallState K} (h : s.Books c total 0) :
    (c.shortfallLoop passes s).Books c total (c.stranded passes s) := by
  induction passes generalizing s with
  | zero => exact h
  | succ passes ih =>
    rw [shortfallLoop_succ, stranded]
    by_cases hshort : c.unfunded s ≤ shortfallTolerance
    · rwa [if_pos hshort, if_pos hshort]
    rw [if_neg hshort, if_neg hshort]
    by_cases hlast : totalBalance s.accounts ≤ shortfallTolerance
    · -- The portfolio is drained and nothing is recorded.
      rw [if_pos ((c.draw_total_le_iff h.buckets hshort).mpr hlast), if_pos hlast]
      have hspec := c.draw_spec h.buckets
      have hdrained : totalBalance (c.draw s).2 = 0 := by
        rw [hspec.totalBalance_eq, c.draw_total h.buckets,
          min_eq_right (hlast.trans (not_le.mp hshort).le), sub_self]
      refine ⟨hspec.buckets, h.principal_eq, h.principal_nonneg, h.gains_nonneg, h.cashFlow,
        h.no_surplus, ?_⟩
      have hconserved := h.conserved
      simp only [ShortfallState.withdrawn] at hconserved ⊢
      rw [hdrained]
      linarith
    · rw [if_neg fun hle => hlast ((c.draw_total_le_iff h.buckets hshort).mp hle), if_neg hlast]
      exact ih (c.record_books hc h hshort)

/-- Money is lost exactly when the loop strands it. -/
theorem WorkingContext.stranded_eq_zero_iff {c : WorkingContext K} (hc : c.Valid) {total : K}
    (passes : ℕ) {s : ShortfallState K} (h : s.Books c total 0) :
    c.stranded passes s = 0 ↔ ¬c.Strands passes s := by
  induction passes generalizing s with
  | zero => exact iff_of_true rfl not_false
  | succ passes ih =>
    rw [stranded, Strands]
    by_cases hshort : c.unfunded s ≤ shortfallTolerance
    · rw [if_pos hshort]
      exact iff_of_true rfl fun hstrands => absurd hstrands.1 (not_lt.mpr hshort)
    rw [if_neg hshort]
    by_cases hlast : totalBalance s.accounts ≤ shortfallTolerance
    · have hnn := totalBalance_nonneg h.buckets.solvent
      rw [if_pos hlast, if_pos hlast, not_and, not_lt]
      exact ⟨fun hzero _ => hzero.le, fun hle => le_antisymm (hle (not_le.mp hshort)) hnn⟩
    · rw [if_neg hlast, if_neg hlast, ih (c.record_books hc h hshort), not_and]
      exact ⟨fun hnot _ => hnot, fun hnot => hnot (not_le.mp hshort)⟩

/-- A loop that strands money leaves its year short. -/
theorem WorkingContext.unfunded_of_strands {c : WorkingContext K} (hc : c.Valid) {total : K}
    (passes : ℕ) {s : ShortfallState K} (h : s.Books c total 0) (hstrands : c.Strands passes s) :
    shortfallTolerance < c.unfunded (c.shortfallLoop passes s) := by
  induction passes generalizing s with
  | zero => exact hstrands.elim
  | succ passes ih =>
    obtain ⟨hshort, hrest⟩ := hstrands
    have hshort' := not_le.mpr hshort
    rw [shortfallLoop_succ, if_neg hshort']
    by_cases hlast : totalBalance s.accounts ≤ shortfallTolerance
    · rw [if_pos ((c.draw_total_le_iff h.buckets hshort').mpr hlast)]
      exact hshort
    · rw [if_neg hlast] at hrest
      rw [if_neg fun hle => hlast ((c.draw_total_le_iff h.buckets hshort').mp hle)]
      exact ih (c.record_books hc h hshort') hrest

/-! ## The year -/

/-- All of a year's contributions. -/
def AnnualContributions.total (contributions : AnnualContributions K) : K :=
  contributions.hsa + contributions.traditional + contributions.roth + contributions.taxable

/-- What came in and was drawn went to taxes, contributions and spending. -/
theorem ShortfallState.Books.cash_eq {c : WorkingContext K} (hc : c.Valid) {total lost : K}
    {s : ShortfallState K} (h : s.Books c total lost) :
    c.annualSalary * c.periodFraction + s.withdrawn
        - (s.workingCashFlow.tax.totalTax * c.periodFraction + s.workingPenalties)
        - s.workingCashFlow.contributions.total * c.periodFraction
      = c.annualWorkingSpending * c.periodFraction - c.unfunded s := by
  have hpf := hc.fraction_pos
  have hflow := h.cashFlow
  set net := s.workingCashFlow.netCashFlow with hnet
  have hscaled : net * c.periodFraction = c.annualSalary * c.periodFraction
      + (s.withdrawalTraditional + s.withdrawalHsa)
      - s.workingCashFlow.tax.totalTax * c.periodFraction
      - (c.annualWorkingSpending * c.periodFraction + s.workingPenalties)
      - s.workingCashFlow.contributions.hsa * c.periodFraction
      - s.workingCashFlow.contributions.traditional * c.periodFraction := by
    rw [hnet, hflow.net_eq]
    simp only [cashBeforeContributions, WorkingContext.otherIncome, WorkingContext.spendingWith]
    field_simp
  have hsaved : s.workingCashFlow.contributions.roth * c.periodFraction
      + s.workingCashFlow.contributions.taxable * c.periodFraction
      = max net 0 * c.periodFraction := by
    rw [← add_mul, hflow.saved]
  -- Either there is a surplus and nothing was drawn, or the draws are short of it.
  have hsettled : s.shortfallPrincipal + net * c.periodFraction - max net 0 * c.periodFraction
      = -c.unfunded s := by
    rw [WorkingContext.unfunded, ← hnet]
    rcases h.principal_nonneg.eq_or_lt with hzero | hpos
    · rw [← hzero, sub_zero, zero_add]
      rcases le_total 0 net with hnn | hneg
      · rw [max_eq_left hnn, sub_self, max_eq_right, neg_zero]
        rw [neg_mul]
        exact neg_nonpos.mpr (mul_nonneg hnn hpf.le)
      · rw [max_eq_right hneg, zero_mul, sub_zero, max_eq_left, neg_mul, neg_neg]
        rw [neg_mul]
        exact neg_nonneg.mpr (mul_nonpos_of_nonpos_of_nonneg hneg hpf.le)
    · have hle := h.no_surplus hpos
      have hneg : net ≤ 0 := by
        by_contra hnot
        have := mul_pos (not_le.mp hnot) hpf
        linarith
      rw [max_eq_right hneg, zero_mul, sub_zero, max_eq_left]
      · ring
      · rw [neg_mul]
        linarith
  rw [AnnualContributions.total, ShortfallState.withdrawn]
  have hprincipal := h.principal_eq
  linarith

/-- The state a working year's loop starts from. -/
def PreparedPlan.shortfallStart (prepared : PreparedPlan K) (returns : K × K) (year : ℕ)
    (accounts : List (Account K)) (rmdAmount : K) : ShortfallState K :=
  (workingContext prepared year).start rmdAmount
    (growAccounts (workingContext prepared year).periodFraction returns accounts)

theorem workingYear_books {prepared : PreparedPlan K} {year : ℕ}
    (hc : (workingContext prepared year).Valid) (returns : K × K) {accounts : List (Account K)}
    (h : Buckets accounts) {rothBasis : RothBasisState K} (hledger : rothBasis.Valid)
    {allowance : K} (hallowance : 0 ≤ allowance) (rmdAmount : K) :
    (workingYear prepared returns year accounts rothBasis allowance rmdAmount).Books
      (totalBalance (growAccounts (prepared.periodFraction year) returns accounts))
      ((workingContext prepared year).stranded shortfallPasses
        (prepared.shortfallStart returns year accounts rmdAmount)) := by
  set c := workingContext prepared year with hcDef
  have hpf := hc.fraction_pos
  have hstart := c.start_books hc rmdAmount
    (growAccounts_buckets h c.periodFraction returns)
  have hbooks := c.shortfallLoop_books hc shortfallPasses hstart
  set s := c.shortfallLoop shortfallPasses
    (c.start rmdAmount (growAccounts c.periodFraction returns accounts)) with hs
  have hflow := hbooks.cashFlow
  have scaled {x : K} (hx : 0 ≤ x) : max (x * c.periodFraction) 0 = x * c.periodFraction :=
    max_eq_left (mul_nonneg hx hpf.le)
  obtain ⟨hshift1, hd1⟩ := depositToBucket_spec hbooks.buckets .hsa
    (s.workingCashFlow.contributions.hsa * c.periodFraction)
  set a1 := depositToBucket s.accounts .hsa
    (s.workingCashFlow.contributions.hsa * c.periodFraction)
  obtain ⟨hshift2, hd2⟩ := depositToBucket_spec hshift1.buckets .traditional
    (s.workingCashFlow.contributions.traditional * c.periodFraction)
  set a2 := depositToBucket a1.1 .traditional
    (s.workingCashFlow.contributions.traditional * c.periodFraction)
  obtain ⟨hshift3, hd3⟩ := depositToBucket_spec hshift2.buckets .roth
    (s.workingCashFlow.contributions.roth * c.periodFraction)
  set a3 := depositToBucket a2.1 .roth (s.workingCashFlow.contributions.roth * c.periodFraction)
  obtain ⟨hshift4, hd4⟩ := depositToBucket_spec hshift3.buckets .taxable
    (s.workingCashFlow.contributions.taxable * c.periodFraction)
  set a4 := depositToBucket a3.1 .taxable
    (s.workingCashFlow.contributions.taxable * c.periodFraction)
  rw [scaled hflow.hsa_nonneg] at hshift1 hd1
  rw [scaled hflow.traditional_nonneg] at hshift2 hd2
  rw [scaled hflow.roth_nonneg] at hshift3 hd3
  rw [scaled hflow.taxable_nonneg] at hshift4 hd4
  refine ⟨hshift4.buckets, ?_, hallowance, ?_, ?_⟩
  · -- Contributions to the Roth are penalty-free principal.
    change RothBasisState.Valid (if rothBasis.enabled then
      { rothBasis with
        regularPrincipal := max (rothBasis.regularPrincipal - s.withdrawalRoth) 0 + a3.2 }
      else rothBasis)
    split
    · refine ⟨add_nonneg (le_max_right _ _) ?_, hledger.unseasoned_nonneg, hledger.lots_nonneg⟩
      rw [hd3]
      exact mul_nonneg hflow.roth_nonneg hpf.le
    · exact hledger
  · change |c.annualSalary * c.periodFraction + s.withdrawn
      - (s.workingCashFlow.tax.totalTax * c.periodFraction + s.workingPenalties)
      - (a4.2 + a2.2 + a3.2 + a1.2)
      - (c.annualWorkingSpending * c.periodFraction - c.unfunded s)| ≤ 1
    have hcash := hbooks.cash_eq hc
    have hdeposits : a4.2 + a2.2 + a3.2 + a1.2
        = s.workingCashFlow.contributions.total * c.periodFraction := by
      rw [hd1, hd2, hd3, hd4, AnnualContributions.total]
      ring
    rw [hdeposits, hcash, sub_self, abs_zero]
    exact zero_le_one
  · change totalBalance a4.1 = totalBalance (growAccounts c.periodFraction returns accounts)
      + (a4.2 + a2.2 + a3.2 + a1.2) - s.withdrawn
      - c.stranded shortfallPasses
        (c.start rmdAmount (growAccounts c.periodFraction returns accounts))
    rw [hshift4.totalBalance, hshift3.totalBalance, hshift2.totalBalance, hshift1.totalBalance,
      ← hbooks.conserved, hd1, hd2, hd3, hd4]
    ring

end RetirementPlanner.Engine
