import RetirementPlanner.Lib.Search
import RetirementPlanner.Proof.Prepared

/-!
# The retirement solve

`executeOrderedWithdrawals` brackets the target by doubling probes and bisects the
bracket. What it settles on, for any after-tax cash that rises by at most a dollar
a dollar (`settledEvaluation_spec`): the forced draw when that funds the year, a
budget within the tolerance of the target when a probe funds it, and otherwise a
budget that does not.

The search assumes that cash is monotone in the budget. Where it is, the solve is
correct on every target (`solverCorrect_of_cashMonotone`); `solverCorrect_iff`
says which targets it gets right in general.
-/

namespace RetirementPlanner.Engine

open Search

variable {K : Type*} [Field K] [LinearOrder K]

/-! ## The loops on any cash function -/

section Loops

variable (evaluate : K → WithdrawalEvaluation K) (target : K)

/-- A budget funds the target to within the tolerance. -/
def Funds (budget : K) : Prop := target ≤ (evaluate budget).cashAvailableAfterTax + 1

instance : DecidablePred (Funds evaluate target) := fun _ => inferInstanceAs (Decidable (_ ≤ _))

/-- A budget's cash is the target, to within the tolerance. -/
def OnTarget (budget : K) : Prop := |(evaluate budget).cashAvailableAfterTax - target| ≤ 1

instance : DecidablePred (OnTarget evaluate target) := fun _ =>
  inferInstanceAs (Decidable (_ ≤ _))

/-- The first probe of the bracketing loop: twice the shortfall of the forced draw. -/
def firstProbe : K :=
  min (evaluate 0).balances.sum (max ((target - (evaluate 0).cashAvailableAfterTax) * 2) 1)

/-- Some budget the search tries before it bisects funds the target. -/
def ProbesFund : Prop :=
  ∃ k, Funds evaluate target
    (probe (evaluate 0).balances.sum (firstProbe evaluate target) k)

/-- A bracket with its top evaluated. -/
def withBest (b : K × K) : BudgetBracket K := ⟨b.1, b.2, evaluate b.2⟩

theorem bisectStep_withBest (b : K × K) :
    bisectStep evaluate target (withBest evaluate b)
      = withBest evaluate
        (bisect (Funds evaluate target) (OnTarget evaluate target) b) := by
  by_cases hs : OnTarget evaluate target b.2
  · exact (if_pos hs).trans (congrArg (withBest evaluate) (if_pos hs).symm)
  by_cases hg : Funds evaluate target ((b.1 + b.2) / 2)
  · rw [bisect, if_neg hs, if_pos hg]
    exact (if_neg hs).trans (if_pos hg)
  · rw [bisect, if_neg hs, if_neg hg]
    exact (if_neg hs).trans (if_neg hg)

theorem bisectStep_iterate (b : K × K) (n : ℕ) :
    (bisectStep evaluate target)^[n] (withBest evaluate b)
      = withBest evaluate
        ((bisect (Funds evaluate target) (OnTarget evaluate target))^[n] b) := by
  induction n with
  | zero => rfl
  | succ n ih => rw [Function.iterate_succ_apply', Function.iterate_succ_apply', ih,
      bisectStep_withBest]

/-- What the bracketing loop leaves: the last of its probes, the first to fund the
target or to be the whole budget. -/
structure Bracketed (top first : K) (b : BudgetBracket K) : Prop where
  eq_withBest : b = withBest evaluate (b.low, b.high)
  low_bad : ¬Funds evaluate target b.low
  low_nonneg : 0 ≤ b.low
  low_le_high : b.low ≤ b.high
  is_probe : ∃ k, b.high = probe top first k ∧ ∀ j < k, ¬Funds evaluate target (probe top first j)
  settled : Funds evaluate target b.high ∨ b.high = top

variable [IsStrictOrderedRing K]

theorem bracketLoop_spec {top first : K} (htop : 0 ≤ top) (hfirst : min top 1 ≤ first)
    (hle : first ≤ top) (fuel i : ℕ) {low : K} (hfuel : top ≤ 2 ^ (i + fuel))
    (hbefore : ∀ j < i, ¬Funds evaluate target (probe top first j))
    (hlow : ¬Funds evaluate target low) (hlow0 : 0 ≤ low) (hlowle : low ≤ probe top first i) :
    Bracketed evaluate target top first (bracketLoop evaluate target top fuel
      (withBest evaluate (low, probe top first i))) := by
  induction fuel generalizing i low with
  | zero =>
    exact ⟨rfl, hlow, hlow0, hlowle, ⟨i, rfl, hbefore⟩, .inr (probe_eq_top htop hfirst hle hfuel)⟩
  | succ fuel ih =>
    rw [bracketLoop]
    split
    · rename_i hcond
      have hbad : ¬Funds evaluate target (probe top first i) := not_le.mpr hcond.1
      have hnn := probe_nonneg htop hfirst i
      have hnext : probe top first i ≤ probe top first (i + 1) := by
        rw [probe]
        exact le_min (probe_le_top hle i) (by linarith)
      refine ih (i + 1) ?_ (fun j hj => ?_) hbad hnn hnext
      · rwa [Nat.add_right_comm, Nat.add_assoc]
      · rcases Nat.lt_succ_iff_lt_or_eq.mp hj with hj | rfl
        · exact hbefore j hj
        · exact hbad
    · rename_i hcond
      refine ⟨rfl, hlow, hlow0, hlowle, ⟨i, rfl, hbefore⟩, ?_⟩
      rw [not_and_or, not_lt, not_lt] at hcond
      exact hcond.imp_right fun h => le_antisymm (probe_le_top hle i) h

/-- The loop ends on a budget that funds the target exactly when some probe does. -/
theorem Bracketed.funds_iff {top first : K} {b : BudgetBracket K} (htop : 0 ≤ top)
    (hb : Bracketed evaluate target top first b) :
    Funds evaluate target b.high ↔ ∃ k, Funds evaluate target (probe top first k) := by
  obtain ⟨k, hk, hbefore⟩ := hb.is_probe
  refine ⟨fun h => ⟨k, hk ▸ h⟩, fun ⟨j, hj⟩ => ?_⟩
  rcases hb.settled with h | h
  · exact h
  · -- The last probe is the top, and so is every later one.
    have hkj : k ≤ j := not_lt.mp fun hlt => hbefore j hlt hj
    rwa [probe_stays htop (hk ▸ h) j hkj, ← h] at hj

theorem le_two_pow_bracketFuel [FloorRing K] (top : K) : top ≤ 2 ^ bracketFuel top := by
  have h1 : top ≤ (⌈top⌉ : K) := Int.le_ceil top
  have h2 : ((⌈top⌉ : ℤ) : K) ≤ ((⌈top⌉.toNat : ℕ) : K) := by
    have : ⌈top⌉ ≤ ((⌈top⌉.toNat : ℕ) : ℤ) := Int.self_le_toNat _
    exact_mod_cast this
  have h3 : ((⌈top⌉.toNat : ℕ) : K) ≤ 2 ^ ⌈top⌉.toNat := by
    exact_mod_cast Nat.lt_two_pow_self.le
  exact (h1.trans h2).trans h3

omit [IsStrictOrderedRing K] in
theorem min_one_le_firstProbe : min (evaluate 0).balances.sum 1 ≤ firstProbe evaluate target :=
  min_le_min le_rfl (le_max_right _ _)

/-- What the solve settles on. -/
theorem settledEvaluation_spec [FloorRing K] (htop : 0 ≤ (evaluate 0).balances.sum) :
    ∃ b, 0 ≤ b ∧ b ≤ (evaluate 0).balances.sum ∧
      settledEvaluation target evaluate = evaluate b ∧
      (Funds evaluate target 0 → b = 0) ∧
      (¬Funds evaluate target 0 → (ProbesFund evaluate target ↔ Funds evaluate target b)) ∧
      ((evaluate 0).balances.sum < 2 ^ bisectionPasses →
        (∀ b b', b ≤ b' → (evaluate b').cashAvailableAfterTax
          - (evaluate b).cashAvailableAfterTax ≤ b' - b) →
        ¬Funds evaluate target 0 → Funds evaluate target b → OnTarget evaluate target b) := by
  rw [settledEvaluation]
  by_cases h0 : Funds evaluate target 0
  · exact ⟨0, le_rfl, htop, if_pos h0, fun _ => rfl, absurd h0, fun _ _ => absurd h0⟩
  have h0' : ¬target ≤ (evaluate 0).cashAvailableAfterTax + 1 := h0
  have hfirst := min_one_le_firstProbe evaluate target
  have hle : firstProbe evaluate target ≤ (evaluate 0).balances.sum := min_le_left _ _
  simp only [if_neg h0']
  by_cases hempty : (evaluate 0).balances.sum ≤ 0
  · -- Nothing is left to draw, so every probe is zero.
    have hzero : (evaluate 0).balances.sum = 0 := le_antisymm hempty htop
    rw [if_pos hempty]
    refine ⟨0, le_rfl, htop, rfl, fun _ => rfl, fun _ => ⟨fun ⟨k, hk⟩ => ?_, fun h => absurd h h0⟩,
      fun _ _ _ h => absurd h h0⟩
    have hprobe : probe (evaluate 0).balances.sum (firstProbe evaluate target) k = 0 :=
      le_antisymm ((probe_le_top hle k).trans hempty) (probe_nonneg htop hfirst k)
    rwa [hprobe] at hk
  rw [if_neg hempty]
  set b := bracketLoop evaluate target (evaluate 0).balances.sum
    (bracketFuel (evaluate 0).balances.sum) (withBest evaluate (0, firstProbe evaluate target))
    with hb
  have hspec : Bracketed evaluate target (evaluate 0).balances.sum (firstProbe evaluate target) b :=
    bracketLoop_spec evaluate target htop hfirst hle _ 0
      (by rw [Nat.zero_add]; exact le_two_pow_bracketFuel _)
      (fun _ hj => absurd hj (Nat.not_lt_zero _)) h0 le_rfl (probe_nonneg htop hfirst 0)
  have hfunds := hspec.funds_iff evaluate target htop
  have hhigh : b.high ≤ (evaluate 0).balances.sum := by
    obtain ⟨k, hk, -⟩ := hspec.is_probe
    exact hk ▸ probe_le_top hle k
  have hbest : b.best = evaluate b.high := congrArg BudgetBracket.best hspec.eq_withBest
  change ∃ b', 0 ≤ b' ∧ b' ≤ _ ∧ (if b.best.cashAvailableAfterTax + 1 < target then b.best
      else ((bisectStep evaluate target)^[bisectionPasses] b).best) = evaluate b' ∧ _
  by_cases hgood : Funds evaluate target b.high
  · obtain ⟨hbr, hlow, hhigh', hwidth⟩ := bisect_iterate (Funds evaluate target)
      (OnTarget evaluate target) (b := (b.low, b.high)) ⟨hspec.low_bad, hgood, hspec.low_le_high⟩
      bisectionPasses
    set r := (bisect (Funds evaluate target) (OnTarget evaluate target))^[bisectionPasses]
      (b.low, b.high) with hr
    have hr0 : 0 ≤ r.1 := hspec.low_nonneg.trans hlow
    have hbest' : ((bisectStep evaluate target)^[bisectionPasses] b).best = evaluate r.2 := by
      rw [hspec.eq_withBest, bisectStep_iterate]
      rfl
    refine ⟨r.2, hr0.trans hbr.low_le_high, hhigh'.trans hhigh,
      (if_neg (by rw [hbest]; exact not_lt.mpr hgood)).trans hbest', fun h => absurd h h0,
      fun _ => ⟨fun _ => hbr.high_good, fun _ => hfunds.mp hgood⟩, fun hbound hslope _ _ => ?_⟩
    rcases hwidth with hstop | hwidth
    · exact hstop
    · -- The bracket is less than a dollar wide, and its low end misses the target.
      have hpow : (0 : K) < 2 ^ bisectionPasses := by positivity
      have hlt : r.2 - r.1 < 1 := by
        rw [hwidth, div_lt_one hpow]
        linarith [hspec.low_nonneg]
      have hrise := hslope r.1 r.2 hbr.low_le_high
      have hbad := not_le.mp hbr.low_bad
      have hfund : target ≤ (evaluate r.2).cashAvailableAfterTax + 1 := hbr.high_good
      rw [OnTarget, abs_le]
      constructor <;> linarith
  · exact ⟨b.high, hspec.low_nonneg.trans hspec.low_le_high, hhigh,
      (if_pos (by rw [hbest]; exact not_le.mp hgood)).trans hbest, fun h => absurd h h0,
      fun _ => hfunds.symm, fun _ _ _ hg => absurd hg hgood⟩

end Loops

/-! ## The solve -/

/-- What is left to draw once the forced distribution is out. -/
def leftAfterForced (accounts : List (Account K)) (context : WithdrawalContext K) : K :=
  (forcedDraw accounts context).1.sum

/-- What the solve owes a retirement year: it gives up only on a target out of reach
of every budget; it commits one budget, taxes, withdrawals, balances and ledger
together; and when it does not give up, that budget's cash is the target, unless
the forced draw funds the year by itself. -/
structure SolverCorrect [FloorRing K] (accounts : List (Account K)) (rothBasis : RothBasisState K)
    (context : WithdrawalContext K) (target : K) : Prop where
  gives_up_only :
    (executeOrderedWithdrawals target accounts rothBasis context).result.insufficientFunds →
      ∀ b, 0 ≤ b → b ≤ leftAfterForced accounts context →
        cash accounts rothBasis context b < target - 1
  commits_one : ∃ b, 0 ≤ b ∧ b ≤ leftAfterForced accounts context ∧
    executeOrderedWithdrawals target accounts rothBasis context
      = finishOrderedWithdrawals accounts rothBasis
        (evaluateOrderedWithdrawals accounts rothBasis b context) target 1 ∧
    ((executeOrderedWithdrawals target accounts rothBasis context).result.insufficientFunds
        = false →
      |cash accounts rothBasis context b - target| ≤ 1 ∨
        (b = 0 ∧ target ≤ cash accounts rothBasis context 0 + 1))
  no_phantom :
    (executeOrderedWithdrawals target accounts rothBasis context).result.depositTaxable ≠ 0 →
      target ≤ cash accounts rothBasis context 0 + 1

/-- A budget funds a target to within the tolerance. -/
def BudgetFunds (accounts : List (Account K)) (rothBasis : RothBasisState K)
    (context : WithdrawalContext K) (target budget : K) : Prop :=
  target ≤ cash accounts rothBasis context budget + 1

/-- The budgets the solve probes, none forced: twice the shortfall of the forced draw,
at least a dollar, then doubling, up to all that is left. -/
def probedBudget (accounts : List (Account K)) (rothBasis : RothBasisState K)
    (context : WithdrawalContext K) (target : K) (k : ℕ) : K :=
  probe (leftAfterForced accounts context)
    (min (leftAfterForced accounts context)
      (max ((target - cash accounts rothBasis context 0) * 2) 1)) k

variable [IsStrictOrderedRing K]

theorem evaluate_zero_sum {accounts : List (Account K)} (h : Solvent accounts)
    (rothBasis : RothBasisState K) (context : WithdrawalContext K) :
    (evaluateOrderedWithdrawals accounts rothBasis 0 context).balances.sum
      = leftAfterForced accounts context := by
  have hshadow := (forcedDraw_spec h context).shadow
  rw [evaluate_eq]
  refine ((voluntaryDraw_spec h context 0).sum_eq hshadow).trans ?_
  rw [voluntary_total h, max_self, Waterfall.stage_of_le hshadow.sum_nonneg le_rfl, sub_zero,
    leftAfterForced]

theorem leftAfterForced_nonneg {accounts : List (Account K)} (h : Solvent accounts)
    (context : WithdrawalContext K) : 0 ≤ leftAfterForced accounts context :=
  (forcedDraw_spec h context).shadow.sum_nonneg

theorem leftAfterForced_le {accounts : List (Account K)} (h : Solvent accounts)
    (context : WithdrawalContext K) : leftAfterForced accounts context ≤ totalBalance accounts := by
  have hd := forcedDraw_spec h context
  have hnn := forcedDraw_nonneg h context
  rw [leftAfterForced, hd.sum_eq h.shadow, totalBalance]
  linarith

/-- What the solve settles on, in terms of the budgets it probes. -/
theorem executeOrderedWithdrawals_spec [FloorRing K] {accounts : List (Account K)}
    {rothBasis : RothBasisState K} {context : WithdrawalContext K} (h : Solvent accounts)
    (hs : rothBasis.Valid) (hc : context.Valid) (target : K) :
    ∃ b, 0 ≤ b ∧ b ≤ leftAfterForced accounts context ∧
      executeOrderedWithdrawals target accounts rothBasis context
        = finishOrderedWithdrawals accounts rothBasis
          (evaluateOrderedWithdrawals accounts rothBasis b context) target 1 ∧
      (BudgetFunds accounts rothBasis context target 0 → b = 0) ∧
      (¬BudgetFunds accounts rothBasis context target 0 →
        ((∃ k, BudgetFunds accounts rothBasis context target
          (probedBudget accounts rothBasis context target k)) ↔
          BudgetFunds accounts rothBasis context target b)) ∧
      (totalBalance accounts < 2 ^ 48 → ¬BudgetFunds accounts rothBasis context target 0 →
        BudgetFunds accounts rothBasis context target b →
          |cash accounts rothBasis context b - target| ≤ 1) := by
  have hsum := evaluate_zero_sum h rothBasis context
  have hleft := leftAfterForced_le h context
  obtain ⟨b, hb0, hb1, heq, hforced, hprobes, htarget⟩ := settledEvaluation_spec
    (fun budget => evaluateOrderedWithdrawals accounts rothBasis budget context) target
    (hsum.symm ▸ leftAfterForced_nonneg h context)
  simp only [ProbesFund, firstProbe, hsum] at hprobes hb1
  exact ⟨b, hb0, hb1, congrArg (finishOrderedWithdrawals accounts rothBasis · target 1) heq,
    hforced, hprobes, fun hbound => htarget (hsum.symm ▸ hleft.trans_lt hbound)
      fun b b' hle => cash_sub_le h hs hc hle⟩

/-- A committed budget is reported insufficient when it does not fund the target. -/
theorem insufficientFunds_finish (accounts : List (Account K)) (rothBasis : RothBasisState K)
    (context : WithdrawalContext K) (target b : K) :
    (finishOrderedWithdrawals accounts rothBasis
        (evaluateOrderedWithdrawals accounts rothBasis b context) target 1).result.insufficientFunds
      = true ↔ ¬BudgetFunds accounts rothBasis context target b := by
  simp only [finishOrderedWithdrawals, BudgetFunds, cash, decide_eq_true_eq, not_le]
  constructor <;> intro hlt <;> linarith

omit [IsStrictOrderedRing K] in
/-- A committed budget deposits what it raises past the tolerance. -/
theorem depositTaxable_finish (accounts : List (Account K)) (rothBasis : RothBasisState K)
    (context : WithdrawalContext K) (target b : K) :
    (finishOrderedWithdrawals accounts rothBasis
        (evaluateOrderedWithdrawals accounts rothBasis b context) target 1).result.depositTaxable
      = if 1 < cash accounts rothBasis context b - target then
          cash accounts rothBasis context b - target else 0 := rfl

/-- The solve gives up exactly when neither the forced draw nor a probed budget funds
the target. -/
theorem insufficientFunds_iff [FloorRing K] {accounts : List (Account K)}
    {rothBasis : RothBasisState K} {context : WithdrawalContext K} (h : Solvent accounts)
    (hs : rothBasis.Valid) (hc : context.Valid) (target : K) :
    (executeOrderedWithdrawals target accounts rothBasis context).result.insufficientFunds = true ↔
      ¬BudgetFunds accounts rothBasis context target 0 ∧
        ¬∃ k, BudgetFunds accounts rothBasis context target
          (probedBudget accounts rothBasis context target k) := by
  obtain ⟨b, -, -, heq, hforced, hprobes, -⟩ := executeOrderedWithdrawals_spec h hs hc target
  have hinsufficient := insufficientFunds_finish accounts rothBasis context target b
  rw [← heq] at hinsufficient
  rw [hinsufficient]
  constructor
  · intro hb
    have h0 : ¬BudgetFunds accounts rothBasis context target 0 := fun h0 => by
      rw [hforced h0] at hb
      exact hb h0
    exact ⟨h0, fun hprobe => hb ((hprobes h0).mp hprobe)⟩
  · rintro ⟨h0, hprobe⟩ hb
    exact hprobe ((hprobes h0).mpr hb)

/-- The solve meets its obligations on a target exactly when the target is out of
reach of every budget, or the forced draw or a probed budget funds it. -/
theorem solverCorrect_iff [FloorRing K] {accounts : List (Account K)}
    {rothBasis : RothBasisState K} {context : WithdrawalContext K} (h : Solvent accounts)
    (hs : rothBasis.Valid) (hc : context.Valid) (hbound : totalBalance accounts < 2 ^ 48)
    (target : K) :
    SolverCorrect accounts rothBasis context target ↔
      ((∃ b, 0 ≤ b ∧ b ≤ leftAfterForced accounts context ∧
          BudgetFunds accounts rothBasis context target b) →
        BudgetFunds accounts rothBasis context target 0 ∨
          ∃ k, BudgetFunds accounts rothBasis context target
            (probedBudget accounts rothBasis context target k)) := by
  obtain ⟨b, hb0, hb1, heq, hforced, hprobes, htarget⟩ :=
    executeOrderedWithdrawals_spec h hs hc target
  replace htarget := htarget hbound
  have hinsufficient := insufficientFunds_finish accounts rothBasis context target b
  have hdeposit := depositTaxable_finish accounts rothBasis context target b
  rw [← heq] at hinsufficient hdeposit
  constructor
  · rintro hcorrect ⟨b', hb'0, hb'1, hfunds⟩
    by_contra hnone
    obtain ⟨h0, hprobe⟩ := not_or.mp hnone
    have hgives := hinsufficient.mpr fun hb => hprobe ((hprobes h0).mpr hb)
    have hlt := hcorrect.gives_up_only hgives b' hb'0 hb'1
    rw [BudgetFunds] at hfunds
    linarith
  · intro hcondition
    by_cases h0 : BudgetFunds accounts rothBasis context target 0
    · have hb : b = 0 := hforced h0
      subst hb
      exact ⟨fun hgives => absurd h0 (hinsufficient.mp hgives),
        ⟨0, le_rfl, hb1, heq, fun _ => .inr ⟨rfl, h0⟩⟩, fun _ => h0⟩
    refine ⟨fun hgives b' hb'0 hb'1 => ?_, ⟨b, hb0, hb1, heq, fun hfunded => .inl ?_⟩,
      fun hne => ?_⟩
    · by_contra hnot
      have hfunds : BudgetFunds accounts rothBasis context target b' := by
        rw [BudgetFunds]
        linarith [not_lt.mp hnot]
      rcases hcondition ⟨b', hb'0, hb'1, hfunds⟩ with h0' | hprobe
      · exact h0 h0'
      · exact hinsufficient.mp hgives ((hprobes h0).mp hprobe)
    · refine htarget h0 (not_not.mp fun hb => ?_)
      rw [hinsufficient.mpr hb] at hfunded
      cases hfunded
    · -- A deposit is cash past the tolerance, which a search off the forced draw never raises.
      rw [hdeposit] at hne
      have hpast : 1 < cash accounts rothBasis context b - target := by
        by_contra hnot
        exact hne (if_neg hnot)
      have hfunds : BudgetFunds accounts rothBasis context target b := by
        rw [BudgetFunds]
        linarith
      exact absurd hpast (not_lt.mpr (abs_le.mp (htarget h0 hfunds)).2)

/-- Where cash never falls with the budget, the solve meets its obligations on every
target. -/
theorem solverCorrect_of_cashMonotone [FloorRing K] {accounts : List (Account K)}
    {rothBasis : RothBasisState K} {context : WithdrawalContext K} (h : Solvent accounts)
    (hs : rothBasis.Valid) (hc : context.Valid) (hbound : totalBalance accounts < 2 ^ 48)
    (hwhen : CashMonotone accounts context) (target : K) :
    SolverCorrect accounts rothBasis context target := by
  refine (solverCorrect_iff h hs hc hbound target).mpr fun ⟨b, hb0, hb1, hfunds⟩ => ?_
  have hleft := leftAfterForced_nonneg h context
  set left := leftAfterForced accounts context with hleftdef
  -- The whole budget is the last probe, and raises the most.
  have hlast : probedBudget accounts rothBasis context target (bracketFuel left) = left :=
    probe_eq_top hleft (min_le_min le_rfl (le_max_right _ _)) (min_le_left _ _)
      (le_two_pow_bracketFuel left)
  refine .inr ⟨bracketFuel left, ?_⟩
  rw [hlast]
  exact hfunds.trans (add_le_add_left (cash_mono h hs hc hwhen hb1) 1)

/-! ## On an accepted plan -/

/-- In every context a projection of an accepted plan can build, the solve meets its
obligations exactly when the target is out of reach of every budget, or the forced
draw or a probed budget funds it. -/
theorem executeOrderedWithdrawals_correct_iff [FloorRing K] {plan : RetirementPlan K}
    {prepared : PreparedPlan K} (hplan : validatePlan plan = .ok ())
    (hnew : PreparedPlan.new plan = .ok prepared) (year : ℕ) {rmdAmount allowance : K}
    (hrmd : 0 ≤ rmdAmount) (hallowance : 0 ≤ allowance) (magiTarget : Option (MagiTarget K))
    {accounts : List (Account K)} (hbuckets : Buckets accounts)
    (hbound : totalBalance accounts < 2 ^ 48) {rothBasis : RothBasisState K}
    (hledger : rothBasis.Valid) (target : K) {context : WithdrawalContext K}
    (hcontext : context = (withdrawalContext prepared year (socialSecurityBenefitOf prepared year)
      rmdAmount allowance).withTarget magiTarget) :
    SolverCorrect accounts rothBasis context target ↔
      ((∃ b, 0 ≤ b ∧ b ≤ leftAfterForced accounts context ∧
          BudgetFunds accounts rothBasis context target b) →
        BudgetFunds accounts rothBasis context target 0 ∨
          ∃ k, BudgetFunds accounts rothBasis context target
            (probedBudget accounts rothBasis context target k)) := by
  obtain ⟨hprepared, -⟩ := prepared_of_new hplan hnew
  have hvalid := (withdrawalContext_valid hprepared year hrmd hallowance).withTarget magiTarget
  subst hcontext
  exact solverCorrect_iff hbuckets.solvent hledger hvalid hbound target

/-- The buckets and the context of the first year of `largeBenefitPlan`, in a year
whose growth pays the fee. -/
def largeBenefitBuckets : List (Account ℚ) :=
  growAccounts (largeBenefitPrepared.periodFraction 0) (1 / 1000, 0) largeBenefitPrepared.buckets

def largeBenefitContext : WithdrawalContext ℚ :=
  withdrawalContext largeBenefitPrepared 0 (socialSecurityBenefitOf largeBenefitPrepared 0) 0 0

theorem executeOrderedWithdrawals_correct_iff_largeBenefit :
    SolverCorrect largeBenefitBuckets ⟨false, 0, [], 0⟩ largeBenefitContext 3641000 ↔
      ((∃ b, 0 ≤ b ∧ b ≤ leftAfterForced largeBenefitBuckets largeBenefitContext ∧
          BudgetFunds largeBenefitBuckets ⟨false, 0, [], 0⟩ largeBenefitContext 3641000 b) →
        BudgetFunds largeBenefitBuckets ⟨false, 0, [], 0⟩ largeBenefitContext 3641000 0 ∨
          ∃ k, BudgetFunds largeBenefitBuckets ⟨false, 0, [], 0⟩ largeBenefitContext 3641000
            (probedBudget largeBenefitBuckets ⟨false, 0, [], 0⟩ largeBenefitContext 3641000 k)) :=
  executeOrderedWithdrawals_correct_iff largeBenefitPlan_valid largeBenefitPlan_prepared 0
    (le_refl (0 : ℚ)) (le_refl (0 : ℚ)) none ⟨by decide +kernel, by decide +kernel⟩
    (by decide +kernel) ⟨by decide, by decide, by simp⟩ 3641000 rfl

/-- The solve gives up on the first year of `largeBenefitPlan`, which drawing the
whole Traditional balance funds: from there on each HSA dollar costs more than a
dollar, and the probes on either side of it fall short. -/
theorem not_solverCorrect_largeBenefit :
    ¬SolverCorrect largeBenefitBuckets ⟨false, 0, [], 0⟩ largeBenefitContext 3641000 := by
  intro h
  have hgives : (executeOrderedWithdrawals 3641000 largeBenefitBuckets ⟨false, 0, [], 0⟩
      largeBenefitContext).result.insufficientFunds = true := by decide +kernel
  have hlt := h.gives_up_only hgives 1000000 (by decide +kernel) (by decide +kernel)
  exact absurd hlt (by decide +kernel)

end RetirementPlanner.Engine
