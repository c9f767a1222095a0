import RetirementPlanner.Engine.Projection
import RetirementPlanner.Proof.Evaluation

/-!
# The books of a year

The Roth ledger never goes into debt: not when conversions season
(`seasonRothConversions_valid`), not when a withdrawal consumes it
(`consumeRothBasis_valid`), not when a conversion is recorded
(`recordConversion_valid`). `YearOutcome.Books` is what both branches of the loop
leave of a year: valid buckets and ledger, cash that reconciles, and balances that
moved by what was recorded.
-/

namespace RetirementPlanner.Engine

variable {K : Type*} [Field K] [LinearOrder K]

/-! ## The Roth ledger -/

theorem mem_consumeLots {remaining : K} {lots : List (RothConversionLot K)}
    {lot : RothConversionLot K} (h : lot ∈ consumeLots remaining lots) :
    ∃ lot₀ ∈ lots, lot = lot₀ ∨
      ∃ used ≤ lot₀.remainingPrincipal,
        lot.remainingPrincipal = lot₀.remainingPrincipal - used := by
  induction lots generalizing remaining with
  | nil => cases h
  | cons lot₀ lots ih =>
    rw [consumeLots] at h
    split at h
    · exact ⟨lot, h, .inl rfl⟩
    · rcases List.mem_cons.mp h with rfl | h
      · exact ⟨lot₀, List.mem_cons_self, .inr ⟨_, min_le_right _ _, rfl⟩⟩
      · obtain ⟨lot₁, hmem, hlot⟩ := ih h
        exact ⟨lot₁, List.mem_cons_of_mem _ hmem, hlot⟩

variable [IsStrictOrderedRing K]

theorem seasonRothConversions_valid {state : RothBasisState K} (h : state.Valid) (taxYear : ℤ) :
    (seasonRothConversions state taxYear).Valid := by
  simp only [seasonRothConversions]
  split
  · exact h
  · refine ⟨add_nonneg h.regular_nonneg (List.sum_nonneg fun v hv => ?_), le_max_right _ _,
      fun lot hlot => h.lots_nonneg lot (List.mem_of_mem_drop hlot)⟩
    obtain ⟨lot, hlot, rfl⟩ := List.mem_map.mp hv
    exact h.lots_nonneg lot (List.takeWhile_subset _ hlot)

theorem rothBasisAtStart_valid {state : RothBasisState K} (h : state.Valid) (currentAge : ℕ)
    (taxYear : ℤ) : (rothBasisAtStart state currentAge taxYear).Valid := by
  rw [rothBasisAtStart]
  split_ifs
  · exact ⟨le_rfl, le_rfl, fun _ hlot => absurd hlot List.not_mem_nil⟩
  · exact seasonRothConversions_valid h taxYear
  · exact h

theorem consumeRothBasis_valid {state : RothBasisState K} (h : state.Valid) (withdrawal : K) :
    (consumeRothBasis withdrawal state).Valid := by
  rw [consumeRothBasis]
  split
  · exact h
  · refine ⟨sub_nonneg.mpr (min_le_right _ _), le_max_right _ _, fun lot hlot => ?_⟩
    obtain ⟨lot₀, hmem, rfl | ⟨used, hused, heq⟩⟩ := mem_consumeLots hlot
    · exact h.lots_nonneg _ hmem
    · rw [heq]
      exact sub_nonneg.mpr hused

theorem finishOrderedWithdrawals_ledger {state : RothBasisState K} (h : state.Valid)
    (accounts : List (Account K)) (evaluation : WithdrawalEvaluation K) (target tolerance : K) :
    (finishOrderedWithdrawals accounts state evaluation target tolerance).rothBasis.Valid := by
  simp only [finishOrderedWithdrawals]
  split
  · have hconsumed := consumeRothBasis_valid h evaluation.withdrawalRoth
    exact ⟨hconsumed.regular_nonneg, hconsumed.unseasoned_nonneg,
      fun lot hlot => hconsumed.lots_nonneg lot (List.mem_of_mem_filter hlot)⟩
  · exact h

theorem recordConversion_valid {state : RothBasisState K} (h : state.Valid) (taxYear : ℤ)
    {rothConversion : K} (hc : 0 ≤ rothConversion) :
    (recordConversion state taxYear rothConversion).Valid := by
  rw [recordConversion]
  split
  · refine ⟨h.regular_nonneg, add_nonneg h.unseasoned_nonneg hc, fun lot hlot => ?_⟩
    rcases List.mem_append.mp hlot with hlot | hlot
    · exact h.lots_nonneg lot hlot
    · rw [List.mem_singleton.mp hlot]
      exact hc
  · exact h

/-! ## A year's books -/

omit [IsStrictOrderedRing K] in
theorem growAccounts_buckets {accounts : List (Account K)} (h : Buckets accounts)
    (periodFraction : K) (returns : K × K) :
    Buckets (growAccounts periodFraction returns accounts) := by
  refine ⟨fun account hmem => ?_, ?_⟩
  · obtain ⟨before, -, rfl⟩ := List.mem_map.mp hmem
    exact le_max_right _ _
  · rw [growAccounts, List.map_map]
    exact h.nodup

/-- What the year took out of the four account types. -/
def YearOutcome.withdrawals (o : YearOutcome K) : K :=
  o.withdrawalTaxable + o.withdrawalTraditional + o.withdrawalRoth + o.withdrawalHsa

/-- What the year put into the four account types. -/
def YearOutcome.deposits (o : YearOutcome K) : K :=
  o.depositTaxable + o.depositTraditional + o.depositRoth + o.depositHsa

/-- The books of a year that started, after growth, with `grown` in its buckets: all
but `lost` of it is still there or was recorded as withdrawn. -/
structure YearOutcome.Books (grown lost : K) (o : YearOutcome K) : Prop where
  buckets : Buckets o.accounts
  ledger : o.rothBasis.Valid
  allowance_nonneg : 0 ≤ o.hsaQualifiedAllowance
  cash : |o.income + o.withdrawals - o.taxes - o.deposits - o.spending| ≤ 1
  conserved : totalBalance o.accounts = grown + o.deposits - o.withdrawals - lost

end RetirementPlanner.Engine
