import RetirementPlanner.Proof.RetiredYear
import RetirementPlanner.Proof.WorkingYear

/-!
# Paths

`ProjectionState.Valid` is the invariant of the loop over the years: solvent buckets,
one for each type, and a ledger, allowance and care draw that owe nothing. Every
state of a path has it (`Path.upTo_valid`), so every year's books are in order
(`yearOutcome_books`), up to what a working year strands (`PreparedPlan.StrandsIn`).
-/

namespace RetirementPlanner.Engine

variable {K : Type*} [Field K] [LinearOrder K]

/-- What holds at the start of every year. -/
structure ProjectionState.Valid (state : ProjectionState K) : Prop where
  buckets : Buckets state.accounts
  ledger : state.rothBasis.Valid
  previous_nonneg : 0 ≤ state.previousYearTraditionalBalance
  allowance_nonneg : 0 ≤ state.hsaQualifiedAllowance
  care_valid : ∀ draw, state.longTermCare = some draw → draw.Valid

/-- The year's required distribution, before proration, in a state. -/
def PreparedPlan.requiredIn (prepared : PreparedPlan K) (year : ℕ) (state : ProjectionState K) :
    K :=
  requiredDistribution state.accounts state.previousYearTraditionalBalance
    (prepared.currentAge year) prepared.rmdStartAge

/-- A working year whose shortfall loop strands money. -/
def PreparedPlan.StrandsIn (prepared : PreparedPlan K) (returns : K × K) (year : ℕ)
    (state : ProjectionState K) : Prop :=
  prepared.isRetired year = false ∧
    (workingContext prepared year).Strands shortfallPasses
      (prepared.shortfallStart returns year state.accounts (prepared.requiredIn year state))

variable [IsStrictOrderedRing K]

/-! ## One year -/

theorem workingContext_valid {prepared : PreparedPlan K} (h : Prepared prepared) (year : ℕ) :
    (workingContext prepared year).Valid := by
  have hamounts := h.plan_valid.amounts
  simp only [UserProfile.hasValidAmounts, Bool.and_eq_true, decide_eq_true_eq] at hamounts
  obtain ⟨⟨⟨⟨⟨hsalary, -⟩, -⟩, hgrowth⟩, -⟩, -⟩ := hamounts
  refine ⟨mul_nonneg hsalary.1 (pow_nonneg ?_ _), h.periodFraction_pos year,
    h.plan_valid.taxableGainRatio_nonneg⟩
  linarith [hgrowth.1]

theorem requiredIn_nonneg (prepared : PreparedPlan K) (year : ℕ) {state : ProjectionState K}
    (h : state.Valid) : 0 ≤ prepared.requiredIn year state := by
  simp only [PreparedPlan.requiredIn, requiredDistribution]
  split
  · refine calculateRmd_nonneg ?_ _ _
    split
    · exact h.previous_nonneg
    · exact balanceOfBucket_nonneg h.buckets.solvent .traditional
  · exact le_rfl

/-- Every year's books are in order, up to what a working year strands. -/
theorem yearOutcome_books [FloorRing K] (log : NaturalLog K) {prepared : PreparedPlan K}
    (h : Prepared prepared) (returns : K × K) (year : ℕ) {state : ProjectionState K}
    (hstate : state.Valid) :
    ∃ lost, (yearOutcome log prepared returns year state).Books
        (totalBalance (growAccounts (prepared.periodFraction year) returns state.accounts)) lost ∧
      (lost = 0 ↔ ¬prepared.StrandsIn returns year state) := by
  have hledger := rothBasisAtStart_valid hstate.ledger (prepared.currentAge year)
    (prepared.taxYear year)
  have hrequired := requiredIn_nonneg prepared year hstate
  have hcontext := workingContext_valid h year
  rw [yearOutcome]
  cases hretired : prepared.isRetired year with
  | true =>
    refine ⟨0, retiredYear_books log h returns year hstate.buckets hstate.allowance_nonneg
      hstate.care_valid hledger hrequired, iff_of_true rfl fun hstrands => ?_⟩
    rw [PreparedPlan.StrandsIn, hretired] at hstrands
    cases hstrands.1
  | false =>
    refine ⟨_, workingYear_books hcontext returns hstate.buckets hledger hstate.allowance_nonneg _,
      ?_⟩
    have hstart := (workingContext prepared year).start_books hcontext
      (prepared.requiredIn year state)
      (growAccounts_buckets hstate.buckets (prepared.periodFraction year) returns)
    rw [PreparedPlan.StrandsIn, hretired]
    refine ((workingContext prepared year).stranded_eq_zero_iff hcontext shortfallPasses
      hstart).trans ?_
    rw [not_and]
    exact ⟨fun hnot _ => hnot, fun hnot => hnot rfl⟩

/-- A year that strands money is reported as underfunded. -/
theorem insufficientFunds_of_strandsIn [FloorRing K] (log : NaturalLog K)
    {prepared : PreparedPlan K} (h : Prepared prepared) (returns : K × K) (year : ℕ)
    {state : ProjectionState K} (hstate : state.Valid)
    (hstrands : prepared.StrandsIn returns year state) :
    (yearOutcome log prepared returns year state).insufficientFunds = true := by
  obtain ⟨hretired, hloop⟩ := hstrands
  have hcontext := workingContext_valid h year
  have hstart := (workingContext prepared year).start_books hcontext
    (prepared.requiredIn year state)
    (growAccounts_buckets hstate.buckets (prepared.periodFraction year) returns)
  rw [yearOutcome, hretired]
  exact decide_eq_true
    ((workingContext prepared year).unfunded_of_strands hcontext shortfallPasses hstart hloop)

/-! ## The run -/

theorem ProjectionState.start_valid {prepared : PreparedPlan K} (h : Prepared prepared)
    (uniform : Uniform K) : (ProjectionState.start prepared uniform).Valid :=
  ⟨h.buckets,
    ⟨balanceOfBucket_nonneg h.buckets.solvent .roth, le_rfl,
      fun _ hlot => absurd hlot List.not_mem_nil⟩,
    le_rfl, le_rfl, LongTermCareDraw.start_valid h.plan_valid⟩

theorem ProjectionState.after_valid {prepared : PreparedPlan K} {state : ProjectionState K}
    (h : state.Valid) (year : ℕ) {o : YearOutcome K} {grown lost : K} (ho : o.Books grown lost) :
    (state.after prepared year o).Valid := by
  refine ⟨ho.buckets, ho.ledger, balanceOfBucket_nonneg ho.buckets.solvent .traditional,
    ho.allowance_nonneg, fun draw hdraw => ?_⟩
  obtain ⟨before, hbefore, rfl⟩ := Option.map_eq_some_iff.mp hdraw
  exact LongTermCareDraw.observe_valid (h.care_valid before hbefore) _ _ _

section Run

variable [FloorRing K] (log : NaturalLog K) (prepared : PreparedPlan K) (uniform : Uniform K)
  (returns : ℕ → K × K)

/-- The state the path is in at the start of a year. -/
def stateAt (year : ℕ) : ProjectionState K := (Path.upTo log prepared uniform returns year).state

/-- The outcome of a year of the path. -/
def outcomeAt (year : ℕ) : YearOutcome K :=
  yearOutcome log prepared (returns year) year (stateAt log prepared uniform returns year)

omit [IsStrictOrderedRing K] in
theorem Path.upTo_succ (years : ℕ) :
    Path.upTo log prepared uniform returns (years + 1)
      = (Path.upTo log prepared uniform returns years).step log prepared returns years := by
  rw [Path.upTo, List.range_succ, List.foldl_append]
  rfl

omit [IsStrictOrderedRing K] in
theorem stateAt_succ (year : ℕ) :
    stateAt log prepared uniform returns (year + 1)
      = (stateAt log prepared uniform returns year).after prepared year
        (outcomeAt log prepared uniform returns year) := by
  rw [stateAt, Path.upTo_succ]
  rfl

omit [IsStrictOrderedRing K] in
/-- The rows of a path are its years' outcomes, in order. -/
theorem Path.upTo_projections (years : ℕ) :
    (Path.upTo log prepared uniform returns years).projections
      = (List.range years).map fun year =>
        projectionRow prepared year (outcomeAt log prepared uniform returns year) := by
  induction years with
  | zero => rfl
  | succ years ih =>
    rw [Path.upTo_succ, List.range_succ, List.map_append, ← ih]
    rfl

omit [IsStrictOrderedRing K] in
/-- The MAGI a path keeps, year by year. -/
theorem stateAt_magiByYear (years : ℕ) :
    (stateAt log prepared uniform returns years).magiByYear
      = (List.range years).map fun year =>
        yearMagiOf prepared year (outcomeAt log prepared uniform returns year) := by
  induction years with
  | zero => rfl
  | succ years ih =>
    rw [stateAt_succ, List.range_succ, List.map_append, ← ih]
    rfl

variable {prepared}

theorem stateAt_valid (h : Prepared prepared) (year : ℕ) :
    (stateAt log prepared uniform returns year).Valid := by
  induction year with
  | zero => exact ProjectionState.start_valid h uniform
  | succ year ih =>
    obtain ⟨lost, hbooks, -⟩ := yearOutcome_books log h (returns year) year ih
    rw [stateAt_succ]
    exact ProjectionState.after_valid ih year hbooks

end Run

end RetirementPlanner.Engine
