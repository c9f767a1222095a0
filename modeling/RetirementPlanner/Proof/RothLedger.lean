import RetirementPlanner.Proof.ConversionCeiling
import RetirementPlanner.Proof.Path

/-!
# The Roth ledger over a path

`RothBasisState.Consistent`: the cached total is what the lots still hold, and the lots
are in chronological order. Seasoning, consuming and recording keep it, and consuming
takes from the lots exactly what the closed-form penalty is charged on
(`rothPenalty_eq`). So the ledger is consistent at every point of every year
(`rothLedger_consistent`).
-/

namespace RetirementPlanner.Engine

variable {K : Type*} [Field K] [LinearOrder K]

/-- The principal some lots still hold. -/
def lotTotal (lots : List (RothConversionLot K)) : K := (lots.map (·.remainingPrincipal)).sum

/-- A ledger that owes nothing, whose total is that of its lots, oldest first; a closed
one has none. -/
structure RothBasisState.Consistent (state : RothBasisState K) : Prop where
  valid : state.Valid
  total_eq : state.unseasonedPrincipal = lotTotal state.conversionLots
  chronological : state.conversionLots.Pairwise (·.conversionYear < ·.conversionYear)
  closed : state.enabled = false → state.conversionLots = []

/-- Every lot is of a tax year from `first` to `last`. -/
def RothBasisState.LotsWithin (state : RothBasisState K) (first last : ℤ) : Prop :=
  ∀ lot ∈ state.conversionLots, first ≤ lot.conversionYear ∧ lot.conversionYear ≤ last

omit [LinearOrder K] in
theorem lotTotal_append (lots lots' : List (RothConversionLot K)) :
    lotTotal (lots ++ lots') = lotTotal lots + lotTotal lots' := by
  rw [lotTotal, List.map_append, List.sum_append]
  rfl

omit [LinearOrder K] in
theorem lotTotal_cons (lot : RothConversionLot K) (lots : List (RothConversionLot K)) :
    lotTotal (lot :: lots) = lot.remainingPrincipal + lotTotal lots := rfl

variable [IsStrictOrderedRing K]

theorem lotTotal_nonneg {lots : List (RothConversionLot K)}
    (h : ∀ lot ∈ lots, 0 ≤ lot.remainingPrincipal) : 0 ≤ lotTotal lots := by
  refine List.sum_nonneg fun v hv => ?_
  obtain ⟨lot, hlot, rfl⟩ := List.mem_map.mp hv
  exact h lot hlot

/-! ## Seasoning -/

omit [Field K] [LinearOrder K] [IsStrictOrderedRing K] in
/-- The first lot that is not yet seasoned, and every lot after it. -/
theorem mem_unseasoned {lots : List (RothConversionLot K)}
    (h : lots.Pairwise (·.conversionYear < ·.conversionYear)) {taxYear : ℤ}
    {lot : RothConversionLot K}
    (hlot : lot ∈ lots.dropWhile fun lot => lot.conversionYear + 5 ≤ taxYear) :
    lot ∈ lots ∧ taxYear < lot.conversionYear + 5 := by
  induction lots with
  | nil => cases hlot
  | cons first lots ih =>
    obtain ⟨hfirst, hlots⟩ := List.pairwise_cons.mp h
    by_cases hseasoned : first.conversionYear + 5 ≤ taxYear
    · rw [List.dropWhile_cons, if_pos (decide_eq_true hseasoned)] at hlot
      obtain ⟨hmem, hyear⟩ := ih hlots hlot
      exact ⟨List.mem_cons_of_mem _ hmem, hyear⟩
    · rw [List.dropWhile_cons, if_neg (by simpa using hseasoned)] at hlot
      refine ⟨hlot, ?_⟩
      rcases List.mem_cons.mp hlot with rfl | hmem
      · exact not_le.mp hseasoned
      · exact (not_le.mp hseasoned).trans (add_lt_add_left (hfirst lot hmem) 5)

theorem seasonRothConversions_consistent {state : RothBasisState K} (h : state.Consistent)
    (taxYear : ℤ) {first last : ℤ} (hwithin : state.LotsWithin first last) :
    (seasonRothConversions state taxYear).Consistent ∧
      (seasonRothConversions state taxYear).LotsWithin (taxYear - 4) last := by
  set unseasoned := state.conversionLots.dropWhile fun lot => lot.conversionYear + 5 ≤ taxYear
    with hunseasoned
  set seasoned := state.conversionLots.takeWhile fun lot => lot.conversionYear + 5 ≤ taxYear
    with hseasoned
  have hsplit : seasoned ++ unseasoned = state.conversionLots := List.takeWhile_append_dropWhile
  have hmem {lot : RothConversionLot K} (hlot : lot ∈ unseasoned) :
      lot ∈ state.conversionLots ∧ taxYear < lot.conversionYear + 5 :=
    mem_unseasoned h.chronological hlot
  have hlots : (seasonRothConversions state taxYear).conversionLots = unseasoned := by
    simp only [seasonRothConversions, ← hseasoned]
    split
    · rename_i hnone
      rw [List.length_eq_zero_iff.mp hnone, List.nil_append] at hsplit
      exact hsplit.symm
    · have hdrop : (seasoned ++ unseasoned).drop seasoned.length = unseasoned := List.drop_left
      rwa [hsplit] at hdrop
  have htotal : (seasonRothConversions state taxYear).unseasonedPrincipal
      = lotTotal unseasoned := by
    have hsum := h.total_eq
    rw [← hsplit, lotTotal_append] at hsum
    have hnonneg : 0 ≤ lotTotal unseasoned :=
      lotTotal_nonneg fun lot hlot => h.valid.lots_nonneg lot (hmem hlot).1
    simp only [seasonRothConversions, ← hseasoned]
    split
    · rename_i hnone
      rw [hsum, List.length_eq_zero_iff.mp hnone]
      exact zero_add _
    · change max (state.unseasonedPrincipal - lotTotal seasoned) 0 = lotTotal unseasoned
      rw [hsum, add_sub_cancel_left, max_eq_left hnonneg]
  refine ⟨⟨seasonRothConversions_valid h.valid taxYear, by rw [htotal, hlots], ?_,
    fun hclosed => ?_⟩, ?_⟩
  · rw [hlots]
    exact h.chronological.sublist (List.dropWhile_sublist _)
  · have henabled : (seasonRothConversions state taxYear).enabled = state.enabled := by
      simp only [seasonRothConversions]
      split <;> rfl
    have hnone := h.closed (henabled ▸ hclosed)
    rw [hlots, hunseasoned, hnone]
    rfl
  · intro lot hlot
    rw [hlots] at hlot
    obtain ⟨hold, hyear⟩ := hmem hlot
    exact ⟨by omega, (hwithin lot hold).2⟩

/-! ## Consuming -/

omit [IsStrictOrderedRing K] in
/-- Consuming changes no lot's year. -/
theorem consumeLots_years (remaining : K) (lots : List (RothConversionLot K)) :
    (consumeLots remaining lots).map (·.conversionYear) = lots.map (·.conversionYear) := by
  induction lots generalizing remaining with
  | nil => rfl
  | cons lot lots ih =>
    rw [consumeLots]
    split
    · rfl
    · rw [List.map_cons, List.map_cons, ih]

/-- Consuming takes what is asked for, as far as the lots hold it. -/
theorem lotTotal_consumeLots {remaining : K} (hremaining : 0 ≤ remaining)
    {lots : List (RothConversionLot K)} (h : ∀ lot ∈ lots, 0 ≤ lot.remainingPrincipal) :
    lotTotal (consumeLots remaining lots) = lotTotal lots - min remaining (lotTotal lots) := by
  induction lots generalizing remaining with
  | nil =>
    have hzero : lotTotal ([] : List (RothConversionLot K)) = 0 := rfl
    rw [consumeLots, hzero, min_eq_right hremaining, sub_zero]
  | cons lot lots ih =>
    have hlot := h lot List.mem_cons_self
    have hlots : ∀ l ∈ lots, 0 ≤ l.remainingPrincipal := fun l hl =>
      h l (List.mem_cons_of_mem _ hl)
    have htotal := lotTotal_nonneg hlots
    rw [consumeLots]
    split
    · rename_i hnone
      rw [le_antisymm hnone hremaining, min_eq_left (lotTotal_nonneg h), sub_zero]
    · simp only [lotTotal_cons]
      rw [ih (sub_nonneg.mpr (min_le_left _ _)) hlots]
      rcases le_total remaining lot.remainingPrincipal with hle | hle
      · rw [min_eq_left hle, sub_self, min_eq_left htotal,
          min_eq_left (hle.trans (le_add_of_nonneg_right htotal))]
        ring
      · rw [min_eq_right hle]
        rcases le_total (remaining - lot.remainingPrincipal) (lotTotal lots) with hle' | hle'
        · rw [min_eq_left hle', min_eq_left (by linarith)]
          ring
        · rw [min_eq_right hle', min_eq_right (by linarith)]
          ring

theorem sub_min_eq_max (w regular : K) : w - min w regular = max (w - regular) 0 := by
  rcases le_total w regular with h | h
  · rw [min_eq_left h, sub_self, max_eq_right (by linarith)]
  · rw [min_eq_right h, max_eq_left (by linarith)]

/-- What consuming takes out of the lots is what the penalty is charged on: the part of
the withdrawal past the regular principal, as far as the lots hold it. -/
theorem lotTotal_consumeRothBasis {state : RothBasisState K} (h : state.Consistent)
    {withdrawal : K} (henabled : state.enabled = true) (hpos : 0 < withdrawal) :
    lotTotal (consumeRothBasis withdrawal state).conversionLots
      = lotTotal state.conversionLots
        - min (max (withdrawal - state.regularPrincipal) 0) state.unseasonedPrincipal := by
  have hguard : ¬(state.enabled = false ∨ withdrawal ≤ 0) := by
    rw [henabled, not_or, not_le]
    exact ⟨Bool.noConfusion, hpos⟩
  rw [consumeRothBasis, if_neg hguard, h.total_eq]
  simp only
  rw [sub_min_eq_max, lotTotal_consumeLots (le_max_right _ _) h.valid.lots_nonneg]

theorem consumeRothBasis_consistent {state : RothBasisState K} (h : state.Consistent)
    (withdrawal : K) : (consumeRothBasis withdrawal state).Consistent := by
  refine ⟨consumeRothBasis_valid h.valid withdrawal, ?_, ?_, fun hclosed => ?_⟩
  · by_cases hguard : state.enabled = false ∨ withdrawal ≤ 0
    · rw [consumeRothBasis, if_pos hguard]
      exact h.total_eq
    · have henabled : state.enabled = true := by simpa using (not_or.mp hguard).1
      rw [lotTotal_consumeRothBasis h henabled (not_le.mp (not_or.mp hguard).2),
        consumeRothBasis, if_neg hguard, h.total_eq]
      simp only
      rw [sub_min_eq_max]
      exact max_eq_left (sub_nonneg.mpr (min_le_right _ _))
  · have hyears : (consumeRothBasis withdrawal state).conversionLots.map (·.conversionYear)
        = state.conversionLots.map (·.conversionYear) := by
      rw [consumeRothBasis]
      split
      · rfl
      · exact consumeLots_years _ _
    have hsorted : (state.conversionLots.map (·.conversionYear)).Pairwise (· < ·) :=
      List.pairwise_map.mpr h.chronological
    rw [← hyears] at hsorted
    exact List.pairwise_map.mp hsorted
  · have henabled : (consumeRothBasis withdrawal state).enabled = state.enabled := by
      rw [consumeRothBasis]
      split <;> rfl
    rw [henabled] at hclosed
    rw [consumeRothBasis, if_pos (.inl hclosed)]
    exact h.closed hclosed

omit [IsStrictOrderedRing K] in
theorem consumeRothBasis_within {state : RothBasisState K} {first last : ℤ}
    (h : state.LotsWithin first last) (withdrawal : K) :
    (consumeRothBasis withdrawal state).LotsWithin first last := by
  intro lot hlot
  have hyear : lot.conversionYear ∈ state.conversionLots.map (·.conversionYear) := by
    have hmem := List.mem_map_of_mem (f := (·.conversionYear)) hlot
    rw [consumeRothBasis] at hmem
    split at hmem
    · exact hmem
    · rwa [consumeLots_years] at hmem
  obtain ⟨before, hbefore, heq⟩ := List.mem_map.mp hyear
  rw [← heq]
  exact h before hbefore

/-- The closed-form penalty is a tenth of exactly the principal that consuming takes out
of the lots. -/
theorem rothPenalty_eq {state : RothBasisState K} (h : state.Consistent) {age : ℕ}
    (hage : state.enabled = true → age < traditionalPenaltyAge) (withdrawal : K) :
    rothConversionPenaltyFor withdrawal state age
      = (lotTotal state.conversionLots
          - lotTotal (consumeRothBasis withdrawal state).conversionLots)
        * earlyTraditionalPenaltyRate := by
  by_cases hguard : state.enabled = false ∨ withdrawal ≤ 0
  · rw [rothConversionPenaltyFor, if_pos (hguard.imp_right .inl), consumeRothBasis,
      if_pos hguard, sub_self, zero_mul]
  · obtain ⟨henabled, hpos⟩ := not_or.mp hguard
    have henabled : state.enabled = true := by simpa using henabled
    have hyoung := hage henabled
    rw [lotTotal_consumeRothBasis h henabled (not_le.mp hpos), rothConversionPenaltyFor, if_neg]
    · rw [sub_sub_cancel]
    · rw [henabled, not_or, not_or, not_le, not_le]
      exact ⟨Bool.noConfusion, not_le.mp hpos, hyoung⟩

/-! ## Committing and recording -/

omit [IsStrictOrderedRing K] in
/-- Lots that hold nothing are dropped. -/
theorem lotTotal_filter {lots : List (RothConversionLot K)}
    (h : ∀ lot ∈ lots, 0 ≤ lot.remainingPrincipal) :
    lotTotal (lots.filter fun lot => 0 < lot.remainingPrincipal) = lotTotal lots := by
  induction lots with
  | nil => rfl
  | cons lot lots ih =>
    have hlots := ih fun l hl => h l (List.mem_cons_of_mem _ hl)
    by_cases hpos : 0 < lot.remainingPrincipal
    · rw [List.filter_cons, if_pos (decide_eq_true hpos), lotTotal_cons, lotTotal_cons, hlots]
    · rw [List.filter_cons, if_neg (by simpa using hpos), lotTotal_cons, hlots,
        le_antisymm (not_lt.mp hpos) (h lot List.mem_cons_self), zero_add]

/-- Committing a withdrawal leaves a consistent ledger, of the lots it consumed. -/
theorem finishOrderedWithdrawals_consistent {state : RothBasisState K} (h : state.Consistent)
    {first last : ℤ} (hwithin : state.LotsWithin first last) (accounts : List (Account K))
    (evaluation : WithdrawalEvaluation K) (target tolerance : K) :
    let committed := finishOrderedWithdrawals accounts state evaluation target tolerance
    committed.rothBasis.Consistent ∧ committed.rothBasis.LotsWithin first last ∧
      lotTotal committed.rothBasis.conversionLots
        = lotTotal (consumeRothBasis committed.result.withdrawalRoth state).conversionLots := by
  intro committed
  have hconsumed := consumeRothBasis_consistent h evaluation.withdrawalRoth
  have hyears := consumeRothBasis_within hwithin evaluation.withdrawalRoth
  have hfilter := lotTotal_filter hconsumed.valid.lots_nonneg
  have hvalid := finishOrderedWithdrawals_ledger h.valid accounts evaluation target tolerance
  by_cases hdraws : state.enabled ∧ 0 < evaluation.withdrawalRoth
  · have hbasis : committed.rothBasis = { consumeRothBasis evaluation.withdrawalRoth state with
        conversionLots := (consumeRothBasis evaluation.withdrawalRoth state).conversionLots.filter
          fun lot => 0 < lot.remainingPrincipal } := if_pos hdraws
    refine ⟨⟨hvalid, ?_, ?_, ?_⟩, ?_, ?_⟩ <;> rw [hbasis]
    · exact hconsumed.total_eq.trans hfilter.symm
    · exact hconsumed.chronological.sublist List.filter_sublist
    · intro hclosed
      rw [hconsumed.closed hclosed]
      rfl
    · exact fun lot hlot => hyears lot (List.mem_of_mem_filter hlot)
    · exact hfilter
  · have hbasis : committed.rothBasis = state := if_neg hdraws
    have hsame : consumeRothBasis committed.result.withdrawalRoth state = state := by
      rw [not_and_or, Bool.not_eq_true, not_lt] at hdraws
      exact if_pos hdraws
    rw [hbasis, hsame]
    exact ⟨h, hwithin, rfl⟩

theorem recordConversion_consistent {state : RothBasisState K} (h : state.Consistent)
    {first taxYear : ℤ} (hfirst : first ≤ taxYear) (hwithin : state.LotsWithin first (taxYear - 1))
    {rothConversion : K} (hc : 0 ≤ rothConversion) :
    (recordConversion state taxYear rothConversion).Consistent ∧
      (recordConversion state taxYear rothConversion).LotsWithin first taxYear := by
  have hvalid := recordConversion_valid h.valid taxYear hc
  by_cases henabled : state.enabled
  · have hrecord : recordConversion state taxYear rothConversion =
        { state with
          conversionLots := state.conversionLots ++ [⟨taxYear, rothConversion⟩]
          unseasonedPrincipal := state.unseasonedPrincipal + rothConversion } := if_pos henabled
    refine ⟨⟨hvalid, ?_, ?_, ?_⟩, ?_⟩ <;> rw [hrecord]
    · change state.unseasonedPrincipal + rothConversion = lotTotal (_ ++ [_])
      rw [lotTotal_append, h.total_eq, lotTotal_cons]
      exact congrArg _ (add_zero _).symm
    · refine List.pairwise_append.mpr ⟨h.chronological, List.pairwise_singleton _ _, ?_⟩
      intro lot hlot new hnew
      rw [List.mem_singleton.mp hnew]
      have := (hwithin lot hlot).2
      change lot.conversionYear < taxYear
      omega
    · exact fun hclosed => absurd henabled (Bool.eq_false_iff.mp hclosed)
    · intro lot hlot
      rcases List.mem_append.mp hlot with hold | hnew
      · have := hwithin lot hold
        exact ⟨this.1, by omega⟩
      · rw [List.mem_singleton.mp hnew]
        exact ⟨hfirst, le_rfl⟩
  · have hrecord : recordConversion state taxYear rothConversion = state := if_neg henabled
    rw [hrecord]
    exact ⟨h, fun lot hlot => ⟨(hwithin lot hlot).1, by have := (hwithin lot hlot).2; omega⟩⟩

/-! ## The year -/

/-- At the start of a year the ledger closes at 60, and otherwise holds the lots of the
last five tax years. -/
theorem rothBasisAtStart_consistent {state : RothBasisState K} (h : state.Consistent)
    {first last : ℤ} (hwithin : state.LotsWithin first last) (age : ℕ) (taxYear : ℤ) :
    (rothBasisAtStart state age taxYear).Consistent ∧
      (rothBasisAtStart state age taxYear).LotsWithin (taxYear - 4) last ∧
      ((rothBasisAtStart state age taxYear).enabled = true → age < traditionalPenaltyAge) := by
  have hnone {lots : List (RothConversionLot K)} (hlots : lots = []) :
      ∀ lot ∈ lots, taxYear - 4 ≤ lot.conversionYear ∧ lot.conversionYear ≤ last := by
    rw [hlots]
    exact fun _ hlot => absurd hlot List.not_mem_nil
  rw [rothBasisAtStart]
  split_ifs with hsixty henabled
  · exact ⟨⟨⟨le_rfl, le_rfl, fun _ hlot => absurd hlot List.not_mem_nil⟩, rfl, List.Pairwise.nil,
      fun _ => rfl⟩, hnone rfl, False.elim⟩
  · obtain ⟨hseasoned, hyears⟩ := seasonRothConversions_consistent h taxYear hwithin
    exact ⟨hseasoned, hyears, fun _ => not_le.mp fun hage => hsixty ⟨hage, henabled⟩⟩
  · exact ⟨h, hnone (h.closed (Bool.not_eq_true _ ▸ henabled)), fun hyes => absurd hyes henabled⟩

omit [IsStrictOrderedRing K] in
theorem workingYear_ledger (prepared : PreparedPlan K) (returns : K × K) (year : ℕ)
    (accounts : List (Account K)) {rothBasis : RothBasisState K} (h : rothBasis.Consistent)
    (allowance rmdAmount : K)
    (hvalid : (workingYear prepared returns year accounts rothBasis allowance
      rmdAmount).rothBasis.Valid) :
    (workingYear prepared returns year accounts rothBasis allowance
        rmdAmount).rothBasis.Consistent ∧
      (workingYear prepared returns year accounts rothBasis allowance
        rmdAmount).rothBasis.conversionLots = rothBasis.conversionLots := by
  -- Only the regular principal moves in a working year.
  obtain ⟨regularPrincipal, hbasis⟩ : ∃ regularPrincipal, (workingYear prepared returns year
      accounts rothBasis allowance rmdAmount).rothBasis = { rothBasis with regularPrincipal } := by
    simp only [workingYear]
    split
    · exact ⟨_, rfl⟩
    · exact ⟨rothBasis.regularPrincipal, rfl⟩
  rw [hbasis] at hvalid ⊢
  exact ⟨⟨hvalid, h.total_eq, h.chronological, h.closed⟩, rfl⟩

section Retired

variable [FloorRing K] (log : NaturalLog K) (prepared : PreparedPlan K) (returns : K × K)
  (year : ℕ) (state : ProjectionState K) {rothBasis : RothBasisState K} (rmdAmount : K)

/-- The withdrawals of a retired year leave a consistent ledger, short of exactly the
principal the draw consumed. -/
theorem retiredCommitted_ledger (hledger : rothBasis.Consistent) {first last : ℤ}
    (hwithin : rothBasis.LotsWithin first last) :
    let committed := retiredCommitted log prepared returns year state rothBasis rmdAmount
    committed.rothBasis.Consistent ∧ committed.rothBasis.LotsWithin first last ∧
      lotTotal committed.rothBasis.conversionLots
        = lotTotal (consumeRothBasis committed.result.withdrawalRoth rothBasis).conversionLots :=
  finishOrderedWithdrawals_consistent hledger hwithin _ _ _ _

variable {prepared state rmdAmount}

theorem retiredYear_ledger (h : Prepared prepared) (hstate : state.Valid)
    (hledger : rothBasis.Consistent) (hrmd : 0 ≤ rmdAmount)
    (hwithin : rothBasis.LotsWithin (prepared.taxYear year - 4) (prepared.taxYear year - 1)) :
    let o := retiredYear log prepared returns year state rothBasis rmdAmount
    o.rothBasis.Consistent ∧
      o.rothBasis.LotsWithin (prepared.taxYear year - 4) (prepared.taxYear year) := by
  intro o
  obtain ⟨hcommitted, hyears, -⟩ := retiredCommitted_ledger log prepared returns year state
    rmdAmount hledger hwithin
  obtain ⟨hyes, hno⟩ := retiredYear_conversion log prepared returns year state rothBasis rmdAmount
  have hbooks := retiredConversion_books log returns year h hstate.buckets
    hstate.allowance_nonneg hstate.care_valid hledger.valid hrmd
  by_cases hconverts :
      0 < (retiredConversion log prepared returns year state rothBasis rmdAmount).converted
  · rw [(hyes hconverts).2.2.2]
    exact recordConversion_consistent hcommitted (by omega) hyears
      (sub_nonneg.mpr hbooks.withheld_le)
  · rw [(hno hconverts).2]
    exact ⟨hcommitted, fun lot hlot => ⟨(hyears lot hlot).1, by have := (hyears lot hlot).2; omega⟩⟩

end Retired

/-! ## The path -/

section Path

variable [FloorRing K] (log : NaturalLog K) {prepared : PreparedPlan K}

theorem outcomeAt_ledger (h : Prepared prepared) (uniform : Uniform K) (returns : ℕ → K × K)
    (year : ℕ)
    (hledger : (stateAt log prepared uniform returns year).rothBasis.Consistent)
    (hwithin : (stateAt log prepared uniform returns year).rothBasis.LotsWithin
      (prepared.taxYear year - 5) (prepared.taxYear year - 1)) :
    (outcomeAt log prepared uniform returns year).rothBasis.Consistent ∧
      (outcomeAt log prepared uniform returns year).rothBasis.LotsWithin
        (prepared.taxYear year - 4) (prepared.taxYear year) := by
  have hstate := stateAt_valid log uniform returns h year
  obtain ⟨hstart, hyears, -⟩ := rothBasisAtStart_consistent hledger hwithin
    (prepared.currentAge year) (prepared.taxYear year)
  obtain ⟨lost, hbooks, -⟩ := yearOutcome_books log h (returns year) year hstate
  have hvalid := hbooks.ledger
  rw [outcomeAt]
  rw [yearOutcome] at hvalid ⊢
  split at hvalid
  · rename_i hretired
    rw [if_pos hretired]
    exact retiredYear_ledger log (returns year) year h hstate hstart
      (requiredIn_nonneg prepared year hstate) hyears
  · rename_i hworking
    rw [if_neg hworking]
    obtain ⟨hconsistent, hlots⟩ := workingYear_ledger prepared (returns year) year _ hstart _ _
      hvalid
    refine ⟨hconsistent, fun lot hlot => ?_⟩
    rw [hlots] at hlot
    have := hyears lot hlot
    exact ⟨this.1, by omega⟩

theorem stateAt_ledger (h : Prepared prepared) (uniform : Uniform K) (returns : ℕ → K × K)
    (year : ℕ) :
    (stateAt log prepared uniform returns year).rothBasis.Consistent ∧
      (stateAt log prepared uniform returns year).rothBasis.LotsWithin
        (prepared.taxYear year - 5) (prepared.taxYear year - 1) := by
  induction year with
  | zero =>
    refine ⟨⟨(ProjectionState.start_valid h uniform).ledger, rfl, List.Pairwise.nil,
      fun _ => rfl⟩, fun _ hlot => absurd hlot List.not_mem_nil⟩
  | succ year ih =>
    obtain ⟨hconsistent, hwithin⟩ := outcomeAt_ledger log h uniform returns year ih.1 ih.2
    rw [stateAt_succ]
    refine ⟨hconsistent, fun lot hlot => ?_⟩
    have := hwithin lot hlot
    simp only [PreparedPlan.taxYear] at this ⊢
    push_cast
    omega

end Path

/-- The Roth ledger of every path of an accepted plan is consistent: when a year starts,
once it is seasoned or closed, after the withdrawals of a retired year, and when the year
ends. After seasoning its lots are of the last five tax years. The penalty of any draw is
a tenth of the principal that draw takes out of the unseasoned lots, and the draw a
retired year commits leaves the lots short of exactly that. -/
theorem rothLedger_consistent [FloorRing K] (log : NaturalLog K) {plan : RetirementPlan K}
    {prepared : PreparedPlan K} (hplan : validatePlan plan = .ok ())
    (hnew : PreparedPlan.new plan = .ok prepared) (uniform : Uniform K) (returns : ℕ → K × K)
    (year : ℕ) :
    let taxYear := prepared.taxYear year
    let age := prepared.currentAge year
    let state := stateAt log prepared uniform returns year
    let seasoned := rothBasisAtStart state.rothBasis age taxYear
    let committed := retiredCommitted log prepared (returns year) year state seasoned
      (prepared.requiredIn year state)
    let outcome := outcomeAt log prepared uniform returns year
    state.rothBasis.Consistent ∧
      (seasoned.Consistent ∧ seasoned.LotsWithin (taxYear - 4) (taxYear - 1)) ∧
      (∀ draw, rothConversionPenaltyFor draw seasoned age
        = 0.10 * (lotTotal seasoned.conversionLots
          - lotTotal (consumeRothBasis draw seasoned).conversionLots)) ∧
      (prepared.isRetired year = true → committed.rothBasis.Consistent ∧
        committed.rothBasis.LotsWithin (taxYear - 4) (taxYear - 1) ∧
        lotTotal committed.rothBasis.conversionLots
          = lotTotal (consumeRothBasis committed.result.withdrawalRoth seasoned).conversionLots) ∧
      outcome.rothBasis.Consistent ∧ outcome.rothBasis.LotsWithin (taxYear - 4) taxYear := by
  obtain ⟨hprepared, -⟩ := prepared_of_new hplan hnew
  obtain ⟨hledger, hwithin⟩ := stateAt_ledger log hprepared uniform returns year
  obtain ⟨hstart, hyears, hyoung⟩ := rothBasisAtStart_consistent hledger hwithin
    (prepared.currentAge year) (prepared.taxYear year)
  refine ⟨hledger, ⟨hstart, hyears⟩, fun draw => ?_, fun _ => ?_,
    outcomeAt_ledger log hprepared uniform returns year hledger hwithin⟩
  · rw [rothPenalty_eq hstart hyoung, mul_comm]
    rfl
  · exact retiredCommitted_ledger log prepared (returns year) year _ _ hstart hyears

/-- A retiree of 50 who converts under the IRMAA ceiling and then lives on the Roth. -/
def earlyRothPlan : RetirementPlan ℚ :=
  { gapYearPlan with
    profile :=
      { gapYearPlan.profile with
        birthDate := some (newYear 1975)
        retirementAge := 50
        lifeExpectancy := 53 }
    accounts := [⟨.traditional, 180000, ⟨1, 0⟩, false⟩, ⟨.roth, 10000, ⟨1, 0⟩, false⟩] }

/-- `earlyRothPlan`, prepared. -/
def earlyRothPrepared : PreparedPlan ℚ :=
  PreparedPlan.onDates earlyRothPlan (newYear 2025) 1975 50

theorem earlyRothPlan_valid : validatePlan earlyRothPlan = .ok () := by decide +kernel

/-- In its third year `earlyRothPlan` draws the whole Roth, and with it the lot of its
first year. -/
theorem rothLedger_consistent_early :
    let state := stateAt NaturalLog.flat earlyRothPrepared ⟨0, le_rfl, one_pos⟩
      (fun _ => (1 / 1000, 0)) 2
    let seasoned := rothBasisAtStart state.rothBasis 52 2027
    let committed := retiredCommitted NaturalLog.flat earlyRothPrepared (1 / 1000, 0) 2 state
      seasoned 0
    (24857 < lotTotal seasoned.conversionLots ∧ lotTotal committed.rothBasis.conversionLots = 0) ∧
      state.rothBasis.Consistent ∧ seasoned.LotsWithin 2023 2026 ∧
      rothConversionPenaltyFor committed.result.withdrawalRoth seasoned 52
        = 0.10 * (lotTotal seasoned.conversionLots
          - lotTotal
            (consumeRothBasis committed.result.withdrawalRoth seasoned).conversionLots) := by
  intro state seasoned committed
  obtain ⟨hledger, ⟨-, hyears⟩, hpenalty, -⟩ := rothLedger_consistent NaturalLog.flat
    earlyRothPlan_valid (rfl : PreparedPlan.new earlyRothPlan = .ok earlyRothPrepared)
    ⟨0, le_rfl, one_pos⟩ (fun _ => (1 / 1000, 0)) 2
  exact ⟨by decide +kernel, hledger, hyears, hpenalty _⟩

end RetirementPlanner.Engine
