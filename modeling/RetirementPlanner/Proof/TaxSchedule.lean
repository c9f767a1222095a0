import RetirementPlanner.Engine.Tax
import RetirementPlanner.Lib.Schedule

/-!
# The tax tables as piecewise linear schedules

The bracket loops of `tax.rs` compute the piecewise linear schedule whose kinks
are the bracket edges, on any list of brackets that follow each other:

* `calculateProgressiveTax_eq`: the tax of an income;
* `calculateLtcgTax_eq`: the tax of gains stacked on ordinary income, a
  difference of two values.

`federalKinks`, `ltcgKinks` and `californiaKinks` are the tables of the law in
this form, with the bounds on their slopes the later modules use.
-/

namespace RetirementPlanner.Engine

open Schedule

variable {K : Type*} [Field K] [LinearOrder K]

/-- The kinks of consecutive brackets, after a bracket taxed at `rate`. -/
def kinksFrom (rate : K) : List (TaxBracket K) → List (K × K)
  | [] => []
  | bracket :: brackets =>
    (bracket.min, bracket.rate - rate) :: kinksFrom bracket.rate brackets

/-- The kinks of consecutive brackets. -/
def kinks (brackets : List (TaxBracket K)) : List (K × K) := kinksFrom 0 brackets

/-- The brackets follow each other from `lo` up, and the last one is open. -/
inductive Contiguous : K → List (TaxBracket K) → Prop
  | top (lo rate : K) : Contiguous lo [⟨lo, none, rate⟩]
  | cons {lo hi rate : K} {brackets : List (TaxBracket K)} (hlt : lo < hi)
      (tail : Contiguous hi brackets) : Contiguous lo (⟨lo, some hi, rate⟩ :: brackets)

variable [IsStrictOrderedRing K]

theorem Contiguous.value_eq_zero {lo rate x : K} {brackets : List (TaxBracket K)}
    (h : Contiguous lo brackets) (hx : x ≤ lo) : value (kinksFrom rate brackets) x = 0 := by
  induction h generalizing rate with
  | top => simp [kinksFrom, ramp_of_le hx]
  | cons hlt _ ih => rw [kinksFrom, value_cons, ramp_of_le hx, ih (hx.trans hlt.le)]; ring

omit [IsStrictOrderedRing K] in
theorem Contiguous.value_kinksFrom {lo rate x : K} {brackets : List (TaxBracket K)}
    (h : Contiguous lo brackets) :
    value (kinksFrom rate brackets) x = value (kinks brackets) x - rate * ramp lo x := by
  cases h <;> simp only [kinks, kinksFrom, value_cons] <;> ring

/-- Past its first bracket, a schedule is that bracket's tax and the rest. -/
theorem Contiguous.value_kinks_cons {lo hi rate x : K} {brackets : List (TaxBracket K)}
    (h : Contiguous hi brackets) (hlt : lo < hi) (hx : hi ≤ x) :
    value (kinks (⟨lo, some hi, rate⟩ :: brackets)) x
      = (hi - lo) * rate + value (kinks brackets) x := by
  rw [kinks, kinksFrom, value_cons, h.value_kinksFrom, ramp_of_ge hx, ramp_of_ge (hlt.le.trans hx)]
  ring

/-- Within its first bracket, a schedule is that bracket's tax. -/
theorem Contiguous.value_kinks_of_le {lo hi rate x : K} {brackets : List (TaxBracket K)}
    (h : Contiguous hi brackets) (hlo : lo ≤ x) (hx : x ≤ hi) :
    value (kinks (⟨lo, some hi, rate⟩ :: brackets)) x = (x - lo) * rate := by
  rw [kinks, kinksFrom, value_cons, h.value_eq_zero hx, ramp_of_ge hlo]
  ring

theorem value_kinks_top {lo rate x : K} (hx : lo ≤ x) :
    value (kinks [⟨lo, none, rate⟩]) x = (x - lo) * rate := by
  rw [kinks, kinksFrom, kinksFrom, value_cons, value_nil, ramp_of_ge hx]
  ring

/-! ## The loops -/

omit [IsStrictOrderedRing K] in
theorem progressiveTaxLoop_of_nonpos {tax remaining : K} (h : remaining ≤ 0)
    (brackets : List (TaxBracket K)) : progressiveTaxLoop tax remaining brackets = tax := by
  cases brackets <;> simp [progressiveTaxLoop, h]

theorem Contiguous.progressiveTaxLoop_eq {lo tax x : K} {brackets : List (TaxBracket K)}
    (h : Contiguous lo brackets) (hx : lo ≤ x) :
    progressiveTaxLoop tax (x - lo) brackets = tax + value (kinks brackets) x := by
  induction h generalizing tax with
  | top lo rate =>
    rw [value_kinks_top hx]
    rcases hx.eq_or_lt with rfl | hlt
    · simp [progressiveTaxLoop]
    · have hpos : 0 < x - lo := sub_pos.mpr hlt
      simp [progressiveTaxLoop, hpos, hpos.not_ge]
  | @cons lo hi rate brackets hlt tail ih =>
    rcases hx.eq_or_lt with rfl | hlo
    · rw [tail.value_kinks_of_le le_rfl hlt.le]
      simp [progressiveTaxLoop]
    have hpos : 0 < x - lo := sub_pos.mpr hlo
    have hmin : 0 < min (x - lo) (hi - lo) := lt_min hpos (sub_pos.mpr hlt)
    simp only [progressiveTaxLoop, if_neg hpos.not_ge, if_pos hmin]
    rcases le_total x hi with hxhi | hhix
    · rw [tail.value_kinks_of_le hlo.le hxhi, min_eq_left (by linarith), sub_self,
        progressiveTaxLoop_of_nonpos le_rfl]
    · rw [tail.value_kinks_cons hlt hhix, min_eq_right (by linarith), sub_sub_sub_cancel_right,
        ih hhix]
      ring

/-- The progressive tax of an income is the schedule of its brackets. -/
theorem calculateProgressiveTax_eq {brackets : List (TaxBracket K)} (h : Contiguous 0 brackets)
    (income : K) : calculateProgressiveTax income brackets = value (kinks brackets) income := by
  rcases le_total income 0 with hi | hi
  · rw [calculateProgressiveTax, progressiveTaxLoop_of_nonpos hi, kinks, h.value_eq_zero hi]
  · have hloop : progressiveTaxLoop 0 (income - 0) brackets = 0 + value (kinks brackets) income :=
      h.progressiveTaxLoop_eq hi
    rwa [sub_zero, zero_add] at hloop

omit [IsStrictOrderedRing K] in
theorem ltcgTaxLoop_of_nonpos {tax remaining current : K} (h : remaining ≤ 0)
    (brackets : List (TaxBracket K)) : ltcgTaxLoop tax remaining current brackets = tax := by
  cases brackets <;> simp [ltcgTaxLoop, h]

theorem Contiguous.ltcgTaxLoop_eq {lo tax gains current : K} {brackets : List (TaxBracket K)}
    (h : Contiguous lo brackets) (hcurrent : lo ≤ current) (hgains : 0 ≤ gains) :
    ltcgTaxLoop tax gains current brackets
      = tax + (value (kinks brackets) (current + gains) - value (kinks brackets) current) := by
  rcases hgains.eq_or_lt with rfl | hpos
  · rw [ltcgTaxLoop_of_nonpos le_rfl, add_zero, sub_self, add_zero]
  induction h generalizing tax gains current with
  | top lo rate =>
    rw [value_kinks_top hcurrent, value_kinks_top (by linarith)]
    simp only [ltcgTaxLoop, if_neg hpos.not_ge]
    ring
  | @cons lo hi rate brackets hlt tail ih =>
    simp only [ltcgTaxLoop, if_neg hpos.not_ge, max_eq_left hcurrent]
    by_cases hc : current < hi
    · have hmin : 0 < min gains (hi - current) := lt_min hpos (sub_pos.mpr hc)
      rw [if_pos hc, if_pos hmin, tail.value_kinks_of_le hcurrent hc.le]
      rcases le_or_gt gains (hi - current) with hle | hgt
      · rw [min_eq_left hle, sub_self, ltcgTaxLoop_of_nonpos le_rfl,
          tail.value_kinks_of_le (by linarith) (by linarith)]
        ring
      · rw [min_eq_right hgt.le, tail.value_kinks_cons hlt (by linarith),
          ih (by linarith) (by linarith) (by linarith),
          show current + (hi - current) = hi by ring, kinks, tail.value_eq_zero le_rfl, ← kinks,
          show hi + (gains - (hi - current)) = current + gains by ring]
        ring
    · have hhi : hi ≤ current := not_lt.mp hc
      rw [if_neg hc, ih hhi hgains hpos, tail.value_kinks_cons hlt hhi,
        tail.value_kinks_cons hlt (by linarith)]
      ring

/-! ## The tables -/

def federalKinks (filingStatus : FilingStatus) : List (K × K) :=
  kinks (getFederalBrackets filingStatus)

def ltcgKinks (filingStatus : FilingStatus) : List (K × K) := kinks (ltcgBrackets filingStatus)

def californiaKinks (filingStatus : FilingStatus) : List (K × K) :=
  kinks (californiaBrackets filingStatus)

theorem getFederalBrackets_contiguous (filingStatus : FilingStatus) :
    Contiguous (0 : K) (getFederalBrackets filingStatus) := by
  cases filingStatus <;>
    exact .cons (by norm_num) <| .cons (by norm_num) <| .cons (by norm_num) <|
      .cons (by norm_num) <| .cons (by norm_num) <| .cons (by norm_num) <| .top _ _

theorem ltcgBrackets_contiguous (filingStatus : FilingStatus) :
    Contiguous (0 : K) (ltcgBrackets filingStatus) := by
  cases filingStatus <;> exact .cons (by norm_num) <| .cons (by norm_num) <| .top _ _

theorem californiaBrackets_contiguous (filingStatus : FilingStatus) :
    Contiguous (0 : K) (californiaBrackets filingStatus) := by
  cases filingStatus <;>
    exact .cons (by norm_num) <| .cons (by norm_num) <| .cons (by norm_num) <|
      .cons (by norm_num) <| .cons (by norm_num) <| .cons (by norm_num) <|
      .cons (by norm_num) <| .cons (by norm_num) <| .cons (by norm_num) <| .top _ _

/-- The long-term capital gains tax is what the gains add on top of ordinary
income. -/
theorem calculateLtcgTax_eq (filingStatus : FilingStatus) {ordinary gains : K}
    (hordinary : 0 ≤ ordinary) (hgains : 0 ≤ gains) :
    calculateLtcgTax ordinary gains filingStatus
      = value (ltcgKinks filingStatus) (ordinary + gains)
        - value (ltcgKinks filingStatus) ordinary := by
  rcases hgains.eq_or_lt with rfl | hpos
  · simp [calculateLtcgTax]
  · rw [calculateLtcgTax, if_neg hpos.not_ge,
      (ltcgBrackets_contiguous filingStatus).ltcgTaxLoop_eq hordinary hgains, zero_add, ltcgKinks]

theorem federalKinks_upward (filingStatus : FilingStatus) :
    Upward (federalKinks filingStatus : List (K × K)) := by
  cases filingStatus <;>
    simp only [Upward, federalKinks, getFederalBrackets, kinks, kinksFrom, List.forall_mem_cons,
      List.not_mem_nil, false_imp_iff, implies_true, and_true] <;> norm_num

theorem ltcgKinks_upward (filingStatus : FilingStatus) :
    Upward (ltcgKinks filingStatus : List (K × K)) := by
  cases filingStatus <;>
    simp only [Upward, ltcgKinks, ltcgBrackets, kinks, kinksFrom, List.forall_mem_cons,
      List.not_mem_nil, false_imp_iff, implies_true, and_true] <;> norm_num

theorem californiaKinks_upward (filingStatus : FilingStatus) :
    Upward (californiaKinks filingStatus : List (K × K)) := by
  cases filingStatus <;>
    simp only [Upward, californiaKinks, californiaBrackets, kinks, kinksFrom, List.forall_mem_cons,
      List.not_mem_nil, false_imp_iff, implies_true, and_true] <;> norm_num

theorem federalKinks_slopes (filingStatus : FilingStatus) :
    SlopesLE (0.37 : K) 0 (federalKinks filingStatus) := by
  cases filingStatus <;>
    simp only [SlopesLE, federalKinks, getFederalBrackets, kinks, kinksFrom, List.forall_mem_cons,
      List.not_mem_nil, false_imp_iff, implies_true, and_true] <;> norm_num

theorem ltcgKinks_slopes (filingStatus : FilingStatus) :
    SlopesLE (0.20 : K) 0 (ltcgKinks filingStatus) := by
  cases filingStatus <;>
    simp only [SlopesLE, ltcgKinks, ltcgBrackets, kinks, kinksFrom, List.forall_mem_cons,
      List.not_mem_nil, false_imp_iff, implies_true, and_true] <;> norm_num

theorem californiaKinks_slopes (filingStatus : FilingStatus) :
    SlopesLE (0.133 : K) 0 (californiaKinks filingStatus) := by
  cases filingStatus <;>
    simp only [SlopesLE, californiaKinks, californiaBrackets, kinks, kinksFrom,
      List.forall_mem_cons, List.not_mem_nil, false_imp_iff, implies_true, and_true] <;> norm_num

end RetirementPlanner.Engine
