import RetirementPlanner.Lib.FalsePosition
import RetirementPlanner.Proof.ConversionTax
import RetirementPlanner.Proof.Evaluation

/-!
# How close the conversion search comes

The search keeps a bracket whose low end fits the ceiling and whose high end does not, and its steps
are those of false position with a bisection every other step (`solveAt_eq`). A bracket closed to a
dollar makes the conversion maximal to two dollars; the steps are capped, though, and a kink at
the root can leave the bracket open. They close it where the balance is small, where the measure is
a line from some conversion on, and where the sale that pays the tax hardly counts towards the
ceiling (`rothConversionFor_fills`).
-/

namespace RetirementPlanner.Engine

open Schedule Iteration FalsePosition

variable {K : Type*} [Field K] [LinearOrder K]

/-! ## The search, step by step -/

variable [IsStrictOrderedRing K]

/-! ## Ceilings -/

section Search

variable {input : RothConversionInput K} {limit : K}

end Search

/-! ## What is left under the ceiling -/

/-- A dollar converted adds at most `rate` of tax and one of gain at most `gainRate`, for
conversions up to `top` and all that Taxable could sell for them. -/
def TaxedAtMost (input : RothConversionInput K) (top rate gainRate : K) : Prop :=
  ∀ c c' y y', 0 ≤ c → c ≤ c' → c' ≤ top → 0 ≤ y → y ≤ y' → y' ≤ input.taxableBalance →
    taxWithSale input c' y' - taxWithSale input c y
      ≤ rate * (c' - c) + gainRate * input.taxableGainRatio * (y' - y)

/-- The gain of the sale that pays its tax adds at most `slack` to what a dollar converted
measures: there is nothing to sell, or the tax on a dollar converted is slight. -/
def SaleAddsAtMost (input : RothConversionInput K) (top slack : K) : Prop :=
  input.taxableBalance = 0 ∨ ∃ rate gainRate, 0 ≤ rate ∧ 0 ≤ gainRate ∧
    TaxedAtMost input top rate gainRate ∧ gainRate * input.taxableGainRatio < 1 ∧
    input.taxableGainRatio * rate ≤ slack * (1 - gainRate * input.taxableGainRatio)

section Closes

variable {input : RothConversionInput K} {limit : K}

/-- What funding a conversion adds to its gain, by what its tax does. -/
theorem SaleAddsAtMost.fundingGain (h : input.Valid) {top slack : K} (hslack : 0 ≤ slack)
    (hsale : SaleAddsAtMost input top slack) {c c' : K} (hc0 : 0 ≤ c) (hc : c ≤ c')
    (htop : c' ≤ top) :
    (outcomeOf c' input (taxOf 0 input.qualifiedIncome input)).fundingGain
        - (outcomeOf c input (taxOf 0 input.qualifiedIncome input)).fundingGain
      ≤ slack * (c' - c) := by
  have hc0' := hc0.trans hc
  have hgain {c : K} (hc : 0 ≤ c) :
      (outcomeOf c input (taxOf 0 input.qualifiedIncome input)).fundingGain
        = sale (taxWithSale input c) input.taxableBalance 4 * input.taxableGainRatio :=
    congrArg (fun s => s.fromTaxable * input.taxableGainRatio) (settling_eq h hc 3)
  rw [hgain hc0', hgain hc0, ← sub_mul]
  have hd : 0 ≤ c' - c := sub_nonneg.mpr hc
  rcases hsale with hnone | ⟨rate, gainRate, hrate, hgainRate, htaxed, hone, hslight⟩
  · have hsold (c : K) : sale (taxWithSale input c) input.taxableBalance 4 ≤ 0 :=
      hnone ▸ sale_le_cap _ h.taxable_nonneg 4
    have hsold0 := sale_nonneg (taxWithSale_rises h hc0) h.taxable_nonneg 4
    refine (mul_nonpos_of_nonpos_of_nonneg ?_ h.gainRatio_nonneg).trans (mul_nonneg hslack hd)
    linarith [hsold c']
  · have hshare : 0 ≤ gainRate * input.taxableGainRatio := mul_nonneg hgainRate h.gainRatio_nonneg
    have hmore (y : K) (hy : 0 ≤ y) : taxWithSale input c y ≤ taxWithSale input c' y :=
      sub_le_sub_right (taxOf_mono h hc (qualified_nonneg h hy) le_rfl) _
    have hbetween := sale_sub_le (taxWithSale_rises h hc0) (taxWithSale_rises h hc0')
      h.taxable_nonneg hmore (mul_nonneg hrate hd) hshare hone.le
      (fun y y' hy hle hcap => htaxed c c' y y' hc0 hc htop hy hle hcap) 4
    set sold := sale (taxWithSale input c') input.taxableBalance 4
      - sale (taxWithSale input c) input.taxableBalance 4
    have hpart : 0 < 1 - gainRate * input.taxableGainRatio := sub_pos.mpr hone
    refine le_of_mul_le_mul_left ?_ hpart
    calc (1 - gainRate * input.taxableGainRatio) * (sold * input.taxableGainRatio)
        = (1 - gainRate * input.taxableGainRatio) * sold * input.taxableGainRatio := by ring
      _ ≤ rate * (c' - c) * input.taxableGainRatio :=
          mul_le_mul_of_nonneg_right hbetween h.gainRatio_nonneg
      _ = input.taxableGainRatio * rate * (c' - c) := by ring
      _ ≤ slack * (1 - gainRate * input.taxableGainRatio) * (c' - c) :=
          mul_le_mul_of_nonneg_right hslight hd
      _ = (1 - gainRate * input.taxableGainRatio) * (slack * (c' - c)) := by ring

end Closes

end RetirementPlanner.Engine
