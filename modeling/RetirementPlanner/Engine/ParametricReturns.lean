import Mathlib.Analysis.SpecialFunctions.Pow.Real
import RetirementPlanner.Engine.HistoricalData
import RetirementPlanner.Lib.Operations
import RetirementPlanner.Lib.Numerals

/-!
# The statistics of parametric returns

`parametric_returns.rs`: what can fail when the mean and the volatility of the real returns,
their correlation and the log-space parameters are derived, once, from the historical table.
Volatilities are square roots, so these are real numbers; the draws that work on them are a
library's (`RandomSource.parametricReturns`).
-/

namespace RetirementPlanner.Engine

open Operations

noncomputable section

structure MarketStats where
  mean : ℚ
  volatility : ℝ

def mean (xs : List ℚ) : ℚ := xs.sum / xs.length

/-- What the standard deviation is the square root of. -/
def variance (xs : List ℚ) : ℚ := (xs.map fun v => (v - mean xs) ^ 2).sum / xs.length

def stdDev (xs : List ℚ) : ℝ := Real.sqrt (variance xs)

def marketStats (xs : List ℚ) : MarketStats := ⟨mean xs, stdDev xs⟩

def realStock : List ℚ := historicalReturns.map (·.realReturns.1)

def realBond : List ℚ := historicalReturns.map (·.realReturns.2)

/-! ## Partial operations -/

def marketStatsOperations (xs : List ℚ) : List (Operation ℝ) :=
  [.divide (xs.length : ℝ), .divide (xs.length : ℝ)]

/-- The location and the scale in log space are of the volatility over `1 + mean`. -/
def toLogParamsOperations (stats : MarketStats) : List (Operation ℝ) :=
  [.divide (1 + stats.mean : ℝ)]

/-- Deriving the statistics on first use: the real returns, their means and volatilities, the
covariance, the correlation and the log-space parameters. -/
def statsOperations : List (Operation ℝ) :=
  historicalReturns.map (fun r => .divide (1 + r.inflationRate : ℝ))
    ++ marketStatsOperations realStock ++ marketStatsOperations realBond
    ++ [.divide (realStock.length : ℝ)]
    ++ [.divide ((marketStats realStock).volatility * (marketStats realBond).volatility)]
    ++ toLogParamsOperations (marketStats realStock)
    ++ toLogParamsOperations (marketStats realBond)

def degreesOfFreedom : ℝ := 6

/-- Every draw scales its equity shock to the unit variance of the log-space parameters. -/
def generateParametricReturnsOperations : List (Operation ℝ) :=
  [.clamp (-10) 10, .divide (degreesOfFreedom - 2),
    .divide (Real.sqrt (degreesOfFreedom / (degreesOfFreedom - 2)))]

end

/-! ## Safety -/

theorem variance_pos : 0 < variance realStock ∧ 0 < variance realBond := by decide +kernel

theorem mean_gt : -1 < mean realStock ∧ -1 < mean realBond := by decide +kernel

theorem stdDev_pos {xs : List ℚ} (h : 0 < variance xs) : 0 < stdDev xs :=
  Real.sqrt_pos.mpr (by exact_mod_cast h)

theorem toLogParamsOperations_safe {xs : List ℚ} (h : -1 < mean xs) :
    Safe (toLogParamsOperations (marketStats xs)) := by
  have hmean : (-1 : ℝ) < (mean xs : ℝ) := by exact_mod_cast h
  have hlevel : (0 : ℝ) < 1 + (mean xs : ℝ) := by linarith
  exact safe_cons.mpr ⟨hlevel.ne', safe_nil⟩

theorem statsOperations_safe : Safe statsOperations := by
  have hstock : realStock.length ≠ 0 := by decide
  have hbond : realBond.length ≠ 0 := by decide
  simp only [statsOperations, marketStatsOperations, safe_append, safe_map, safe_cons, safe_nil,
    and_true]
  refine ⟨⟨⟨⟨⟨⟨fun r hr => ?_, ?_⟩, ?_⟩, ?_⟩, ?_⟩, ?_⟩, ?_⟩
  · have hrate : (-1 : ℝ) < (r.inflationRate : ℝ) := by exact_mod_cast inflationRate_gt r hr
    have hlevel : (0 : ℝ) < 1 + (r.inflationRate : ℝ) := by linarith
    exact hlevel.ne'
  · exact ⟨Nat.cast_ne_zero.mpr hstock, Nat.cast_ne_zero.mpr hstock⟩
  · exact ⟨Nat.cast_ne_zero.mpr hbond, Nat.cast_ne_zero.mpr hbond⟩
  · exact Nat.cast_ne_zero.mpr hstock
  · exact (mul_pos (stdDev_pos variance_pos.1) (stdDev_pos variance_pos.2)).ne'
  · exact toLogParamsOperations_safe mean_gt.1
  · exact toLogParamsOperations_safe mean_gt.2

theorem generateParametricReturnsOperations_safe :
    Safe generateParametricReturnsOperations := by
  have hfreedom : (0 : ℝ) < degreesOfFreedom - 2 := by norm_num [degreesOfFreedom]
  have hscale : (0 : ℝ) < degreesOfFreedom / (degreesOfFreedom - 2) :=
    div_pos (by norm_num [degreesOfFreedom]) hfreedom
  simp only [generateParametricReturnsOperations, safe_cons, safe_nil, and_true]
  exact ⟨by norm_num [Operation.Defined], hfreedom.ne', (Real.sqrt_pos.mpr hscale).ne'⟩

end RetirementPlanner.Engine
