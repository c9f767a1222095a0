import Mathlib.Tactic
import RetirementPlanner.Lib.Numerals

/-!
# Required minimum distributions

`rmd.rs`: the starting age by birth cohort and the Uniform Lifetime Table.
-/

namespace RetirementPlanner.Engine

variable {K : Type*} [Field K]

/-- SECURE/SECURE 2.0 applicable age by birth cohort. -/
def getRmdStartAge (birthYear : ℤ) : ℕ :=
  if birthYear ≤ 1950 then 72
  else if birthYear ≤ 1959 then 73
  else 75

/-- IRS Uniform Lifetime Table, from age 72 on. -/
def rmdUniformLifetimeTable : List ℚ := [
  27.4, 26.5, 25.5, 24.6, 23.7, 22.9, 22.0, 21.1, 20.2, 19.4, 18.5, 17.7, 16.8, 16.0, 15.2, 14.4,
  13.7, 12.9, 12.2, 11.5, 10.8, 10.1, 9.5, 8.9, 8.4, 7.8, 7.3, 6.8, 6.4, 6.0, 5.6, 5.2, 4.9, 4.6,
  4.3, 4.1, 3.9, 3.7, 3.5, 3.4, 3.3, 3.1, 3.0, 2.9, 2.8, 2.7, 2.5, 2.3, 2.0]

/-- The table's entry for an age, none below its start. -/
def rmdFactor (age : ℕ) : Option ℚ :=
  if age < 72 then none else rmdUniformLifetimeTable[age - 72]?

/-- The required distribution from a prior year-end balance, or zero before the
applicable starting age. A missing factor, where the source panics, is the
division by zero of `K`. -/
def calculateRmd (previousYearEndBalance : K) (age applicableAge : ℕ) : K :=
  if age < applicableAge then 0
  else previousYearEndBalance / (((rmdFactor (min age 120)).getD 0 : ℚ) : K)

theorem rmdFactor_pos : ∀ f ∈ rmdUniformLifetimeTable, (0 : ℚ) < f := by decide +kernel

theorem rmdFactor_getD_nonneg (age : ℕ) : (0 : ℚ) ≤ (rmdFactor age).getD 0 := by
  unfold rmdFactor
  split
  · exact le_rfl
  · cases h : rmdUniformLifetimeTable[age - 72]? with
    | none => exact le_rfl
    | some f => exact (rmdFactor_pos f (List.mem_of_getElem? h)).le

theorem calculateRmd_nonneg [LinearOrder K] [IsStrictOrderedRing K] {balance : K}
    (h : 0 ≤ balance) (age applicableAge : ℕ) : 0 ≤ calculateRmd balance age applicableAge := by
  unfold calculateRmd
  split
  · exact le_rfl
  · exact div_nonneg h (by exact_mod_cast rmdFactor_getD_nonneg _)

end RetirementPlanner.Engine
