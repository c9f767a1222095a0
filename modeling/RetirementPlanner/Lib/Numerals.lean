import Mathlib.Data.Nat.Cast.Defs

/-!
# Numerals

A numeral of an ordered field is one that is at least two. Here that is a test the numeral passes,
so that all definitions that write a numeral refer to the same fact about it and have none of their
own.
-/

namespace Numeral

/-- A test that evaluates to true. -/
class Passes (test : Bool) : Prop where
  eq_true : test = true

-- The index leaves the test to be evaluated when the instance is tried.
instance passes : Passes (no_index true) := ⟨rfl⟩

instance atLeastTwo (n : ℕ) [h : Passes (Nat.ble 2 n)] : Nat.AtLeastTwo n :=
  ⟨Nat.le_of_ble_eq_true h.eq_true⟩

end Numeral
