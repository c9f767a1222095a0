import Mathlib.Tactic
import RetirementPlanner.Engine.Types
import RetirementPlanner.Lib.Numerals

/-!
# State income tax as data

The table of `state_tax.rs`. A state with no income tax and a state nobody has
modeled yet both produce zero tax. The profile keeps the two switches the tax
reads; its name and status are left out, since nothing reads them.
-/

namespace RetirementPlanner.Engine

variable {K : Type*} [Field K]

/-- One bracket of a progressive schedule; `max = none` is the open top one. -/
structure TaxBracket (K : Type*) where
  min : K
  max : Option K
  rate : K
  deriving DecidableEq, Repr

structure StateTaxProfile where
  socialSecurityExempt : Bool
  /-- California allows no deduction for HSA contributions; most states do. -/
  conformsToFederalHsa : Bool
  deriving DecidableEq, Repr

def stateTaxProfile : State → StateTaxProfile
  | .CA => ⟨true, false⟩
  | .TX => ⟨true, true⟩
  | .FL => ⟨true, true⟩
  | .WA => ⟨true, true⟩
  | .NY => ⟨true, true⟩
  | .Other => ⟨true, true⟩

def californiaBrackets : FilingStatus → List (TaxBracket K)
  | .single =>
    [⟨0, some 11079, 0.01⟩, ⟨11079, some 26264, 0.02⟩, ⟨26264, some 41452, 0.04⟩,
      ⟨41452, some 57542, 0.06⟩, ⟨57542, some 72724, 0.08⟩, ⟨72724, some 371479, 0.093⟩,
      ⟨371479, some 445771, 0.103⟩, ⟨445771, some 742953, 0.113⟩,
      ⟨742953, some 1000000, 0.123⟩, ⟨1000000, none, 0.133⟩]
  | .marriedFilingJointly =>
    [⟨0, some 22158, 0.01⟩, ⟨22158, some 52528, 0.02⟩, ⟨52528, some 82904, 0.04⟩,
      ⟨82904, some 115084, 0.06⟩, ⟨115084, some 145448, 0.08⟩, ⟨145448, some 742958, 0.093⟩,
      ⟨742958, some 891542, 0.103⟩, ⟨891542, some 1000000, 0.113⟩,
      ⟨1000000, some 1485906, 0.123⟩, ⟨1485906, none, 0.133⟩]
  | .marriedFilingSeparately =>
    [⟨0, some 11079, 0.01⟩, ⟨11079, some 26264, 0.02⟩, ⟨26264, some 41452, 0.04⟩,
      ⟨41452, some 57542, 0.06⟩, ⟨57542, some 72724, 0.08⟩, ⟨72724, some 371479, 0.093⟩,
      ⟨371479, some 445771, 0.103⟩, ⟨445771, some 742953, 0.113⟩,
      ⟨742953, some 1000000, 0.123⟩, ⟨1000000, none, 0.133⟩]
  | .headOfHousehold =>
    [⟨0, some 22173, 0.01⟩, ⟨22173, some 52530, 0.02⟩, ⟨52530, some 67716, 0.04⟩,
      ⟨67716, some 83805, 0.06⟩, ⟨83805, some 98990, 0.08⟩, ⟨98990, some 505208, 0.093⟩,
      ⟨505208, some 606251, 0.103⟩, ⟨606251, some 1000000, 0.113⟩,
      ⟨1000000, some 1010417, 0.123⟩, ⟨1010417, none, 0.133⟩]

def stateBrackets (state : State) (filingStatus : FilingStatus) : Option (List (TaxBracket K)) :=
  match state with
  | .CA => some (californiaBrackets filingStatus)
  | _ => none

def stateStandardDeduction (state : State) (filingStatus : FilingStatus) : Option K :=
  match state with
  | .CA => some (match filingStatus with
    | .single => 5706
    | .marriedFilingJointly => 11412
    | .marriedFilingSeparately => 5706
    | .headOfHousehold => 11412)
  | _ => none

end RetirementPlanner.Engine
