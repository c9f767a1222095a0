import Mathlib.Algebra.Ring.Nat
import Mathlib.Data.Int.Basic
import Mathlib.Data.Finset.Basic

/-!
# Calendar dates and ages

`age.rs`, on the calendar dates `chrono` parses. Ages are completed years;
the RMD and Social Security cohorts key on the calendar year of birth.
-/

namespace RetirementPlanner.Engine

def isLeapYear (year : ℤ) : Bool :=
  (year % 4 == 0 && year % 100 != 0) || year % 400 == 0

/-- The days of a month, `1` to `12`. -/
def daysInMonth (year : ℤ) (month : ℕ) : ℕ :=
  if month = 2 then (if isLeapYear year then 29 else 28)
  else if month ∈ [4, 6, 9, 11] then 30
  else 31

/-- A calendar date. -/
structure NaiveDate where
  year : ℤ
  month : ℕ
  day : ℕ
  month_mem : 1 ≤ month ∧ month ≤ 12
  day_mem : 1 ≤ day ∧ day ≤ daysInMonth year month
  deriving DecidableEq, Repr

/-- January 1. -/
def newYear (year : ℤ) : NaiveDate := ⟨year, 1, 1, by decide, le_rfl, Nat.le_add_left 1 30⟩

/-- Days since January 1 of the date's year, plus one. -/
def NaiveDate.dayOfYear (d : NaiveDate) : ℕ :=
  ((List.range' 1 (d.month - 1)).map (daysInMonth d.year)).sum + d.day

/-- Why a date of the plan is refused: its text is no calendar date, or the
birth date is after the as-of date. -/
inductive DateError
  | format
  | order
  deriving DecidableEq, Repr

def DateError.message : DateError → String
  | .format => "date must use YYYY-MM-DD"
  | .order => "birthDate must be on or before asOfDate"

/-- Completed years of life at the as-of date. -/
def ageOn (birthDate asOfDate : Option NaiveDate) : Except DateError ℕ :=
  match birthDate, asOfDate with
  | some birth, some asOf =>
    let hadBirthday := decide (birth.month < asOf.month ∨
      (birth.month = asOf.month ∧ birth.day ≤ asOf.day))
    let years := asOf.year - birth.year - (if hadBirthday then 0 else 1)
    if 0 ≤ years then .ok years.toNat else .error .order
  | _, _ => .error .format

/-- Calendar birth year, which is what RMD and Social Security cohorts key on. -/
def birthYearOf (birthDate : Option NaiveDate) : Except DateError ℤ :=
  match birthDate with
  | some birth => .ok birth.year
  | none => .error .format

end RetirementPlanner.Engine
