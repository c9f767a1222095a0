import RetirementPlanner.Web.Schemas

/-!
# Ages from the texts of dates

`ageOn` of `domain/age.ts` as it reads any two texts: each is split at its hyphens, and the
first three parts are taken for numbers. A part that is no number, and one that is missing,
compares with nothing.
-/

namespace RetirementPlanner.Web

/-- A part of a date as a number; no text at all is zero. Whole numbers are all a date has:
anything else reads as none. -/
def datePart (text : String) (index : ℕ) : Option ℕ :=
  (text.toList.splitOn '-')[index]?.bind digitsOf

def compared (relation : ℕ → ℕ → Bool) : Option ℕ → Option ℕ → Bool
  | some a, some b => relation a b
  | _, _ => false

/-- Completed years of life at the as-of date, from texts. -/
def ageOnText (birthDate asOfDate : String) : Option ℤ :=
  let hadBirthday :=
    compared (fun a b => decide (b < a)) (datePart asOfDate 1) (datePart birthDate 1) ||
      compared (fun a b => decide (a = b)) (datePart asOfDate 1) (datePart birthDate 1) &&
        compared (fun a b => decide (b ≤ a)) (datePart asOfDate 2) (datePart birthDate 2)
  match datePart asOfDate 0, datePart birthDate 0 with
  | some asOfYear, some birthYear =>
    some ((asOfYear : ℤ) - birthYear - if hadBirthday then 0 else 1)
  | _, _ => none

end RetirementPlanner.Web
