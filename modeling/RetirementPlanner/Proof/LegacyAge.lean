import RetirementPlanner.Proof.Codec
import RetirementPlanner.Web.Age
import Mathlib.Data.Rat.Floor

/-!
# When a legacy age is reproduced

The parts of a date's text are its numbers (`datePart_isoText`), and so are those of a
reconstructed birth date, except that a year before the common era begins with a hyphen, which
splits off an empty first part (`ageOnText_legacy`, `ageOnText_legacy_neg`). What is left is a
comparison with January 1 or December 31: `ageOn_birthDateFromLegacyAge_iff`.
-/

namespace RetirementPlanner.Web

open Engine (NaiveDate)

/-! ## Digits and hyphens -/

theorem digitsOf_toDigits (n : ℕ) : digitsOf (Nat.toDigits 10 n) = some n := by
  induction n using Nat.strongRecOn with
  | ind n ih =>
    obtain ⟨hdigit, hvalue⟩ := digitChar_reads (n % 10) (by omega)
    by_cases hsmall : n < 10
    · rw [Nat.mod_eq_of_lt hsmall] at hdigit hvalue
      rw [Nat.toDigits_of_lt_base hsmall, digitsOf]
      simp only [List.foldlM_cons, List.foldlM_nil, hdigit, hvalue, if_true, mul_zero, zero_add,
        bind, Option.bind, pure]
    · rw [Nat.toDigits_of_base_le (by decide) (not_lt.mp hsmall), digitsOf, List.foldlM_append,
        ← digitsOf, ih (n / 10) (by omega)]
      simp only [List.foldlM_cons, List.foldlM_nil, hdigit, hvalue, if_true, bind, Option.bind,
        pure]
      congr 1
      omega

theorem hyphen_not_mem_toDigits (n : ℕ) : '-' ∉ Nat.toDigits 10 n := by
  intro hmem
  have hdigit := Nat.isDigit_of_mem_toDigits (by decide) (by decide) hmem
  revert hdigit
  decide

theorem hyphen_not_mem_twoDigits (n : ℕ) : '-' ∉ twoDigits n := by
  have hdigit : ∀ digit < 10, Nat.digitChar digit ≠ '-' := by decide
  simp only [twoDigits, List.mem_cons, List.not_mem_nil, or_false, not_or]
  exact ⟨(hdigit _ (by omega)).symm, (hdigit _ (by omega)).symm⟩

/-! ## The parts of a text -/

theorem ageOnText_eq {birthDate asOfDate : String}
    {year month day birthYear birthMonth birthDay : ℕ}
    (hyear : datePart asOfDate 0 = some year) (hmonth : datePart asOfDate 1 = some month)
    (hday : datePart asOfDate 2 = some day) (hbirthYear : datePart birthDate 0 = some birthYear)
    (hbirthMonth : datePart birthDate 1 = some birthMonth)
    (hbirthDay : datePart birthDate 2 = some birthDay) :
    ageOnText birthDate asOfDate = some ((year : ℤ) - birthYear -
      if birthMonth < month ∨ month = birthMonth ∧ birthDay ≤ day then 0 else 1) := by
  simp only [ageOnText, hyear, hmonth, hday, hbirthYear, hbirthMonth, hbirthDay, compared,
    Bool.or_eq_true, Bool.and_eq_true, decide_eq_true_eq]

theorem datePart_isoText (date : NaiveDate) (hyear : date.year.toNat < 10000) :
    datePart (isoText date) 0 = some date.year.toNat ∧
      datePart (isoText date) 1 = some date.month ∧ datePart (isoText date) 2 = some date.day := by
  have hparts : (isoText date).toList.splitOn '-'
      = [twoDigits (date.year.toNat / 100) ++ twoDigits date.year.toNat, twoDigits date.month,
        twoDigits date.day] := by
    rw [isoText, String.toList_ofList, List.append_assoc, List.cons_append,
      List.splitOn_append_cons_self_of_not_mem, List.splitOn_append_cons_self_of_not_mem,
      List.splitOn_eq_singleton]
    · exact hyphen_not_mem_twoDigits _
    · exact hyphen_not_mem_twoDigits _
    · rw [List.mem_append]
      exact not_or.mpr ⟨hyphen_not_mem_twoDigits _, hyphen_not_mem_twoDigits _⟩
  rw [datePart, datePart, datePart, hparts]
  exact ⟨digitsOf_year hyear, digitsOf_month date, digitsOf_day date⟩

/-- January 1 and December 31, as a reconstructed date ends. -/
theorem datePart_natYear (n : ℕ) {month day : List Char} (hmonth : '-' ∉ month) (hday : '-' ∉ day) :
    let text := String.ofList (Nat.toDigits 10 n ++ '-' :: (month ++ '-' :: day))
    datePart text 0 = some n ∧ datePart text 1 = digitsOf month ∧
      datePart text 2 = digitsOf day := by
  intro text
  have hparts : text.toList.splitOn '-' = [Nat.toDigits 10 n, month, day] := by
    rw [String.toList_ofList, List.splitOn_append_cons_self_of_not_mem (hyphen_not_mem_toDigits n),
      List.splitOn_append_cons_self_of_not_mem hmonth, List.splitOn_eq_singleton hday]
  rw [datePart, datePart, datePart, hparts]
  exact ⟨digitsOf_toDigits n, rfl, rfl⟩

/-- The year of a negative one is read as its month, and zero as its year. -/
theorem datePart_negYear (n : ℕ) {month day : List Char} (hmonth : '-' ∉ month) :
    let text := String.ofList ('-' :: (Nat.toDigits 10 n ++ '-' :: (month ++ '-' :: day)))
    datePart text 0 = some 0 ∧ datePart text 1 = some n ∧ datePart text 2 = digitsOf month := by
  intro text
  have hparts : text.toList.splitOn '-'
      = [] :: Nat.toDigits 10 n :: month :: day.splitOn '-' := by
    have hempty := List.splitOn_append_cons_self_of_not_mem (List.not_mem_nil (a := '-'))
      (Nat.toDigits 10 n ++ '-' :: (month ++ '-' :: day))
    rw [String.toList_ofList, ← List.nil_append ('-' :: _), hempty,
      List.splitOn_append_cons_self_of_not_mem (hyphen_not_mem_toDigits n),
      List.splitOn_append_cons_self_of_not_mem hmonth]
  rw [datePart, datePart, datePart, hparts]
  exact ⟨rfl, digitsOf_toDigits n, rfl⟩

/-! ## The reconstructed date -/

variable {K : Type} [Field K] [LinearOrder K] [IsStrictOrderedRing K] [FloorRing K]

theorem yearText_intCast (year : ℤ) : yearText (year : K) = toString year := by
  rw [yearText, Int.floor_intCast, if_pos rfl]

/-- The date reconstructed on an as-of date in the years that have four digits. -/
theorem birthDateFromLegacyAge_eq {asOf : NaiveDate} (h0 : 0 ≤ asOf.year)
    (h4 : asOf.year < 10000) (age : ℤ) (birthYear : Option ℤ) :
    birthDateFromLegacyAge (age : K) (birthYear.map fun b : ℤ => (b : K)) (isoText asOf)
      = toString (birthYear.getD (asOf.year - age))
        ++ if asOf.year - birthYear.getD (asOf.year - age) = age then "-01-01" else "-12-31" := by
  have hdigits : digitsOf ((isoText asOf).toList.take 4) = some asOf.year.toNat := by
    have htake : (isoText asOf).toList.take 4
        = twoDigits (asOf.year.toNat / 100) ++ twoDigits asOf.year.toNat := by
      rw [isoText, String.toList_ofList]
      rfl
    rw [htake, digitsOf_year (by omega)]
  have hcast : ((asOf.year.toNat : ℕ) : K) = (asOf.year : K) := by
    have hnat : ((asOf.year.toNat : ℕ) : ℤ) = asOf.year := Int.toNat_of_nonneg h0
    exact_mod_cast congrArg (Int.cast : ℤ → K) hnat
  have hyear : (birthYear.map fun b : ℤ => (b : K)).getD ((asOf.year.toNat : K) - (age : K))
      = ((birthYear.getD (asOf.year - age) : ℤ) : K) := by
    rw [hcast]
    cases birthYear with
    | none => simp
    | some b => rfl
  rw [birthDateFromLegacyAge, hdigits]
  dsimp only
  rw [hyear, hcast, yearText_intCast]
  have hiff : (asOf.year : K) - ((birthYear.getD (asOf.year - age) : ℤ) : K) = (age : K)
      ↔ asOf.year - birthYear.getD (asOf.year - age) = age := by
    rw [← Int.cast_sub, Int.cast_inj]
  simp only [hiff]
  split
  · rfl
  · rfl

/-! ## When the age comes back -/

theorem toList_toString_ofNat (n : ℕ) : (toString (n : ℤ)).toList = Nat.toDigits 10 n := by
  exact Nat.toList_repr

theorem toList_toString_negSucc (n : ℕ) :
    (toString (Int.negSucc n)).toList = '-' :: Nat.toDigits 10 (n + 1) := by
  have htext : toString (Int.negSucc n) = "-" ++ Nat.repr (n + 1) := rfl
  rw [htext, String.toList_append, Nat.toList_repr]
  rfl

theorem natYear_text (n : ℕ) (month day : List Char) :
    toString (n : ℤ) ++ String.ofList ('-' :: (month ++ '-' :: day))
      = String.ofList (Nat.toDigits 10 n ++ '-' :: (month ++ '-' :: day)) := by
  rw [← String.toList_inj, String.toList_append, toList_toString_ofNat, String.toList_ofList,
    String.toList_ofList]

theorem negYear_text (n : ℕ) (month day : List Char) :
    toString (Int.negSucc n) ++ String.ofList ('-' :: (month ++ '-' :: day))
      = String.ofList ('-' :: (Nat.toDigits 10 (n + 1) ++ '-' :: (month ++ '-' :: day))) := by
  rw [← String.toList_inj, String.toList_append, toList_toString_negSucc, String.toList_ofList,
    String.toList_ofList]
  rfl

theorem janFirst : "-01-01" = String.ofList ('-' :: (['0', '1'] ++ '-' :: ['0', '1'])) := rfl

theorem decLast : "-12-31" = String.ofList ('-' :: (['1', '2'] ++ '-' :: ['3', '1'])) := rfl

/-- A reconstructed date in a year of the common era is January 1 or December 31 of it. -/
theorem ageOnText_natYear {asOf : NaiveDate} (h4 : asOf.year.toNat < 10000) (n : ℕ) :
    ageOnText (toString (n : ℤ) ++ "-01-01") (isoText asOf) = some ((asOf.year.toNat : ℤ) - n) ∧
    ageOnText (toString (n : ℤ) ++ "-12-31") (isoText asOf)
      = some ((asOf.year.toNat : ℤ) - n - if asOf.month = 12 ∧ asOf.day = 31 then 0 else 1) := by
  obtain ⟨hyear, hmonth, hday⟩ := datePart_isoText asOf h4
  have hmonths := asOf.month_mem
  have hdays := asOf.day_mem
  have hbound := day_le asOf
  refine ⟨?_, ?_⟩
  · obtain ⟨hbirthYear, hbirthMonth, hbirthDay⟩ := datePart_natYear n
      (by decide : '-' ∉ ['0', '1']) (by decide : '-' ∉ ['0', '1'])
    rw [show digitsOf ['0', '1'] = some 1 from rfl] at hbirthMonth hbirthDay
    rw [janFirst, natYear_text n ['0', '1'] ['0', '1'],
      ageOnText_eq hyear hmonth hday hbirthYear hbirthMonth hbirthDay, if_pos (by omega), sub_zero]
  · obtain ⟨hbirthYear, hbirthMonth, hbirthDay⟩ := datePart_natYear n
      (by decide : '-' ∉ ['1', '2']) (by decide : '-' ∉ ['3', '1'])
    rw [show digitsOf ['1', '2'] = some 12 from rfl] at hbirthMonth
    rw [show digitsOf ['3', '1'] = some 31 from rfl] at hbirthDay
    rw [decLast, natYear_text n ['1', '2'] ['3', '1'],
      ageOnText_eq hyear hmonth hday hbirthYear hbirthMonth hbirthDay]
    congr 2
    exact if_congr (by omega) rfl rfl

/-- One in a year before it is read as a day of the year zero. -/
theorem ageOnText_negYear {asOf : NaiveDate} (h4 : asOf.year.toNat < 10000) (n : ℕ) :
    ageOnText (toString (Int.negSucc n) ++ "-01-01") (isoText asOf)
      = some ((asOf.year.toNat : ℤ) - if n + 1 ≤ asOf.month then 0 else 1) ∧
    ageOnText (toString (Int.negSucc n) ++ "-12-31") (isoText asOf)
      = some ((asOf.year.toNat : ℤ) -
        if n + 1 < asOf.month ∨ asOf.month = n + 1 ∧ 12 ≤ asOf.day then 0 else 1) := by
  obtain ⟨hyear, hmonth, hday⟩ := datePart_isoText asOf h4
  have hdays := asOf.day_mem
  refine ⟨?_, ?_⟩
  · obtain ⟨hbirthYear, hbirthMonth, hbirthDay⟩ := @datePart_negYear (n + 1) ['0', '1'] ['0', '1']
      (by decide)
    rw [show digitsOf ['0', '1'] = some 1 from rfl] at hbirthDay
    rw [janFirst, negYear_text n ['0', '1'] ['0', '1'],
      ageOnText_eq hyear hmonth hday hbirthYear hbirthMonth hbirthDay, Nat.cast_zero, sub_zero]
    congr 2
    exact if_congr (by omega) rfl rfl
  · obtain ⟨hbirthYear, hbirthMonth, hbirthDay⟩ := @datePart_negYear (n + 1) ['1', '2'] ['3', '1']
      (by decide)
    rw [show digitsOf ['1', '2'] = some 12 from rfl] at hbirthDay
    rw [decLast, negYear_text n ['1', '2'] ['3', '1'],
      ageOnText_eq hyear hmonth hday hbirthYear hbirthMonth hbirthDay, Nat.cast_zero, sub_zero]

section Reproduced

variable {asOf : NaiveDate} {age year : ℤ}

/-- January 1 reproduces an age whose birthday has passed, unless the year has a hyphen. -/
theorem ageOnText_passed_iff (h0 : 0 ≤ asOf.year) (h4 : asOf.year < 10000)
    (hpassed : asOf.year - year = age) :
    ageOnText (toString year ++ "-01-01") (isoText asOf) = some age ↔ 0 ≤ year := by
  have h4' : asOf.year.toNat < 10000 := by omega
  have hyears : ((asOf.year.toNat : ℕ) : ℤ) = asOf.year := Int.toNat_of_nonneg h0
  cases year with
  | ofNat n =>
    rw [Int.ofNat_eq_natCast] at hpassed ⊢
    rw [(ageOnText_natYear h4' n).1, Option.some.injEq]
    exact iff_of_true (by omega) (Int.natCast_nonneg n)
  | negSucc n =>
    rw [(ageOnText_negYear h4' n).1, Option.some.injEq]
    rw [Int.negSucc_eq] at hpassed ⊢
    refine iff_of_false ?_ (by omega)
    split <;> omega

/-- December 31 reproduces one that is ahead, unless it is that day or the year has a hyphen, which
no year but -1 survives. -/
theorem ageOnText_ahead_iff (h0 : 0 ≤ asOf.year) (h4 : asOf.year < 10000)
    (hahead : asOf.year - year = age + 1) :
    ageOnText (toString year ++ "-12-31") (isoText asOf) = some age ↔
      (0 ≤ year ∧ ¬ (asOf.month = 12 ∧ asOf.day = 31)) ∨
        year = -1 ∧ (1 < asOf.month ∨ 12 ≤ asOf.day) := by
  have h4' : asOf.year.toNat < 10000 := by omega
  have hyears : ((asOf.year.toNat : ℕ) : ℤ) = asOf.year := Int.toNat_of_nonneg h0
  have hmonths := asOf.month_mem
  cases year with
  | ofNat n =>
    rw [Int.ofNat_eq_natCast] at hahead ⊢
    rw [(ageOnText_natYear h4' n).2, Option.some.injEq]
    split <;> omega
  | negSucc n =>
    rw [(ageOnText_negYear h4' n).2, Option.some.injEq]
    rw [Int.negSucc_eq] at hahead ⊢
    split <;> omega

end Reproduced

/-- The reconstructed birth date reproduces the stored age unless the as-of date is December 31 and
the birth year lies a year further back than the age, or the birth year is negative. (A birth
year of -1 is read as January 12 of the year zero, and reproduces an age that is the as-of year
itself from that day on.) -/
theorem ageOn_birthDateFromLegacyAge_iff {asOf : NaiveDate} (h0 : 0 ≤ asOf.year)
    (h4 : asOf.year < 10000) (age : ℤ) {birthYear : Option ℤ}
    (hconsistent : ∀ b ∈ birthYear, asOf.year - b = age ∨ asOf.year - b = age + 1) :
    ageOnText (birthDateFromLegacyAge (age : K) (birthYear.map fun b : ℤ => (b : K)) (isoText asOf))
        (isoText asOf) = some age ↔
      (0 ≤ birthYear.getD (asOf.year - age) ∧
        ¬ (asOf.month = 12 ∧ asOf.day = 31 ∧ birthYear = some (asOf.year - age - 1))) ∨
      birthYear = some (-1) ∧ age = asOf.year ∧ (1 < asOf.month ∨ 12 ≤ asOf.day) := by
  rw [birthDateFromLegacyAge_eq h0 h4]
  by_cases hpassed : asOf.year - birthYear.getD (asOf.year - age) = age
  · rw [if_pos hpassed, ageOnText_passed_iff h0 h4 hpassed]
    have hnot : ∀ b ∈ birthYear, asOf.year - b = age := by
      rintro b rfl
      exact hpassed
    constructor
    · intro hnonneg
      refine .inl ⟨hnonneg, fun hdecember => ?_⟩
      have hyear := hnot _ hdecember.2.2
      omega
    · rintro (⟨hnonneg, -⟩ | ⟨hminus, hage, -⟩)
      · exact hnonneg
      · have hyear := hnot _ hminus
        omega
  · have hahead : birthYear = some (asOf.year - age - 1) := by
      cases birthYear with
      | none => exact absurd (sub_sub_self _ _) hpassed
      | some b =>
        have hb := (hconsistent b rfl).resolve_left hpassed
        exact congrArg some (by omega)
    subst hahead
    rw [Option.getD_some] at hpassed ⊢
    rw [if_neg hpassed, ageOnText_ahead_iff h0 h4 (by omega)]
    simp only [Option.some.injEq, and_true]
    refine or_congr_right ?_
    constructor
    · rintro ⟨hminus, hday⟩
      exact ⟨hminus, by omega, hday⟩
    · rintro ⟨hminus, -, hday⟩
      exact ⟨hminus, hday⟩

/-- Forty in 2026, with the birthday ahead on June 1. -/
theorem ageOn_birthDateFromLegacyAge_iff_june :
    ageOnText (birthDateFromLegacyAge (39 : ℚ) (some 1986) "2026-06-01") "2026-06-01"
      = some 39 := by
  have hiff := @ageOn_birthDateFromLegacyAge_iff ℚ _ _ _ _ ⟨2026, 6, 1, by decide, by decide⟩
    (by decide) (by decide) 39 (some 1986) (by decide)
  have htext : isoText ⟨2026, 6, 1, by decide, by decide⟩ = "2026-06-01" := by decide
  rw [htext, Option.map_some, Int.cast_ofNat, Int.cast_ofNat] at hiff
  exact hiff.mpr (.inl ⟨by decide, by decide⟩)

/-- On December 31 the birthday of December 31 has come. -/
theorem ageOn_birthDateFromLegacyAge_december :
    ageOnText (birthDateFromLegacyAge (39 : ℚ) (some 1986) "2026-12-31") "2026-12-31"
      ≠ some 39 := by
  have hdate := @birthDateFromLegacyAge_eq ℚ _ _ _ _ ⟨2026, 12, 31, by decide, by decide⟩
    (by decide) (by decide) 39 (some 1986)
  have htext : isoText ⟨2026, 12, 31, by decide, by decide⟩ = "2026-12-31" := by decide
  rw [htext, Option.map_some, Int.cast_ofNat, Int.cast_ofNat, Option.getD_some,
    if_neg (by decide)] at hdate
  have hage := (@ageOnText_natYear ⟨2026, 12, 31, by decide, by decide⟩ (by decide) 1986).2
  rw [htext] at hage
  rw [hdate]
  exact fun hkept => absurd (hage.symm.trans hkept) (by decide)

end RetirementPlanner.Web
