import RetirementPlanner.Engine.Projection
import RetirementPlanner.Proof.Withdrawals
import RetirementPlanner.Web.Healthcare
import RetirementPlanner.Web.Plan

/-!
# The premium preview against the engine

The preview of a first retirement year's income (`estimatedFirstRetirementYearMagi`)
and the engine's estimate on the same balances agree as far as the draw from
Taxable. What each then takes from Traditional is a function of four amounts: the
unmet spending, the Traditional and Roth balances, and the room under a threshold.

* `magiBandFor_within`, `magiBandFor_past`: the threshold the engine aims under, for a
  committed income within the preview's threshold and past it;
* `stages_eq_draw_iff`: when the engine's two Traditional stages take what the
  preview's single draw takes;
* `premiumPreview_agrees_iff`: when the two incomes are equal.

They differ where Roth runs out, since the engine then goes back to Traditional, and
where the committed income is past the threshold, which the engine drops and the
preview keeps.
-/

namespace RetirementPlanner.Web

open Engine (AccountType FilingStatus RetirementHealthcare MagiTarget YearMagi medicareAge
  magiBandFor irmaaCeilingAbove estimatedRetirementMagi applyWithdrawalOrder_spec
  traditionalHeadroom traditionalHeadroom_nonneg traditionalCap held balanceOfBucket
  balanceOfBucket_eq_held balanceOfBucket_nonneg Solvent)
open Waterfall

variable {K : Type} [Field K] [LinearOrder K]

/-! ## The thresholds -/

omit [LinearOrder K] in
/-- The two copies of the marketplace rule end at one cliff. -/
theorem subsidyCliff_eq (householdSize : ℕ) :
    Engine.subsidyCliffFplRatio * Engine.federalPovertyLevel householdSize
      = (federalPovertyLevel householdSize * subsidyCliffFplRatio : K) := by
  rw [Engine.federalPovertyLevel, federalPovertyLevel, Nat.max_comm, mul_comm]
  rfl

/-- Up to the first bound, the engine's next IRMAA threshold is the surcharge-free
one. -/
theorem irmaaCeilingAbove_of_le {committed : K} {filingStatus : FilingStatus}
    (h : committed ≤ irmaaFreeMagiCeiling filingStatus) :
    irmaaCeilingAbove committed filingStatus = some (irmaaFreeMagiCeiling filingStatus) := by
  cases filingStatus <;>
    simp_all [irmaaCeilingAbove, irmaaFreeMagiCeiling, irmaaFirstTier, Engine.irmaaSeparateBounds,
      Engine.irmaaTiers2026, Engine.irmaaScale]

variable [IsStrictOrderedRing K]

theorem previewThreshold_le (age : ℕ) (filingStatus : FilingStatus) :
    (previewThreshold age filingStatus : K) ≤ irmaaFreeMagiCeiling filingStatus := by
  rw [previewThreshold]
  split
  · have hcliff : (federalPovertyLevel 1 * subsidyCliffFplRatio : K) = 62600 := by
      norm_num [federalPovertyLevel, subsidyCliffFplRatio]
    rw [hcliff, irmaaFreeMagiCeiling, irmaaFirstTier]
    split
    · norm_num
    · split <;> norm_num
  · exact le_rfl

section Band

variable {age : ℕ} {filingStatus : FilingStatus} {committed : K}
  {healthcare : RetirementHealthcare K}

/-- Within the preview's threshold the engine aims under it too. -/
theorem magiBandFor_within (hage : age < medicareAge)
    (hpre : 0 < healthcare.preMedicarePremium) (hmedicare : 0 < healthcare.medicarePremium)
    (h : committed ≤ previewThreshold age filingStatus) :
    (magiBandFor age age filingStatus 1 committed healthcare).map (·.ceiling)
      = some (max (previewThreshold age filingStatus - ceilingMargin) committed) := by
  have hle := previewThreshold_le (K := K) age filingStatus
  have hirmaa := irmaaCeilingAbove_of_le (h.trans hle)
  rw [previewThreshold] at h hle ⊢
  by_cases hmarket : age + 1 < medicareAge
  · rw [if_pos hmarket] at h hle ⊢
    have happlies : (age + 1 < medicareAge ∧ age + 1 ≥ age ∧ 0 < healthcare.preMedicarePremium) ∧
        committed ≤ federalPovertyLevel 1 * subsidyCliffFplRatio :=
      ⟨⟨hmarket, Nat.le_succ age, hpre⟩, h⟩
    simp only [magiBandFor, subsidyCliff_eq, hirmaa, if_pos happlies]
    by_cases hlook : age + 2 ≥ medicareAge
    · have hboth : age + 2 ≥ medicareAge ∧ age + 2 ≥ age ∧ 0 < healthcare.medicarePremium :=
        ⟨hlook, Nat.le_add_right age 2, hmedicare⟩
      simp only [if_pos hboth, Option.map_some, min_eq_left hle]
      rfl
    · simp only [if_neg fun happlies : age + 2 ≥ medicareAge ∧ age + 2 ≥ age ∧
        0 < healthcare.medicarePremium => hlook happlies.1]
      rfl
  · have happlies : age + 2 ≥ medicareAge ∧ age + 2 ≥ age ∧ 0 < healthcare.medicarePremium :=
      ⟨by omega, Nat.le_add_right age 2, hmedicare⟩
    have hno : ¬((age + 1 < medicareAge ∧ age + 1 ≥ age ∧ 0 < healthcare.preMedicarePremium) ∧
        committed ≤ federalPovertyLevel 1 * subsidyCliffFplRatio) := fun h => hmarket h.1.1
    simp only [magiBandFor, subsidyCliff_eq, hirmaa, if_pos happlies, if_neg hno, if_neg hmarket]
    rfl

omit [IsStrictOrderedRing K] in
/-- Past the preview's threshold the engine aims under the next IRMAA threshold, from
63 on, or under none. -/
theorem magiBandFor_past (hmedicare : 0 < healthcare.medicarePremium)
    (h : previewThreshold age filingStatus < committed) :
    (magiBandFor age age filingStatus 1 committed healthcare).map (·.ceiling)
      = (if medicareAge ≤ age + 2 then irmaaCeilingAbove committed filingStatus else none).map
          fun ceiling => max (ceiling - ceilingMargin) committed := by
  have hmarket : ¬((age + 1 < medicareAge ∧ age + 1 ≥ age ∧ 0 < healthcare.preMedicarePremium) ∧
      committed ≤ federalPovertyLevel 1 * subsidyCliffFplRatio) := by
    rintro ⟨⟨hlt, -⟩, hle⟩
    rw [previewThreshold, if_pos hlt] at h
    exact absurd hle (not_le.mpr h)
  simp only [magiBandFor, subsidyCliff_eq, if_neg hmarket]
  by_cases hlook : medicareAge ≤ age + 2
  · have happlies : age + 2 ≥ medicareAge ∧ age + 2 ≥ age ∧ 0 < healthcare.medicarePremium :=
      ⟨hlook, Nat.le_add_right age 2, hmedicare⟩
    simp only [if_pos happlies, if_pos hlook]
    cases irmaaCeilingAbove committed filingStatus <;> rfl
  · simp only [if_neg hlook, if_neg fun happlies : age + 2 ≥ medicareAge ∧ age + 2 ≥ age ∧
      0 < healthcare.medicarePremium => hlook happlies.1]
    rfl

end Band

/-! ## The draws from Traditional -/

/-- With one room for both, the engine goes on past the preview's draw when Roth runs
out of the rest and Traditional has more. -/
theorem stages_eq_draw_iff {unmet traditional roth room : K} :
    min unmet (min room traditional)
        + min (max (unmet - min room traditional - roth) 0) (traditional - min room traditional)
        = min (min unmet traditional) room ↔ traditional ≤ room ∨ unmet ≤ room + roth := by
  rw [min_assoc, min_comm traditional room, add_eq_left]
  rcases le_total traditional room with hle | hle
  · rw [min_eq_right hle, sub_self, min_eq_right (le_max_right _ _)]
    exact ⟨fun _ => .inl hle, fun _ => rfl⟩
  rw [min_eq_left hle]
  constructor
  · intro h
    rcases min_choice (max (unmet - room - roth) 0) (traditional - room) with hm | hm
    · right
      linarith [le_max_left (unmet - room - roth) 0]
    · left
      linarith
  · rintro (h | h)
    · rw [le_antisymm h hle, sub_self, min_eq_right (le_max_right _ _)]
    · rw [max_eq_right (by linarith), min_eq_left (by linarith)]

/-- The engine draws nothing from Traditional when the first stage has no capacity and
either Roth funds the rest or Traditional is empty. -/
theorem stages_eq_zero_iff {unmet traditional roth cap : K} (hunmet : 0 < unmet)
    (hcap : 0 ≤ cap) (hle : cap ≤ traditional) :
    min unmet cap + min (max (unmet - cap - roth) 0) (traditional - cap) = 0 ↔
      cap = 0 ∧ (traditional = 0 ∨ unmet ≤ roth) := by
  have hfirst : 0 ≤ min unmet cap := le_min hunmet.le hcap
  have hsecond : 0 ≤ min (max (unmet - cap - roth) 0) (traditional - cap) :=
    le_min (le_max_right _ _) (sub_nonneg.mpr hle)
  rw [add_eq_zero_iff_of_nonneg hfirst hsecond]
  constructor
  · rintro ⟨h₁, h₂⟩
    have hzero : cap = 0 := by
      rcases min_choice unmet cap with hm | hm
      · exact absurd (hm ▸ h₁) hunmet.ne'
      · exact hm ▸ h₁
    rw [hzero, sub_zero, sub_zero] at h₂
    refine ⟨hzero, ?_⟩
    rcases min_choice (max (unmet - roth) 0) traditional with hm | hm
    · right
      linarith [le_max_left (unmet - roth) 0]
    · exact .inl (hm ▸ h₂)
  · rintro ⟨rfl, h⟩
    refine ⟨min_eq_right hunmet.le, ?_⟩
    rw [sub_zero, sub_zero]
    rcases h with rfl | h
    · exact min_eq_right (le_max_right _ _)
    · rw [max_eq_right (by linarith), min_eq_left hle]

omit [IsStrictOrderedRing K] in
/-- The first stage's capacity is within the Traditional balance. -/
theorem cap_mem {traditional : K} (htraditional : 0 ≤ traditional) {room : Option K}
    (hroom : ∀ r ∈ room, 0 ≤ r) :
    0 ≤ room.elim traditional (min · traditional) ∧
      room.elim traditional (min · traditional) ≤ traditional := by
  cases room with
  | none => exact ⟨htraditional, le_rfl⟩
  | some r => exact ⟨le_min (hroom r rfl) htraditional, min_le_right _ _⟩

theorem cap_eq_zero_iff {traditional ceiling committed : K} (htraditional : 0 ≤ traditional) :
    min (max (ceiling - ceilingMargin - committed) 0) traditional = 0 ↔
      traditional = 0 ∨ ceiling ≤ committed + ceilingMargin := by
  constructor
  · intro h
    rcases min_choice (max (ceiling - ceilingMargin - committed) 0) traditional with hm | hm
    · right
      linarith [le_max_left (ceiling - ceilingMargin - committed) 0]
    · exact .inl (hm ▸ h)
  · rintro (rfl | h)
    · exact min_eq_right (le_max_right _ _)
    · rw [max_eq_right (by linarith), min_eq_left htraditional]

/-! ## The two incomes -/

/-- Accounts of the engine that hold what a plan's accounts hold, type by type, none
overdrawn and none opened by the engine itself. -/
structure SameBalances (accounts : List (Account K)) (engineAccounts : List (Engine.Account K)) :
    Prop where
  solvent : Solvent engineAccounts
  invested : ∀ account ∈ engineAccounts, account.isSurplusCash = false
  balanceOf_eq : ∀ t, balanceOfBucket engineAccounts t = balanceOf accounts t

omit [LinearOrder K] [IsStrictOrderedRing K] in
theorem balanceOfBucket_toSimulationPlan (plan : RetirementPlan K) (t : AccountType) :
    balanceOfBucket (toSimulationPlan plan).accounts t = balanceOf plan.accounts t := by
  simp only [toSimulationPlan, balanceOf, balanceOfBucket]
  induction plan.accounts with
  | nil => rfl
  | cons account accounts ih =>
    by_cases ht : account.accountType = t <;> simp_all

omit [IsStrictOrderedRing K] in
/-- The accounts a plan is sent with hold what its own do. -/
theorem sameBalances_toSimulationPlan {plan : RetirementPlan K}
    (h : ∀ account ∈ plan.accounts, 0 ≤ account.balance) :
    SameBalances plan.accounts (toSimulationPlan plan).accounts where
  solvent := by
    intro account ha
    obtain ⟨a, hmem, rfl⟩ := List.mem_map.mp ha
    exact h a hmem
  invested := by
    intro account ha
    obtain ⟨a, -, rfl⟩ := List.mem_map.mp ha
    rfl
  balanceOf_eq := balanceOfBucket_toSimulationPlan plan

omit [IsStrictOrderedRing K] in
/-- An order over accounts that were all invested realizes the plan's share of the
taxable draw. -/
theorem taxableGain_of_invested {engineAccounts : List (Engine.Account K)}
    (h : ∀ account ∈ engineAccounts, account.isSurplusCash = false) (balances : List K)
    (remaining gainRatio : K) (t : AccountType) :
    (Engine.drawLoop t gainRatio remaining engineAccounts balances).gain
      = (Engine.drawLoop t gainRatio remaining engineAccounts balances).drawn * gainRatio := by
  induction engineAccounts generalizing balances remaining with
  | nil => simp [Engine.drawLoop]
  | cons account accounts ih =>
    cases balances with
    | nil => simp [Engine.drawLoop]
    | cons balance balances =>
      have hrest := ih fun a ha => h a (List.mem_cons_of_mem _ ha)
      rw [Engine.drawLoop]
      split
      · rw [zero_mul]
      · split
        · exact hrest balances remaining
        · simp only [h account List.mem_cons_self, hrest, add_mul, Bool.false_eq_true, if_false]

/-! ## When the preview mirrors the engine -/

/-- Where the preview and the engine report the same income: without the MAGI flag;
where Taxable funds the year or there is no Traditional to draw; within the
threshold, where the room under it and Roth fund the year or Traditional fits in that
room; and past it, where the next IRMAA threshold leaves no room either and Roth funds
the year. -/
def PreviewMirrors (age : ℕ) (filingStatus : FilingStatus)
    (plannedSpending socialSecurityBenefit : K) (accounts : List (Account K))
    (taxableGainRatio : K) (magiAware : Bool) : Prop :=
  let unmet := plannedSpending - socialSecurityBenefit - balanceOf accounts .taxable
  let traditional := balanceOf accounts .traditional
  let roth := balanceOf accounts .roth
  let committed := socialSecurityBenefit + balanceOf accounts .taxable * taxableGainRatio
  let threshold := previewThreshold age filingStatus
  magiAware = false ∨ unmet ≤ 0 ∨ traditional = 0 ∨
    if committed ≤ threshold then
      let room := max (threshold - ceilingMargin - committed) 0
      traditional ≤ room ∨ unmet ≤ room + roth
    else
      (medicareAge ≤ age + 2 ∧
        ∃ ceiling ∈ irmaaCeilingAbove committed filingStatus, ceiling ≤ committed + ceilingMargin) ∧
      unmet ≤ roth

/-- The target a first retirement year's estimate is made under. -/
def firstYearTarget (age : ℕ) (filingStatus : FilingStatus) (healthcare : RetirementHealthcare K)
    (magiAware : Bool) : Option (MagiTarget K) :=
  if magiAware then
    some { healthcare, retirementAge := age, filingStatus, householdSize := 1, committedMagi := 0 }
  else none

section Estimate

variable {age : ℕ} {filingStatus : FilingStatus} {plannedSpending socialSecurityBenefit : K}
  {accounts : List (Account K)} {engineAccounts : List (Engine.Account K)} {taxableGainRatio : K}
  {prior : YearMagi K} {magiTarget : Option (MagiTarget K)}

/-- The engine's estimate after a year of wages alone: the benefit, the gain of the
taxable draw, and the two Traditional stages of the order. -/
theorem estimatedRetirementMagi_eq (hsame : SameBalances accounts engineAccounts)
    (hprior : prior.total = prior.wages)
    (htarget : ∀ target ∈ magiTarget, target.committedMagi = 0) {amount taxable cap : K}
    (hamount : max (plannedSpending - socialSecurityBenefit) 0 = amount)
    (htaxable : balanceOf accounts .taxable = taxable)
    (hcap : (traditionalHeadroom age taxableGainRatio taxable (magiTarget.map fun target =>
        { target with committedMagi := socialSecurityBenefit })).elim
      (balanceOf accounts .traditional) (min · (balanceOf accounts .traditional)) = cap) :
    estimatedRetirementMagi prior plannedSpending socialSecurityBenefit engineAccounts age
        taxableGainRatio magiTarget
      = socialSecurityBenefit + stage 0 taxable amount * taxableGainRatio
        + (stage taxable cap amount
          + stage (taxable + cap + balanceOf accounts .roth)
            (balanceOf accounts .traditional - cap) amount) := by
  have hcommitted : (magiTarget.map fun target =>
      { target with committedMagi := target.committedMagi + socialSecurityBenefit + 0 })
      = magiTarget.map fun target => { target with committedMagi := socialSecurityBenefit } := by
    cases magiTarget with
    | none => rfl
    | some target => simp only [Option.map_some, htarget target rfl, zero_add, add_zero]
  have hheld (t : AccountType) :
      held t engineAccounts (engineAccounts.map (·.balance)) = balanceOf accounts t := by
    rw [← balanceOfBucket_eq_held, hsame.balanceOf_eq]
  have hspec := applyWithdrawalOrder_spec hsame.solvent.shadow amount age taxableGainRatio
    (magiTarget.map fun target => { target with committedMagi := socialSecurityBenefit })
  have hmax : max amount 0 = amount := max_eq_left (hamount ▸ le_max_right _ _)
  rw [traditionalCap, hheld, hheld, htaxable, hcap, hmax] at hspec
  simp only [estimatedRetirementMagi, hprior, sub_self, max_self, hcommitted, hamount, zero_add]
  have htraditional := hspec.traditional_eq
  have hdrawn := hspec.taxable_eq
  rw [hheld, htaxable] at hdrawn
  rw [hheld, hheld, hheld, htaxable] at htraditional
  have hgain : (Engine.applyWithdrawalOrder engineAccounts (engineAccounts.map (·.balance)) amount
      age taxableGainRatio (magiTarget.map fun target =>
        { target with committedMagi := socialSecurityBenefit })).1.taxableGain
      = stage 0 taxable amount * taxableGainRatio := by
    rw [← hdrawn]
    exact taxableGain_of_invested hsame.invested _ _ _ _
  rw [htraditional, hgain]
  ring

/-- Where Taxable funds the year both incomes are the benefit and the gain. -/
theorem premiumPreview_funded (filingStatus : FilingStatus) (magiAware : Bool)
    (hsame : SameBalances accounts engineAccounts) (hprior : prior.total = prior.wages)
    (htarget : ∀ target ∈ magiTarget, target.committedMagi = 0)
    (h : plannedSpending - socialSecurityBenefit ≤ balanceOf accounts .taxable) :
    estimatedFirstRetirementYearMagi age filingStatus plannedSpending socialSecurityBenefit
        accounts taxableGainRatio magiAware
      = estimatedRetirementMagi prior plannedSpending socialSecurityBenefit engineAccounts age
        taxableGainRatio magiTarget := by
  have hnonneg (t : AccountType) : 0 ≤ balanceOf accounts t :=
    hsame.balanceOf_eq t ▸ balanceOfBucket_nonneg hsame.solvent t
  set amount := max (plannedSpending - socialSecurityBenefit) 0 with hamount
  have hfunded : amount ≤ balanceOf accounts .taxable := max_le h (hnonneg _)
  have h0 : 0 ≤ amount := le_max_right _ _
  set room := traditionalHeadroom age taxableGainRatio (balanceOf accounts .taxable)
    (magiTarget.map fun target => { target with committedMagi := socialSecurityBenefit })
    with hroom
  have hroomNonneg : ∀ r ∈ room, 0 ≤ r := fun r hr => traditionalHeadroom_nonneg hr
  have hcap := cap_mem (hnonneg .traditional) hroomNonneg
  rw [estimatedRetirementMagi_eq hsame hprior htarget hamount.symm rfl rfl,
    stage_of_le hcap.1 hfunded,
    stage_of_le (sub_nonneg.mpr hcap.2) (by linarith [hcap.1, hnonneg .roth]), stage, sub_zero,
    max_eq_left h0, min_eq_left hfunded, estimatedFirstRetirementYearMagi, max_comm, ← hamount,
    min_eq_left hfunded, sub_self, min_eq_left (hnonneg _)]
  cases magiAware with
  | false => simp
  | true => simp

end Estimate

omit [IsStrictOrderedRing K] in
/-- The room the engine leaves Traditional in a first retirement year. -/
theorem firstYearHeadroom (age : ℕ) (filingStatus : FilingStatus)
    (healthcare : RetirementHealthcare K) (socialSecurityBenefit taxable taxableGainRatio : K) :
    traditionalHeadroom age taxableGainRatio taxable
        ((firstYearTarget age filingStatus healthcare true).map fun target =>
          { target with committedMagi := socialSecurityBenefit })
      = ((magiBandFor age age filingStatus 1 (socialSecurityBenefit + taxable * taxableGainRatio)
          healthcare).map (·.ceiling)).map
          fun ceiling =>
            max (ceiling - (socialSecurityBenefit + taxable * taxableGainRatio)) 0 := by
  simp only [firstYearTarget, if_true, Option.map_some, traditionalHeadroom, Option.bind_some,
    Option.map_map]
  rfl

/-- The room under a ceiling that is never below what is committed. -/
theorem max_ceiling_sub (ceiling committed : K) :
    max (max (ceiling - ceilingMargin) committed - committed) 0
      = max (ceiling - ceilingMargin - committed) 0 := by
  rw [← max_sub_sub_right, sub_self, max_assoc, max_self]

/-- The engine draws from Traditional what the preview does exactly under its
condition, once Taxable is dry. -/
theorem traditional_eq_iff {age : ℕ} (hage : age < medicareAge) {filingStatus : FilingStatus}
    {healthcare : RetirementHealthcare K} (hpre : 0 < healthcare.preMedicarePremium)
    (hmedicare : 0 < healthcare.medicarePremium) {committed unmet traditional roth cap : K}
    (hunmet : 0 < unmet) (htraditional : 0 ≤ traditional)
    (hcap : (((magiBandFor age age filingStatus 1 committed healthcare).map (·.ceiling)).map
      fun ceiling => max (ceiling - committed) 0).elim traditional (min · traditional) = cap) :
    min unmet cap + min (max (unmet - cap - roth) 0) (traditional - cap)
        = min (min unmet traditional)
          (max (previewThreshold age filingStatus - ceilingMargin - committed) 0) ↔
      traditional = 0 ∨
        if committed ≤ previewThreshold age filingStatus then
          traditional ≤ max (previewThreshold age filingStatus - ceilingMargin - committed) 0 ∨
            unmet ≤ max (previewThreshold age filingStatus - ceilingMargin - committed) 0 + roth
        else
          (medicareAge ≤ age + 2 ∧ ∃ ceiling ∈ irmaaCeilingAbove committed filingStatus,
            ceiling ≤ committed + ceilingMargin) ∧ unmet ≤ roth := by
  by_cases hwithin : committed ≤ previewThreshold age filingStatus
  · rw [magiBandFor_within hage hpre hmedicare hwithin, Option.map_some, Option.elim_some,
      max_ceiling_sub] at hcap
    rw [← hcap, stages_eq_draw_iff, if_pos hwithin]
    refine ⟨.inr, ?_⟩
    rintro (rfl | h)
    · exact .inl (le_max_right _ _)
    · exact h
  · have hpast := not_le.mp hwithin
    have hzero : max (previewThreshold age filingStatus - ceilingMargin - committed) 0 = 0 :=
      max_eq_right (by rw [ceilingMargin]; linarith)
    have hmin : min (min unmet traditional) 0 = 0 := min_eq_right (le_min hunmet.le htraditional)
    have hbounds := hcap ▸ cap_mem htraditional (by
      intro r hr
      obtain ⟨ceiling, -, rfl⟩ := Option.map_eq_some_iff.mp hr
      exact le_max_right _ _)
    rw [magiBandFor_past hmedicare hpast] at hcap
    rw [hzero, hmin, stages_eq_zero_iff hunmet hbounds.1 hbounds.2, if_neg hwithin]
    have hcapZero : cap = 0 ↔ traditional = 0 ∨ (medicareAge ≤ age + 2 ∧
        ∃ ceiling ∈ irmaaCeilingAbove committed filingStatus,
          ceiling ≤ committed + ceilingMargin) := by
      rw [← hcap]
      by_cases hlook : medicareAge ≤ age + 2
      · rw [if_pos hlook]
        cases irmaaCeilingAbove committed filingStatus with
        | none => simp
        | some ceiling =>
          simp only [Option.map_some, Option.elim_some, max_ceiling_sub, hlook, true_and,
            Option.mem_some_iff, exists_eq_left']
          exact cap_eq_zero_iff htraditional
      · simp [hlook]
    rw [hcapZero]
    tauto

/-- For every first retirement age below 65 and every household whose plan prices both
premiums, after a year of wages alone, the preview reports the engine's income exactly
where `PreviewMirrors` holds. -/
theorem premiumPreview_agrees_iff {age : ℕ} (hage : age < medicareAge)
    (filingStatus : FilingStatus) (plannedSpending socialSecurityBenefit : K)
    {accounts : List (Account K)} {engineAccounts : List (Engine.Account K)}
    (hsame : SameBalances accounts engineAccounts) (taxableGainRatio : K) (magiAware : Bool)
    {healthcare : RetirementHealthcare K} (hpre : 0 < healthcare.preMedicarePremium)
    (hmedicare : 0 < healthcare.medicarePremium) {prior : YearMagi K}
    (hprior : prior.total = prior.wages) :
    estimatedFirstRetirementYearMagi age filingStatus plannedSpending socialSecurityBenefit
        accounts taxableGainRatio magiAware
      = estimatedRetirementMagi prior plannedSpending socialSecurityBenefit engineAccounts age
        taxableGainRatio (firstYearTarget age filingStatus healthcare magiAware) ↔
    PreviewMirrors age filingStatus plannedSpending socialSecurityBenefit accounts
      taxableGainRatio magiAware := by
  have hnonneg (t : AccountType) : 0 ≤ balanceOf accounts t :=
    hsame.balanceOf_eq t ▸ balanceOfBucket_nonneg hsame.solvent t
  have htarget : ∀ target ∈ firstYearTarget age filingStatus healthcare magiAware,
      target.committedMagi = 0 := by
    cases magiAware with
    | false => simp [firstYearTarget]
    | true =>
      intro target h
      cases h
      rfl
  set taxable := balanceOf accounts .taxable with htaxable
  set traditional := balanceOf accounts .traditional with htraditional
  rcases le_or_gt (plannedSpending - socialSecurityBenefit) taxable with hfunded | hunmet
  · exact iff_of_true (premiumPreview_funded filingStatus magiAware hsame hprior htarget hfunded)
      (.inr (.inl (by linarith)))
  have hpos : 0 < plannedSpending - socialSecurityBenefit - taxable := by linarith
  have hamount : max (plannedSpending - socialSecurityBenefit) 0
      = plannedSpending - socialSecurityBenefit := max_eq_left (by linarith [hnonneg .taxable])
  rw [estimatedRetirementMagi_eq hsame hprior htarget hamount rfl rfl, ← htaxable, ← htraditional]
  -- Taxable is dry: both report the benefit, its gain and a draw from Traditional.
  have hdry : stage 0 taxable (plannedSpending - socialSecurityBenefit) = taxable := by
    rw [stage, sub_zero, max_eq_left (by linarith [hnonneg .taxable]), min_eq_right hunmet.le]
  rw [estimatedFirstRetirementYearMagi, max_comm, hamount, ← htaxable, ← htraditional,
    min_eq_right hunmet.le, hdry, add_right_inj]
  cases magiAware with
  | false =>
    refine iff_of_true ?_ (.inl rfl)
    simp only [firstYearTarget, Bool.false_eq_true, if_false, Option.map_none, traditionalHeadroom,
      Option.bind_none, Option.elim_none, sub_self]
    rw [stage_zero_capacity, add_zero, stage, max_eq_left hpos.le]
  | true =>
    have hroom : max 0 (previewThreshold age filingStatus - ceilingMargin
          - taxable * taxableGainRatio - socialSecurityBenefit)
        = max (previewThreshold age filingStatus - ceilingMargin
          - (socialSecurityBenefit + taxable * taxableGainRatio)) 0 := by
      rw [max_comm]
      congr 1
      ring
    rw [firstYearHeadroom, hroom]
    generalize hcap : (((magiBandFor age age filingStatus 1
      (socialSecurityBenefit + taxable * taxableGainRatio) healthcare).map (·.ceiling)).map
      fun ceiling => max (ceiling - (socialSecurityBenefit + taxable * taxableGainRatio)) 0).elim
        traditional (min · traditional) = cap
    have hfirst : stage taxable cap (plannedSpending - socialSecurityBenefit)
        = min (plannedSpending - socialSecurityBenefit - taxable) cap := by
      rw [stage, max_eq_left hpos.le]
    have hsecond : stage (taxable + cap + balanceOf accounts .roth) (traditional - cap)
          (plannedSpending - socialSecurityBenefit)
        = min (max (plannedSpending - socialSecurityBenefit - taxable - cap
          - balanceOf accounts .roth) 0) (traditional - cap) := by
      rw [stage]
      congr 2
      ring
    rw [hfirst, hsecond, if_pos rfl, Option.elim_some, eq_comm,
      traditional_eq_iff hage hpre hmedicare hpos (hnonneg .traditional) hcap]
    simp only [PreviewMirrors, Bool.true_eq_false, false_or, ← htaxable, ← htraditional,
      not_le.mpr hpos]

/-! ## A household without Roth -/

/-- A brokerage account and a 401(k). -/
def pretaxHousehold (taxable traditional : ℚ) : List (Account ℚ) :=
  [⟨"a", "Brokerage", "", .taxable, taxable, ⟨0.6, 0.4⟩⟩,
    ⟨"b", "401(k)", "", .traditional, traditional, ⟨0.6, 0.4⟩⟩]

/-- The same accounts as the engine has them. -/
def pretaxEngineHousehold (taxable traditional : ℚ) : List (Engine.Account ℚ) :=
  [⟨.taxable, taxable, ⟨0.6, 0.4⟩, false⟩, ⟨.traditional, traditional, ⟨0.6, 0.4⟩, false⟩]

theorem pretaxHousehold_same {taxable traditional : ℚ} (h : 0 ≤ taxable) (h' : 0 ≤ traditional) :
    SameBalances (pretaxHousehold taxable traditional)
      (pretaxEngineHousehold taxable traditional) where
  solvent := by
    intro account ha
    rcases List.mem_cons.mp ha with rfl | ha
    · exact h
    · cases List.mem_singleton.mp ha
      exact h'
  invested := by
    intro account ha
    rcases List.mem_cons.mp ha with rfl | ha
    · rfl
    · cases List.mem_singleton.mp ha
      rfl
  balanceOf_eq t := by
    cases t <;> simp [balanceOfBucket, balanceOf, pretaxHousehold, pretaxEngineHousehold]

/-- Taxable funds the whole year. -/
theorem premiumPreview_agrees_iff_brokerage :
    estimatedFirstRetirementYearMagi 58 .single 73000 0 (pretaxHousehold 600000 900000) 0.5 true
      = estimatedRetirementMagi ⟨100000, 100000⟩ 73000 0 (pretaxEngineHousehold 600000 900000) 58
        0.5 (firstYearTarget 58 .single ⟨18900, 4650, 3000, 0.02⟩ true) :=
  (premiumPreview_agrees_iff (by decide) .single 73000 0
    (pretaxHousehold_same (by norm_num) (by norm_num)) 0.5 true (by norm_num) (by norm_num)
    rfl).mpr (.inr (.inl (by decide +kernel)))

/-- Without Roth the engine goes back to Traditional past the cliff; the preview stops
a dollar short of it. -/
theorem premiumPreview_rothExhausted :
    estimatedFirstRetirementYearMagi 58 .single 200000 0 (pretaxHousehold 50000 900000) 0.5 true
        = 62599 ∧
      estimatedRetirementMagi ⟨100000, 100000⟩ 200000 0 (pretaxEngineHousehold 50000 900000) 58
        0.5 (firstYearTarget 58 .single ⟨18900, 4650, 3000, 0.02⟩ true) = 175000 := by
  decide +kernel

end RetirementPlanner.Web
