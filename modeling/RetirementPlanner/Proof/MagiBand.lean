import RetirementPlanner.Engine.Projection
import RetirementPlanner.Proof.Withdrawals

/-!
# The MAGI band is safe to aim at

The band's ceiling is read off the same thresholds the charges are, so no income from
the committed one up to it changes either charge (`expectedPremiumContribution_upTo`,
`irmaaAnnualSurcharge_upTo`), and reading the band again anywhere inside it gives the
same band (`magiBandFor_stable`). A withdrawal that does not go past the ceiling ends
under the ceiling it read (`order_within`). `magiBand_safe` puts these together.
-/

namespace RetirementPlanner.Engine

variable {K : Type*} [Field K] [LinearOrder K]

/-- Somebody will buy a marketplace plan next year at a price. -/
def MarketplaceApplies (age retirementAge : ℕ) (healthcare : RetirementHealthcare K) : Prop :=
  age + 1 < medicareAge ∧ age + 1 ≥ retirementAge ∧ 0 < healthcare.preMedicarePremium

/-- Somebody will be on Medicare, at a price, in the year that reads this one's MAGI. -/
def IrmaaApplies (age retirementAge : ℕ) (healthcare : RetirementHealthcare K) : Prop :=
  age + 2 ≥ medicareAge ∧ age + 2 ≥ retirementAge ∧ 0 < healthcare.medicarePremium

/-! ## First thresholds -/

/-- A narrower test finds the same element, if that passes. -/
theorem find?_of_narrower {α : Type*} {p q : α → Bool} {l : List α} {b : α}
    (hnarrower : ∀ x, q x = true → p x = true) (h : l.find? p = some b) (hb : q b = true) :
    l.find? q = some b := by
  obtain ⟨-, before, after, heq, hbefore⟩ := List.find?_eq_some_iff_append.mp h
  refine List.find?_eq_some_iff_append.mpr ⟨hb, before, after, heq, fun x hx => ?_⟩
  have hfails := hbefore x hx
  rw [Bool.not_eq_true'] at hfails ⊢
  exact Bool.eq_false_iff.mpr fun hq => Bool.eq_false_iff.mp hfails (hnarrower x hq)

/-! ## The marketplace credit -/

section Credit

variable [IsStrictOrderedRing K] {magi committed : K} {householdSize : ℕ}

/-- Every ratio up to the cliff has its percentage. -/
theorem applicablePercent_isSome {fplRatio : K} (h : fplRatio ≤ subsidyCliffFplRatio) :
    (applicablePercent fplRatio 0 applicablePercentageBands).isSome := by
  have hlast : fplRatio ≤ (4.0 : K) := h.trans_eq (by norm_num [subsidyCliffFplRatio])
  simp only [applicablePercentageBands, applicablePercent, if_pos hlast]
  split_ifs <;> rfl

theorem federalPovertyLevel_pos : (0 : K) < federalPovertyLevel householdSize := by
  have hpeople : (1 : K) ≤ (max householdSize 1 : ℕ) := Nat.one_le_cast.mpr (le_max_right _ _)
  rw [federalPovertyLevel]
  linarith

/-- The credit is live from the poverty level to the cliff. -/
theorem expectedPremiumContribution_isSome_iff :
    (expectedPremiumContribution magi householdSize).isSome ↔
      subsidyFloorFplRatio * federalPovertyLevel householdSize ≤ magi ∧
        magi ≤ subsidyCliffFplRatio * federalPovertyLevel householdSize := by
  have hpos : (0 : K) < federalPovertyLevel householdSize := federalPovertyLevel_pos
  rw [← le_div_iff₀ hpos, ← div_le_iff₀ hpos, expectedPremiumContribution]
  split
  · rename_i h
    rw [Option.isSome_map]
    exact ⟨fun _ => h, fun _ => applicablePercent_isSome h.2⟩
  · rename_i h
    exact ⟨nofun, fun hin => absurd hin h⟩

end Credit

/-! ## The surcharge -/

section Surcharge

variable {magi committed : K} {filingStatus : FilingStatus}

/-- Whether `magi` is within a tier's bound. -/
def withinTier (magi : K) (filingStatus : FilingStatus) (tier : Option K × K) : Bool :=
  tier.1.all fun bound => magi ≤ bound * irmaaScale filingStatus

theorem withinTier_of_le (h : committed ≤ magi) (tier : Option K × K)
    (hin : withinTier magi filingStatus tier) : withinTier committed filingStatus tier := by
  simp only [withinTier, Option.all_eq_true, decide_eq_true_eq] at hin ⊢
  exact fun bound hbound => h.trans (hin bound hbound)

/-- Outside the separate schedule, the bound of a household's tier is the ceiling above
it. -/
theorem irmaaCeilingAbove_eq (hstatus : filingStatus ≠ .marriedFilingSeparately) :
    irmaaCeilingAbove magi filingStatus
      = (irmaaTiers2026.find? (withinTier magi filingStatus)).bind
          fun tier => tier.1.map (· * irmaaScale filingStatus) := by
  have htest : ((fun bound : Option K => bound.all (magi ≤ ·)) ∘ fun tier : Option K × K =>
      tier.1.map (· * irmaaScale filingStatus)) = withinTier magi filingStatus := by
    funext tier
    exact Option.all_map
  rw [irmaaCeilingAbove, if_neg hstatus, List.find?_map, htest]
  cases irmaaTiers2026.find? (withinTier magi filingStatus) <;> rfl

theorem irmaaAnnualSurcharge_eq (hstatus : filingStatus ≠ .marriedFilingSeparately)
    (peopleOnMedicare : ℕ) :
    irmaaAnnualSurcharge magi filingStatus peopleOnMedicare
      = ((irmaaTiers2026.find? (withinTier magi filingStatus)).map (·.2)).getD 578.00
        * 12 * peopleOnMedicare := by
  rw [irmaaAnnualSurcharge, if_neg hstatus]
  rfl

/-- Income under the ceiling above the committed one is of the same tier. -/
theorem tier_upTo (hstatus : filingStatus ≠ .marriedFilingSeparately) (h : committed ≤ magi)
    (hceiling : ∀ ceiling ∈ irmaaCeilingAbove committed filingStatus, magi ≤ ceiling) :
    irmaaTiers2026.find? (withinTier magi filingStatus)
      = irmaaTiers2026.find? (withinTier committed filingStatus) := by
  rw [irmaaCeilingAbove_eq hstatus] at hceiling
  cases htier : irmaaTiers2026.find? (withinTier committed filingStatus) with
  | none =>
    refine List.find?_eq_none.mpr fun tier hmem hin => ?_
    exact List.find?_eq_none.mp htier tier hmem (withinTier_of_le h tier hin)
  | some tier =>
    refine find?_of_narrower (withinTier_of_le h) htier ?_
    rw [htier, Option.bind_some] at hceiling
    simp only [withinTier, Option.all_eq_true, decide_eq_true_eq]
    exact fun bound hbound => hceiling _ (Option.mem_map_of_mem _ hbound)

/-- Reading the ceiling again at an income under it finds the same ceiling. -/
theorem irmaaCeilingAbove_upTo (h : committed ≤ magi)
    (hceiling : ∀ ceiling ∈ irmaaCeilingAbove committed filingStatus, magi ≤ ceiling) :
    irmaaCeilingAbove magi filingStatus = irmaaCeilingAbove committed filingStatus := by
  by_cases hstatus : filingStatus = .marriedFilingSeparately
  · rw [irmaaCeilingAbove, if_pos hstatus] at hceiling
    rw [irmaaCeilingAbove, irmaaCeilingAbove, if_pos hstatus, if_pos hstatus]
    cases hfound : [irmaaSeparateBounds.1, irmaaSeparateBounds.2].find?
        (fun bound : K => committed ≤ bound) with
    | none =>
      refine List.find?_eq_none.mpr fun bound hmem hin => ?_
      exact List.find?_eq_none.mp hfound bound hmem
        (decide_eq_true (h.trans (of_decide_eq_true hin)))
    | some bound =>
      refine find?_of_narrower (fun x hx => ?_) hfound (decide_eq_true (hceiling bound hfound))
      exact decide_eq_true (h.trans (of_decide_eq_true hx))
  · rw [irmaaCeilingAbove_eq hstatus, irmaaCeilingAbove_eq hstatus, tier_upTo hstatus h hceiling]

variable [IsStrictOrderedRing K]

theorem le_of_margin {ceiling : K} (h : committed ≤ ceiling)
    (hmagi : magi ≤ max (ceiling - ceilingMargin) committed) : magi ≤ ceiling :=
  hmagi.trans (max_le (sub_le_self _ zero_le_one) h)

omit [IsStrictOrderedRing K] in
theorem le_irmaaCeilingAbove {ceiling : K}
    (h : irmaaCeilingAbove committed filingStatus = some ceiling) : committed ≤ ceiling := by
  by_cases hstatus : filingStatus = .marriedFilingSeparately
  · rw [irmaaCeilingAbove, if_pos hstatus] at h
    simpa using List.find?_some h
  · rw [irmaaCeilingAbove_eq hstatus, Option.bind_eq_some_iff] at h
    obtain ⟨tier, htier, hbound⟩ := h
    obtain ⟨bound, hsome, rfl⟩ := Option.map_eq_some_iff.mp hbound
    have hin := List.find?_some htier
    simp only [withinTier, Option.all_eq_true, decide_eq_true_eq] at hin
    exact hin bound hsome

/-- The separate schedule charges from its second bound itself on, so only the dollar of
margin keeps an income under the ceiling below it. -/
theorem surcharge_separate (hstatus : filingStatus = .marriedFilingSeparately)
    (h : committed ≤ magi)
    (hceiling : ∀ ceiling ∈ irmaaCeilingAbove committed filingStatus,
      magi ≤ max (ceiling - ceilingMargin) committed) (peopleOnMedicare : ℕ) :
    irmaaAnnualSurcharge magi filingStatus peopleOnMedicare
      = irmaaAnnualSurcharge committed filingStatus peopleOnMedicare := by
  have hbounds : (irmaaSeparateBounds : K × K) = (109000, 391000) := rfl
  simp only [irmaaCeilingAbove, if_pos hstatus, hbounds, ceilingMargin] at hceiling
  simp only [irmaaAnnualSurcharge, if_pos hstatus, hbounds]
  by_cases hfirst : committed ≤ 109000
  · have hle : magi ≤ 109000 := le_of_margin hfirst (hceiling 109000 (by simp [hfirst]))
    rw [if_pos hle, if_pos hfirst]
  · have hnot : ¬magi ≤ 109000 := fun hle => hfirst (h.trans hle)
    rw [if_neg hnot, if_neg hfirst]
    by_cases hsecond : committed < 391000
    · have hlt : magi < 391000 := by
        have hmargin := hceiling 391000 (by simp [hfirst, hsecond.le])
        exact hmargin.trans_lt (max_lt (by norm_num) hsecond)
      rw [if_pos hlt, if_pos hsecond]
    · rw [if_neg hsecond, if_neg fun hlt => hsecond (h.trans_lt hlt)]

/-- No income from the committed one to a dollar short of the ceiling above it changes
the surcharge. -/
theorem irmaaAnnualSurcharge_upTo (h : committed ≤ magi)
    (hceiling : ∀ ceiling ∈ irmaaCeilingAbove committed filingStatus,
      magi ≤ max (ceiling - ceilingMargin) committed) (peopleOnMedicare : ℕ) :
    irmaaAnnualSurcharge magi filingStatus peopleOnMedicare
      = irmaaAnnualSurcharge committed filingStatus peopleOnMedicare := by
  by_cases hstatus : filingStatus = .marriedFilingSeparately
  · exact surcharge_separate hstatus h hceiling peopleOnMedicare
  · have hupTo : ∀ ceiling ∈ irmaaCeilingAbove committed filingStatus, magi ≤ ceiling :=
      fun ceiling hmem => le_of_margin (le_irmaaCeilingAbove hmem) (hceiling ceiling hmem)
    rw [irmaaAnnualSurcharge_eq hstatus, irmaaAnnualSurcharge_eq hstatus,
      tier_upTo hstatus h hupTo]

end Surcharge

/-! ## The band -/

/-- The nearer of two thresholds. -/
def nearer : Option K → Option K → Option K
  | some first, some second => some (min first second)
  | some only, none => some only
  | none, second => second

omit [Field K] in
theorem nearer_eq_some {first second : Option K} {ceiling : K}
    (h : nearer first second = some ceiling) :
    (first = some ceiling ∨ second = some ceiling) ∧
      (∀ bound ∈ first, ceiling ≤ bound) ∧ ∀ bound ∈ second, ceiling ≤ bound := by
  cases first with
  | none => exact ⟨.inr h, nofun, fun bound hbound => (Option.some.inj (h.symm.trans hbound)).le⟩
  | some a =>
    cases second with
    | none => exact ⟨.inl h, fun bound hbound => (Option.some.inj (h.symm.trans hbound)).le, nofun⟩
    | some b =>
      obtain rfl : min a b = ceiling := Option.some.inj h
      refine ⟨?_, ?_, ?_⟩
      · exact (min_choice a b).imp (congrArg some ·.symm) (congrArg some ·.symm)
      · rintro bound ⟨⟩
        exact min_le_left a b
      · rintro bound ⟨⟩
        exact min_le_right a b

instance (age retirementAge : ℕ) (healthcare : RetirementHealthcare K) :
    Decidable (MarketplaceApplies age retirementAge healthcare) :=
  inferInstanceAs (Decidable (_ ∧ _ ∧ _))

instance (age retirementAge : ℕ) (healthcare : RetirementHealthcare K) :
    Decidable (IrmaaApplies age retirementAge healthcare) :=
  inferInstanceAs (Decidable (_ ∧ _ ∧ _))

section Band

variable {age retirementAge householdSize : ℕ} {filingStatus : FilingStatus}
  {committed magi : K} {healthcare : RetirementHealthcare K} {band : MagiBand K}

/-- The cliff, for an income that has not passed it. -/
def marketplaceCeiling (age retirementAge householdSize : ℕ) (committed : K)
    (healthcare : RetirementHealthcare K) : Option K :=
  if MarketplaceApplies age retirementAge healthcare ∧
      committed ≤ subsidyCliffFplRatio * federalPovertyLevel householdSize then
    some (subsidyCliffFplRatio * federalPovertyLevel householdSize)
  else none

/-- The next tier's bound, in a year the surcharge will read. -/
def irmaaCeiling (age retirementAge : ℕ) (filingStatus : FilingStatus) (committed : K)
    (healthcare : RetirementHealthcare K) : Option K :=
  if IrmaaApplies age retirementAge healthcare then irmaaCeilingAbove committed filingStatus
  else none

theorem magiBandFor_eq :
    magiBandFor age retirementAge filingStatus householdSize committed healthcare
      = (nearer (marketplaceCeiling age retirementAge householdSize committed healthcare)
          (irmaaCeiling age retirementAge filingStatus committed healthcare)).map fun ceiling =>
        { floor :=
            if (marketplaceCeiling age retirementAge householdSize committed healthcare).isSome then
              subsidyFloorFplRatio * federalPovertyLevel householdSize
            else 0
          ceiling := max (ceiling - ceilingMargin) committed } := by
  have hmarketplace : (if (age + 1 < medicareAge ∧ age + 1 ≥ retirementAge ∧
        0 < healthcare.preMedicarePremium) ∧
        committed ≤ subsidyCliffFplRatio * federalPovertyLevel householdSize then
      some (subsidyCliffFplRatio * federalPovertyLevel householdSize) else none)
      = marketplaceCeiling age retirementAge householdSize committed healthcare := rfl
  have hirmaa : (if age + 2 ≥ medicareAge ∧ age + 2 ≥ retirementAge ∧
        0 < healthcare.medicarePremium then irmaaCeilingAbove committed filingStatus else none)
      = irmaaCeiling age retirementAge filingStatus committed healthcare := rfl
  simp only [magiBandFor, hmarketplace, hirmaa]
  cases marketplaceCeiling age retirementAge householdSize committed healthcare <;>
    cases irmaaCeiling age retirementAge filingStatus committed healthcare <;> rfl

theorem marketplaceCeiling_eq_some {ceiling : K} :
    marketplaceCeiling age retirementAge householdSize committed healthcare = some ceiling ↔
      (MarketplaceApplies age retirementAge healthcare ∧ committed ≤ ceiling) ∧
        ceiling = subsidyCliffFplRatio * federalPovertyLevel householdSize := by
  rw [marketplaceCeiling]
  split
  · rename_i h
    refine ⟨fun heq => ?_, fun heq => congrArg some heq.2.symm⟩
    obtain rfl := Option.some.inj heq
    exact ⟨h, rfl⟩
  · rename_i h
    refine ⟨nofun, ?_⟩
    rintro ⟨hin, rfl⟩
    exact absurd hin h

theorem irmaaCeiling_eq_some {ceiling : K} :
    irmaaCeiling age retirementAge filingStatus committed healthcare = some ceiling ↔
      IrmaaApplies age retirementAge healthcare ∧
        irmaaCeilingAbove committed filingStatus = some ceiling := by
  rw [irmaaCeiling]
  split
  · rename_i h
    exact (and_iff_right h).symm
  · rename_i h
    exact ⟨nofun, fun heq => absurd heq.1 h⟩

/-- What a band aims under: the nearer of the thresholds, which the committed income has
not passed. -/
theorem magiBandFor_some
    (h : magiBandFor age retirementAge filingStatus householdSize committed healthcare
      = some band) :
    ∃ ceiling, band.ceiling = max (ceiling - ceilingMargin) committed ∧ committed ≤ ceiling ∧
      (∀ bound ∈ marketplaceCeiling age retirementAge householdSize committed healthcare,
        ceiling ≤ bound ∧ band.floor = subsidyFloorFplRatio * federalPovertyLevel householdSize) ∧
      ∀ bound ∈ irmaaCeiling age retirementAge filingStatus committed healthcare,
        ceiling ≤ bound := by
  rw [magiBandFor_eq, Option.map_eq_some_iff] at h
  obtain ⟨ceiling, hnearer, rfl⟩ := h
  obtain ⟨hone, hfirst, hsecond⟩ := nearer_eq_some hnearer
  refine ⟨ceiling, rfl, ?_, fun bound hbound => ⟨hfirst bound hbound, ?_⟩, hsecond⟩
  · rcases hone with hmarket | hirmaa
    · exact (marketplaceCeiling_eq_some.mp hmarket).1.2
    · exact le_irmaaCeilingAbove (irmaaCeiling_eq_some.mp hirmaa).2
  · exact if_pos (Option.isSome_iff_exists.mpr ⟨bound, hbound⟩)

variable [IsStrictOrderedRing K]

/-- Reading the band again at an income inside it gives the same band. -/
theorem magiBandFor_stable
    (hband : magiBandFor age retirementAge filingStatus householdSize committed healthcare
      = some band) (h : committed ≤ magi) (hmagi : magi ≤ band.ceiling) :
    magiBandFor age retirementAge filingStatus householdSize magi healthcare = some band := by
  obtain ⟨ceiling, hceiling, hle, hmarket, hirmaa⟩ := magiBandFor_some hband
  have hupTo : magi ≤ ceiling := le_of_margin hle (hceiling ▸ hmagi)
  have hfirst : marketplaceCeiling age retirementAge householdSize magi healthcare
      = marketplaceCeiling age retirementAge householdSize committed healthcare := by
    refine Option.ext fun bound => ?_
    rw [marketplaceCeiling_eq_some, marketplaceCeiling_eq_some]
    refine ⟨fun ⟨⟨happlies, hin⟩, heq⟩ => ⟨⟨happlies, h.trans hin⟩, heq⟩, fun hin => ?_⟩
    have hbound := (hmarket bound (marketplaceCeiling_eq_some.mpr hin)).1
    exact ⟨⟨hin.1.1, hupTo.trans hbound⟩, hin.2⟩
  have hsecond : irmaaCeiling age retirementAge filingStatus magi healthcare
      = irmaaCeiling age retirementAge filingStatus committed healthcare := by
    by_cases happlies : IrmaaApplies age retirementAge healthcare
    · rw [irmaaCeiling, irmaaCeiling, if_pos happlies, if_pos happlies]
      refine irmaaCeilingAbove_upTo h fun bound hbound => hupTo.trans ?_
      exact hirmaa bound (irmaaCeiling_eq_some.mpr ⟨happlies, hbound⟩)
    · rw [irmaaCeiling, irmaaCeiling, if_neg happlies, if_neg happlies]
  rw [magiBandFor_eq, Option.map_eq_some_iff] at hband
  obtain ⟨nearest, hnearer, rfl⟩ := hband
  rw [magiBandFor_eq, hfirst, hsecond, hnearer, Option.map_some]
  have hsame : max (nearest - ceilingMargin) magi = max (nearest - ceilingMargin) committed := by
    rcases le_max_iff.mp hmagi with hunder | hunder
    · rw [max_eq_left hunder, max_eq_left (h.trans hunder)]
    · rw [le_antisymm hunder h]
  rw [hsame]

/-- The credit that is live at the committed income is live over the whole band. -/
theorem credit_upTo
    (hband : magiBandFor age retirementAge filingStatus householdSize committed healthcare
      = some band) (happlies : MarketplaceApplies age retirementAge healthcare)
    (hlive : (expectedPremiumContribution committed householdSize).isSome) :
    band.floor ≤ committed ∧ ∀ magi, band.floor ≤ magi → magi ≤ band.ceiling →
      (expectedPremiumContribution magi householdSize).isSome := by
  obtain ⟨hfloor, hcliff⟩ := expectedPremiumContribution_isSome_iff.mp hlive
  obtain ⟨ceiling, hceiling, hle, hmarket, -⟩ := magiBandFor_some hband
  obtain ⟨hbound, hbandFloor⟩ := hmarket _ (marketplaceCeiling_eq_some.mpr
    ⟨⟨happlies, hcliff⟩, rfl⟩)
  rw [hbandFloor]
  refine ⟨hfloor, fun magi hmagi hupTo => expectedPremiumContribution_isSome_iff.mpr ⟨hmagi, ?_⟩⟩
  exact (le_of_margin hle (hceiling ▸ hupTo)).trans hbound

/-- The surcharge of the committed income is that of every income over it in the band. -/
theorem surcharge_upTo
    (hband : magiBandFor age retirementAge filingStatus householdSize committed healthcare
      = some band) (happlies : IrmaaApplies age retirementAge healthcare) (h : committed ≤ magi)
    (hmagi : magi ≤ band.ceiling) (peopleOnMedicare : ℕ) :
    irmaaAnnualSurcharge magi filingStatus peopleOnMedicare
      = irmaaAnnualSurcharge committed filingStatus peopleOnMedicare := by
  obtain ⟨ceiling, hceiling, -, -, hirmaa⟩ := magiBandFor_some hband
  refine irmaaAnnualSurcharge_upTo h (fun bound hbound => ?_) peopleOnMedicare
  have hle := hirmaa bound (irmaaCeiling_eq_some.mpr ⟨happlies, hbound⟩)
  rw [hceiling] at hmagi
  exact hmagi.trans (max_le_max (sub_le_sub_right hle _) le_rfl)

end Band

/-! ## The withdrawal order -/

section Order

variable [IsStrictOrderedRing K]

/-- What a loop draws is at most what it is asked for, whatever the balances. -/
theorem drawLoop_drawn (t : AccountType) (gainRatio : K) (accounts : List (Account K))
    (balances : List K) {remaining : K} (h : 0 ≤ remaining) :
    0 ≤ (drawLoop t gainRatio remaining accounts balances).drawn ∧
      (drawLoop t gainRatio remaining accounts balances).drawn ≤ remaining := by
  induction accounts generalizing balances remaining with
  | nil => exact ⟨le_rfl, h⟩
  | cons account accounts ih =>
    cases balances with
    | nil => exact ⟨le_rfl, h⟩
    | cons balance balances =>
      by_cases hdone : remaining ≤ 0
      · rw [drawLoop, if_pos hdone]
        exact ⟨le_rfl, h⟩
      by_cases hskip : account.accountType ≠ t ∨ balance ≤ 0
      · rw [drawLoop, if_neg hdone, if_pos hskip]
        exact ih balances h
      · have hbalance : 0 ≤ balance := (not_le.mp (not_or.mp hskip).2).le
        rw [drawLoop, if_neg hdone, if_neg hskip]
        obtain ⟨hnonneg, hle⟩ := ih balances (sub_nonneg.mpr (min_le_left remaining balance))
        exact ⟨add_nonneg (le_min h hbalance) hnonneg, by linarith⟩

theorem drawBucketBalances_drawn (accounts : List (Account K)) (balances : List K)
    (t : AccountType) {limit : K} (h : 0 ≤ limit) :
    (drawBucketBalances accounts balances t limit).2 ≤ limit :=
  (drawLoop_drawn t 0 accounts balances (le_max_right limit 0)).2.trans_eq (max_eq_left h)

/-- The over-the-ceiling leg of the withdrawal order: what Traditional gives past the room
under the ceiling, once Roth is dry. -/
def overTheCeilingDraw (accounts : List (Account K)) (balances : List K) (amount : K) (age : ℕ)
    (taxableGainRatio : K) (magiTarget : Option (MagiTarget K)) : K :=
  let remaining := max amount 0
  let taxable := drawLoop .taxable taxableGainRatio remaining accounts balances
  let remaining := remaining - taxable.drawn
  let limit := (traditionalHeadroom age taxableGainRatio taxable.drawn magiTarget).elim remaining
    (min remaining ·)
  let (balances, capped) := drawBucketBalances accounts taxable.balances .traditional limit
  let remaining := remaining - capped
  let (balances, roth) := drawBucketBalances accounts balances .roth remaining
  (drawBucketBalances accounts balances .traditional (remaining - roth)).2

/-- A withdrawal without the over-the-ceiling leg keeps Traditional within the room. -/
theorem traditional_le_headroom {accounts : List (Account K)} {balances : List K} {amount : K}
    {age : ℕ} {ratio room : K} {magiTarget : Option (MagiTarget K)}
    (hover : overTheCeilingDraw accounts balances amount age ratio magiTarget = 0)
    (hroom : traditionalHeadroom age ratio
      (applyWithdrawalOrder accounts balances amount age ratio magiTarget).1.taxable magiTarget
        = some room) :
    (applyWithdrawalOrder accounts balances amount age ratio magiTarget).1.traditional ≤ room := by
  set drawn := (drawLoop .taxable ratio (max amount 0) accounts balances) with hdrawn
  have hleft : 0 ≤ max amount 0 - drawn.drawn :=
    sub_nonneg.mpr (drawLoop_drawn .taxable ratio accounts balances (le_max_right amount 0)).2
  have hroom0 := traditionalHeadroom_nonneg hroom
  have htraditional : (applyWithdrawalOrder accounts balances amount age ratio
      magiTarget).1.traditional
      = (drawBucketBalances accounts drawn.balances .traditional
          ((traditionalHeadroom age ratio drawn.drawn magiTarget).elim (max amount 0 - drawn.drawn)
            (min (max amount 0 - drawn.drawn) ·))).2
        + overTheCeilingDraw accounts balances amount age ratio magiTarget := rfl
  have hroom' : traditionalHeadroom age ratio drawn.drawn magiTarget = some room := hroom
  rw [htraditional, hover, add_zero, hroom']
  exact (drawBucketBalances_drawn _ _ _ (le_min hleft hroom0)).trans (min_le_right _ _)

/-- The income a withdrawal reports on top of the committed one stays under the ceiling it
read, once the taxable draw has settled the gain. -/
theorem order_within {accounts : List (Account K)} {balances : List K} {amount : K} {age : ℕ}
    {ratio : K} (hratio : 0 ≤ ratio) {target : MagiTarget K} {band : MagiBand K}
    (hover : overTheCeilingDraw accounts balances amount age ratio (some target) = 0)
    (hband : magiBandFor age target.retirementAge target.filingStatus target.householdSize
      (target.committedMagi
        + (applyWithdrawalOrder accounts balances amount age ratio (some target)).1.taxable * ratio)
      target.healthcare = some band) :
    target.committedMagi
        + (applyWithdrawalOrder accounts balances amount age ratio (some target)).1.taxableGain
        + (applyWithdrawalOrder accounts balances amount age ratio (some target)).1.traditional
      ≤ band.ceiling := by
  set drawn := (applyWithdrawalOrder accounts balances amount age ratio (some target)).1
  have hgain : drawn.taxableGain ≤ drawn.taxable * ratio :=
    (drawLoop_gain .taxable hratio accounts balances _).2
  have hcommitted : target.committedMagi + drawn.taxable * ratio ≤ band.ceiling := by
    obtain ⟨ceiling, hceiling, -⟩ := magiBandFor_some hband
    exact hceiling ▸ le_max_right _ _
  have hroom : traditionalHeadroom age ratio drawn.taxable (some target)
      = some (max (band.ceiling - (target.committedMagi + drawn.taxable * ratio)) 0) := by
    simp only [traditionalHeadroom, Option.bind_some, hband, Option.map_some]
  have htraditional := traditional_le_headroom hover hroom
  rw [max_eq_left (sub_nonneg.mpr hcommitted)] at htraditional
  change drawn.traditional ≤ _ at htraditional
  linarith

end Order

/-- The MAGI band is safe to aim at. The committed income is under its ceiling. A
marketplace credit live at the committed income is live from the floor, which that income
has reached, up to the ceiling, and every income from the committed one up to the ceiling
owes its IRMAA surcharge. A withdrawal without the over-the-ceiling leg ends under the
ceiling of the band it read after its taxable leg, and that is the ceiling of the target's
own band for as long as the gain stays under it. So does the estimate of a first
retirement year, which is made by such a withdrawal. -/
theorem magiBand_safe [IsStrictOrderedRing K] :
    (∀ (age retirementAge : ℕ) (filingStatus : FilingStatus) (householdSize : ℕ) (committed : K)
        (healthcare : RetirementHealthcare K) (band : MagiBand K),
      magiBandFor age retirementAge filingStatus householdSize committed healthcare = some band →
      committed ≤ band.ceiling ∧
        (MarketplaceApplies age retirementAge healthcare →
          (expectedPremiumContribution committed householdSize).isSome →
            band.floor ≤ committed ∧ ∀ magi, band.floor ≤ magi → magi ≤ band.ceiling →
              (expectedPremiumContribution magi householdSize).isSome) ∧
        (IrmaaApplies age retirementAge healthcare →
          ∀ magi, committed ≤ magi → magi ≤ band.ceiling → ∀ peopleOnMedicare,
            irmaaAnnualSurcharge magi filingStatus peopleOnMedicare
              = irmaaAnnualSurcharge committed filingStatus peopleOnMedicare)) ∧
    (∀ (accounts : List (Account K)) (balances : List K) (amount : K) (age : ℕ) (ratio : K)
        (target : MagiTarget K), 0 ≤ ratio →
      overTheCeilingDraw accounts balances amount age ratio (some target) = 0 →
      let drawn := (applyWithdrawalOrder accounts balances amount age ratio (some target)).1
      let bandAt := fun committed => magiBandFor age target.retirementAge target.filingStatus
        target.householdSize committed target.healthcare
      (∀ band, bandAt (target.committedMagi + drawn.taxable * ratio) = some band →
        target.committedMagi + drawn.taxableGain + drawn.traditional ≤ band.ceiling) ∧
      ∀ band, bandAt target.committedMagi = some band →
        target.committedMagi + drawn.taxable * ratio ≤ band.ceiling →
          target.committedMagi + drawn.taxableGain + drawn.traditional ≤ band.ceiling) ∧
    ∀ (prior : YearMagi K) (plannedSpending benefit : K) (accounts : List (Account K)) (age : ℕ)
        (ratio : K) (target : MagiTarget K), 0 ≤ ratio → 0 ≤ target.committedMagi →
      let committedMagi := target.committedMagi + benefit + max (prior.total - prior.wages) 0
      let fromPortfolio := max (plannedSpending - benefit) 0
      let balances := accounts.map (·.balance)
      overTheCeilingDraw accounts balances fromPortfolio age ratio
        (some { target with committedMagi }) = 0 →
      let drawn := (applyWithdrawalOrder accounts balances fromPortfolio age ratio
        (some { target with committedMagi })).1
      ∀ band, magiBandFor age target.retirementAge target.filingStatus target.householdSize
          (committedMagi + drawn.taxable * ratio) target.healthcare = some band →
        estimatedRetirementMagi prior plannedSpending benefit accounts age ratio (some target)
          ≤ band.ceiling := by
  refine ⟨?_, ?_, ?_⟩
  · intro age retirementAge filingStatus householdSize committed healthcare band hband
    obtain ⟨ceiling, hceiling, -⟩ := magiBandFor_some hband
    exact ⟨hceiling ▸ le_max_right _ _, credit_upTo hband, fun happlies magi h hmagi =>
      surcharge_upTo hband happlies h hmagi⟩
  · intro accounts balances amount age ratio target hratio hover drawn bandAt
    refine ⟨fun band hband => order_within hratio hover hband, fun band hband hgain => ?_⟩
    have hdrawn : 0 ≤ drawn.taxable :=
      (drawLoop_drawn .taxable ratio accounts balances (le_max_right amount 0)).1
    have hcommitted : target.committedMagi ≤ target.committedMagi + drawn.taxable * ratio :=
      le_add_of_nonneg_right (mul_nonneg hdrawn hratio)
    exact order_within hratio hover (magiBandFor_stable hband hcommitted hgain)
  · intro prior plannedSpending benefit accounts age ratio target hratio htarget committedMagi
      fromPortfolio balances hover drawn band hband
    have hwithin := order_within hratio hover hband
    have hestimate : estimatedRetirementMagi prior plannedSpending benefit accounts age ratio
        (some target) = max (prior.total - prior.wages) 0 + benefit + drawn.traditional
          + drawn.taxableGain := rfl
    rw [hestimate]
    change committedMagi + drawn.taxableGain + drawn.traditional ≤ band.ceiling at hwithin
    have hcommitted : max (prior.total - prior.wages) 0 + benefit ≤ committedMagi := by
      linarith
    linarith

/-- A single of 63 with benefits of 20,000 dollars who needs 60,000 more: the gain of the
taxable account counts, Traditional fills what is left under the cliff, and Roth pays the
rest. -/
theorem magiBand_safe_single :
    let accounts : List (Account ℚ) := [⟨.taxable, 30000, ⟨1, 0⟩, false⟩,
      ⟨.traditional, 100000, ⟨1, 0⟩, false⟩, ⟨.roth, 50000, ⟨1, 0⟩, false⟩]
    let target : MagiTarget ℚ := ⟨⟨600, 400, 0, 0⟩, 62, .single, 1, 20000⟩
    let drawn := (applyWithdrawalOrder accounts [30000, 100000, 50000] 60000 63 (1 / 2)
      (some target)).1
    drawn.roth = 2401 ∧ 20000 + drawn.taxableGain + drawn.traditional ≤ (62599 : ℚ) ∧
      (expectedPremiumContribution (62599 : ℚ) 1).isSome ∧
      irmaaAnnualSurcharge (62599 : ℚ) .single 1 = irmaaAnnualSurcharge 35000 .single 1 := by
  intro accounts target drawn
  obtain ⟨hband, horder, -⟩ := magiBand_safe (K := ℚ)
  have hread : magiBandFor 63 62 .single 1 (35000 : ℚ) target.healthcare = some ⟨15650, 62599⟩ := by
    decide +kernel
  have hsafe := hband 63 62 .single 1 35000 target.healthcare ⟨15650, 62599⟩ hread
  have hwithin := (horder accounts [30000, 100000, 50000] 60000 63 (1 / 2) target (by norm_num)
    (by decide +kernel)).1 ⟨15650, 62599⟩ (by decide +kernel)
  refine ⟨by decide +kernel, hwithin, ?_, ?_⟩
  · exact (hsafe.2.1 (by decide) (by decide +kernel)).2 62599 (by norm_num) le_rfl
  · exact hsafe.2.2 (by decide) 62599 (by norm_num) le_rfl 1

end RetirementPlanner.Engine
