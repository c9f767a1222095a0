import RetirementPlanner.Engine.Withdrawal
import RetirementPlanner.Lib.Waterfall
import Mathlib.Tactic

/-!
# What a withdrawal takes from the buckets

The draw loops on shadow balances take what a stage of a waterfall takes
(`drawLoop_spec`), so the whole withdrawal order is a waterfall over the buckets
(`applyWithdrawalOrder_spec`): Taxable, Traditional up to the room under the MAGI
ceiling (`traditionalCap`), Roth, the rest of Traditional, HSA. The lemmas on
committed draws (`withdrawInOrder_spec`) and on the single-bucket moves
(`drawFromBucket_spec`, `depositToBucket_spec`) say what happens to each type's
balance and to nothing else.
-/

namespace RetirementPlanner.Engine

open Waterfall

variable {K : Type*} [Field K] [LinearOrder K]

/-! ## Shadow balances -/

/-- Shadow balances of a list of accounts: one for each, none negative. -/
def Shadow (accounts : List (Account K)) (balances : List K) : Prop :=
  List.Forall₂ (fun _ balance => 0 ≤ balance) accounts balances

/-- What the accounts of one type hold on shadow balances. -/
def held (accountType : AccountType) : List (Account K) → List K → K
  | account :: accounts, balance :: balances =>
    (if account.accountType = accountType then balance else 0) + held accountType accounts balances
  | _, _ => 0

/-- No account is overdrawn. -/
def Solvent (accounts : List (Account K)) : Prop := ∀ account ∈ accounts, 0 ≤ account.balance

instance (accounts : List (Account K)) : Decidable (Solvent accounts) :=
  inferInstanceAs (Decidable (∀ account ∈ accounts, 0 ≤ account.balance))

theorem Solvent.shadow {accounts : List (Account K)} (h : Solvent accounts) :
    Shadow accounts (accounts.map (·.balance)) := by
  induction accounts with
  | nil => exact .nil
  | cons account accounts ih =>
    exact .cons (h account List.mem_cons_self)
      (ih fun a ha => h a (List.mem_cons_of_mem _ ha))

variable [IsStrictOrderedRing K]

theorem held_nonneg {accounts : List (Account K)} {balances : List K}
    (h : Shadow accounts balances) (t : AccountType) : 0 ≤ held t accounts balances := by
  induction h with
  | nil => exact le_rfl
  | cons hb _ ih =>
    rw [held]
    split
    · exact add_nonneg hb ih
    · rwa [zero_add]

omit [IsStrictOrderedRing K] in
theorem sum_eq_held {accounts : List (Account K)} {balances : List K}
    (h : Shadow accounts balances) :
    balances.sum = held .taxable accounts balances + held .traditional accounts balances
      + held .roth accounts balances + held .hsa accounts balances := by
  induction h with
  | nil => simp [held]
  | @cons account balance _ _ _ _ ih =>
    rw [List.sum_cons, ih]
    cases ht : account.accountType <;> simp [held, ht] <;> ring

theorem Shadow.sum_nonneg {accounts : List (Account K)} {balances : List K}
    (h : Shadow accounts balances) : 0 ≤ balances.sum := by
  rw [sum_eq_held h]
  exact add_nonneg (add_nonneg (add_nonneg (held_nonneg h _) (held_nonneg h _))
    (held_nonneg h _)) (held_nonneg h _)

omit [LinearOrder K] [IsStrictOrderedRing K] in
theorem balanceOfBucket_eq_held (accounts : List (Account K)) (t : AccountType) :
    balanceOfBucket accounts t = held t accounts (accounts.map (·.balance)) := by
  induction accounts with
  | nil => simp [balanceOfBucket, held]
  | cons account accounts ih =>
    rw [List.map_cons, held, ← ih]
    by_cases ht : account.accountType = t <;> simp [balanceOfBucket, ht]

omit [LinearOrder K] [IsStrictOrderedRing K] in
theorem totalBalance_eq (accounts : List (Account K)) :
    totalBalance accounts = balanceOfBucket accounts .taxable
      + balanceOfBucket accounts .traditional + balanceOfBucket accounts .roth
      + balanceOfBucket accounts .hsa := by
  simp only [balanceOfBucket_eq_held, totalBalance]
  induction accounts with
  | nil => simp [held]
  | cons account accounts ih =>
    rw [List.map_cons, List.sum_cons, ih]
    cases ht : account.accountType <;> simp [held, ht] <;> ring

theorem balanceOfBucket_nonneg {accounts : List (Account K)} (h : Solvent accounts)
    (t : AccountType) : 0 ≤ balanceOfBucket accounts t := by
  rw [balanceOfBucket_eq_held]
  exact held_nonneg h.shadow t

/-! ## One draw -/

/-- A draw of up to `limit` from one type: the balances it leaves and the dollars
it took. -/
structure Draws (accounts : List (Account K)) (balances : List K) (t : AccountType) (limit : K)
    (balances' : List K) (drawn : K) : Prop where
  shadow : Shadow accounts balances'
  drawn_eq : drawn = min limit (held t accounts balances)
  held_same : held t accounts balances' = held t accounts balances - drawn
  held_other : ∀ t', t' ≠ t → held t' accounts balances' = held t' accounts balances

theorem drawLoop_spec (t : AccountType) (gainRatio : K) {accounts : List (Account K)}
    {balances : List K} (h : Shadow accounts balances) {remaining : K} (hr : 0 ≤ remaining) :
    Draws accounts balances t remaining
      (drawLoop t gainRatio remaining accounts balances).balances
      (drawLoop t gainRatio remaining accounts balances).drawn := by
  induction h generalizing remaining with
  | nil => exact ⟨.nil, by simp [drawLoop, held, hr], by simp [drawLoop, held], by simp [drawLoop]⟩
  | @cons account balance accounts balances hb htail ih =>
    have hrest := held_nonneg htail t
    by_cases h0 : remaining ≤ 0
    · -- Nothing is wanted any more.
      have hzero : remaining = 0 := le_antisymm h0 hr
      rw [drawLoop, if_pos h0]
      refine ⟨.cons hb htail, ?_, (sub_zero _).symm, fun _ _ => rfl⟩
      rw [hzero, min_eq_left (held_nonneg (List.Forall₂.cons hb htail) t)]
    by_cases hskip : account.accountType ≠ t ∨ balance ≤ 0
    · -- An account of another type, or an empty one.
      have hzero : (if account.accountType = t then balance else 0) = 0 := by
        split
        · rename_i heq
          exact le_antisymm (hskip.resolve_left (not_not.mpr heq)) hb
        · rfl
      have hdraw := ih hr
      rw [drawLoop, if_neg h0, if_pos hskip]
      refine ⟨.cons hb hdraw.shadow, ?_, ?_, fun t' ht' => ?_⟩
      · rw [held, hzero, zero_add]
        exact hdraw.drawn_eq
      · rw [held, held, hzero, hdraw.held_same]
        ring
      · rw [held, held, hdraw.held_other t' ht']
    · obtain ⟨hsame, hpos⟩ := not_or.mp hskip
      have hsame := not_not.mp hsame
      have hleft : 0 ≤ remaining - min remaining balance := sub_nonneg.mpr (min_le_left _ _)
      have hdraw := ih hleft
      rw [drawLoop, if_neg h0, if_neg hskip]
      refine ⟨.cons (sub_nonneg.mpr (min_le_right _ _)) hdraw.shadow, ?_, ?_, fun t' ht' => ?_⟩
      · simp only [held, if_pos hsame, hdraw.drawn_eq]
        rcases le_total remaining balance with hle | hle
        · rw [min_eq_left hle, sub_self, min_eq_left hrest, min_eq_left (by linarith), add_zero]
        · rw [min_eq_right hle, ← min_add_add_left, add_sub_cancel]
      · simp only [held, if_pos hsame, hdraw.held_same]
        ring
      · simp only [held, hdraw.held_other t' ht', if_neg (hsame.trans_ne ht'.symm)]

theorem drawBucketBalances_spec {accounts : List (Account K)} {balances : List K}
    (h : Shadow accounts balances) (t : AccountType) (limit : K) :
    Draws accounts balances t (max limit 0) (drawBucketBalances accounts balances t limit).1
      (drawBucketBalances accounts balances t limit).2 :=
  drawLoop_spec t 0 h (le_max_right _ _)

theorem Draws.nonneg {accounts : List (Account K)} {balances balances' : List K} {t : AccountType}
    {limit drawn : K} (h : Shadow accounts balances)
    (hd : Draws accounts balances t limit balances' drawn) (hl : 0 ≤ limit) : 0 ≤ drawn := by
  rw [hd.drawn_eq]
  exact le_min hl (held_nonneg h t)

omit [IsStrictOrderedRing K] in
theorem Draws.sum_eq {accounts : List (Account K)} {balances balances' : List K} {t : AccountType}
    {limit drawn : K} (h : Shadow accounts balances)
    (hd : Draws accounts balances t limit balances' drawn) :
    balances'.sum = balances.sum - drawn := by
  rw [sum_eq_held hd.shadow, sum_eq_held h]
  have hsame := hd.held_same
  have hother := hd.held_other
  cases t with
  | taxable =>
    rw [hsame, hother .traditional (by decide), hother .roth (by decide), hother .hsa (by decide)]
    ring
  | traditional =>
    rw [hsame, hother .taxable (by decide), hother .roth (by decide), hother .hsa (by decide)]
    ring
  | roth =>
    rw [hsame, hother .taxable (by decide), hother .traditional (by decide),
      hother .hsa (by decide)]
    ring
  | hsa =>
    rw [hsame, hother .taxable (by decide), hother .traditional (by decide),
      hother .roth (by decide)]
    ring

/-- The gain a draw realizes is at most its share of the draw. -/
theorem drawLoop_gain (t : AccountType) {gainRatio : K} (hg : 0 ≤ gainRatio)
    (accounts : List (Account K)) (balances : List K) (remaining : K) :
    0 ≤ (drawLoop t gainRatio remaining accounts balances).gain ∧
      (drawLoop t gainRatio remaining accounts balances).gain
        ≤ (drawLoop t gainRatio remaining accounts balances).drawn * gainRatio := by
  induction accounts generalizing balances remaining with
  | nil => simp [drawLoop]
  | cons account accounts ih =>
    cases balances with
    | nil => simp [drawLoop]
    | cons balance balances =>
      by_cases h0 : remaining ≤ 0
      · simp [drawLoop, h0]
      by_cases hskip : account.accountType ≠ t ∨ balance ≤ 0
      · rw [drawLoop, if_neg h0, if_pos hskip]
        exact ih balances remaining
      · have hpos : 0 < balance := not_le.mp (not_or.mp hskip).2
        have hw : 0 ≤ min remaining balance * gainRatio :=
          mul_nonneg (le_min (not_le.mp h0).le hpos.le) hg
        have hih := ih balances (remaining - min remaining balance)
        rw [drawLoop, if_neg h0, if_neg hskip]
        refine ⟨add_nonneg (by split <;> [exact le_rfl; exact hw]) hih.1, ?_⟩
        have hfirst : (if account.isSurplusCash then 0 else min remaining balance * gainRatio)
            ≤ min remaining balance * gainRatio := by
          split <;> [exact hw; exact le_rfl]
        simp only [add_mul]
        exact add_le_add hfirst hih.2

/-- A larger draw realizes no smaller gain, and at most its share more. -/
theorem drawLoop_gain_mono (t : AccountType) {gainRatio : K} (hg : 0 ≤ gainRatio)
    (accounts : List (Account K)) (balances : List K) {r r' : K} (hr : r ≤ r') :
    (drawLoop t gainRatio r accounts balances).gain
        ≤ (drawLoop t gainRatio r' accounts balances).gain ∧
      (drawLoop t gainRatio r' accounts balances).gain
          - (drawLoop t gainRatio r accounts balances).gain
        ≤ ((drawLoop t gainRatio r' accounts balances).drawn
          - (drawLoop t gainRatio r accounts balances).drawn) * gainRatio := by
  induction accounts generalizing balances r r' with
  | nil => simp [drawLoop]
  | cons account accounts ih =>
    cases balances with
    | nil => simp [drawLoop]
    | cons balance balances =>
      by_cases h0 : r ≤ 0
      · have hgain := drawLoop_gain t hg (account :: accounts) (balance :: balances) r'
        rw [drawLoop, if_pos h0]
        simpa only [sub_zero] using hgain
      have h0' : ¬r' ≤ 0 := not_le.mpr ((not_le.mp h0).trans_le hr)
      by_cases hskip : account.accountType ≠ t ∨ balance ≤ 0
      · rw [drawLoop, drawLoop, if_neg h0, if_neg h0', if_pos hskip, if_pos hskip]
        exact ih balances hr
      · have hw : min r balance ≤ min r' balance := min_le_min hr le_rfl
        have hleft : r - min r balance ≤ r' - min r' balance := by
          rcases min_choice r' balance with hm | hm
          · rw [hm, sub_self, min_eq_left (hr.trans (min_eq_left_iff.mp hm)), sub_self]
          · rw [hm]
            rcases min_choice r balance with hm' | hm' <;> rw [hm']
            · linarith [min_eq_right_iff.mp hm]
            · linarith
        have hmul := mul_le_mul_of_nonneg_right hw hg
        obtain ⟨hmono, hslope⟩ := ih balances hleft
        rw [drawLoop, drawLoop, if_neg h0, if_neg h0', if_neg hskip, if_neg hskip]
        simp only
        rw [sub_mul, add_mul, add_mul]
        rw [sub_mul] at hslope
        split
        · exact ⟨by linarith, by linarith⟩
        · exact ⟨by linarith, by linarith⟩

/-! ## The withdrawal order -/

/-- What a withdrawal takes from a type. -/
def OrderedWithdrawal.of (drawn : OrderedWithdrawal K) : AccountType → K
  | .taxable => drawn.taxable
  | .traditional => drawn.traditional
  | .roth => drawn.roth
  | .hsa => drawn.hsa

/-- What the first Traditional stage may hold: the room under the MAGI ceiling once
Taxable is drawn dry, or all of Traditional without one. -/
def traditionalCap (accounts : List (Account K)) (balances : List K) (age : ℕ)
    (taxableGainRatio : K) (magiTarget : Option (MagiTarget K)) : K :=
  (traditionalHeadroom age taxableGainRatio (held .taxable accounts balances) magiTarget).elim
    (held .traditional accounts balances) (min · (held .traditional accounts balances))

omit [IsStrictOrderedRing K] in
theorem traditionalHeadroom_nonneg {age : ℕ} {ratio taxable room : K}
    {magiTarget : Option (MagiTarget K)}
    (h : traditionalHeadroom age ratio taxable magiTarget = some room) : 0 ≤ room := by
  simp only [traditionalHeadroom, Option.bind_eq_some_iff, Option.map_eq_some_iff] at h
  obtain ⟨_, _, _, _, rfl⟩ := h
  exact le_max_right _ _

theorem traditionalCap_nonneg {accounts : List (Account K)} {balances : List K}
    (h : Shadow accounts balances) (age : ℕ) (ratio : K) (magiTarget : Option (MagiTarget K)) :
    0 ≤ traditionalCap accounts balances age ratio magiTarget := by
  have htraditional := held_nonneg h .traditional
  rw [traditionalCap]
  cases hroom : traditionalHeadroom age ratio (held .taxable accounts balances) magiTarget with
  | none => exact htraditional
  | some room => exact le_min (traditionalHeadroom_nonneg hroom) htraditional

omit [IsStrictOrderedRing K] in
theorem traditionalCap_le (accounts : List (Account K)) (balances : List K) (age : ℕ) (ratio : K)
    (magiTarget : Option (MagiTarget K)) :
    traditionalCap accounts balances age ratio magiTarget
      ≤ held .traditional accounts balances := by
  rw [traditionalCap]
  cases traditionalHeadroom age ratio (held .taxable accounts balances) magiTarget with
  | none => exact le_rfl
  | some room => exact min_le_right _ _

/-- The withdrawal order as a waterfall over the buckets: Taxable, Traditional up
to `cap`, Roth, the rest of Traditional, HSA. -/
structure OrderSpec (accounts : List (Account K)) (balances : List K) (cap amount : K)
    (drawn : OrderedWithdrawal K) (balances' : List K) : Prop where
  shadow : Shadow accounts balances'
  taxable_eq : drawn.taxable = stage 0 (held .taxable accounts balances) amount
  traditional_eq : drawn.traditional
    = stage (held .taxable accounts balances) cap amount
      + stage (held .taxable accounts balances + cap + held .roth accounts balances)
        (held .traditional accounts balances - cap) amount
  roth_eq : drawn.roth = stage (held .taxable accounts balances + cap)
    (held .roth accounts balances) amount
  hsa_eq : drawn.hsa = stage (held .taxable accounts balances + held .traditional accounts balances
    + held .roth accounts balances) (held .hsa accounts balances) amount
  total_eq : drawn.total = drawn.taxable + drawn.traditional + drawn.roth + drawn.hsa
  held_eq : ∀ t, held t accounts balances' = held t accounts balances - drawn.of t

/-- A draw of what the stages before let through is a stage of the waterfall, and
leaves the rest for the stages after it. -/
theorem Draws.stage_eq {accounts : List (Account K)} {balances balances' : List K} {t : AccountType}
    {remaining drawn before amount : K} (hd : Draws accounts balances t remaining balances' drawn)
    (h : Shadow accounts balances) (hr : remaining = max (amount - before) 0) :
    drawn = stage before (held t accounts balances) amount ∧
      remaining - drawn = max (amount - (before + held t accounts balances)) 0 := by
  have hdrawn : drawn = stage before (held t accounts balances) amount := by
    rw [hd.drawn_eq, hr, stage]
  exact ⟨hdrawn, by rw [hdrawn, hr, sub_stage (held_nonneg h t)]⟩

/-- The first Traditional stage: what Taxable lets through, up to the cap. Only a
draw that empties Taxable lets anything through, so the room under the ceiling
does not depend on the amount. -/
theorem cappedDraw_eq {accounts : List (Account K)} {balances balances₁ balances₂ : List K}
    (h : Shadow accounts balances) {amount taxable capped ratio : K} {age : ℕ}
    {magiTarget : Option (MagiTarget K)} (h0 : 0 ≤ amount)
    (h₁ : Draws accounts balances .taxable amount balances₁ taxable)
    (h₂ : Draws accounts balances₁ .traditional
      (max ((traditionalHeadroom age ratio taxable magiTarget).elim (amount - taxable)
        (min (amount - taxable) ·)) 0) balances₂ capped) :
    capped = stage (held .taxable accounts balances)
      (traditionalCap accounts balances age ratio magiTarget) amount := by
  obtain ⟨-, hleft⟩ := h₁.stage_eq h
    (by rw [sub_zero, max_eq_left h0] : amount = max (amount - 0) 0)
  rw [zero_add] at hleft
  have hcap0 := traditionalCap_nonneg h age ratio magiTarget
  have hnn : 0 ≤ amount - taxable := hleft ▸ le_max_right _ _
  rw [h₂.drawn_eq, h₁.held_other _ (by decide), stage, ← hleft]
  rcases hnn.eq_or_lt with hzero | hpos
  · have hlimit : (traditionalHeadroom age ratio taxable magiTarget).elim (amount - taxable)
        (min (amount - taxable) ·) = 0 := by
      rw [← hzero]
      cases hroom : traditionalHeadroom age ratio taxable magiTarget with
      | none => rfl
      | some room => exact min_eq_left (traditionalHeadroom_nonneg hroom)
    rw [hlimit, max_self, ← hzero, min_eq_left hcap0, min_eq_left (held_nonneg h _)]
  · have hdry : taxable = held .taxable accounts balances := by
      rw [h₁.drawn_eq]
      refine min_eq_right (le_of_lt ?_)
      by_contra hle
      rw [hleft, max_eq_right (by linarith [not_lt.mp hle])] at hpos
      exact lt_irrefl _ hpos
    rw [traditionalCap, ← hdry]
    cases hroom : traditionalHeadroom age ratio taxable magiTarget with
    | none => simp only [Option.elim_none, max_eq_left hnn]
    | some room =>
      simp only [Option.elim_some]
      rw [max_eq_left (le_min hnn (traditionalHeadroom_nonneg hroom)), min_assoc]

/-- The second Traditional stage: what Roth lets through, up to what the cap left.
Only an amount that fills the cap lets anything through. -/
theorem overDraw_eq {accounts : List (Account K)} {balances balances' : List K}
    {amount before cap roth traditional remaining capped rest : K} (hroth : 0 ≤ roth)
    (hcap : 0 ≤ cap) (hle : cap ≤ traditional) (hcapped : capped = stage before cap amount)
    (hr : remaining = max (amount - (before + cap + roth)) 0)
    (hheld : held .traditional accounts balances = traditional - capped)
    (hd : Draws accounts balances .traditional remaining balances' rest) :
    rest = stage (before + cap + roth) (traditional - cap) amount := by
  rw [hd.drawn_eq, hheld, stage, ← hr]
  have hnn : 0 ≤ remaining := hr ▸ le_max_right _ _
  rcases hnn.eq_or_lt with hzero | hpos
  · have hcap' : capped ≤ cap := hcapped ▸ stage_le_capacity _ _ _
    rw [← hzero, min_eq_left (by linarith), min_eq_left (by linarith)]
  · have hpast : before + cap + roth < amount := by
      by_contra hnot
      rw [hr, max_eq_right (by linarith [not_lt.mp hnot])] at hpos
      exact lt_irrefl _ hpos
    have hfull : capped = cap := by
      rw [hcapped, stage, max_eq_left (by linarith)]
      exact min_eq_right (by linarith)
    rw [hfull]

theorem applyWithdrawalOrder_spec {accounts : List (Account K)} {balances : List K}
    (h : Shadow accounts balances) (amount : K) (age : ℕ) (ratio : K)
    (magiTarget : Option (MagiTarget K)) :
    OrderSpec accounts balances (traditionalCap accounts balances age ratio magiTarget)
      (max amount 0) (applyWithdrawalOrder accounts balances amount age ratio magiTarget).1
      (applyWithdrawalOrder accounts balances amount age ratio magiTarget).2 := by
  have hcap0 := traditionalCap_nonneg h age ratio magiTarget
  have hcapR := traditionalCap_le accounts balances age ratio magiTarget
  set cap := traditionalCap accounts balances age ratio magiTarget with hcap
  set a := max amount 0 with ha
  have ha0 : 0 ≤ a := le_max_right _ _
  simp only [applyWithdrawalOrder, ← ha]
  have h1 := drawLoop_spec .taxable ratio h ha0
  set d1 := drawLoop .taxable ratio a accounts balances
  obtain ⟨t1, r1⟩ := h1.stage_eq h (by rw [sub_zero, max_eq_left ha0] : a = max (a - 0) 0)
  rw [zero_add] at r1
  have h2 := drawBucketBalances_spec h1.shadow .traditional
    ((traditionalHeadroom age ratio d1.drawn magiTarget).elim (a - d1.drawn)
      (min (a - d1.drawn) ·))
  set d2 := drawBucketBalances accounts d1.balances .traditional _
  have t2 : d2.2 = stage (held .taxable accounts balances) cap a := cappedDraw_eq h ha0 h1 h2
  have r2 : a - d1.drawn - d2.2 = max (a - (held .taxable accounts balances + cap)) 0 := by
    rw [t2, r1, sub_stage hcap0]
  have h3 := drawBucketBalances_spec h2.shadow .roth (a - d1.drawn - d2.2)
  set d3 := drawBucketBalances accounts d2.1 .roth (a - d1.drawn - d2.2)
  rw [max_eq_left (r2 ▸ le_max_right _ _)] at h3
  obtain ⟨t3, r3⟩ := h3.stage_eq h2.shadow r2
  rw [h2.held_other .roth (by decide), h1.held_other .roth (by decide)] at t3 r3
  have h4 := drawBucketBalances_spec h3.shadow .traditional (a - d1.drawn - d2.2 - d3.2)
  set d4 := drawBucketBalances accounts d3.1 .traditional (a - d1.drawn - d2.2 - d3.2)
  rw [max_eq_left (r3 ▸ le_max_right _ _)] at h4
  have hleft : held .traditional accounts d3.1 = held .traditional accounts balances - d2.2 := by
    rw [h3.held_other _ (by decide), h2.held_same, h1.held_other _ (by decide)]
  have t4 := overDraw_eq (held_nonneg h _) hcap0 hcapR t2 r3 hleft h4
  have r4 : a - d1.drawn - d2.2 - d3.2 - d4.2 = max (a - (held .taxable accounts balances
      + held .traditional accounts balances + held .roth accounts balances)) 0 := by
    rw [t4, r3, sub_stage (sub_nonneg.mpr hcapR)]
    congr 2
    ring
  have h5 := drawBucketBalances_spec h4.shadow .hsa (a - d1.drawn - d2.2 - d3.2 - d4.2)
  set d5 := drawBucketBalances accounts d4.1 .hsa (a - d1.drawn - d2.2 - d3.2 - d4.2)
  rw [max_eq_left (r4 ▸ le_max_right _ _)] at h5
  obtain ⟨t5, -⟩ := h5.stage_eq h4.shadow r4
  rw [h4.held_other .hsa (by decide), h3.held_other .hsa (by decide),
    h2.held_other .hsa (by decide), h1.held_other .hsa (by decide)] at t5
  refine ⟨h5.shadow, t1, congrArg₂ (· + ·) t2 t4, t3, t5, rfl, fun t => ?_⟩
  cases t with
  | taxable =>
    rw [h5.held_other _ (by decide), h4.held_other _ (by decide), h3.held_other _ (by decide),
      h2.held_other _ (by decide), h1.held_same]
    rfl
  | traditional =>
    rw [h5.held_other _ (by decide), h4.held_same, hleft, sub_sub]
    rfl
  | roth =>
    rw [h5.held_other _ (by decide), h4.held_other _ (by decide), h3.held_same,
      h2.held_other _ (by decide), h1.held_other _ (by decide)]
    rfl
  | hsa =>
    rw [h5.held_same, h4.held_other _ (by decide), h3.held_other _ (by decide),
      h2.held_other _ (by decide), h1.held_other _ (by decide)]
    rfl

/-- In all, the order takes the amount or everything there is. -/
theorem OrderSpec.total_stage {accounts : List (Account K)} {balances balances' : List K}
    {cap amount : K} {drawn : OrderedWithdrawal K} (h : Shadow accounts balances)
    (hcap : 0 ≤ cap) (hle : cap ≤ held .traditional accounts balances)
    (hs : OrderSpec accounts balances cap amount drawn balances') :
    drawn.total = stage 0 balances.sum amount := by
  have hT := held_nonneg h .taxable
  have hR := sub_nonneg.mpr hle
  have hO := held_nonneg h .roth
  have hH := held_nonneg h .hsa
  -- The five stages, joined one after another.
  have e1 := stage_add 0 hT hcap amount
  have e2 := stage_add 0 (add_nonneg hT hcap) hO amount
  have e3 := stage_add 0 (add_nonneg (add_nonneg hT hcap) hO) hR amount
  have e4 := stage_add 0 (add_nonneg (add_nonneg (add_nonneg hT hcap) hO) hR) hH amount
  simp only [zero_add] at e1 e2 e3 e4
  have hsum : balances.sum = held .taxable accounts balances + cap + held .roth accounts balances
      + (held .traditional accounts balances - cap) + held .hsa accounts balances := by
    rw [sum_eq_held h]
    ring
  have hbefore : held .taxable accounts balances + cap + held .roth accounts balances
      + (held .traditional accounts balances - cap) = held .taxable accounts balances
      + held .traditional accounts balances + held .roth accounts balances := by ring
  rw [hs.total_eq, hs.taxable_eq, hs.traditional_eq, hs.roth_eq, hs.hsa_eq, hsum, ← e4, ← hbefore,
    ← e3, ← e2, ← e1]
  ring

omit [IsStrictOrderedRing K] in
theorem OrderSpec.sum_eq {accounts : List (Account K)} {balances balances' : List K}
    {cap amount : K} {drawn : OrderedWithdrawal K} (h : Shadow accounts balances)
    (hs : OrderSpec accounts balances cap amount drawn balances') :
    balances'.sum = balances.sum - drawn.total := by
  rw [sum_eq_held hs.shadow, sum_eq_held h, hs.held_eq, hs.held_eq, hs.held_eq, hs.held_eq,
    hs.total_eq]
  simp only [OrderedWithdrawal.of]
  ring

theorem OrderSpec.of_nonneg {accounts : List (Account K)} {balances balances' : List K}
    {cap amount : K} {drawn : OrderedWithdrawal K} (h : Shadow accounts balances)
    (hcap : 0 ≤ cap) (hle : cap ≤ held .traditional accounts balances)
    (hs : OrderSpec accounts balances cap amount drawn balances') (t : AccountType) :
    0 ≤ drawn.of t := by
  cases t with
  | taxable => exact (stage_nonneg _ (held_nonneg h _) _).trans_eq hs.taxable_eq.symm
  | traditional =>
    exact (add_nonneg (stage_nonneg _ hcap _) (stage_nonneg _ (sub_nonneg.mpr hle) _)).trans_eq
      hs.traditional_eq.symm
  | roth => exact (stage_nonneg _ (held_nonneg h _) _).trans_eq hs.roth_eq.symm
  | hsa => exact (stage_nonneg _ (held_nonneg h _) _).trans_eq hs.hsa_eq.symm

/-! ## Committed balances -/

/-- One account for each type, none overdrawn. -/
structure Buckets (accounts : List (Account K)) : Prop where
  solvent : Solvent accounts
  nodup : (accounts.map (·.accountType)).Nodup

omit [Field K] [LinearOrder K] [IsStrictOrderedRing K] in
theorem map_accountType_writeBalances (accounts : List (Account K)) (balances : List K) :
    (writeBalances accounts balances).map (·.accountType) = accounts.map (·.accountType) := by
  induction accounts generalizing balances with
  | nil => cases balances <;> rfl
  | cons account accounts ih =>
    cases balances with
    | nil => rfl
    | cons balance balances => simp [writeBalances, ih]

omit [IsStrictOrderedRing K] in
theorem map_balance_writeBalances {accounts : List (Account K)} {balances : List K}
    (h : Shadow accounts balances) :
    (writeBalances accounts balances).map (·.balance) = balances := by
  induction h with
  | nil => rfl
  | cons _ _ ih => simp [writeBalances, ih]

omit [IsStrictOrderedRing K] in
theorem balanceOfBucket_writeBalances {accounts : List (Account K)} {balances : List K}
    (h : Shadow accounts balances) (t : AccountType) :
    balanceOfBucket (writeBalances accounts balances) t = held t accounts balances := by
  rw [balanceOfBucket_eq_held, map_balance_writeBalances h]
  induction h with
  | nil => rfl
  | cons _ _ ih => simp [writeBalances, held, ih]

omit [IsStrictOrderedRing K] in
theorem solvent_writeBalances {accounts : List (Account K)} {balances : List K}
    (h : Shadow accounts balances) : Solvent (writeBalances accounts balances) := by
  induction h with
  | nil => exact fun _ hmem => absurd hmem List.not_mem_nil
  | cons hb _ ih => exact List.forall_mem_cons.mpr ⟨hb, ih⟩

omit [IsStrictOrderedRing K] in
theorem Buckets.writeBalances {accounts : List (Account K)} {balances : List K}
    (hb : Buckets accounts) (h : Shadow accounts balances) :
    Buckets (writeBalances accounts balances) :=
  ⟨solvent_writeBalances h, by rw [map_accountType_writeBalances]; exact hb.nodup⟩

/-- What a committed withdrawal does: each type's balance falls by what was drawn
from it, and in all the amount is raised or the portfolio is empty. -/
structure WithdrawSpec (accounts : List (Account K)) (amount : K) (drawn : OrderedWithdrawal K)
    (accounts' : List (Account K)) : Prop where
  buckets : Buckets accounts'
  of_nonneg : ∀ t, 0 ≤ drawn.of t
  balance_eq : ∀ t, balanceOfBucket accounts' t = balanceOfBucket accounts t - drawn.of t
  total_eq : drawn.total = drawn.taxable + drawn.traditional + drawn.roth + drawn.hsa
  total_min : drawn.total = min (max amount 0) (totalBalance accounts)

theorem withdrawInOrder_spec {accounts : List (Account K)} (hb : Buckets accounts) (amount : K)
    (age : ℕ) (ratio : K) (magiTarget : Option (MagiTarget K)) :
    WithdrawSpec accounts amount (withdrawInOrder accounts amount age ratio magiTarget).1
      (withdrawInOrder accounts amount age ratio magiTarget).2 := by
  have h := hb.solvent.shadow
  have hspec := applyWithdrawalOrder_spec h amount age ratio magiTarget
  have hcap := traditionalCap_nonneg h age ratio magiTarget
  have hle := traditionalCap_le accounts (accounts.map (·.balance)) age ratio magiTarget
  refine ⟨hb.writeBalances hspec.shadow, hspec.of_nonneg h hcap hle, fun t => ?_,
    hspec.total_eq, ?_⟩
  · rw [balanceOfBucket_eq_held accounts]
    exact (balanceOfBucket_writeBalances hspec.shadow t).trans (hspec.held_eq t)
  · have htotal := hspec.total_stage h hcap hle
    rwa [stage, sub_zero, max_eq_left (le_max_right _ _)] at htotal

/-! ## Single buckets -/

/-- One type's balance moves by `delta` and nothing else does. -/
structure Shifts (accounts : List (Account K)) (t : AccountType) (delta : K)
    (accounts' : List (Account K)) : Prop where
  buckets : Buckets accounts'
  same : balanceOfBucket accounts' t = balanceOfBucket accounts t + delta
  other : ∀ t', t' ≠ t → balanceOfBucket accounts' t' = balanceOfBucket accounts t'

omit [IsStrictOrderedRing K] in
theorem Shifts.totalBalance {accounts accounts' : List (Account K)} {t : AccountType} {delta : K}
    (h : Shifts accounts t delta accounts') :
    totalBalance accounts' = totalBalance accounts + delta := by
  rw [totalBalance_eq, totalBalance_eq]
  cases t with
  | taxable =>
    rw [h.same, h.other _ (by decide), h.other _ (by decide), h.other _ (by decide)]
    ring
  | traditional =>
    rw [h.same, h.other _ (by decide), h.other _ (by decide), h.other _ (by decide)]; ring
  | roth => rw [h.same, h.other _ (by decide), h.other _ (by decide), h.other _ (by decide)]; ring
  | hsa => rw [h.same, h.other _ (by decide), h.other _ (by decide), h.other _ (by decide)]; ring

omit [IsStrictOrderedRing K] in
theorem Shifts.refl {accounts : List (Account K)} (hb : Buckets accounts) (t : AccountType) :
    Shifts accounts t 0 accounts :=
  ⟨hb, (add_zero _).symm, fun _ _ => rfl⟩

omit [Field K] [LinearOrder K] [IsStrictOrderedRing K] in
theorem map_accountType_setBucketBalance (t : AccountType) (balance : K)
    (accounts : List (Account K)) :
    (setBucketBalance t balance accounts).map (·.accountType) = accounts.map (·.accountType) := by
  induction accounts with
  | nil => rfl
  | cons account accounts ih =>
    by_cases ht : account.accountType = t <;> simp [setBucketBalance, ht, ih]

omit [LinearOrder K] [IsStrictOrderedRing K] in
theorem balanceOfBucket_cons (account : Account K) (accounts : List (Account K)) (t : AccountType) :
    balanceOfBucket (account :: accounts) t
      = (if account.accountType = t then account.balance else 0) + balanceOfBucket accounts t := by
  by_cases ht : account.accountType = t <;> simp [balanceOfBucket, ht]

omit [IsStrictOrderedRing K] in
theorem setBucketBalance_spec {accounts : List (Account K)} {t : AccountType} {bucket : Account K}
    (hb : Buckets accounts) (hfind : accounts.find? (·.accountType = t) = some bucket)
    {balance : K} (hbalance : 0 ≤ balance) :
    Shifts accounts t (balance - bucket.balance) (setBucketBalance t balance accounts) := by
  have htypes := map_accountType_setBucketBalance t balance accounts
  refine ⟨⟨?_, by rw [htypes]; exact hb.nodup⟩, ?_, fun t' ht' => ?_⟩
  · clear hfind htypes
    have hs := hb.solvent
    clear hb
    induction accounts with
    | nil => exact hs
    | cons account accounts ih =>
      obtain ⟨h1, h2⟩ := List.forall_mem_cons.mp hs
      rw [setBucketBalance]
      split
      · exact List.forall_mem_cons.mpr ⟨hbalance, h2⟩
      · exact List.forall_mem_cons.mpr ⟨h1, ih h2⟩
  · clear hb htypes
    induction accounts with
    | nil => cases hfind
    | cons account accounts ih =>
      rw [setBucketBalance, balanceOfBucket_cons]
      by_cases ht : account.accountType = t
      · rw [List.find?_cons_of_pos (by simpa using ht)] at hfind
        cases hfind
        rw [if_pos ht, if_pos ht, balanceOfBucket_cons, if_pos ht]
        ring
      · rw [List.find?_cons_of_neg (by simpa using ht)] at hfind
        rw [if_neg ht, if_neg ht, balanceOfBucket_cons, if_neg ht, ih hfind]
        ring
  · clear hb htypes hfind
    induction accounts with
    | nil => rfl
    | cons account accounts ih =>
      rw [setBucketBalance, balanceOfBucket_cons]
      by_cases ht : account.accountType = t
      · rw [if_pos ht, balanceOfBucket_cons, if_neg (ht.trans_ne ht'.symm),
          if_neg (ht.trans_ne ht'.symm)]
      · rw [if_neg ht, balanceOfBucket_cons, ih]

omit [LinearOrder K] [IsStrictOrderedRing K] in
/-- With one account for each type, a type's balance is that account's. -/
theorem balanceOfBucket_of_find {accounts : List (Account K)} {t : AccountType}
    {bucket : Account K} (hnodup : (accounts.map (·.accountType)).Nodup)
    (hfind : accounts.find? (·.accountType = t) = some bucket) :
    balanceOfBucket accounts t = bucket.balance := by
  induction accounts with
  | nil => cases hfind
  | cons account accounts ih =>
    rw [List.map_cons, List.nodup_cons] at hnodup
    rw [balanceOfBucket_cons]
    by_cases ht : account.accountType = t
    · rw [List.find?_cons_of_pos (by simpa using ht)] at hfind
      cases hfind
      have hnone : accounts.filter (·.accountType = t) = [] := by
        refine List.filter_eq_nil_iff.mpr fun a ha => ?_
        simp only [decide_eq_true_eq]
        exact fun hat => hnodup.1 (List.mem_map.mpr ⟨a, ha, hat.trans ht.symm⟩)
      rw [if_pos ht, balanceOfBucket, hnone, List.map_nil, List.sum_nil, add_zero]
    · rw [List.find?_cons_of_neg (by simpa using ht)] at hfind
      rw [if_neg ht, ih hnodup.2 hfind, zero_add]

omit [LinearOrder K] [IsStrictOrderedRing K] in
theorem balanceOfBucket_of_find_none {accounts : List (Account K)} {t : AccountType}
    (hfind : accounts.find? (·.accountType = t) = none) : balanceOfBucket accounts t = 0 := by
  rw [List.find?_eq_none] at hfind
  rw [balanceOfBucket, List.filter_eq_nil_iff.mpr hfind, List.map_nil, List.sum_nil]

/-- A draw from one bucket takes the amount, or what the bucket holds. -/
theorem drawFromBucket_spec {accounts : List (Account K)} (hb : Buckets accounts) (t : AccountType)
    {amount : K} (ha : 0 ≤ amount) (hle : amount ≤ balanceOfBucket accounts t) :
    Shifts accounts t (-amount) (drawFromBucket accounts t amount).1 := by
  rw [drawFromBucket]
  rcases ha.eq_or_lt with rfl | hpos
  · rw [if_pos le_rfl, neg_zero]
    exact Shifts.refl hb t
  rw [if_neg hpos.not_ge]
  cases hfind : accounts.find? (·.accountType = t) with
  | none =>
    rw [balanceOfBucket_of_find_none hfind] at hle
    exact absurd hle hpos.not_ge
  | some bucket =>
    rw [balanceOfBucket_of_find hb.nodup hfind] at hle
    have hs := setBucketBalance_spec hb hfind (sub_nonneg.mpr hle)
    simp only [min_eq_left hle]
    rwa [sub_sub_cancel_left] at hs

/-- A deposit adds its amount to one bucket, which it opens if need be, and comes
back as what was deposited. -/
theorem depositToBucket_spec {accounts : List (Account K)} (hb : Buckets accounts)
    (t : AccountType) (amount : K) :
    Shifts accounts t (max amount 0) (depositToBucket accounts t amount).1 ∧
      (depositToBucket accounts t amount).2 = max amount 0 := by
  rw [depositToBucket]
  rcases le_or_gt amount 0 with hle | hpos
  · rw [if_pos hle, max_eq_right hle]
    exact ⟨Shifts.refl hb t, rfl⟩
  rw [if_neg hpos.not_ge, max_eq_left hpos.le]
  cases hfind : accounts.find? (·.accountType = t) with
  | some bucket =>
    have hbucket : 0 ≤ bucket.balance := hb.solvent bucket (List.mem_of_find?_eq_some hfind)
    have hs := setBucketBalance_spec hb hfind (add_nonneg hbucket hpos.le)
    rw [add_sub_cancel_left] at hs
    exact ⟨hs, rfl⟩
  | none =>
    refine ⟨⟨⟨?_, ?_⟩, ?_, fun t' ht' => ?_⟩, rfl⟩
    · intro account hmem
      rcases List.mem_append.mp hmem with hmem | hmem
      · exact hb.solvent account hmem
      · rw [List.mem_singleton.mp hmem]
        exact hpos.le
    · rw [List.map_append, List.map_singleton, List.nodup_append]
      refine ⟨hb.nodup, List.nodup_singleton _, fun a ha b hmem => ?_⟩
      obtain ⟨account, hacc, rfl⟩ := List.mem_map.mp ha
      rw [List.mem_singleton.mp hmem]
      rw [List.find?_eq_none] at hfind
      simpa using hfind account hacc
    · simp [balanceOfBucket]
    · simp [balanceOfBucket, ht'.symm]

end RetirementPlanner.Engine
