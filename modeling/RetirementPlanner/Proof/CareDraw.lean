import RetirementPlanner.Lib.Interpolation
import RetirementPlanner.Proof.Amounts

/-!
# The care draw inverts its distribution

Over adjoining buckets the loop of `invert_closed_buckets` is a climb in steps
(`invertClosedBuckets_some`, `invertClosedBuckets_none`), and the open-ended tails start
where the buckets end. So the cost and the years of an episode are sums of a climb and a
tail, both of which rise and are continuous (`spendingFor_eq`, `yearsFor_eq`):
`drawEpisode_monotone`.
-/

namespace RetirementPlanner.Engine

open Interpolation

variable {K : Type*} [Field K] [LinearOrder K]

/-! ## Adjoining buckets -/

/-- Each bucket starts where the one before it ends, with some probability in it. -/
def Adjoining (start lower : ℚ) : List ℚ → List (ℚ × ℚ) → Prop
  | [], [] => True
  | upper :: cumulative, (low, high) :: buckets =>
    low = start ∧ low ≤ high ∧ lower < upper ∧ Adjoining high upper cumulative buckets
  | _, _ => False

instance decidableAdjoining : ∀ (start lower : ℚ) (cumulative : List ℚ) (buckets : List (ℚ × ℚ)),
    Decidable (Adjoining start lower cumulative buckets)
  | _, _, [], [] => .isTrue trivial
  | start, lower, upper :: cumulative, (low, high) :: buckets =>
    have := decidableAdjoining high upper cumulative buckets
    inferInstanceAs (Decidable (low = start ∧ low ≤ high ∧ lower < upper ∧
      Adjoining high upper cumulative buckets))
  | _, _, [], _ :: _ => .isFalse id
  | _, _, _ :: _, [] => .isFalse id

/-- The closed buckets as steps. -/
def bucketSteps (K : Type*) [Field K] (lower : ℚ) : List ℚ → List (ℚ × ℚ) → List (Step K)
  | upper :: cumulative, (low, high) :: buckets =>
    ⟨(lower : K), (upper : K), ((high - low : ℚ) : K)⟩ :: bucketSteps K upper cumulative buckets
  | _, _ => []

/-- How far the closed buckets reach. -/
def reach (buckets : List (ℚ × ℚ)) : ℚ := (buckets.map fun b => b.2 - b.1).sum

omit [Field K] [LinearOrder K] in
/-- Induction over adjoining buckets, with the mass they hold. -/
@[elab_as_elim]
theorem Adjoining.induction
    {motive : ∀ start lower cumulative buckets, Adjoining start lower cumulative buckets → Prop}
    (nil : ∀ start lower, motive start lower [] [] trivial)
    (cons : ∀ start high lower upper cumulative buckets (hle : start ≤ high) (hlt : lower < upper)
      (hrest : Adjoining high upper cumulative buckets),
      motive high upper cumulative buckets hrest →
      motive start lower (upper :: cumulative) ((start, high) :: buckets) ⟨rfl, hle, hlt, hrest⟩)
    {start lower : ℚ} {cumulative : List ℚ} {buckets : List (ℚ × ℚ)}
    (h : Adjoining start lower cumulative buckets) : motive start lower cumulative buckets h := by
  induction cumulative generalizing start lower buckets with
  | nil =>
    cases buckets with
    | nil => exact nil start lower
    | cons bucket buckets => exact h.elim
  | cons upper cumulative ih =>
    cases buckets with
    | nil => exact h.elim
    | cons bucket buckets =>
      obtain ⟨rfl, hle, hlt, hrest⟩ := h
      exact cons bucket.1 bucket.2 lower upper cumulative buckets hle hlt hrest (ih hrest)

variable [IsStrictOrderedRing K]

theorem bucketSteps_rising {start lower : ℚ} {cumulative : List ℚ} {buckets : List (ℚ × ℚ)}
    (h : Adjoining start lower cumulative buckets) :
    ∀ s ∈ bucketSteps K lower cumulative buckets, s.Rising ∧ (lower : K) ≤ s.lo := by
  induction h using Adjoining.induction with
  | nil start lower =>
    intro s hs
    simp [bucketSteps] at hs
  | cons start high lower upper cumulative buckets hle hlt hrest ih =>
    have hlt' : (lower : K) < (upper : K) := by exact_mod_cast hlt
    intro s hs
    rcases List.mem_cons.mp hs with rfl | hs
    · have hheight : (0 : K) ≤ ((high - start : ℚ) : K) := by
        exact_mod_cast sub_nonneg.mpr hle
      exact ⟨⟨hlt', hheight⟩, le_rfl⟩
    · obtain ⟨hrising, hlo⟩ := ih s hs
      exact ⟨hrising, hlt'.le.trans hlo⟩

theorem sum_height_bucketSteps {start lower : ℚ} {cumulative : List ℚ} {buckets : List (ℚ × ℚ)}
    (h : Adjoining start lower cumulative buckets) :
    ((bucketSteps K lower cumulative buckets).map (·.height)).sum = (reach buckets : K) := by
  induction h using Adjoining.induction with
  | nil start lower => simp [bucketSteps, reach]
  | cons start high lower upper cumulative buckets hle hlt hrest ih =>
    simp only [bucketSteps, reach, List.map_cons, List.sum_cons] at ih ⊢
    rw [ih]
    push_cast
    ring

omit [Field K] [LinearOrder K] [IsStrictOrderedRing K] in
theorem Adjoining.le_last {start lower : ℚ} {cumulative : List ℚ} {buckets : List (ℚ × ℚ)}
    (h : Adjoining start lower cumulative buckets) : lower ≤ cumulative.getLastD lower := by
  induction h using Adjoining.induction with
  | nil start lower => exact le_rfl
  | cons start high lower upper cumulative buckets hle hlt hrest ih =>
    rw [List.getLastD_cons]
    exact hlt.le.trans ih

/-- Inverting inside the closed buckets is climbing their steps. -/
theorem invertClosedBuckets_some {quantile : K} {start lower : ℚ} {cumulative : List ℚ}
    {buckets : List (ℚ × ℚ)} (h : Adjoining start lower cumulative buckets)
    (hlower : (lower : K) ≤ quantile) {v : K}
    (hsome : invertClosedBuckets quantile lower cumulative buckets = some v) :
    v = start + climb (bucketSteps K lower cumulative buckets) quantile ∧
      quantile ≤ (cumulative.getLastD lower : K) := by
  induction h using Adjoining.induction with
  | nil start lower => simp [invertClosedBuckets] at hsome
  | cons start high lower upper cumulative buckets hle hlt hrest ih =>
    have hlt' : (lower : K) < (upper : K) := by exact_mod_cast hlt
    rw [invertClosedBuckets] at hsome
    rw [List.getLastD_cons, bucketSteps, climb_cons]
    split at hsome
    · -- The steps ahead add nothing.
      rename_i hinside
      cases hsome
      have hahead : climb (bucketSteps K upper cumulative buckets) quantile = 0 :=
        climb_of_before (fun s hs => (bucketSteps_rising hrest s hs).1)
          fun s hs => hinside.le.trans (bucketSteps_rising hrest s hs).2
      have hmass : (0 : K) < ((upper - lower : ℚ) : K) := by
        exact_mod_cast sub_pos.mpr hlt
      have hlast : (upper : K) ≤ (cumulative.getLastD upper : K) := by
        exact_mod_cast hrest.le_last
      refine ⟨?_, hinside.le.trans hlast⟩
      rw [hahead, add_zero, if_pos hmass, position_of_between hlower hinside.le hlt',
        Rat.cast_sub]
    · rename_i hpast
      have hpast := not_lt.mp hpast
      obtain ⟨hv, hlast⟩ := ih hpast hsome
      refine ⟨?_, hlast⟩
      rw [hv, position_of_past hpast hlt', one_mul, Rat.cast_sub]
      ring

/-- Past the closed buckets every step is climbed. -/
theorem invertClosedBuckets_none {quantile : K} {start lower : ℚ} {cumulative : List ℚ}
    {buckets : List (ℚ × ℚ)} (h : Adjoining start lower cumulative buckets)
    (hnone : invertClosedBuckets quantile lower cumulative buckets = none) :
    climb (bucketSteps K lower cumulative buckets) quantile = (reach buckets : K) := by
  induction h using Adjoining.induction with
  | nil start lower => simp [bucketSteps, reach]
  | cons start high lower upper cumulative buckets hle hlt hrest ih =>
    have hlt' : (lower : K) < (upper : K) := by exact_mod_cast hlt
    rw [invertClosedBuckets] at hnone
    split at hnone
    · cases hnone
    · rename_i hpast
      have hclimbed := ih hnone
      simp only [bucketSteps, climb_cons, reach, List.map_cons, List.sum_cons] at hclimbed ⊢
      rw [hclimbed, position_of_past (not_lt.mp hpast) hlt']
      push_cast
      ring

/-! ## Costs and years -/

omit [Field K] [LinearOrder K] [IsStrictOrderedRing K] in
theorem spendingBuckets_adjoining (quintile : IncomeQuintile) :
    Adjoining 0 0 (spendingModel quintile).cumulative spendingBuckets := by
  cases quintile <;> decide +kernel

omit [Field K] [LinearOrder K] [IsStrictOrderedRing K] in
theorem durationBuckets_adjoining : Adjoining 0 0 durationCumulative durationBuckets := by
  decide +kernel

theorem tailPosition_eq (quantile : K) (tailEntry : ℚ) :
    tailPosition quantile tailEntry = position (tailEntry : K) 1 quantile := by
  rw [tailPosition, position, Rat.cast_sub, Rat.cast_one]

/-- The cost in the tail, above its floor. -/
def tailCost (log : NaturalLog K) (model : SpendingModel) (quantile : K) : K :=
  min ((spendingTailFloor : K) - (model.tailMeanExcess : K)
    * log.ln (1 - position (model.cumulative.getLastD 0 : K) 1 quantile)) (spendingCap : K)
    - (spendingTailFloor : K)

/-- A cost is what the closed buckets come to and what the tail adds. -/
theorem spendingFor_eq (log : NaturalLog K) (quintile : IncomeQuintile) {quantile : K}
    (h : 0 ≤ quantile) :
    spendingFor log (spendingModel quintile) quantile
      = climb (bucketSteps K 0 (spendingModel quintile).cumulative spendingBuckets) quantile
        + tailCost log (spendingModel quintile) quantile := by
  have hbuckets := spendingBuckets_adjoining quintile
  obtain ⟨-, -, -, hentry⟩ := spendingModel_facts quintile
  have hentry' : ((spendingModel quintile).cumulative.getLastD 0 : K) < 1 := by
    exact_mod_cast hentry
  rw [spendingFor, tailCost]
  cases hinvert : invertClosedBuckets quantile 0 (spendingModel quintile).cumulative
      spendingBuckets with
  | some dollars =>
    obtain ⟨hdollars, hlast⟩ := invertClosedBuckets_some hbuckets (by simpa using h) hinvert
    have hcap : (spendingTailFloor : K) ≤ (spendingCap : K) := by
      norm_num [spendingTailFloor, spendingCap]
    rw [position_of_before hlast hentry', sub_zero, log.ln_one, mul_zero, sub_zero,
      min_eq_left hcap, sub_self, add_zero]
    simpa using hdollars
  | none =>
    have hreach : (reach spendingBuckets : K) = (spendingTailFloor : K) := by
      have hrat : reach spendingBuckets = spendingTailFloor := by decide +kernel
      rw [hrat]
    rw [invertClosedBuckets_none hbuckets hinvert, hreach, tailPosition_eq]
    ring

/-- The years of an episode likewise. -/
theorem yearsFor_eq {quantile : K} (h : 0 ≤ quantile) :
    yearsFor quantile = climb (bucketSteps K 0 durationCumulative durationBuckets) quantile
      + position (durationCumulative.getLastD 0 : K) 1 quantile
        * ((durationCap - durationTailFloor : ℚ) : K) := by
  have hentry : (durationCumulative.getLastD 0 : K) < 1 := by
    exact_mod_cast (by decide +kernel : durationCumulative.getLastD 0 < 1)
  rw [yearsFor]
  cases hinvert : invertClosedBuckets quantile 0 durationCumulative durationBuckets with
  | some years =>
    obtain ⟨hyears, hlast⟩ := invertClosedBuckets_some durationBuckets_adjoining
      (by simpa using h) hinvert
    rw [position_of_before hlast hentry, zero_mul, add_zero]
    simpa using hyears
  | none =>
    have hreach : (reach durationBuckets : K) = (durationTailFloor : K) := by
      have hrat : reach durationBuckets = durationTailFloor := by decide +kernel
      rw [hrat]
    rw [invertClosedBuckets_none durationBuckets_adjoining hinvert, hreach, tailPosition_eq]

theorem position_lt_one {entry : ℚ} (hentry : entry < 1) {x : K} (hx : x < 1) :
    position (entry : K) 1 x < 1 := by
  rw [← tailPosition_eq]
  exact (tailPosition_lt_one hx hentry).2

theorem tailCost_mono (log : NaturalLog K) (quintile : IncomeQuintile) {quantile quantile' : K}
    (h : quantile ≤ quantile') (h1 : quantile' < 1) :
    tailCost log (spendingModel quintile) quantile
      ≤ tailCost log (spendingModel quintile) quantile' := by
  obtain ⟨-, -, hexcess, hentry⟩ := spendingModel_facts quintile
  have hexcess' : (0 : K) ≤ ((spendingModel quintile).tailMeanExcess : K) := by
    exact_mod_cast hexcess
  have hentry' : ((spendingModel quintile).cumulative.getLastD 0 : K) < 1 := by
    exact_mod_cast hentry
  have hln := log.ln_mono (sub_pos.mpr (position_lt_one hentry h1))
    (sub_le_sub_left (position_mono hentry' h) 1)
  have hprod := mul_le_mul_of_nonneg_left hln hexcess'
  exact sub_le_sub_right (min_le_min_right _ (sub_le_sub_left hprod _)) _

theorem spendingFor_mono (log : NaturalLog K) (quintile : IncomeQuintile) {quantile quantile' : K}
    (h0 : 0 ≤ quantile) (h : quantile ≤ quantile') (h1 : quantile' < 1) :
    spendingFor log (spendingModel quintile) quantile
      ≤ spendingFor log (spendingModel quintile) quantile' := by
  rw [spendingFor_eq log quintile h0, spendingFor_eq log quintile (h0.trans h)]
  exact add_le_add (climb_mono
    (fun s hs => (bucketSteps_rising (spendingBuckets_adjoining quintile) s hs).1) h)
    (tailCost_mono log quintile h h1)

theorem yearsFor_mono {quantile quantile' : K} (h0 : 0 ≤ quantile) (h : quantile ≤ quantile') :
    yearsFor quantile ≤ yearsFor quantile' := by
  have hentry : (durationCumulative.getLastD 0 : K) < 1 := by
    exact_mod_cast (by decide +kernel : durationCumulative.getLastD 0 < 1)
  have hwidth : (0 : K) ≤ ((durationCap - durationTailFloor : ℚ) : K) := by
    norm_num [durationCap, durationTailFloor]
  rw [yearsFor_eq h0, yearsFor_eq (h0.trans h)]
  exact add_le_add
    (climb_mono (fun s hs => (bucketSteps_rising durationBuckets_adjoining s hs).1) h)
    (mul_le_mul_of_nonneg_right (position_mono hentry h) hwidth)

theorem spendingFor_le (log : NaturalLog K) (quintile : IncomeQuintile) {quantile : K}
    (h0 : 0 ≤ quantile) :
    spendingFor log (spendingModel quintile) quantile ≤ (spendingCap : K) := by
  have hbuckets := spendingBuckets_adjoining quintile
  have hclimb := climb_le (fun s hs => (bucketSteps_rising (K := K) hbuckets s hs).1) quantile
  have hreach : reach spendingBuckets = spendingTailFloor := by decide +kernel
  rw [sum_height_bucketSteps hbuckets, hreach] at hclimb
  have htail : tailCost log (spendingModel quintile) quantile
      ≤ (spendingCap : K) - (spendingTailFloor : K) := sub_le_sub_right (min_le_right _ _) _
  rw [spendingFor_eq log quintile h0]
  linarith

theorem yearsFor_le {quantile : K} (h0 : 0 ≤ quantile) : yearsFor quantile ≤ (durationCap : K) := by
  have hclimb := climb_le
    (fun s hs => (bucketSteps_rising (K := K) durationBuckets_adjoining s hs).1) quantile
  have hreach : reach durationBuckets = durationTailFloor := by decide +kernel
  rw [sum_height_bucketSteps durationBuckets_adjoining, hreach] at hclimb
  have hwidth : (0 : K) ≤ ((durationCap - durationTailFloor : ℚ) : K) := by
    norm_num [durationCap, durationTailFloor]
  have htail := mul_le_of_le_one_left hwidth
    (position_le_one (durationCumulative.getLastD 0 : K) 1 quantile)
  rw [yearsFor_eq h0]
  push_cast at htail ⊢
  linarith

/-! ## The real draw -/

theorem continuousOn_spendingFor (quintile : IncomeQuintile) :
    ContinuousOn (spendingFor NaturalLog.real (spendingModel quintile)) (Set.Ico 0 1) := by
  obtain ⟨-, -, -, hentry⟩ := spendingModel_facts quintile
  have hposition := continuous_position ((spendingModel quintile).cumulative.getLastD 0 : ℝ) 1
  have hlog : ContinuousOn (fun quantile : ℝ => Real.log
      (1 - position ((spendingModel quintile).cumulative.getLastD 0 : ℝ) 1 quantile))
      (Set.Ico 0 1) :=
    ContinuousOn.log (continuous_const.sub hposition).continuousOn
      fun quantile h => (sub_pos.mpr (position_lt_one hentry h.2)).ne'
  have htail : ContinuousOn (tailCost NaturalLog.real (spendingModel quintile)) (Set.Ico 0 1) :=
    ((continuousOn_const.sub (continuousOn_const.mul hlog)).inf continuousOn_const).sub
      continuousOn_const
  exact ((continuous_climb _).continuousOn.add htail).congr
    fun quantile h => spendingFor_eq NaturalLog.real quintile h.1

theorem continuousOn_yearsFor : ContinuousOn (yearsFor : ℝ → ℝ) (Set.Ico 0 1) :=
  ((continuous_climb _).add ((continuous_position _ _).mul continuous_const)).continuousOn.congr
    fun _ h => yearsFor_eq h.1

/-- The quantile of a draw among those that have care. -/
def careQuantile (quintile : IncomeQuintile) (u : K) : K :=
  position ((spendingModel quintile).noSpendingProbability : K) 1 u

omit [IsStrictOrderedRing K] in
theorem drawEpisode_eq [CharZero K] (log : NaturalLog K) (quintile : IncomeQuintile)
    (u : Uniform K) :
    drawEpisode log quintile u
      = if u.value < ((spendingModel quintile).noSpendingProbability : K) then none
        else some ⟨spendingFor log (spendingModel quintile) (careQuantile quintile u.value),
          yearsFor (careQuantile quintile u.value)⟩ := by
  simp only [drawEpisode, careQuantile, position, Rat.cast_sub, Rat.cast_one]

theorem careQuantile_mem (quintile : IncomeQuintile) {u : K} (h : u < 1) :
    careQuantile quintile u ∈ Set.Ico 0 1 := by
  obtain ⟨-, hlt, -, -⟩ := spendingModel_facts quintile
  exact ⟨position_nonneg _ _ _, position_lt_one hlt h⟩

theorem careQuantile_mono (quintile : IncomeQuintile) :
    Monotone (careQuantile quintile : K → K) := by
  obtain ⟨-, hlt, -, -⟩ := spendingModel_facts quintile
  exact position_mono (by exact_mod_cast hlt)

/-- Where there is care, its cost and years. -/
theorem drawEpisode_some {log : NaturalLog K} {quintile : IncomeQuintile} {u : Uniform K}
    {episode : LtcEpisode K} (h : drawEpisode log quintile u = some episode) :
    ((spendingModel quintile).noSpendingProbability : K) ≤ u.value ∧
      episode.lifetimeCost2020
        = spendingFor log (spendingModel quintile) (careQuantile quintile u.value) ∧
      episode.years = yearsFor (careQuantile quintile u.value) := by
  rw [drawEpisode_eq] at h
  split at h
  · cases h
  · rename_i hcare
    cases h
    exact ⟨not_lt.mp hcare, rfl, rfl⟩

/-- A later uniform never loses an episode, and never draws a cheaper or a shorter one; the cost
and the years of the draw are continuous from the first uniform with care on, across every join
of the buckets and the tail; and they stay within their caps. -/
theorem drawEpisode_monotone (quintile : IncomeQuintile) :
    (∀ u u' : Uniform ℝ, u.value ≤ u'.value → ∀ episode,
      drawEpisode .real quintile u = some episode →
        ∃ episode', drawEpisode .real quintile u' = some episode' ∧
          episode.lifetimeCost2020 ≤ episode'.lifetimeCost2020 ∧
          episode.years ≤ episode'.years) ∧
    (∃ cost years : ℝ → ℝ,
      ContinuousOn cost (Set.Ico ((spendingModel quintile).noSpendingProbability : ℝ) 1) ∧
      ContinuousOn years (Set.Ico ((spendingModel quintile).noSpendingProbability : ℝ) 1) ∧
      ∀ u : Uniform ℝ, drawEpisode .real quintile u
        = if u.value < ((spendingModel quintile).noSpendingProbability : ℝ) then none
          else some ⟨cost u.value, years u.value⟩) ∧
    ∀ (u : Uniform ℝ) (episode : LtcEpisode ℝ), drawEpisode .real quintile u = some episode →
      episode.lifetimeCost2020 ≤ (spendingCap : ℝ) ∧ episode.years ≤ (durationCap : ℝ) := by
  refine ⟨?_, ?_, ?_⟩
  · intro u u' hle episode hepisode
    obtain ⟨hcare, hcost, hyears⟩ := drawEpisode_some hepisode
    have hquantile := careQuantile_mono quintile hle
    obtain ⟨hzero, -⟩ := careQuantile_mem quintile u.lt_one
    obtain ⟨-, hone⟩ := careQuantile_mem quintile u'.lt_one
    refine ⟨_, (drawEpisode_eq _ _ _).trans (if_neg (not_lt.mpr (hcare.trans hle))), ?_, ?_⟩
    · rw [hcost]
      exact spendingFor_mono .real quintile hzero hquantile hone
    · rw [hyears]
      exact yearsFor_mono hzero hquantile
  · have hquantile : Continuous (careQuantile quintile : ℝ → ℝ) := continuous_position _ _
    have hmaps : Set.MapsTo (careQuantile quintile : ℝ → ℝ)
        (Set.Ico ((spendingModel quintile).noSpendingProbability : ℝ) 1) (Set.Ico 0 1) :=
      fun u hu => careQuantile_mem quintile hu.2
    exact ⟨fun u => spendingFor .real (spendingModel quintile) (careQuantile quintile u),
      fun u => yearsFor (careQuantile quintile u),
      (continuousOn_spendingFor quintile).comp hquantile.continuousOn hmaps,
      continuousOn_yearsFor.comp hquantile.continuousOn hmaps,
      fun u => drawEpisode_eq _ _ u⟩
  · intro u episode hepisode
    obtain ⟨-, hcost, hyears⟩ := drawEpisode_some hepisode
    obtain ⟨hzero, -⟩ := careQuantile_mem quintile u.lt_one
    rw [hcost, hyears]
    exact ⟨spendingFor_le .real quintile hzero, yearsFor_le hzero⟩

/-- The highest quintile at three quarters and at nine tenths. -/
theorem drawEpisode_monotone_highest :
    ∃ episode episode',
      drawEpisode .real .highest ⟨3 / 4, by norm_num, by norm_num⟩ = some episode ∧
      drawEpisode .real .highest ⟨9 / 10, by norm_num, by norm_num⟩ = some episode' ∧
      episode.lifetimeCost2020 ≤ episode'.lifetimeCost2020 ∧ episode.years ≤ episode'.years ∧
      episode'.lifetimeCost2020 ≤ (spendingCap : ℝ) := by
  have hprobability : ((spendingModel .highest).noSpendingProbability : ℝ) ≤ 3 / 4 := by
    have hrat : (spendingModel .highest).noSpendingProbability ≤ 3 / 4 := by decide +kernel
    calc ((spendingModel .highest).noSpendingProbability : ℝ)
        ≤ ((3 / 4 : ℚ) : ℝ) := Rat.cast_le.mpr hrat
      _ = 3 / 4 := by norm_num
  obtain ⟨hmono, -, hcaps⟩ := drawEpisode_monotone .highest
  have hdraw := (drawEpisode_eq NaturalLog.real .highest ⟨3 / 4, by norm_num, by norm_num⟩).trans
    (if_neg (not_lt.mpr hprobability))
  obtain ⟨episode', hdraw', hcost, hyears⟩ := hmono ⟨3 / 4, by norm_num, by norm_num⟩
    ⟨9 / 10, by norm_num, by norm_num⟩ (by norm_num) _ hdraw
  exact ⟨_, episode', hdraw, hdraw', hcost, hyears, (hcaps _ _ hdraw').1⟩

end RetirementPlanner.Engine
