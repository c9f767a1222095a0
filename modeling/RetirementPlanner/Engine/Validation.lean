import RetirementPlanner.Engine.Types
import Mathlib.Tactic
import RetirementPlanner.Lib.Numerals

/-!
# What the engine accepts

`validation.rs`. The finiteness checks of the source hold of every element of
`K` and are left out. `ValidPlan` collects what an accepted plan is known to
satisfy (`validatePlan_eq_ok`).
-/

namespace RetirementPlanner.Engine

variable {K : Type*} [Field K] [LinearOrder K]

def maxPaths : ℕ := 5000
def maxBatchSimulations : ℕ := 40
def maxBatchPaths : ℕ := 40000

def validateConfig (paths blockSize : ℕ) : Except String Unit :=
  if paths = 0 ∨ maxPaths < paths then .error s!"paths must be between 1 and {maxPaths}"
  else if ¬ (1 ≤ blockSize ∧ blockSize ≤ 10) then .error "blockSize must be between 1 and 10"
  else .ok ()

/-- The balance and allocation check on one account. -/
def Account.isValid (account : Account K) : Bool :=
  decide (0 ≤ account.balance ∧ account.balance ≤ 1000000000000000) &&
    decide (0 ≤ account.assetWeights.stocks ∧ account.assetWeights.stocks ≤ 1) &&
    decide (0 ≤ account.assetWeights.bonds ∧ account.assetWeights.bonds ≤ 1) &&
    decide (|account.assetWeights.stocks + account.assetWeights.bonds - 1| ≤ 0.001)

def UserProfile.hasValidAmounts (profile : UserProfile K) : Bool :=
  decide (0 ≤ profile.currentSalary ∧ profile.currentSalary ≤ 1000000000) &&
    decide (0 ≤ profile.currentSpending ∧ profile.currentSpending ≤ 1000000000) &&
    decide (0 ≤ profile.retirementSpending ∧ profile.retirementSpending ≤ 1000000000) &&
    decide (-0.1 ≤ profile.salaryGrowthRate ∧ profile.salaryGrowthRate ≤ 0.2) &&
    decide (-0.1 ≤ profile.workingSpendingGrowthRate ∧ profile.workingSpendingGrowthRate ≤ 0.1) &&
    decide (-0.1 ≤ profile.retirementSpendingGrowthRate ∧
      profile.retirementSpendingGrowthRate ≤ 0.1)

def RetirementHealthcare.isValid (healthcare : RetirementHealthcare K) : Bool :=
  decide (0 ≤ healthcare.preMedicarePremium) && decide (0 ≤ healthcare.medicarePremium) &&
    decide (0 ≤ healthcare.outOfPocket) &&
    decide (-0.1 ≤ healthcare.realGrowthRate ∧ healthcare.realGrowthRate ≤ 0.2)

/-- A check of the validator: refuse with its message unless it holds. -/
def ensure (holds : Bool) (message : String) : Except String Unit :=
  if holds then .ok () else .error message

def ensureSome {α : Type} (value : Option α) (message : String) : Except String α :=
  value.elim (.error message) .ok

/-- The account loop: the first invalid account refuses the plan, counted from 1. -/
def validateAccounts (accounts : List (Account K)) : Except String Unit :=
  match accounts.findIdx? fun account => !account.isValid with
  | some index => .error s!"account {index + 1} has invalid balance or allocation"
  | none => .ok ()

def validatePlan (plan : RetirementPlan K) : Except String Unit := do
  let profile := plan.profile
  ensure (plan.schemaVersion ≤ planSchemaVersion)
    s!"schemaVersion {plan.schemaVersion} is newer than supported version {planSchemaVersion}"
  ensure (45 ≤ profile.retirementAge ∧ profile.retirementAge ≤ 100)
    "retirementAge must be between 45 and 100"
  let asOfDate ← ensureSome profile.asOfDate "asOfDate must use YYYY-MM-DD"
  ensure (1900 ≤ asOfDate.year ∧ asOfDate.year ≤ 2200)
    "asOfDate year must be between 1900 and 2200"
  let age ← ensureSome (ageOn profile.birthDate profile.asOfDate).toOption
    "birthDate must use YYYY-MM-DD and precede asOfDate"
  ensure (18 ≤ age ∧ age ≤ 100) "age at asOfDate must be between 18 and 100"
  ensure (profile.retirementAge < profile.lifeExpectancy ∧ age < profile.lifeExpectancy ∧
      profile.lifeExpectancy ≤ 120)
    "lifeExpectancy must be after current and retirement ages and no greater than 120"
  ensure profile.hasValidAmounts
    "profile amounts and rates must be finite and nonnegative where applicable"
  ensure profile.retirementHealthcare.isValid
    "retirementHealthcare contains invalid amounts or growth"
  ensure (0.5 ≤ profile.longTermCare.costMultiplier ∧ profile.longTermCare.costMultiplier ≤ 3)
    "longTermCare.costMultiplier must be between 0.5 and 3"
  ensure (62 ≤ plan.socialSecurity.claimAge ∧ plan.socialSecurity.claimAge ≤ 70)
    "claimAge must be between 62 and 70"
  ensure (plan.socialSecurity.estimatedBenefit.all
      fun benefit => 0 ≤ benefit ∧ benefit ≤ 10000000)
    "estimatedBenefit must be finite and between 0 and 10000000"
  ensure (plan.accounts.length ≤ 20) "plan may contain at most 20 accounts"
  ensure (0 ≤ plan.assumptions.taxableGainRatio ∧ plan.assumptions.taxableGainRatio ≤ 1)
    "taxableGainRatio must be between 0 and 1"
  ensure (0 ≤ plan.assumptions.terminalTaxRate ∧ plan.assumptions.terminalTaxRate ≤ 1)
    "terminalTaxRate must be between 0 and 1"
  validateAccounts plan.accounts

structure SimulationRequest (K : Type*) where
  plan : RetirementPlan K
  config : MCConfig

structure BatchSimulationRequest (K : Type*) extends SimulationRequest K where
  id : String

def validateSimulationRequest (request : SimulationRequest K) : Except String Unit := do
  validateConfig request.config.paths request.config.blockSize
  validatePlan request.plan

/-- An error under the id of the simulation it is about. -/
def underId {α : Type*} (id : String) : Except String α → Except String α
  | .error message => .error s!"Simulation '{id}': {message}"
  | .ok a => .ok a

/-- The loop of `validate_batch_simulations`, on the running `u32` total. -/
def validateBatchLoop (totalPaths : ℕ) : List (BatchSimulationRequest K) → Except String ℕ
  | [] => .ok totalPaths
  | simulation :: rest =>
    if simulation.id.utf8ByteSize = 0 ∨ 64 < simulation.id.utf8ByteSize then
      .error "Simulation id must contain 1 to 64 characters"
    else
      match underId simulation.id
          (validateConfig simulation.config.paths simulation.config.blockSize),
        underId simulation.id (validatePlan simulation.plan) with
      | .error message, _ => .error message
      | .ok _, .error message => .error message
      | .ok _, .ok _ =>
        if 2 ^ 32 ≤ totalPaths + simulation.config.paths then .error "Batch path count overflowed"
        else validateBatchLoop (totalPaths + simulation.config.paths) rest

def validateBatchSimulations (simulations : List (BatchSimulationRequest K)) :
    Except String ℕ :=
  if simulations = [] ∨ maxBatchSimulations < simulations.length then
    .error s!"Batch must contain 1 to {maxBatchSimulations} simulations"
  else
    match validateBatchLoop 0 simulations with
    | .error message => .error message
    | .ok totalPaths =>
      if maxBatchPaths < totalPaths then
        .error s!"Batch may not exceed {maxBatchPaths} total paths"
      else .ok totalPaths

/-! ## What acceptance gives -/

/-- What an accepted plan satisfies. -/
structure ValidPlan (plan : RetirementPlan K) : Prop where
  schemaVersion_le : plan.schemaVersion ≤ planSchemaVersion
  retirementAge_ge : 45 ≤ plan.profile.retirementAge
  retirementAge_le : plan.profile.retirementAge ≤ 100
  dates : ∃ asOfDate age, plan.profile.asOfDate = some asOfDate ∧
    ageOn plan.profile.birthDate plan.profile.asOfDate = .ok age ∧
    1900 ≤ asOfDate.year ∧ asOfDate.year ≤ 2200 ∧ 18 ≤ age ∧ age ≤ 100 ∧
    age < plan.profile.lifeExpectancy
  lifeExpectancy_gt : plan.profile.retirementAge < plan.profile.lifeExpectancy
  lifeExpectancy_le : plan.profile.lifeExpectancy ≤ 120
  amounts : plan.profile.hasValidAmounts
  healthcare : plan.profile.retirementHealthcare.isValid
  costMultiplier_mem : 0.5 ≤ plan.profile.longTermCare.costMultiplier ∧
    plan.profile.longTermCare.costMultiplier ≤ 3
  claimAge_ge : 62 ≤ plan.socialSecurity.claimAge
  claimAge_le : plan.socialSecurity.claimAge ≤ 70
  estimatedBenefit_mem : ∀ benefit ∈ plan.socialSecurity.estimatedBenefit,
    0 ≤ benefit ∧ benefit ≤ 10000000
  accounts_length_le : plan.accounts.length ≤ 20
  taxableGainRatio_nonneg : 0 ≤ plan.assumptions.taxableGainRatio
  taxableGainRatio_le_one : plan.assumptions.taxableGainRatio ≤ 1
  terminalTaxRate_mem : 0 ≤ plan.assumptions.terminalTaxRate ∧
    plan.assumptions.terminalTaxRate ≤ 1
  accounts_valid : ∀ account ∈ plan.accounts, account.isValid

@[simp] theorem ensure_bind_ok {β : Type} {holds : Bool} {message : String}
    {f : Unit → Except String β} {b : β} :
    (ensure holds message >>= f) = .ok b ↔ holds = true ∧ f () = .ok b := by
  cases holds <;> simp [ensure, bind, Except.bind]

@[simp] theorem ensureSome_bind_ok {α β : Type} {value : Option α} {message : String}
    {f : α → Except String β} {b : β} :
    (ensureSome value message >>= f) = .ok b ↔ ∃ a, value = some a ∧ f a = .ok b := by
  cases value <;> simp [ensureSome, bind, Except.bind]

theorem validateConfig_eq_ok {paths blockSize : ℕ} :
    validateConfig paths blockSize = .ok () ↔
      (1 ≤ paths ∧ paths ≤ maxPaths) ∧ 1 ≤ blockSize ∧ blockSize ≤ 10 := by
  unfold validateConfig
  by_cases hpaths : paths = 0 ∨ maxPaths < paths
  · rw [if_pos hpaths]
    refine ⟨fun h => (nomatch h), fun h => ?_⟩
    omega
  · rw [if_neg hpaths]
    by_cases hblock : 1 ≤ blockSize ∧ blockSize ≤ 10
    · rw [if_neg (not_not.mpr hblock)]
      refine ⟨fun _ => ⟨?_, hblock⟩, fun _ => rfl⟩
      omega
    · rw [if_pos hblock]
      exact ⟨fun h => (nomatch h), fun h => absurd h.2 hblock⟩

theorem validateAccounts_ok {accounts : List (Account K)} (h : validateAccounts accounts = .ok ()) :
    ∀ account ∈ accounts, account.isValid := by
  unfold validateAccounts at h
  split at h
  · cases h
  · rename_i hfind
    rw [List.findIdx?_eq_none_iff] at hfind
    exact fun account hmem => by simpa using hfind account hmem

theorem validPlan_of_validatePlan {plan : RetirementPlan K} (h : validatePlan plan = .ok ()) :
    ValidPlan plan := by
  simp only [validatePlan, ensure_bind_ok, ensureSome_bind_ok, decide_eq_true_eq,
    Option.all_eq_true] at h
  obtain ⟨hschema, ⟨hge, hle⟩, asOfDate, hasOf, hyear, age, hage, hages, ⟨hlife, hlifeAge, hlife'⟩,
    hamounts, hhealth, hcare, hclaim, hbenefit, hcount, hratio, hterminal, haccounts⟩ := h
  have hage' : ageOn plan.profile.birthDate plan.profile.asOfDate = .ok age := by
    cases hcase : ageOn plan.profile.birthDate plan.profile.asOfDate with
    | error e => rw [hcase] at hage; cases hage
    | ok a => rw [hcase] at hage; cases hage; rfl
  exact
    { schemaVersion_le := hschema
      retirementAge_ge := hge
      retirementAge_le := hle
      dates := ⟨asOfDate, age, hasOf, hage', hyear.1, hyear.2, hages.1, hages.2, hlifeAge⟩
      lifeExpectancy_gt := hlife
      lifeExpectancy_le := hlife'
      amounts := hamounts
      healthcare := hhealth
      costMultiplier_mem := hcare
      claimAge_ge := hclaim.1
      claimAge_le := hclaim.2
      estimatedBenefit_mem := hbenefit
      accounts_length_le := hcount
      taxableGainRatio_nonneg := hratio.1
      taxableGainRatio_le_one := hratio.2
      terminalTaxRate_mem := hterminal
      accounts_valid := validateAccounts_ok haccounts }

theorem validateAccounts_of_valid {accounts : List (Account K)}
    (h : ∀ account ∈ accounts, account.isValid) : validateAccounts accounts = .ok () := by
  have hnone : (accounts.findIdx? fun account => !account.isValid) = none := by
    rw [List.findIdx?_eq_none_iff]
    exact fun account hmem => by rw [h account hmem]; rfl
  simp only [validateAccounts, hnone]

/-- The validator accepts the plans that satisfy `ValidPlan`. -/
theorem validatePlan_eq_ok {plan : RetirementPlan K} :
    validatePlan plan = .ok () ↔ ValidPlan plan := by
  refine ⟨validPlan_of_validatePlan, fun h => ?_⟩
  obtain ⟨asOfDate, age, hasOf, hage, hyear, hyear', hlow, hhigh, hlife⟩ := h.dates
  simp only [validatePlan, ensure_bind_ok, ensureSome_bind_ok, decide_eq_true_eq,
    Option.all_eq_true]
  exact ⟨h.schemaVersion_le, ⟨h.retirementAge_ge, h.retirementAge_le⟩, asOfDate, hasOf,
    ⟨hyear, hyear'⟩, age, congrArg Except.toOption hage, ⟨hlow, hhigh⟩,
    ⟨h.lifeExpectancy_gt, hlife, h.lifeExpectancy_le⟩, h.amounts, h.healthcare,
    h.costMultiplier_mem, ⟨h.claimAge_ge, h.claimAge_le⟩, h.estimatedBenefit_mem,
    h.accounts_length_le, ⟨h.taxableGainRatio_nonneg, h.taxableGainRatio_le_one⟩,
    h.terminalTaxRate_mem, validateAccounts_of_valid h.accounts_valid⟩

/-! ## Batches -/

/-- A simulation the batch loop lets through. -/
structure ValidSimulation (simulation : BatchSimulationRequest K) : Prop where
  id : simulation.id.utf8ByteSize ≠ 0 ∧ simulation.id.utf8ByteSize ≤ 64
  config : validateConfig simulation.config.paths simulation.config.blockSize = .ok ()
  plan : validatePlan simulation.plan = .ok ()

theorem underId_ok {α : Type} {id : String} {x : Except String α} {a : α} :
    underId id x = .ok a ↔ x = .ok a := by
  cases x <;> simp [underId]

theorem validateBatchLoop_cons {totalPaths total : ℕ} {simulation : BatchSimulationRequest K}
    {rest : List (BatchSimulationRequest K)} :
    validateBatchLoop totalPaths (simulation :: rest) = .ok total ↔
      ValidSimulation simulation ∧ totalPaths + simulation.config.paths < 2 ^ 32 ∧
        validateBatchLoop (totalPaths + simulation.config.paths) rest = .ok total := by
  rw [validateBatchLoop]
  constructor
  · intro h
    split at h
    · cases h
    · rename_i hid
      split at h
      · cases h
      · cases h
      · rename_i hconfig hplan
        split at h
        · cases h
        · exact ⟨⟨by omega, underId_ok.mp hconfig, underId_ok.mp hplan⟩, by omega, h⟩
  · rintro ⟨⟨hid, hconfig, hplan⟩, hsum, h⟩
    have hid' : ¬(simulation.id.utf8ByteSize = 0 ∨ 64 < simulation.id.utf8ByteSize) := by omega
    rw [if_neg hid', hconfig, hplan]
    simp only [underId]
    rw [if_neg (Nat.not_le.mpr hsum)]
    exact h

/-- The loop lets a batch through whose simulations are valid, and adds up its paths. -/
theorem validateBatchLoop_ok {totalPaths : ℕ} {simulations : List (BatchSimulationRequest K)}
    (hsum : totalPaths + (simulations.map (·.config.paths)).sum < 2 ^ 32) {total : ℕ} :
    validateBatchLoop totalPaths simulations = .ok total ↔
      (∀ simulation ∈ simulations, ValidSimulation simulation) ∧
        total = totalPaths + (simulations.map (·.config.paths)).sum := by
  induction simulations generalizing totalPaths with
  | nil => simp [validateBatchLoop, eq_comm]
  | cons simulation rest ih =>
    rw [List.map_cons, List.sum_cons, ← Nat.add_assoc] at hsum
    rw [validateBatchLoop_cons, ih hsum, List.forall_mem_cons, List.map_cons, List.sum_cons,
      ← Nat.add_assoc]
    constructor
    · rintro ⟨hvalid, -, hrest, htotal⟩
      exact ⟨⟨hvalid, hrest⟩, htotal⟩
    · rintro ⟨⟨hvalid, hrest⟩, htotal⟩
      exact ⟨hvalid, by omega, hrest, htotal⟩

/-- Within the limits of a batch, its simulations decide. -/
theorem validateBatchSimulations_ok {simulations : List (BatchSimulationRequest K)}
    (hne : simulations ≠ []) (hcount : simulations.length ≤ maxBatchSimulations)
    (hsum : (simulations.map (·.config.paths)).sum ≤ maxBatchPaths) :
    (∃ total, validateBatchSimulations simulations = .ok total) ↔
      ∀ simulation ∈ simulations, ValidSimulation simulation := by
  have hlimits : ¬(simulations = [] ∨ maxBatchSimulations < simulations.length) :=
    not_or.mpr ⟨hne, Nat.not_lt.mpr hcount⟩
  have hpaths : 0 + (simulations.map (·.config.paths)).sum < 2 ^ 32 := by
    simp only [maxBatchPaths] at hsum
    omega
  rw [validateBatchSimulations, if_neg hlimits]
  constructor
  · rintro ⟨total, h⟩
    split at h
    · cases h
    · rename_i total' hloop
      exact ((validateBatchLoop_ok hpaths).mp hloop).1
  · intro h
    rw [(validateBatchLoop_ok hpaths).mpr ⟨h, rfl⟩]
    simp only [Nat.zero_add, if_neg (Nat.not_lt.mpr hsum)]
    exact ⟨_, rfl⟩

end RetirementPlanner.Engine
