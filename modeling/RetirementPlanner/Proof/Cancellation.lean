import RetirementPlanner.Engine.Cancellation

/-!
# Cancellable runs come to what plain runs come to

A run whose polls find its token unset is the run without its polls, and a run that finds it
set gives up at once.

* `runSimulationCancellable_uncancelled`, `runSweepCancellable_uncancelled`
* `runSimulationCancellable_aborts`, `runSweepCancellable_aborts`
-/

namespace RetirementPlanner.Engine

open Polling Polling.Cancellable

variable {K : Type} [Field K] [LinearOrder K] [FloorRing K] (log : NaturalLog K)
  (source : RandomSource K)

theorem active_uncancelled : active.uncancelled = .ok ⟨⟩ := rfl

theorem orFail_uncancelled {α : Type} (result : Except EngineError α) :
    (orFail result).uncancelled = result.mapError RunError.engine :=
  uncancelled_liftExcept _

theorem active_aborts : active.Aborts := aborts_ensureActive _

theorem orFail_aborts {α : Type} (result : Except EngineError α) : (orFail result).Aborts :=
  aborts_liftExcept _

/-- A loop that polls before each of its values. -/
theorem mapM_uncancelled {α β : Type} (f : α → β) (values : List α) :
    (values.mapM fun a => do
      active
      pure (f a) : Run (List β)).uncancelled = .ok (values.map f) := by
  refine uncancelled_mapM fun a _ => ?_
  rw [uncancelled_bind, active_uncancelled]
  rfl

theorem mapM_aborts {α β : Type} (f : α → β) (values : List α) :
    (values.mapM fun a => do
      active
      pure (f a) : Run (List β)).Aborts :=
  aborts_mapM (fun a => active_aborts.bind fun _ => aborts_pure (f a)) values

/-! ## One simulation -/

theorem aggregateResultsCancellable_uncancelled (plan : RetirementPlan K) (config : MCConfig)
    (summaries : List (PathSummary K)) :
    (aggregateResultsCancellable log source plan config summaries).uncancelled =
      (aggregateResults log source plan config summaries).mapError RunError.engine := by
  unfold aggregateResultsCancellable aggregateResults
  rw [uncancelled_bind, active_uncancelled]
  change Cancellable.uncancelled (ite _ _ _) = _
  split
  · rfl
  · rw [uncancelled_bind, active_uncancelled]
    change Cancellable.uncancelled (orFail _ >>= _) = _
    rw [uncancelled_bind, orFail_uncancelled]
    cases PreparedPlan.newOrError plan with
    | error error => rfl
    | ok prepared =>
      change Cancellable.uncancelled (ite _ _ _) = Except.mapError _ (ite _ _ _)
      split
      · rfl
      · rw [uncancelled_bind, mapM_uncancelled]
        change Cancellable.uncancelled (List.mapM _ _ >>= _) = _
        rw [uncancelled_bind, mapM_uncancelled]
        rfl

theorem aggregateResultsCancellable_aborts (plan : RetirementPlan K) (config : MCConfig)
    (summaries : List (PathSummary K)) :
    (aggregateResultsCancellable log source plan config summaries).Aborts := by
  refine active_aborts.bind fun _ => ?_
  split
  · exact aborts_throw _
  · refine active_aborts.bind fun _ => (orFail_aborts _).bind fun prepared => ?_
    dsimp only
    split
    · exact aborts_throw _
    · exact (mapM_aborts _ _).bind fun _ => (mapM_aborts _ _).bind fun _ => aborts_pure _

theorem runSimulationCancellable_uncancelled (plan : RetirementPlan K) (config : MCConfig) :
    (runSimulationCancellable log source plan config).uncancelled =
      (runSimulation log source plan config).mapError RunError.engine := by
  unfold runSimulationCancellable runSimulation
  rw [uncancelled_bind, orFail_uncancelled]
  cases PreparedPlan.newOrError plan with
  | error error => rfl
  | ok prepared =>
    change Cancellable.uncancelled (List.mapM _ _ >>= _) = _
    rw [uncancelled_bind, mapM_uncancelled]
    change Cancellable.uncancelled (active >>= _) = _
    rw [uncancelled_bind, active_uncancelled]
    exact aggregateResultsCancellable_uncancelled ..

theorem runSimulationCancellable_aborts (plan : RetirementPlan K) (config : MCConfig) :
    (runSimulationCancellable log source plan config).Aborts :=
  (orFail_aborts _).bind fun _ => (mapM_aborts _ _).bind fun _ => active_aborts.bind fun _ =>
    aggregateResultsCancellable_aborts ..

/-! ## A sweep -/

theorem sweepPathCancellable_uncancelled
    (scenarios : List (PreparedPlan K × BatchSimulationRequest K)) (counts : List ℕ)
    (pathIndex : ℕ) :
    (sweepPathCancellable log source scenarios counts pathIndex).uncancelled =
      .ok (sweepPath log source scenarios counts pathIndex) := by
  unfold sweepPathCancellable sweepPath
  rw [uncancelled_bind, active_uncancelled]
  change Cancellable.uncancelled (List.mapM _ _) = _
  rw [mapM_uncancelled]
  exact congrArg Except.ok (List.map_zip_eq_zipWith ..)

theorem countsCancellable_uncancelled
    (scenarios : List (PreparedPlan K × BatchSimulationRequest K)) (split : WorkSplit)
    (start finish : ℕ) :
    (countsCancellable log source scenarios split start finish).uncancelled =
      .ok (split.counts log source scenarios start finish) := by
  induction split generalizing start finish with
  | fold => exact uncancelled_foldlM (sweepPathCancellable_uncancelled log source scenarios) _
  | cut middle left right ihLeft ihRight =>
    unfold countsCancellable WorkSplit.counts
    simp only [uncancelled_bind, ihLeft, ihRight]
    rfl

theorem countsCancellable_aborts
    (scenarios : List (PreparedPlan K × BatchSimulationRequest K)) (split : WorkSplit)
    (start finish : ℕ) : (countsCancellable log source scenarios split start finish).Aborts := by
  induction split generalizing start finish with
  | fold =>
    exact aborts_foldlM (fun counts pathIndex => active_aborts.bind fun _ => mapM_aborts _ _) _ _
  | cut middle left right ihLeft ihRight =>
    exact (ihLeft _ _).bind fun _ => (ihRight _ _).bind fun _ => aborts_pure _

theorem runSweepCancellable_uncancelled (simulations : List (BatchSimulationRequest K))
    (split : WorkSplit) :
    (runSweepCancellable log source simulations split).uncancelled =
      (runSweep log source simulations split).mapError RunError.engine := by
  unfold runSweepCancellable runSweep sweepCounts
  split
  · rfl
  · change Cancellable.uncancelled (orFail _ >>= _) = _
    rw [uncancelled_bind, orFail_uncancelled]
    cases prepareAll simulations with
    | error error => rfl
    | ok prepared =>
      change Cancellable.uncancelled (countsCancellable _ _ _ _ _ _ >>= _) = _
      rw [uncancelled_bind, countsCancellable_uncancelled]
      rfl

theorem runSweepCancellable_aborts (simulations : List (BatchSimulationRequest K))
    (split : WorkSplit) : (runSweepCancellable log source simulations split).Aborts := by
  unfold runSweepCancellable
  split
  · exact aborts_pure _
  · exact (orFail_aborts _).bind fun _ => (countsCancellable_aborts ..).bind fun _ =>
      active_aborts.bind fun _ => aborts_pure _

end RetirementPlanner.Engine
