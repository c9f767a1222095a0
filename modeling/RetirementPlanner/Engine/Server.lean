import RetirementPlanner.Engine.Cancellation
import RetirementPlanner.Engine.Validation
import RetirementPlanner.Lib.Permits

/-!
# The simulation service

`server.rs`: a request is validated, waits for one of so many compute slots, and runs as a
blocking job that holds the slot until it ends. The job's token is set where the request is
dropped before its job is done (`CancelOnDrop`), and only then; the slots, the jobs and the
tokens are those of `Permits`. A task that panics is left out.
-/

namespace RetirementPlanner.Engine

open Polling

variable {K : Type}

inductive BatchResponseMode
  | summary
  | full
  deriving DecidableEq, Repr

inductive ServiceRequest (K : Type)
  | simulate (request : SimulationRequest K)
  | batch (simulations : List (BatchSimulationRequest K)) (responseMode : BatchResponseMode)

structure BatchSimulationResponse (K : Type) where
  id : String
  result : SimulationResult K

inductive Reply (K : Type)
  | simulation (result : SimulationResult K)
  | batchSummary (results : List (BatchSimulationSummaryResponse K))
  | batch (results : List (BatchSimulationResponse K))
  /-- `PARTIAL_CONTENT`: some simulations failed. -/
  | someFailed (failures : List String) (successCount failureCount : ℕ)
  | badRequest (error : String)
  | internalError (error message : String)

variable [Field K] [LinearOrder K] [FloorRing K] (log : NaturalLog K) (source : RandomSource K)

/-- `handle_simulate` once it has its slot. -/
def simulateWork (request : SimulationRequest K) : Polled (Reply K) := do
  let result ← (runSimulationCancellable log source request.plan request.config).run
  match result with
  | .ok result => pure (.simulation result)
  | .error error => pure (.internalError "Simulation failed" error.message)

def batchSummaryWork (simulations : List (BatchSimulationRequest K)) (split : WorkSplit) :
    Polled (Reply K) := do
  let result ← (runSweepCancellable log source simulations split).run
  match result with
  | .ok results => pure (.batchSummary results)
  | .error error => pure (.internalError "Batch simulation failed" error.message)

/-- The results of a full batch, one after another, up to where the job finds its token set. -/
def fullResults : List (BatchSimulationRequest K) →
    Polled (List (Except String (BatchSimulationResponse K)))
  | [] => pure []
  | simulation :: simulations =>
    .poll
      (do
        let result ← (runSimulationCancellable log source simulation.plan simulation.config).run
        let rest ← fullResults simulations
        match result with
        | .ok result => pure (.ok ⟨simulation.id, result⟩ :: rest)
        | .error error =>
          pure (.error s!"Simulation '{simulation.id}' failed: {error.message}" :: rest))
      (pure [])

/-- The response to a full batch. -/
def fullReply (results : List (Except String (BatchSimulationResponse K))) : Reply K :=
  let successfulResults := results.filterMap Except.toOption
  let errors := results.filterMap fun
    | .ok _ => none
    | .error error => some error
  if errors.isEmpty then .batch successfulResults
  else .someFailed errors successfulResults.length errors.length

def fullBatchWork (simulations : List (BatchSimulationRequest K)) : Polled (Reply K) := do
  let results ← fullResults log source simulations
  pure (fullReply results)

/-- A request that is not valid is answered at once; any other has work for a slot. -/
def ServiceRequest.enter (split : WorkSplit) :
    ServiceRequest K → Except (Reply K) (Polled (Reply K))
  | .simulate request =>
    match validateSimulationRequest request with
    | .error message => .error (.badRequest message)
    | .ok _ => .ok (simulateWork log source request)
  | .batch simulations responseMode =>
    match validateBatchSimulations simulations with
    | .error message => .error (.badRequest message)
    | .ok _ =>
      match responseMode with
      | .summary => .ok (batchSummaryWork log source simulations split)
      | .full => .ok (fullBatchWork log source simulations)

end RetirementPlanner.Engine
