import StepLatency.Console.Micros
import StepLatency.Duration

/-!
# Progress notes

What a run tells while it goes on.
-/

namespace StepLatency

inductive Progress
  | registered (operation : String) (steps : Nat)
  | started (runId : String) (threads opsPerThread kinds : Nat) (seed : UInt64)
  | workerCompleted (worker operations : Nat)
  | workersFinished (operations : UInt64) (elapsed : Duration)
  | negativeSamples (operation : String) (samples : UInt64)
  | exporting (operations : Nat)
  | noPacing (operation : String)
deriving DecidableEq

def Progress.message : Progress → String
  | .registered operation steps => s!"Registered operation {operation} with {steps} steps"
  | .started runId threads opsPerThread kinds seed =>
    s!"Run {runId}: {threads} threads x {opsPerThread} operations over {kinds} operation kinds " ++
      s!"(seed {seed.toNat})"
  | .workerCompleted worker operations => s!"Worker {worker} completed {operations} operations"
  | .workersFinished operations elapsed =>
    s!"All workers finished: {operations.toNat} operations in {Console.microsText elapsed.micros}"
  | .negativeSamples operation samples =>
    s!"{operation}: {samples.toNat} negative latency samples excluded from averages"
  | .exporting operations => s!"Exporting measurements for {operations} operations"
  | .noPacing operation => s!"No pacing delay recorded, skipping pacing row for {operation}"

end StepLatency
