import StepLatency.Duration
import StepLatency.Measurement.Summary

/-!
# Run reports

What a completed run hands back: how long it took, how many operations the workers completed, how
many pacing intervals were recorded, and the summary of every operation kind.
-/

namespace StepLatency

structure RunReport where
  runId : String
  elapsed : Duration
  totalOperations : UInt64
  pacingSamples : UInt64
  summaries : List Summary
deriving DecidableEq

end StepLatency
