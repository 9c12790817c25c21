import StepLatency.Measurement.Aggregator

/-!
# Summaries

The counters of an aggregator and of its tracker, read at one moment.
-/

namespace StepLatency

structure StepStats where
  step : Nat
  operations : UInt64
  latencySum : UInt64
  average : Option UInt64
deriving DecidableEq

structure Summary where
  operation : String
  steps : List StepStats
  invalidSamples : UInt64
  pacingSamples : UInt64
  averagePacing : Option Binary64
deriving DecidableEq

def StepStats.ofTotals (step : Nat) (t : StepTotals) : StepStats :=
  ⟨step, t.operations, t.latencySum, t.average⟩

def Summary.totalOperations (s : Summary) : UInt64 :=
  s.steps.foldl (fun total stats => total + stats.operations) 0

def Aggregator.summary (a : Aggregator) (p : Pacing) : Summary where
  operation := a.operation
  steps := a.steps.toList.mapIdx StepStats.ofTotals
  invalidSamples := a.invalidSamples
  pacingSamples := p.samples
  averagePacing := p.average

end StepLatency
