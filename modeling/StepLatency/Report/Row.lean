import StepLatency.Decimal.Layout
import StepLatency.Measurement.Summary

/-!
# Report rows

A report is a flat sequence of rows. A row is addressed by a group, which is the name of an
operation kind, and by a label within that group.
-/

namespace StepLatency

inductive Amount
  | whole (n : UInt64)
  | real (x : Binary64)
deriving DecidableEq

structure Row where
  group : String
  label : String
  value : Amount
deriving DecidableEq

/-- Whole amounts in digits, real ones with two decimal places. -/
def Amount.text : Amount → String
  | .whole n => toString n.toNat
  | .real x => x.toHundredths

def pacingLabel : String := "Sleep per next operations(us)"

def negativeLabel : String := "Negative Latency"

def stepLabel (step : Nat) (operations : UInt64) : String :=
  s!"step:{step}, operations: {operations.toNat}, Average Latency(us)"

namespace Summary

/-- The run-wide mean delay; there is no such row before the first pacing interval. -/
def pacingRows (s : Summary) : List Row :=
  match s.averagePacing with
  | some average => [⟨s.operation, pacingLabel, .real average⟩]
  | none => []

def negativeRows (s : Summary) : List Row :=
  if s.invalidSamples = 0 then [] else [⟨s.operation, negativeLabel, .whole s.invalidSamples⟩]

/-- The mean of one step, zero when the step has no valid sample. -/
def stepRow (s : Summary) (stats : StepStats) : Row :=
  ⟨s.operation, stepLabel stats.step stats.operations, .whole (stats.average.getD 0)⟩

def rows (s : Summary) : List Row :=
  s.pacingRows ++ s.negativeRows ++ s.steps.map s.stepRow

end Summary

end StepLatency
