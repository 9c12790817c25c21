import StepLatency.Measurement.Error
import StepLatency.Measurement.Pacing

/-!
# Step aggregators

An aggregator keeps, for every step of one operation kind, the sum and the number of its latencies,
and beside them the number of negative samples. Workers share it without a lock: recording a sample
is a short list of *updates*, each of which is indivisible, and updates of several workers may
interleave between them. The delay of the pacing goes to a tracker that aggregators share.
-/

namespace StepLatency

structure StepTotals where
  latencySum : UInt64
  operations : UInt64
deriving DecidableEq, Inhabited

namespace StepTotals

def empty : StepTotals := ⟨0, 0⟩

def addLatency (t : StepTotals) (latency : UInt64) : StepTotals :=
  { t with latencySum := addCapped t.latencySum latency }

def countOperation (t : StepTotals) : StepTotals := { t with operations := t.operations + 1 }

def average (t : StepTotals) : Option UInt64 :=
  if t.operations = 0 then none else some (t.latencySum / t.operations)

end StepTotals

/-- Trackers are known by their position among all trackers. -/
abbrev TrackerId := Nat

structure Aggregator where
  operation : String
  steps : Array StepTotals
  invalidSamples : UInt64
  tracker : TrackerId
deriving DecidableEq, Inhabited

/-- An indivisible change of the counters behind an aggregator or its tracker. -/
inductive Update
  | addLatency (step : Nat) (latency : UInt64)
  | countOperation (step : Nat)
  | countInvalid
  | addDelay (delay : UInt64)
  | countDelay
deriving DecidableEq

namespace Update

def onAggregator : Update → Aggregator → Aggregator
  | .addLatency step latency, a => { a with steps := a.steps.modify step (·.addLatency latency) }
  | .countOperation step, a => { a with steps := a.steps.modify step StepTotals.countOperation }
  | .countInvalid, a => { a with invalidSamples := a.invalidSamples + 1 }
  | .addDelay _, a => a
  | .countDelay, a => a

def onPacing : Update → Pacing → Pacing
  | .addDelay delay, p => p.addDelay delay
  | .countDelay, p => p.countSample
  | .addLatency _ _, p => p
  | .countOperation _, p => p
  | .countInvalid, p => p

def pacing (delay : UInt64) : List Update := [.addDelay delay, .countDelay]

end Update

namespace Aggregator

def stepCount (a : Aggregator) : Nat := a.steps.size

def create (operation : String) (stepCount : Nat) (tracker : TrackerId) :
    Except MeasurementError Aggregator :=
  if stepCount = 0 then .error (.invalidStepCount operation)
  else .ok ⟨operation, Array.replicate stepCount .empty, 0, tracker⟩

/-- The updates that record one latency. A step that was not declared is refused; a negative latency
is counted as invalid and leaves its step alone. -/
def updates (a : Aggregator) (latency : Int) (step : Nat) : Except MeasurementError (List Update) :=
  if a.stepCount ≤ step then .error (.stepOutOfRange a.operation step a.stepCount)
  else if latency < 0 then .ok [.countInvalid]
  else .ok [.addLatency step (UInt64.ofNat latency.toNat), .countOperation step]

theorem stepCount_onAggregator (u : Update) (a : Aggregator) :
    (u.onAggregator a).stepCount = a.stepCount := by
  cases u <;> simp [Update.onAggregator, stepCount]

theorem operation_onAggregator (u : Update) (a : Aggregator) :
    (u.onAggregator a).operation = a.operation := by
  cases u <;> rfl

theorem tracker_onAggregator (u : Update) (a : Aggregator) :
    (u.onAggregator a).tracker = a.tracker := by
  cases u <;> rfl

end Aggregator

end StepLatency
