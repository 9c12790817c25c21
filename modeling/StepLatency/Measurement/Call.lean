import StepLatency.Concurrency.Weave
import StepLatency.Measurement.Store

/-!
# Calls of workers

A worker calls an aggregator to record a sample or a pacing interval. A call comes down to a few
indivisible updates, none if the sample is refused, and the updates of several workers interleave.
-/

namespace StepLatency

inductive Call
  | record (latency : Int) (step : Nat)
  | pace (delay : UInt64)
deriving DecidableEq

namespace Aggregator

def callUpdates (a : Aggregator) : Call → List Update
  | .record latency step => (a.updates latency step).toOption.getD []
  | .pace delay => Update.pacing delay

def refuses (a : Aggregator) : Call → Bool
  | .record _ step => a.stepCount ≤ step
  | .pace _ => false

theorem updates_toOption_isNone_iff (a : Aggregator) (latency : Int) (step : Nat) :
    (a.updates latency step).toOption = none ↔ a.stepCount ≤ step := by
  unfold updates
  split
  · simp [Except.toOption, *]
  · split <;> simp [Except.toOption, *]

/-- A call that is refused comes down to no update. -/
theorem callUpdates_of_refuses {a : Aggregator} {call : Call} (h : a.refuses call = true) :
    a.callUpdates call = [] := by
  cases call with
  | record latency step =>
    have hnone := (a.updates_toOption_isNone_iff latency step).2 (by simpa [refuses] using h)
    simp [callUpdates, hnone]
  | pace delay => simp [refuses] at h

end Aggregator

def Pacing.applyAll (p : Pacing) (updates : List Update) : Pacing :=
  updates.foldl (fun p u => u.onPacing p) p

namespace Store

def callUpdates (s : Store) (h : Handle) (call : Call) : List (Handle × Update) :=
  match s.aggregators[h]? with
  | some a => (a.callUpdates call).map (h, ·)
  | none => []

def refuses (s : Store) (h : Handle) (call : Call) : Bool :=
  s.aggregators[h]?.any (·.refuses call)

def applyTagged (s : Store) (updates : List (Handle × Update)) : Store :=
  updates.foldl (fun s (h, u) => s.apply h u) s

/-- The store after the calls of several workers, whose updates interleave as a schedule says. -/
def performAll (s : Store) (schedule : List Nat) (workers : List (List (Handle × Call))) : Store :=
  s.applyTagged (weave schedule (workers.map fun calls =>
    calls.flatMap fun (h, call) => s.callUpdates h call))

theorem applyTagged_append (s : Store) (first second : List (Handle × Update)) :
    s.applyTagged (first ++ second) = (s.applyTagged first).applyTagged second := by
  simp [applyTagged]

end Store

end StepLatency
