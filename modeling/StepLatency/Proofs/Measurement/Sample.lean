import Mathlib
import StepLatency.Proofs.Measurement.Counter

/-!
# Samples and pacing intervals

A sample of a declared step comes down to one update or two, by its sign alone. What they add to the
counters, and what a pacing interval adds, does not depend on what was recorded before.
-/

namespace StepLatency

def sampleUpdates (latency : Int) (step : Nat) : List Update :=
  if latency < 0 then [.countInvalid]
  else [.addLatency step (UInt64.ofNat latency.toNat), .countOperation step]

theorem Aggregator.updates_of_lt {a : Aggregator} {step : Nat} (hstep : step < a.stepCount)
    (latency : Int) : a.updates latency step = .ok (sampleUpdates latency step) := by
  rw [updates, if_neg (Nat.not_le.2 hstep), sampleUpdates]
  by_cases hneg : latency < 0 <;> simp [hneg]

namespace Counter

variable {s : Store} {h h' : Handle} {step step' : Nat} {latency : Int}

def addedOn (c : Counter) (s : Store) (h : Handle) (us : List Update) : Nat :=
  (us.map fun u => c.added s (h, u)).sum

theorem addedOn_nil (c : Counter) : c.addedOn s h [] = 0 := rfl

theorem addedOn_append (c : Counter) (us vs : List Update) :
    c.addedOn s h (us ++ vs) = c.addedOn s h us + c.addedOn s h vs := by
  simp [addedOn]

theorem sum_map_added (c : Counter) (us : List Update) :
    ((us.map (h, ·)).map (c.added s)).sum = c.addedOn s h us := by
  rw [List.map_map]
  rfl

/-- A valid latency is added as the word that it is cut to. -/
theorem addedOn_sample_latencySum_word :
    (latencySum h step).addedOn s h' (sampleUpdates latency step') =
      if h' = h ∧ step' = step ∧ 0 ≤ latency then (UInt64.ofNat latency.toNat).toNat else 0 := by
  unfold addedOn sampleUpdates
  by_cases hneg : latency < 0
  · have hnot : ¬ 0 ≤ latency := by omega
    simp [added, hneg, hnot]
  · have hpos : 0 ≤ latency := by omega
    by_cases hh : h' = h
    · simp [added, hneg, hpos, hh]
    · simp [added, hneg, hh]

theorem addedOn_sample_latencySum (hlatency : latency < UInt64.size) :
    (latencySum h step).addedOn s h' (sampleUpdates latency step') =
      if h' = h ∧ step' = step ∧ 0 ≤ latency then latency.toNat else 0 := by
  rw [addedOn_sample_latencySum_word]
  by_cases hpos : 0 ≤ latency
  · have hword : (UInt64.ofNat latency.toNat).toNat = latency.toNat :=
      UInt64.toNat_ofNat_of_lt (by omega)
    rw [hword]
  · simp [hpos]

theorem addedOn_sample_operations :
    (operations h step).addedOn s h' (sampleUpdates latency step') =
      if h' = h ∧ step' = step ∧ 0 ≤ latency then 1 else 0 := by
  unfold addedOn sampleUpdates
  by_cases hneg : latency < 0
  · have hnot : ¬ 0 ≤ latency := by omega
    simp [added, hneg, hnot]
  · have hpos : 0 ≤ latency := by omega
    by_cases hh : h' = h
    · simp [added, hneg, hpos, hh]
    · simp [added, hneg, hh]

theorem addedOn_sample_invalidSamples :
    (invalidSamples h).addedOn s h' (sampleUpdates latency step') =
      if h' = h ∧ latency < 0 then 1 else 0 := by
  unfold addedOn sampleUpdates
  by_cases hneg : latency < 0 <;> simp [added, hneg]

theorem addedOn_sample_delaySum (tracker : TrackerId) :
    (delaySum tracker).addedOn s h (sampleUpdates latency step) = 0 := by
  unfold addedOn sampleUpdates
  by_cases hneg : latency < 0 <;> simp [added, hneg]

theorem addedOn_sample_pacingSamples (tracker : TrackerId) :
    (pacingSamples tracker).addedOn s h (sampleUpdates latency step) = 0 := by
  unfold addedOn sampleUpdates
  by_cases hneg : latency < 0 <;> simp [added, hneg]

/-- A pacing interval adds to nothing but the tracker. -/
theorem addedOn_pacing (c : Counter) (delay : UInt64) :
    c.addedOn s h (Update.pacing delay) =
      match c with
      | .delaySum tracker => if s.trackerOf (some h) = tracker then delay.toNat else 0
      | .pacingSamples tracker => if s.trackerOf (some h) = tracker then 1 else 0
      | _ => 0 := by
  cases c <;> simp [addedOn, Update.pacing, added]

end Counter

end StepLatency
