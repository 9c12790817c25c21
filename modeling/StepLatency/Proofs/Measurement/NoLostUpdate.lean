import Mathlib
import StepLatency.Proofs.Concurrency.Interleaved
import StepLatency.Proofs.Measurement.Reading
import StepLatency.Proofs.Measurement.Sample

/-!
# No update is lost

Workers share an aggregator without a lock, and their updates interleave in any way, halfway through
a sample too. What the counters hold in the end is what the workers' calls come to when they are
counted one by one: no interleaving loses an update.
-/

namespace StepLatency

namespace Call

def InRange : Call → Prop
  | .record latency _ => -0x8000000000000000 ≤ latency ∧ latency < 0x8000000000000000
  | .pace _ => True

instance : DecidablePred InRange
  | .record _ _ => inferInstanceAs (Decidable (_ ∧ _))
  | .pace _ => inferInstanceAs (Decidable True)

def validLatency? (step : Nat) : Call → Option Nat
  | .record latency step' => if step' = step ∧ 0 ≤ latency then some latency.toNat else none
  | .pace _ => none

def isValid (stepCount : Nat) : Call → Bool
  | .record latency step => step < stepCount && 0 ≤ latency
  | .pace _ => false

def isInvalid (stepCount : Nat) : Call → Bool
  | .record latency step => step < stepCount && latency < 0
  | .pace _ => false

def delay? : Call → Option Nat
  | .record _ _ => none
  | .pace delay => some delay.toNat

end Call

/-! ### What the updates of calls add -/

section Calls

variable {s : Store} {h : Handle} {a : Aggregator} {calls : List Call}

theorem Store.sum_added_record (ha : s.aggregators[h]? = some a) (c : Counter) (latency : Int)
    (step : Nat) :
    ((s.callUpdates h (.record latency step)).map (c.added s)).sum =
      if step < a.stepCount then c.addedOn s h (sampleUpdates latency step) else 0 := by
  rw [callUpdates, ha, ← c.sum_map_added]
  by_cases hstep : step < a.stepCount
  · simp [hstep, Aggregator.callUpdates, Aggregator.updates_of_lt hstep, Except.toOption]
  · have hrefused : a.refuses (.record latency step) = true := by
      simpa [Aggregator.refuses] using hstep
    simp [hstep, Aggregator.callUpdates_of_refuses hrefused]

theorem Store.sum_added_pace (ha : s.aggregators[h]? = some a) (c : Counter) (delay : UInt64) :
    ((s.callUpdates h (.pace delay)).map (c.added s)).sum =
      c.addedOn s h (Update.pacing delay) := by
  rw [callUpdates, ha, ← c.sum_map_added]
  rfl

def Store.callsAdd (s : Store) (h : Handle) (c : Counter) (calls : List Call) : Nat :=
  ((calls.flatMap (s.callUpdates h)).map (c.added s)).sum

theorem Store.callsAdd_eq_sum {c : Counter} {f : Call → Nat}
    (hcall : ∀ call ∈ calls, ((s.callUpdates h call).map (c.added s)).sum = f call) :
    s.callsAdd h c calls = (calls.map f).sum := by
  unfold callsAdd
  induction calls with
  | nil => rfl
  | cons call rest ih =>
      rw [List.flatMap_cons, List.map_append, List.sum_append, hcall call List.mem_cons_self,
        ih fun call hmem => hcall call (List.mem_cons_of_mem _ hmem), List.map_cons, List.sum_cons]

/-- Calls add the latencies of their valid samples to the sum of a step. -/
theorem Store.callsAdd_latencySum (ha : s.aggregators[h]? = some a)
    (hrange : ∀ call ∈ calls, call.InRange) {step : Nat} (hstep : step < a.stepCount) :
    s.callsAdd h (.latencySum h step) calls = (calls.filterMap (Call.validLatency? step)).sum := by
  rw [sum_filterMap]
  refine callsAdd_eq_sum fun call hmem => ?_
  cases call with
  | record latency step' =>
      have hlatency : latency < UInt64.size := by
        have hbound : latency < 0x8000000000000000 := (hrange _ hmem).2
        unfold UInt64.size
        omega
      rw [sum_added_record ha, Counter.addedOn_sample_latencySum hlatency]
      by_cases hs : step' = step
      · by_cases hpos : 0 ≤ latency <;> simp [Call.validLatency?, hs, hstep, hpos]
      · simp [Call.validLatency?, hs]
  | pace delay =>
      rw [sum_added_pace ha, Counter.addedOn_pacing]
      rfl

/-- Calls count their valid samples. -/
theorem Store.callsAdd_operations (ha : s.aggregators[h]? = some a) {step : Nat}
    (hstep : step < a.stepCount) :
    s.callsAdd h (.operations h step) calls =
      (calls.filterMap (Call.validLatency? step)).length := by
  rw [List.length_filterMap_eq_countP, countP_eq_sum_map]
  refine callsAdd_eq_sum fun call _ => ?_
  cases call with
  | record latency step' =>
      rw [sum_added_record ha, Counter.addedOn_sample_operations]
      by_cases hs : step' = step
      · by_cases hpos : 0 ≤ latency <;> simp [Call.validLatency?, hs, hstep, hpos]
      · simp [Call.validLatency?, hs]
  | pace delay =>
      rw [sum_added_pace ha, Counter.addedOn_pacing]
      rfl

theorem Store.callsAdd_invalidSamples (ha : s.aggregators[h]? = some a) :
    s.callsAdd h (.invalidSamples h) calls = calls.countP (Call.isInvalid a.stepCount) := by
  rw [countP_eq_sum_map]
  refine callsAdd_eq_sum fun call _ => ?_
  cases call with
  | record latency step' =>
      rw [sum_added_record ha, Counter.addedOn_sample_invalidSamples]
      by_cases hstep : step' < a.stepCount <;> simp [Call.isInvalid, hstep]
  | pace delay =>
      rw [sum_added_pace ha, Counter.addedOn_pacing]
      rfl

theorem Store.callsAdd_delaySum (ha : s.aggregators[h]? = some a) :
    s.callsAdd h (.delaySum a.tracker) calls = (calls.filterMap Call.delay?).sum := by
  rw [sum_filterMap]
  refine callsAdd_eq_sum fun call _ => ?_
  cases call with
  | record latency step' =>
      rw [sum_added_record ha, Counter.addedOn_sample_delaySum, ite_self]
      rfl
  | pace delay =>
      rw [sum_added_pace ha, Counter.addedOn_pacing]
      exact if_pos (trackerOf_some ha)

theorem Store.callsAdd_pacingSamples (ha : s.aggregators[h]? = some a) :
    s.callsAdd h (.pacingSamples a.tracker) calls = (calls.filterMap Call.delay?).length := by
  rw [List.length_filterMap_eq_countP, countP_eq_sum_map]
  refine callsAdd_eq_sum fun call _ => ?_
  cases call with
  | record latency step' =>
      rw [sum_added_record ha, Counter.addedOn_sample_pacingSamples, ite_self]
      rfl
  | pace delay =>
      rw [sum_added_pace ha, Counter.addedOn_pacing]
      exact if_pos (trackerOf_some ha)

/-- Every valid sample belongs to exactly one declared step. -/
theorem Call.sum_length_validLatency (stepCount : Nat) (calls : List Call) :
    ((List.range stepCount).map fun step =>
      (calls.filterMap (validLatency? step)).length).sum = calls.countP (isValid stepCount) := by
  have hone (call : Call) :
      ((List.range stepCount).countP fun step => (call.validLatency? step).isSome) =
        if call.isValid stepCount then 1 else 0 := by
    cases call with
    | record latency step' =>
        by_cases hpos : 0 ≤ latency
        · have hsome (step : Nat) :
              ((record latency step').validLatency? step).isSome = (step == step') := by
            by_cases hstep : step' = step
            · simp [validLatency?, hpos, hstep]
            · simp [validLatency?, hstep, Ne.symm hstep]
          simp [hsome, countP_range_beq, isValid, hpos]
        · simp [validLatency?, isValid, hpos]
    | pace delay => simp [validLatency?, isValid]
  simp only [List.length_filterMap_eq_countP]
  rw [sum_countP_comm fun step call => (validLatency? step call).isSome, countP_eq_sum_map]
  simp only [hone]

end Calls

/-- Whatever the workers of a fresh aggregator call, and however their updates interleave, its
counters end up as if every call had been counted by itself. -/
theorem Store.counts_of_interleaving (s : Store) (name : String) {n : Nat} (hn : 0 < n) :
    ∃ h s', s.create name n = (.ok h, s') ∧
      ∀ (workers : List (List Call)) (out : List (Handle × Update)),
        (∀ call ∈ workers.flatten, call.InRange) → workers.flatten.length < UInt64.size →
        Interleaving (workers.map fun calls => calls.flatMap (s'.callUpdates h)) out →
        ∃ summary, (s'.applyTagged out).summary? h = some summary ∧
          summary.steps.length = n ∧
          (∀ step < n, ∃ stats, summary.steps[step]? = some stats ∧ stats.step = step ∧
            stats.latencySum.toNat =
              min (workers.flatten.filterMap (Call.validLatency? step)).sum maxCount ∧
            stats.operations.toNat =
              (workers.flatten.filterMap (Call.validLatency? step)).length) ∧
          summary.invalidSamples.toNat = workers.flatten.countP (Call.isInvalid n) ∧
          ((s'.applyTagged out).pacing (s'.trackerOf (some h))).delaySum.toNat =
            min (workers.flatten.filterMap Call.delay?).sum maxCount ∧
          ((s'.applyTagged out).pacing (s'.trackerOf (some h))).samples.toNat =
            (workers.flatten.filterMap Call.delay?).length ∧
          summary.totalOperations.toNat = workers.flatten.countP (Call.isValid n) := by
  obtain ⟨h, s', a, hcreate, hunused, -, rfl⟩ := s.exists_create_eq_ok name hn
  refine ⟨h, s', hcreate, fun workers out hrange hfew hout => ?_⟩
  have ha := hunused.aggregator
  have hadded (c : Counter) : (out.map (c.added s')).sum = s'.callsAdd h c workers.flatten := by
    rw [hout.sum_map_eq, callsAdd, List.flatten_eq_flatMap (L := workers), List.flatMap_assoc]
    rfl
  have hfits (m : Nat) (hm : m ≤ workers.flatten.length) : m % UInt64.size = m :=
    Nat.mod_eq_of_lt (Nat.lt_of_le_of_lt hm hfew)
  obtain ⟨a', ha', -, hcount, htracker⟩ := exists_aggregator_applyTagged ha out
  have hoperations (step : Nat) (hstep : step < a.stepCount) :
      ((Counter.operations h step).value (s'.applyTagged out)).toNat =
        (workers.flatten.filterMap (Call.validLatency? step)).length := by
    rw [hunused.toNat_operations hstep, hadded, callsAdd_operations ha hstep]
    exact hfits _ (List.length_filterMap_le _ _)
  refine ⟨_, summary?_eq_some ha', by simp [hcount], ?_, ?_, ?_, ?_, ?_⟩
  · intro step hstep
    refine ⟨(s'.applyTagged out).stepStats h step, ?_, rfl, ?_, ?_⟩
    · simp [hcount, hstep]
    · rw [latencySum_stepStats, hunused.toNat_latencySum hstep, hadded,
        callsAdd_latencySum ha hrange hstep]
    · rw [operations_stepStats, hoperations step hstep]
  · rw [hunused.toNat_invalidSamples, hadded, callsAdd_invalidSamples ha]
    exact hfits _ List.countP_le_length
  · rw [trackerOf_some ha]
    change ((Counter.delaySum a.tracker).value (s'.applyTagged out)).toNat = _
    rw [hunused.toNat_delaySum, hadded, callsAdd_delaySum ha]
  · rw [trackerOf_some ha]
    change ((Counter.pacingSamples a.tracker).value (s'.applyTagged out)).toNat = _
    rw [hunused.toNat_pacingSamples, hadded, callsAdd_pacingSamples ha]
    exact hfits _ (List.length_filterMap_le _ _)
  · have hsteps : (List.range a.stepCount).map
        (fun step => ((s'.applyTagged out).stepStats h step).operations.toNat) =
          (List.range a.stepCount).map fun step =>
            (workers.flatten.filterMap (Call.validLatency? step)).length := by
      refine List.map_congr_left fun step hstep => ?_
      rw [operations_stepStats, hoperations step (List.mem_range.1 hstep)]
    rw [Summary.toNat_totalOperations, List.map_map, hcount]
    refine (congrArg (fun steps : List Nat => steps.sum % UInt64.size) hsteps).trans ?_
    rw [Call.sum_length_validLatency]
    exact hfits _ List.countP_le_length

/-- One of two workers is halfway through a sample when the other one begins. A negative sample and
one of a step that was not declared are among the calls. -/
theorem Store.counts_of_two_workers :
    ∃ h s' summary, Store.empty.create "SCAN" 2 = (.ok h, s') ∧
      (s'.applyTagged (weave [0, 1, 1, 0] ([[Call.record 5 0, .pace 3],
        [.record 7 0, .record (-1) 1, .record 9 2]].map
          fun calls => calls.flatMap (s'.callUpdates h)))).summary? h = some summary ∧
      summary.invalidSamples.toNat = 1 ∧ summary.totalOperations.toNat = 2 := by
  obtain ⟨h, s', hcreate, hcounts⟩ := Store.empty.counts_of_interleaving "SCAN" (n := 2) (by decide)
  obtain ⟨summary, hsummary, -, -, hinvalid, -, -, htotal⟩ :=
    hcounts [[.record 5 0, .pace 3], [.record 7 0, .record (-1) 1, .record 9 2]] _ (by decide)
      (by decide) (interleaving_weave [0, 1, 1, 0] _)
  exact ⟨h, s', summary, hcreate, hsummary, hinvalid.trans (by decide), htotal.trans (by decide)⟩

end StepLatency
