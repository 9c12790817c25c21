import Mathlib
import StepLatency.Proofs.Measurement.Counter

/-!
# Reading counters

A run of updates changes counters only: which aggregators there are, what they are called, how many
steps they have and which tracker they report to stays. A summary is made of the counters' values.
-/

namespace StepLatency

/-- The counters of an aggregator and those of its tracker. -/
def Counter.Behind (s : Store) (h : Handle) : Counter → Prop
  | .latencySum h' _ | .operations h' _ | .invalidSamples h' => h' = h
  | .delaySum tracker | .pacingSamples tracker => tracker = s.trackerOf (some h)

def Aggregator.fresh (operation : String) (stepCount : Nat) (tracker : TrackerId) : Aggregator :=
  ⟨operation, Array.replicate stepCount .empty, 0, tracker⟩

@[simp]
theorem Aggregator.stepCount_fresh (operation : String) (stepCount : Nat) (tracker : TrackerId) :
    (fresh operation stepCount tracker).stepCount = stepCount :=
  Array.size_replicate

theorem Aggregator.create_of_pos {operation : String} {stepCount : Nat} {tracker : TrackerId}
    (h : 0 < stepCount) :
    create operation stepCount tracker = .ok (fresh operation stepCount tracker) :=
  if_neg (Nat.ne_of_gt h)

namespace Store

variable {s : Store} {h : Handle} {a : Aggregator}

/-- What every update preserves, a run of updates preserves. -/
theorem applyTagged_preserves {motive : Store → Prop}
    (hstep : ∀ s h u, motive s → motive (s.apply h u)) (hs : motive s)
    (us : List (Handle × Update)) : motive (s.applyTagged us) := by
  induction us generalizing s with
  | nil => exact hs
  | cons first rest ih => exact ih (hstep s first.1 first.2 hs)

/-- The aggregator behind a handle is the same but for its counters. -/
theorem exists_aggregator_applyTagged (ha : s.aggregators[h]? = some a)
    (us : List (Handle × Update)) :
    ∃ a', (s.applyTagged us).aggregators[h]? = some a' ∧ a'.operation = a.operation ∧
      a'.stepCount = a.stepCount ∧ a'.tracker = a.tracker := by
  induction us generalizing s a with
  | nil => exact ⟨a, ha, rfl, rfl, rfl⟩
  | cons first rest ih =>
      obtain ⟨h', u⟩ := first
      have hstep : (s.apply h' u).aggregators[h]? =
          some (if h' = h then u.onAggregator a else a) := by
        rw [getElem?_aggregators_apply, ha, Option.map_some]
      obtain ⟨a', ha', hoperation, hcount, htracker⟩ := ih hstep
      refine ⟨a', ha', ?_, ?_, ?_⟩
      · rw [hoperation]
        split <;> simp [Aggregator.operation_onAggregator]
      · rw [hcount]
        split <;> simp [Aggregator.stepCount_onAggregator]
      · rw [htracker]
        split <;> simp [Aggregator.tracker_onAggregator]

theorem entries_applyTagged (s : Store) (us : List (Handle × Update)) :
    (s.applyTagged us).entries = s.entries :=
  applyTagged_preserves (motive := fun t => t.entries = s.entries) (fun _ _ _ ht => ht) rfl us

theorem trackerOf_some (ha : s.aggregators[h]? = some a) : s.trackerOf (some h) = a.tracker := by
  simp [trackerOf, ha]

theorem totals?_isSome (ha : s.aggregators[h]? = some a) {step : Nat} (hstep : step < a.stepCount) :
    (s.totals? h step).isSome := by
  have hsteps : a.steps[step]? = some a.steps[step] := Array.getElem?_eq_getElem hstep
  simp [totals?, ha, hsteps]

def stepStats (s : Store) (h : Handle) (step : Nat) : StepStats :=
  .ofTotals step ((s.totals? h step).getD .empty)

theorem operations_stepStats (s : Store) (h : Handle) (step : Nat) :
    (s.stepStats h step).operations = (Counter.operations h step).value s := rfl

theorem latencySum_stepStats (s : Store) (h : Handle) (step : Nat) :
    (s.stepStats h step).latencySum = (Counter.latencySum h step).value s := rfl

/-- A summary holds the values of the counters and nothing else. -/
theorem summary?_eq_some (ha : s.aggregators[h]? = some a) :
    s.summary? h = some {
      operation := a.operation
      steps := (List.range a.stepCount).map (s.stepStats h)
      invalidSamples := (Counter.invalidSamples h).value s
      pacingSamples := (Counter.pacingSamples a.tracker).value s
      averagePacing := (s.pacing a.tracker).average } := by
  have hsteps : a.steps.toList.mapIdx StepStats.ofTotals =
      (List.range a.stepCount).map (s.stepStats h) := by
    apply List.ext_getElem?
    intro step
    rw [List.getElem?_mapIdx, List.getElem?_map, Array.getElem?_toList]
    by_cases hstep : step < a.stepCount
    · have hget : a.steps[step]? = some a.steps[step] := Array.getElem?_eq_getElem hstep
      simp [stepStats, totals?, ha, hget, hstep]
    · have hget : a.steps[step]? = none := Array.getElem?_eq_none (Nat.le_of_not_lt hstep)
      simp [hget, hstep]
  rw [summary?, ha, Option.map_some, Aggregator.summary, hsteps]
  simp [Counter.value, ha]

/-! ### Before the first call -/

/-- A handle is unused when neither its aggregator nor the tracker of it has recorded anything. -/
structure Unused (s : Store) (h : Handle) (a : Aggregator) : Prop where
  aggregator : s.aggregators[h]? = some a
  steps : a.steps = Array.replicate a.stepCount .empty
  invalidSamples : a.invalidSamples = 0
  tracker : a.tracker < s.trackers.size
  pacing : s.pacing a.tracker = .empty

namespace Unused

theorem totals?_eq (hs : s.Unused h a) {step : Nat} (hstep : step < a.stepCount) :
    s.totals? h step = some .empty := by
  simp [totals?, hs.aggregator, hs.steps, hstep]

/-- A counter of an unused handle starts at zero. -/
theorem value_eq_zero (hs : s.Unused h a) {c : Counter} (hbehind : c.Behind s h)
    (hpresent : c.Present s) : c.value s = 0 := by
  have hstep {step : Nat} (hsome : (s.totals? h step).isSome) : step < a.stepCount := by
    simpa [totals?, hs.aggregator, Aggregator.stepCount] using hsome
  cases c with
  | latencySum h' step =>
      obtain rfl : h' = h := hbehind
      simp [Counter.value, hs.totals?_eq (hstep hpresent), StepTotals.empty]
  | operations h' step =>
      obtain rfl : h' = h := hbehind
      simp [Counter.value, hs.totals?_eq (hstep hpresent), StepTotals.empty]
  | invalidSamples h' =>
      obtain rfl : h' = h := hbehind
      simp [Counter.value, hs.aggregator, hs.invalidSamples]
  | delaySum tracker =>
      obtain rfl : tracker = a.tracker := hbehind.trans (trackerOf_some hs.aggregator)
      simp [Counter.value, hs.pacing, Pacing.empty]
  | pacingSamples tracker =>
      obtain rfl : tracker = a.tracker := hbehind.trans (trackerOf_some hs.aggregator)
      simp [Counter.value, hs.pacing, Pacing.empty]

/-- After a run, a counter of an unused handle shows the sum of what the updates add to it. -/
theorem toNat_value (hs : s.Unused h a) (c : Counter) (hbehind : c.Behind s h)
    (hpresent : c.Present s) (us : List (Handle × Update)) :
    (c.value (s.applyTagged us)).toNat = c.shown (us.map (c.added s)).sum := by
  rw [Counter.toNat_value_applyTagged hpresent, hs.value_eq_zero hbehind hpresent,
    UInt64.toNat_zero, Nat.zero_add]

theorem toNat_operations (hs : s.Unused h a) {step : Nat} (hstep : step < a.stepCount)
    (us : List (Handle × Update)) :
    ((Counter.operations h step).value (s.applyTagged us)).toNat =
      (us.map ((Counter.operations h step).added s)).sum % UInt64.size :=
  hs.toNat_value (.operations h step) rfl (totals?_isSome hs.aggregator hstep) us

theorem toNat_latencySum (hs : s.Unused h a) {step : Nat} (hstep : step < a.stepCount)
    (us : List (Handle × Update)) :
    ((Counter.latencySum h step).value (s.applyTagged us)).toNat =
      min (us.map ((Counter.latencySum h step).added s)).sum maxCount :=
  hs.toNat_value (.latencySum h step) rfl (totals?_isSome hs.aggregator hstep) us

theorem toNat_invalidSamples (hs : s.Unused h a) (us : List (Handle × Update)) :
    ((Counter.invalidSamples h).value (s.applyTagged us)).toNat =
      (us.map ((Counter.invalidSamples h).added s)).sum % UInt64.size :=
  hs.toNat_value (.invalidSamples h) rfl (Array.getElem?_eq_some_iff.1 hs.aggregator).1 us

theorem toNat_delaySum (hs : s.Unused h a) (us : List (Handle × Update)) :
    ((Counter.delaySum a.tracker).value (s.applyTagged us)).toNat =
      min (us.map ((Counter.delaySum a.tracker).added s)).sum maxCount :=
  hs.toNat_value (.delaySum a.tracker) (trackerOf_some hs.aggregator).symm hs.tracker us

theorem toNat_pacingSamples (hs : s.Unused h a) (us : List (Handle × Update)) :
    ((Counter.pacingSamples a.tracker).value (s.applyTagged us)).toNat =
      (us.map ((Counter.pacingSamples a.tracker).added s)).sum % UInt64.size :=
  hs.toNat_value (.pacingSamples a.tracker) (trackerOf_some hs.aggregator).symm hs.tracker us

end Unused

theorem exists_create_eq_ok (s : Store) (name : String) {n : Nat} (hn : 0 < n) :
    ∃ h s' a, s.create name n = (.ok h, s') ∧ s'.Unused h a ∧ a.operation = name ∧
      a.stepCount = n := by
  let a := Aggregator.fresh name n s.trackers.size
  let s' : Store := ⟨s.trackers.push .empty, s.aggregators.push a, s.entries⟩
  have hcreate : s.create name n = (.ok s.aggregators.size, s') := by
    rw [create, Aggregator.create_of_pos hn]
    rfl
  have hunused : s'.Unused s.aggregators.size a := by
    constructor <;> simp [s', a, Aggregator.fresh, Aggregator.stepCount, Store.pacing,
      Array.getD_eq_getD_getElem?]
  exact ⟨s.aggregators.size, s', a, hcreate, hunused, rfl, Aggregator.stepCount_fresh _ _ _⟩

end Store

theorem Summary.toNat_totalOperations (summary : Summary) :
    summary.totalOperations.toNat =
      (summary.steps.map (·.operations.toNat)).sum % UInt64.size := by
  suffices hfold : ∀ (steps : List StepStats) (total : UInt64),
      (steps.foldl (fun total stats => total + stats.operations) total).toNat =
        (total.toNat + (steps.map (·.operations.toNat)).sum) % UInt64.size by
    rw [totalOperations, hfold, UInt64.toNat_zero, Nat.zero_add]
  intro steps
  induction steps with
  | nil => exact fun total => (Nat.mod_eq_of_lt total.toNat_lt_size).symm
  | cons stats rest ih =>
      intro total
      rw [List.foldl_cons, ih, UInt64.toNat_add, List.map_cons, List.sum_cons, ← Nat.add_assoc]
      exact Nat.mod_add_mod _ _ _

end StepLatency
