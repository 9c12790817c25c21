import Mathlib
import StepLatency.Measurement.Call

/-!
# Counters of a store

Everything that updates change is a counter: the latency sum and the number of operations of a step,
the number of invalid samples, and the two counters of a tracker. A counter adds up what the updates
add to it and shows the total, and none of them depends on the order of the updates.
-/

namespace StepLatency

inductive Counter
  | latencySum (h : Handle) (step : Nat)
  | operations (h : Handle) (step : Nat)
  | invalidSamples (h : Handle)
  | delaySum (tracker : TrackerId)
  | pacingSamples (tracker : TrackerId)

namespace Update

def addedLatency (step : Nat) : Update → Nat
  | .addLatency step' latency => if step' = step then latency.toNat else 0
  | _ => 0

def addedOperations (step : Nat) : Update → Nat
  | .countOperation step' => if step' = step then 1 else 0
  | _ => 0

def addedInvalid : Update → Nat
  | .countInvalid => 1
  | _ => 0

def addedDelay : Update → Nat
  | .addDelay delay => delay.toNat
  | _ => 0

def addedPacing : Update → Nat
  | .countDelay => 1
  | _ => 0

attribute [simp] addedLatency addedOperations addedInvalid addedDelay addedPacing

end Update

def Store.totals? (s : Store) (h : Handle) (step : Nat) : Option StepTotals :=
  s.aggregators[h]?.bind (·.steps[step]?)

namespace Counter

def Present (s : Store) : Counter → Prop
  | .latencySum h step | .operations h step => (s.totals? h step).isSome
  | .invalidSamples h => h < s.aggregators.size
  | .delaySum tracker | .pacingSamples tracker => tracker < s.trackers.size

def value (s : Store) : Counter → UInt64
  | .latencySum h step => ((s.totals? h step).getD .empty).latencySum
  | .operations h step => ((s.totals? h step).getD .empty).operations
  | .invalidSamples h => (s.aggregators[h]?.map (·.invalidSamples)).getD 0
  | .delaySum tracker => (s.pacing tracker).delaySum
  | .pacingSamples tracker => (s.pacing tracker).samples

/-- What a counter shows of a total: sums stick at the largest word, numbers of events start again
from zero. -/
def shown : Counter → Nat → Nat
  | .latencySum _ _, n | .delaySum _, n => min n maxCount
  | .operations _ _, n | .invalidSamples _, n | .pacingSamples _, n => n % UInt64.size

def added (s : Store) : Counter → Handle × Update → Nat
  | .latencySum h step, (h', u) => if h' = h then u.addedLatency step else 0
  | .operations h step, (h', u) => if h' = h then u.addedOperations step else 0
  | .invalidSamples h, (h', u) => if h' = h then u.addedInvalid else 0
  | .delaySum tracker, (h', u) => if s.trackerOf (some h') = tracker then u.addedDelay else 0
  | .pacingSamples tracker, (h', u) => if s.trackerOf (some h') = tracker then u.addedPacing else 0

theorem shown_shown_add (c : Counter) (m n : Nat) : c.shown (c.shown m + n) = c.shown (m + n) := by
  cases c with
  | latencySum h step => simp only [shown]; omega
  | operations h step => simp only [shown, Nat.mod_add_mod]
  | invalidSamples h => simp only [shown, Nat.mod_add_mod]
  | delaySum tracker => simp only [shown]; omega
  | pacingSamples tracker => simp only [shown, Nat.mod_add_mod]

end Counter

theorem min_toNat_maxCount (w : UInt64) : min w.toNat maxCount = w.toNat := by
  have hw : w.toNat < UInt64.size := w.toNat_lt_size
  unfold maxCount
  omega

theorem toNat_mod_size (w : UInt64) : w.toNat % UInt64.size = w.toNat :=
  Nat.mod_eq_of_lt w.toNat_lt_size

theorem toNat_add_one (w : UInt64) : (w + 1).toNat = (w.toNat + 1) % UInt64.size :=
  UInt64.toNat_add w 1

theorem Counter.shown_toNat (c : Counter) (w : UInt64) : c.shown w.toNat = w.toNat := by
  cases c with
  | latencySum h step => exact min_toNat_maxCount w
  | operations h step => exact toNat_mod_size w
  | invalidSamples h => exact toNat_mod_size w
  | delaySum tracker => exact min_toNat_maxCount w
  | pacingSamples tracker => exact toNat_mod_size w

/-! ### One update -/

def Update.onTotals (step : Nat) : Update → StepTotals → StepTotals
  | .addLatency step' latency, t => if step' = step then t.addLatency latency else t
  | .countOperation step', t => if step' = step then t.countOperation else t
  | .countInvalid, t | .addDelay _, t | .countDelay, t => t

theorem getElem?_modify_eq_map {α : Type} (xs : Array α) (j i : Nat) (f : α → α) :
    (xs.modify j f)[i]? = xs[i]?.map fun x => if j = i then f x else x := by
  rw [Array.getElem?_modify]
  by_cases hji : j = i <;> simp [hji]

theorem Update.getElem?_steps_onAggregator (u : Update) (a : Aggregator) (step : Nat) :
    (u.onAggregator a).steps[step]? = a.steps[step]?.map (u.onTotals step) := by
  cases u with
  | addLatency step' latency => exact getElem?_modify_eq_map a.steps step' step _
  | countOperation step' => exact getElem?_modify_eq_map a.steps step' step _
  | countInvalid => exact Option.map_id'.symm
  | addDelay delay => exact Option.map_id'.symm
  | countDelay => exact Option.map_id'.symm

section Amounts

variable (u : Update) (step : Nat) (t : StepTotals)

theorem Update.toNat_latencySum_onTotals :
    (u.onTotals step t).latencySum.toNat =
      min (t.latencySum.toNat + u.addedLatency step) maxCount := by
  cases u with
  | addLatency step' latency =>
      by_cases hstep : step' = step
      · simp [onTotals, hstep, StepTotals.addLatency, toNat_addCapped]
      · simp [onTotals, hstep, min_toNat_maxCount]
  | countOperation step' =>
      by_cases hstep : step' = step
      · simp [onTotals, hstep, StepTotals.countOperation, min_toNat_maxCount]
      · simp [onTotals, hstep, min_toNat_maxCount]
  | countInvalid => exact (min_toNat_maxCount _).symm
  | addDelay delay => exact (min_toNat_maxCount _).symm
  | countDelay => exact (min_toNat_maxCount _).symm

theorem Update.toNat_operations_onTotals :
    (u.onTotals step t).operations.toNat =
      (t.operations.toNat + u.addedOperations step) % UInt64.size := by
  cases u with
  | addLatency step' latency =>
      by_cases hstep : step' = step
      · simp [onTotals, hstep, StepTotals.addLatency]
      · simp [onTotals, hstep]
  | countOperation step' =>
      by_cases hstep : step' = step
      · simp [onTotals, hstep, StepTotals.countOperation]
      · simp [onTotals, hstep]
  | countInvalid => exact (toNat_mod_size _).symm
  | addDelay delay => exact (toNat_mod_size _).symm
  | countDelay => exact (toNat_mod_size _).symm

theorem Update.toNat_invalidSamples_onAggregator (a : Aggregator) :
    (u.onAggregator a).invalidSamples.toNat =
      (a.invalidSamples.toNat + u.addedInvalid) % UInt64.size := by
  cases u with
  | countInvalid => exact toNat_add_one _
  | addLatency step latency => exact (toNat_mod_size _).symm
  | countOperation step => exact (toNat_mod_size _).symm
  | addDelay delay => exact (toNat_mod_size _).symm
  | countDelay => exact (toNat_mod_size _).symm

theorem Update.toNat_delaySum_onPacing (p : Pacing) :
    (u.onPacing p).delaySum.toNat = min (p.delaySum.toNat + u.addedDelay) maxCount := by
  cases u with
  | addDelay delay => exact toNat_addCapped _ _
  | countDelay => exact (min_toNat_maxCount _).symm
  | addLatency step latency => exact (min_toNat_maxCount _).symm
  | countOperation step => exact (min_toNat_maxCount _).symm
  | countInvalid => exact (min_toNat_maxCount _).symm

theorem Update.toNat_samples_onPacing (p : Pacing) :
    (u.onPacing p).samples.toNat = (p.samples.toNat + u.addedPacing) % UInt64.size := by
  cases u with
  | countDelay => exact toNat_add_one _
  | addDelay delay => exact (toNat_mod_size _).symm
  | addLatency step latency => exact (toNat_mod_size _).symm
  | countOperation step => exact (toNat_mod_size _).symm
  | countInvalid => exact (toNat_mod_size _).symm

end Amounts

namespace Store

theorem getElem?_aggregators_apply (s : Store) (h' : Handle) (u : Update) (h : Handle) :
    (s.apply h' u).aggregators[h]? =
      s.aggregators[h]?.map fun a => if h' = h then u.onAggregator a else a :=
  getElem?_modify_eq_map s.aggregators h' h _

theorem totals?_apply (s : Store) (h' : Handle) (u : Update) (h : Handle) (step : Nat) :
    (s.apply h' u).totals? h step =
      (s.totals? h step).map fun t => if h' = h then u.onTotals step t else t := by
  unfold totals?
  rw [getElem?_aggregators_apply]
  cases s.aggregators[h]? with
  | none => rfl
  | some a =>
      by_cases hh : h' = h
      · simp [hh, Update.getElem?_steps_onAggregator]
      · simp [hh]

theorem pacing_apply (s : Store) (h : Handle) (u : Update) {tracker : TrackerId}
    (htracker : tracker < s.trackers.size) :
    (s.apply h u).pacing tracker =
      if s.trackerOf (some h) = tracker then u.onPacing (s.pacing tracker)
      else s.pacing tracker := by
  simp only [pacing, apply, Array.getD_eq_getD_getElem?, Array.getElem?_modify]
  by_cases ht : s.trackerOf (some h) = tracker <;> simp [ht, htracker]

theorem size_aggregators_apply (s : Store) (h : Handle) (u : Update) :
    (s.apply h u).aggregators.size = s.aggregators.size :=
  Array.size_modify

theorem size_trackers_apply (s : Store) (h : Handle) (u : Update) :
    (s.apply h u).trackers.size = s.trackers.size :=
  Array.size_modify

/-- Updates never move an aggregator to another tracker. -/
theorem trackerOf_apply (s : Store) (h : Handle) (u : Update) (target : Option Handle) :
    (s.apply h u).trackerOf target = s.trackerOf target := by
  cases target with
  | none => rfl
  | some h' =>
      simp only [trackerOf, getElem?_aggregators_apply]
      cases s.aggregators[h']? with
      | none => rfl
      | some a =>
          by_cases hh : h = h'
          · simp [hh, Aggregator.tracker_onAggregator]
          · simp [hh]

end Store

/-! ### The step and the run

An update moves every counter by what it adds; a run of updates moves it by the sum. -/

section Run

variable {s : Store} {c : Counter}

/-- One update adds its part to what a counter shows, and nothing else does. -/
theorem Counter.toNat_value_apply (hc : c.Present s) (h : Handle) (u : Update) :
    (c.value (s.apply h u)).toNat = c.shown ((c.value s).toNat + c.added s (h, u)) := by
  have hsame := c.shown_toNat (c.value s)
  cases c with
  | latencySum h' step =>
      obtain ⟨t, ht⟩ := Option.isSome_iff_exists.1 hc
      have hvalue : (latencySum h' step).value s = t.latencySum := by simp [value, ht]
      rw [hvalue] at hsame ⊢
      simp only [value, Store.totals?_apply, ht, Option.map_some, Option.getD_some, added]
      by_cases hh : h = h'
      · rw [if_pos hh, if_pos hh]
        exact u.toNat_latencySum_onTotals step t
      · rw [if_neg hh, if_neg hh]
        exact hsame.symm
  | operations h' step =>
      obtain ⟨t, ht⟩ := Option.isSome_iff_exists.1 hc
      have hvalue : (operations h' step).value s = t.operations := by simp [value, ht]
      rw [hvalue] at hsame ⊢
      simp only [value, Store.totals?_apply, ht, Option.map_some, Option.getD_some, added]
      by_cases hh : h = h'
      · rw [if_pos hh, if_pos hh]
        exact u.toNat_operations_onTotals step t
      · rw [if_neg hh, if_neg hh]
        exact hsame.symm
  | invalidSamples h' =>
      have ha : s.aggregators[h']? = some s.aggregators[h'] := Array.getElem?_eq_getElem hc
      have hvalue : (invalidSamples h').value s = s.aggregators[h'].invalidSamples := by
        simp [value, ha]
      rw [hvalue] at hsame ⊢
      simp only [value, Store.getElem?_aggregators_apply, ha, Option.map_some, Option.getD_some,
        added]
      by_cases hh : h = h'
      · rw [if_pos hh, if_pos hh]
        exact u.toNat_invalidSamples_onAggregator s.aggregators[h']
      · rw [if_neg hh, if_neg hh]
        exact hsame.symm
  | delaySum tracker =>
      simp only [value, Store.pacing_apply s h u hc, added]
      by_cases ht : s.trackerOf (some h) = tracker
      · rw [if_pos ht, if_pos ht]
        exact u.toNat_delaySum_onPacing (s.pacing tracker)
      · rw [if_neg ht, if_neg ht]
        exact hsame.symm
  | pacingSamples tracker =>
      simp only [value, Store.pacing_apply s h u hc, added]
      by_cases ht : s.trackerOf (some h) = tracker
      · rw [if_pos ht, if_pos ht]
        exact u.toNat_samples_onPacing (s.pacing tracker)
      · rw [if_neg ht, if_neg ht]
        exact hsame.symm

theorem Counter.Present.apply (hc : c.Present s) (h : Handle) (u : Update) :
    c.Present (s.apply h u) := by
  cases c with
  | latencySum h' step => simpa [Present, Store.totals?_apply] using hc
  | operations h' step => simpa [Present, Store.totals?_apply] using hc
  | invalidSamples h' => simpa [Present, Store.size_aggregators_apply] using hc
  | delaySum tracker => simpa [Present, Store.size_trackers_apply] using hc
  | pacingSamples tracker => simpa [Present, Store.size_trackers_apply] using hc

theorem Counter.added_apply (c : Counter) (s : Store) (h : Handle) (u : Update) :
    c.added (s.apply h u) = c.added s := by
  funext ⟨h', u'⟩
  cases c <;> simp [added, Store.trackerOf_apply]

/-- A counter after a run shows what it was at the start and the sum of what the updates add. -/
theorem Counter.toNat_value_applyTagged (hc : c.Present s) (us : List (Handle × Update)) :
    (c.value (s.applyTagged us)).toNat =
      c.shown ((c.value s).toNat + (us.map (c.added s)).sum) := by
  induction us generalizing s with
  | nil => exact (c.shown_toNat (c.value s)).symm
  | cons first rest ih =>
      obtain ⟨h, u⟩ := first
      calc
        (c.value ((s.apply h u).applyTagged rest)).toNat =
          c.shown ((c.value (s.apply h u)).toNat + (rest.map (c.added (s.apply h u))).sum) :=
            ih (hc.apply h u)
        _ = c.shown (c.shown ((c.value s).toNat + c.added s (h, u)) +
              (rest.map (c.added s)).sum) := by
            rw [toNat_value_apply hc, added_apply]
        _ = c.shown ((c.value s).toNat + (((h, u) :: rest).map (c.added s)).sum) := by
            rw [shown_shown_add, List.map_cons, List.sum_cons, Nat.add_assoc]

end Run

end StepLatency
