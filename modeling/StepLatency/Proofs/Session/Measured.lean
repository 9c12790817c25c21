import Mathlib
import StepLatency.Proofs.Measurement.Sample
import StepLatency.Proofs.Session.Persistent

/-!
# What a session has measured

Of a session only this counts: the kinds that were registered, the samples that were accepted for
them, and the pacing intervals since the last reset. After every request the counters of a store
show it, and the invariant is kept by each request in turn.
-/

namespace StepLatency

structure Sample where
  name : String
  latency : Int
  step : Nat
deriving DecidableEq

structure Measured where
  kinds : List (String × Nat)
  samples : List Sample
  delays : List UInt64
deriving DecidableEq

namespace Measured

def nothing : Measured := ⟨[], [], []⟩

def latencies (m : Measured) (name : String) (step : Nat) : List Int :=
  (m.samples.filter fun x => x.name = name ∧ x.step = step ∧ 0 ≤ x.latency).map (·.latency)

def negatives (m : Measured) (name : String) : Nat :=
  m.samples.countP fun x => x.name = name ∧ x.latency < 0

def amount (latency : Int) : Nat := (UInt64.ofNat latency.toNat).toNat

def latencySum (m : Measured) (name : String) (step : Nat) : Nat :=
  ((m.latencies name step).map amount).sum

def delaySum (m : Measured) : Nat := (m.delays.map (·.toNat)).sum

end Measured

def Measured.add (m : Measured) (owner : Option String) (latency : Int) (step : Nat) : Measured :=
  { m with samples := owner.toList.map (⟨·, latency, step⟩) ++ m.samples }

def Store.nameOf (s : Store) (h : Handle) : Option String :=
  (s.entries.find? (·.2 == h)).map (·.1)

def Measured.next (m : Measured) (s : Store) : Request → Reply → Measured
  | .register name n, .handle _ => { m with kinds := (name, n) :: m.kinds }
  | .record h latency step, .done => m.add (s.nameOf h) latency step
  | .recordByName name latency step, .done => m.add (some name) latency step
  | .pace target delay, .done =>
    if s.trackerOf target = Store.registryTracker then { m with delays := delay :: m.delays } else m
  | .reset target, .done =>
    if s.trackerOf target = Store.registryTracker then { m with delays := [] } else m
  | _, _ => m

/-- What is measured after the requests of a session that comes to the given store. -/
def Measured.after (m : Measured) (s : Store) : List Request → Measured
  | [] => m
  | request :: rest =>
    (m.next s request (s.answer request).1).after (s.answer request).2 rest

def measured (requests : List Request) : Measured := Measured.nothing.after .empty requests

/-! ### Counters that show a total -/

structure Counter.Shows (c : Counter) (s : Store) (total : Nat) : Prop where
  present : c.Present s
  value : (c.value s).toNat = c.shown total

/-- Two stores agree on what a counter is read from. -/
def Counter.Agrees (s t : Store) : Counter → Prop
  | .latencySum h _ | .operations h _ | .invalidSamples h => t.aggregators[h]? = s.aggregators[h]?
  | .delaySum tracker | .pacingSamples tracker => t.trackers[tracker]? = s.trackers[tracker]?

namespace Counter.Shows

variable {c : Counter} {s t : Store} {total : Nat}

theorem value_eq (h : c.Shows s total) : c.value s = UInt64.ofNat (c.shown total) := by
  rw [← h.value, UInt64.ofNat_toNat]

theorem applyTagged (h : c.Shows s total) (us : List (Handle × Update)) :
    c.Shows (s.applyTagged us) (total + (us.map (c.added s)).sum) where
  present := Store.applyTagged_preserves (motive := fun t => c.Present t)
    (fun _ h u hs => hs.apply h u) h.present us
  value := by
    rw [toNat_value_applyTagged h.present, h.value, shown_shown_add]

theorem totals?_of_agrees {h : Handle} (heq : t.aggregators[h]? = s.aggregators[h]?)
    (step : Nat) : t.totals? h step = s.totals? h step := by
  rw [Store.totals?, Store.totals?, heq]

theorem pacing_of_agrees {tracker : TrackerId} (heq : t.trackers[tracker]? = s.trackers[tracker]?) :
    t.pacing tracker = s.pacing tracker := by
  rw [Store.pacing, Store.pacing, Array.getD_eq_getD_getElem?, heq, ← Array.getD_eq_getD_getElem?]

theorem size_of_agrees {α : Type} {xs ys : Array α} {i : Nat} (heq : ys[i]? = xs[i]?)
    (hi : i < xs.size) : i < ys.size := by
  rw [Array.getElem?_eq_getElem hi] at heq
  exact (Array.getElem?_eq_some_iff.1 heq).1

theorem of_agrees (h : c.Shows s total) (hagrees : c.Agrees s t) : c.Shows t total := by
  obtain ⟨hpresent, hvalue⟩ := h
  cases c with
  | latencySum h step =>
      have htotals := totals?_of_agrees hagrees step
      exact ⟨by rwa [Present, htotals], by rwa [Counter.value, htotals]⟩
  | operations h step =>
      have htotals := totals?_of_agrees hagrees step
      exact ⟨by rwa [Present, htotals], by rwa [Counter.value, htotals]⟩
  | invalidSamples h =>
      have heq : t.aggregators[h]? = s.aggregators[h]? := hagrees
      exact ⟨size_of_agrees heq hpresent, by rwa [Counter.value, heq]⟩
  | delaySum tracker =>
      exact ⟨size_of_agrees hagrees hpresent, by rwa [Counter.value, pacing_of_agrees hagrees]⟩
  | pacingSamples tracker =>
      exact ⟨size_of_agrees hagrees hpresent, by rwa [Counter.value, pacing_of_agrees hagrees]⟩

section Pacing

variable {tracker : TrackerId}

theorem pacing_pace (htracker : tracker < s.trackers.size) (delay : UInt64) :
    (s.pace tracker delay).pacing tracker = (s.pacing tracker).record delay := by
  simp only [Store.pacing, Store.pace, Array.getD_eq_getD_getElem?, Array.getElem?_modify, if_true,
    Array.getElem?_eq_getElem htracker, Option.map_some, Option.getD_some]

theorem delaySum_pace (h : (delaySum tracker).Shows s total) (delay : UInt64) :
    (delaySum tracker).Shows (s.pace tracker delay) (delay.toNat + total) where
  present := Nat.lt_of_lt_of_eq h.present Array.size_modify.symm
  value := by
    have hbefore : (s.pacing tracker).delaySum.toNat = min total maxCount := h.value
    have hafter : ((s.pacing tracker).record delay).delaySum.toNat =
        min ((s.pacing tracker).delaySum.toNat + delay.toNat) maxCount := toNat_addCapped _ _
    simp only [Counter.value, shown, pacing_pace h.present, hafter, hbefore]
    omega

theorem pacingSamples_pace (h : (pacingSamples tracker).Shows s total) (delay : UInt64) :
    (pacingSamples tracker).Shows (s.pace tracker delay) (total + 1) where
  present := Nat.lt_of_lt_of_eq h.present Array.size_modify.symm
  value := by
    have hbefore : (s.pacing tracker).samples.toNat = total % UInt64.size := h.value
    have hafter : ((s.pacing tracker).record delay).samples.toNat =
        ((s.pacing tracker).samples.toNat + 1) % UInt64.size := toNat_add_one _
    simp only [Counter.value, shown, pacing_pace h.present, hafter, hbefore, Nat.mod_add_mod]

theorem pacing_resetPacing (htracker : tracker < s.trackers.size) :
    (s.resetPacing tracker).pacing tracker = .empty := by
  simp only [Store.pacing, Store.resetPacing, Array.getD_eq_getD_getElem?, Array.getElem?_modify,
    if_true, Array.getElem?_eq_getElem htracker, Option.map_some, Option.getD_some]

theorem delaySum_resetPacing (htracker : tracker < s.trackers.size) :
    (delaySum tracker).Shows (s.resetPacing tracker) 0 where
  present := Nat.lt_of_lt_of_eq htracker Array.size_modify.symm
  value := by
    rw [Counter.value, pacing_resetPacing htracker]
    rfl

theorem pacingSamples_resetPacing (htracker : tracker < s.trackers.size) :
    (pacingSamples tracker).Shows (s.resetPacing tracker) 0 where
  present := Nat.lt_of_lt_of_eq htracker Array.size_modify.symm
  value := by
    rw [Counter.value, pacing_resetPacing htracker]
    rfl

end Pacing

end Counter.Shows

structure Measured.ShownBy (m : Measured) (s : Store) (name : String) (h : Handle) (n : Nat) :
    Prop where
  latencySum : ∀ step < n, (Counter.latencySum h step).Shows s (m.latencySum name step)
  operations : ∀ step < n, (Counter.operations h step).Shows s (m.latencies name step).length
  invalidSamples : (Counter.invalidSamples h).Shows s (m.negatives name)

namespace Measured

/-! ### What one more sample adds -/

section Add

variable {m : Measured} {owner : Option String} {latency : Int} {step step' : Nat} {name : String}

theorem latencies_add :
    (m.add owner latency step').latencies name step =
      if owner = some name ∧ step' = step ∧ 0 ≤ latency then latency :: m.latencies name step
      else m.latencies name step := by
  cases owner with
  | none => simp [add, latencies]
  | some other =>
      simp only [add, latencies, Option.toList_some, List.map_singleton, List.singleton_append,
        List.filter_cons, decide_eq_true_eq, Option.some.injEq]
      split <;> rfl

theorem negatives_add :
    (m.add owner latency step').negatives name =
      m.negatives name + if owner = some name ∧ latency < 0 then 1 else 0 := by
  cases owner with
  | none => simp [add, negatives]
  | some other =>
      simp only [add, negatives, Option.toList_some, List.map_singleton, List.singleton_append,
        List.countP_cons, decide_eq_true_eq, Option.some.injEq]

theorem latencySum_add :
    (m.add owner latency step').latencySum name step = m.latencySum name step +
      if owner = some name ∧ step' = step ∧ 0 ≤ latency then amount latency else 0 := by
  unfold latencySum
  rw [latencies_add]
  split
  · rw [List.map_cons, List.sum_cons, Nat.add_comm]
  · rfl

theorem length_latencies_add :
    ((m.add owner latency step').latencies name step).length = (m.latencies name step).length +
      if owner = some name ∧ step' = step ∧ 0 ≤ latency then 1 else 0 := by
  rw [latencies_add]
  split <;> rfl

end Add

/-! ### The counters of one kind -/

namespace ShownBy

variable {m : Measured} {s t : Store} {name : String} {h : Handle} {n : Nat}

theorem of_agrees (hm : m.ShownBy s name h n) (heq : t.aggregators[h]? = s.aggregators[h]?) :
    m.ShownBy t name h n where
  latencySum step hstep := (hm.latencySum step hstep).of_agrees heq
  operations step hstep := (hm.operations step hstep).of_agrees heq
  invalidSamples := hm.invalidSamples.of_agrees heq

/-- A kind that was not measured before has a fresh aggregator. -/
theorem fresh {tracker : TrackerId}
    (ha : s.aggregators[h]? = some (.fresh name n tracker))
    (hnone : ∀ x ∈ m.samples, x.name ≠ name) : m.ShownBy s name h n := by
  have hlatencies (step : Nat) : m.latencies name step = [] := by
    rw [latencies, List.map_eq_nil_iff, List.filter_eq_nil_iff]
    intro x hx
    simp [hnone x hx]
  have hnegatives : m.negatives name = 0 := by
    rw [negatives, List.countP_eq_zero]
    intro x hx
    simp [hnone x hx]
  have htotals {step : Nat} (hstep : step < n) : s.totals? h step = some .empty := by
    simp [Store.totals?, ha, Aggregator.fresh, hstep]
  constructor
  · intro step hstep
    rw [Measured.latencySum, hlatencies]
    exact ⟨by simp [Counter.Present, htotals hstep], by simp [Counter.value, htotals hstep]; rfl⟩
  · intro step hstep
    rw [hlatencies]
    exact ⟨by simp [Counter.Present, htotals hstep], by simp [Counter.value, htotals hstep]; rfl⟩
  · rw [hnegatives]
    refine ⟨(Array.getElem?_eq_some_iff.1 ha).1, ?_⟩
    simp [Counter.value, ha, Aggregator.fresh, Counter.shown]

/-- A sample moves the counters of the kind that it is recorded for, and of no other. -/
theorem sample (hm : m.ShownBy s name h n) {h' : Handle} {owner : Option String}
    (howner : owner = some name ↔ h' = h) (latency : Int) (step' : Nat) :
    (m.add owner latency step').ShownBy
      (s.applyTagged ((sampleUpdates latency step').map (h', ·))) name h n where
  latencySum step hstep := by
    have hshows := (hm.latencySum step hstep).applyTagged ((sampleUpdates latency step').map (h', ·))
    rw [Counter.sum_map_added, Counter.addedOn_sample_latencySum_word] at hshows
    simp only [latencySum_add, howner]
    exact hshows
  operations step hstep := by
    have hshows := (hm.operations step hstep).applyTagged ((sampleUpdates latency step').map (h', ·))
    rw [Counter.sum_map_added, Counter.addedOn_sample_operations] at hshows
    simp only [length_latencies_add, howner]
    exact hshows
  invalidSamples := by
    have hshows := hm.invalidSamples.applyTagged ((sampleUpdates latency step').map (h', ·))
    rw [Counter.sum_map_added, Counter.addedOn_sample_invalidSamples] at hshows
    simp only [negatives_add, howner]
    exact hshows

end ShownBy

end Measured

end StepLatency
