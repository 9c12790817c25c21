import Mathlib
import StepLatency.Proofs.Measurement.Entries
import StepLatency.Proofs.Measurement.Reading
import StepLatency.Proofs.Measurement.Sample
import StepLatency.Session

/-!
# Effects of requests

What a request can do to a store, and what it is answered, is said once, by one relation. The
registry of a store is well formed in the beginning, and no request spoils it.
-/

namespace StepLatency

theorem Aggregator.create_zero (operation : String) (tracker : TrackerId) :
    create operation 0 tracker = .error (.invalidStepCount operation) :=
  rfl

namespace Store

/-- Every entry leads to an aggregator of its name on the tracker of the registry. -/
structure WellFormed (s : Store) : Prop where
  tracker : registryTracker < s.trackers.size
  sorted : SortedEntries s.entries
  kinds : ∀ name h, (name, h) ∈ s.entries → ∃ a, s.aggregators[h]? = some a ∧
    a.operation = name ∧ 0 < a.stepCount ∧ a.tracker = registryTracker

theorem empty_wellFormed : empty.WellFormed where
  tracker := by decide
  sorted := List.Pairwise.nil
  kinds _ _ hmem := absurd hmem List.not_mem_nil

section Lookup

variable {s : Store} {name : String} {h : Handle}

/-- A name is known just if it has an entry. -/
theorem WellFormed.lookup_eq_some_iff (hs : s.WellFormed) :
    s.lookup name = some h ↔ (name, h) ∈ s.entries :=
  find?_key_eq_some_iff hs.sorted.nodup

theorem WellFormed.lookup_eq_none_iff (hs : s.WellFormed) :
    s.lookup name = none ↔ name ∉ s.entries.map (·.1) := by
  rw [Option.eq_none_iff_forall_ne_some, List.mem_map]
  constructor
  · rintro hnone ⟨⟨key, h⟩, hmem, rfl⟩
    exact hnone h (hs.lookup_eq_some_iff.2 hmem)
  · intro hnot h hsome
    exact hnot ⟨(name, h), hs.lookup_eq_some_iff.1 hsome, rfl⟩

theorem WellFormed.exists_aggregator (hs : s.WellFormed) (hlookup : s.lookup name = some h) :
    ∃ a, s.aggregators[h]? = some a ∧ a.operation = name ∧ 0 < a.stepCount ∧
      a.tracker = registryTracker :=
  hs.kinds name h (hs.lookup_eq_some_iff.1 hlookup)

/-- No aggregator is registered under two names. -/
theorem WellFormed.name_inj (hs : s.WellFormed) {other : String}
    (hlookup : s.lookup name = some h) (hother : s.lookup other = some h) : name = other := by
  obtain ⟨a, ha, hname, -⟩ := hs.exists_aggregator hlookup
  obtain ⟨b, hb, hname', -⟩ := hs.exists_aggregator hother
  rw [ha, Option.some.injEq] at hb
  rw [← hname, hb, hname']

end Lookup

def registered (s : Store) (name : String) (stepCount : Nat) : Store :=
  ⟨s.trackers, s.aggregators.push (.fresh name stepCount registryTracker),
    insertEntry name s.aggregators.size s.entries⟩

/-- The store with an aggregator outside the registry, and trackers that nobody used before. -/
def kept (s : Store) (a : Aggregator) (fresh : Array Pacing) : Store :=
  ⟨s.trackers ++ fresh, s.aggregators.push a, s.entries⟩

/-- All that a request can come to: its reply and the store after it. -/
inductive Effect (s : Store) : Request → Reply → Store → Prop
  | registered {name : String} {n : Nat} (hnew : s.lookup name = none) (hn : 0 < n) :
      Effect s (.register name n) (.handle s.aggregators.size) (s.registered name n)
  | known {name : String} {h : Handle} {a : Aggregator} (hlookup : s.lookup name = some h)
      (ha : s.aggregators[h]? = some a) :
      Effect s (.register name a.stepCount) (.handle h) s
  | mismatch {name : String} {n : Nat} {h : Handle} {a : Aggregator}
      (hlookup : s.lookup name = some h) (ha : s.aggregators[h]? = some a)
      (hn : a.stepCount ≠ n) :
      Effect s (.register name n) (.refused (.stepCountMismatch name a.stepCount n)) s
  | noSteps {name : String} (hnew : s.lookup name = none) :
      Effect s (.register name 0) (.refused (.invalidStepCount name)) s
  | found {name : String} {h : Handle} (hlookup : s.lookup name = some h) :
      Effect s (.lookup name) (.handle h) s
  | notFound {name : String} (hnew : s.lookup name = none) : Effect s (.lookup name) .unknown s
  | created {name : String} {n : Nat} (hn : 0 < n) :
      Effect s (.create name n) (.handle s.aggregators.size)
        (s.kept (.fresh name n s.trackers.size) #[.empty])
  | notCreated {name : String} :
      Effect s (.create name 0) (.refused (.invalidStepCount name)) s
  | shared {name : String} {n : Nat} {source : Option Handle} (hn : 0 < n) :
      Effect s (.share name n source) (.handle s.aggregators.size)
        (s.kept (.fresh name n (s.trackerOf source)) #[])
  | notShared {name : String} {source : Option Handle} :
      Effect s (.share name 0 source) (.refused (.invalidStepCount name)) s
  | recorded {h : Handle} {a : Aggregator} {latency : Int} {step : Nat}
      (ha : s.aggregators[h]? = some a) (hstep : step < a.stepCount) :
      Effect s (.record h latency step) .done
        (s.applyTagged ((sampleUpdates latency step).map (h, ·)))
  | outOfRange {h : Handle} {a : Aggregator} {latency : Int} {step : Nat}
      (ha : s.aggregators[h]? = some a) (hstep : a.stepCount ≤ step) :
      Effect s (.record h latency step) (.refused (.stepOutOfRange a.operation step a.stepCount)) s
  | unissued {h : Handle} {latency : Int} {step : Nat} (ha : s.aggregators[h]? = none) :
      Effect s (.record h latency step) .done s
  | byName {name : String} {h : Handle} {latency : Int} {step : Nat} {reply : Reply} {t : Store}
      (hlookup : s.lookup name = some h) (heffect : Effect s (.record h latency step) reply t) :
      Effect s (.recordByName name latency step) reply t
  | unknownName {name : String} {latency : Int} {step : Nat} (hnew : s.lookup name = none) :
      Effect s (.recordByName name latency step) (.refused (.unknownOperation name)) s
  | paced (target : Option Handle) (delay : UInt64) :
      Effect s (.pace target delay) .done (s.pace (s.trackerOf target) delay)
  | reset (target : Option Handle) :
      Effect s (.reset target) .done (s.resetPacing (s.trackerOf target))
  | summarized (target : Option Handle) :
      Effect s (.summarize target) (.summaries (s.summariesOf target)) s
  | exported (target : Option Handle) : Effect s (.rows target) (.rows (s.rowsOf target)) s

theorem applyAll_eq_applyTagged (s : Store) (h : Handle) (us : List Update) :
    s.applyAll h us = s.applyTagged (us.map (h, ·)) := by
  simp [applyAll, applyTagged, List.foldl_map]

section Answers

variable {s : Store}

theorem effect_register (hs : s.WellFormed) (name : String) (n : Nat) :
    s.Effect (.register name n) (s.answer (.register name n)).1
      (s.answer (.register name n)).2 := by
  cases hlookup : s.lookup name with
  | none =>
      rcases Nat.eq_zero_or_pos n with rfl | hn
      · simpa [answer, register, hlookup, Aggregator.create_zero, Reply.ofResult] using
          Effect.noSteps hlookup
      · simpa [answer, register, hlookup, Aggregator.create_of_pos hn, Reply.ofResult, keep,
          Store.registered] using Effect.registered hlookup hn
  | some h =>
      obtain ⟨a, ha, -⟩ := hs.exists_aggregator hlookup
      by_cases hn : a.stepCount = n
      · subst hn
        simpa [answer, register, hlookup, ha, Reply.ofResult] using Effect.known hlookup ha
      · simpa [answer, register, hlookup, ha, hn, Reply.ofResult] using Effect.mismatch hlookup ha hn

theorem effect_create (s : Store) (name : String) (n : Nat) :
    s.Effect (.create name n) (s.answer (.create name n)).1 (s.answer (.create name n)).2 := by
  rcases Nat.eq_zero_or_pos n with rfl | hn
  · exact .notCreated
  · simpa [answer, create, Aggregator.create_of_pos hn, Reply.ofResult, keep, kept] using
      Effect.created hn

theorem effect_share (s : Store) (name : String) (n : Nat) (source : Option Handle) :
    s.Effect (.share name n source) (s.answer (.share name n source)).1
      (s.answer (.share name n source)).2 := by
  rcases Nat.eq_zero_or_pos n with rfl | hn
  · exact .notShared
  · simpa [answer, share, Aggregator.create_of_pos hn, Reply.ofResult, keep, kept] using
      Effect.shared hn

theorem effect_record (s : Store) (h : Handle) (latency : Int) (step : Nat) :
    s.Effect (.record h latency step) (s.answer (.record h latency step)).1
      (s.answer (.record h latency step)).2 := by
  cases ha : s.aggregators[h]? with
  | none => simpa [answer, record, ha, Reply.ofResult] using Effect.unissued ha
  | some a =>
      by_cases hstep : step < a.stepCount
      · simpa [answer, record, ha, Aggregator.updates_of_lt hstep, Reply.ofResult,
          applyAll_eq_applyTagged] using Effect.recorded ha hstep
      · have hle : a.stepCount ≤ step := Nat.le_of_not_lt hstep
        simpa [answer, record, ha, Aggregator.updates, hle, Reply.ofResult] using
          Effect.outOfRange ha hle

theorem answer_recordByName {name : String} {h : Handle} (hlookup : s.lookup name = some h)
    (latency : Int) (step : Nat) :
    s.answer (.recordByName name latency step) = s.answer (.record h latency step) := by
  simp only [answer, recordByName, hlookup]

/-- In a store whose registry is well formed, a request has one of the effects. -/
theorem WellFormed.effect (hs : s.WellFormed) (request : Request) :
    s.Effect request (s.answer request).1 (s.answer request).2 := by
  cases request with
  | register name n => exact effect_register hs name n
  | lookup name =>
      cases hlookup : s.lookup name with
      | none => simpa [answer, hlookup] using Effect.notFound hlookup
      | some h => simpa [answer, hlookup] using Effect.found hlookup
  | create name n => exact effect_create s name n
  | share name n source => exact effect_share s name n source
  | record h latency step => exact effect_record s h latency step
  | recordByName name latency step =>
      cases hlookup : s.lookup name with
      | none => simpa [answer, recordByName, hlookup, Reply.ofResult] using Effect.unknownName hlookup
      | some h =>
          rw [answer_recordByName hlookup]
          exact .byName hlookup (effect_record s h latency step)
  | pace target delay => exact .paced target delay
  | reset target => exact .reset target
  | summarize target => exact .summarized target
  | rows target => exact .exported target

end Answers

end Store

end StepLatency
