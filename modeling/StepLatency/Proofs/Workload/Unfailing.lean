import Mathlib
import StepLatency.Proofs.Workload.Completed
import StepLatency.Random.Draw

/-!
# Workers do not fail

What a worker asks for at every turn can be traced back to the check of the configuration or to the
registration: a kind to choose from, a latency range that is not empty, a rate that is a
probability, and a step that was declared.
-/

namespace StepLatency

/-- A measured sample that is turned below zero stays among the signed 64-bit words, so that nothing
is cut off. -/
theorem anomalousSample_measuredSample_eq (us : Nat) :
    anomalousSample (measuredSample us) = -1 - measuredSample us ∧
      -0x8000000000000000 ≤ -1 - measuredSample us := by
  unfold anomalousSample measuredSample maxLatencySample
  omega

theorem Binary64.isFinite_of_isProbability {x : Binary64} (h : x.isProbability = true) :
    x.isFinite = true := by
  unfold isProbability at h
  exact (Bool.and_eq_true_iff.1 h).1

theorem Binary64.isNaN_of_isFinite {x : Binary64} (h : x.isFinite = true) : x.isNaN = false := by
  simp only [isFinite, decide_eq_true_eq] at h
  simp only [isNaN, decide_eq_false_iff_not]
  omega

theorem Binary64.isInfinite_of_isFinite {x : Binary64} (h : x.isFinite = true) :
    x.isInfinite = false := by
  simp only [isFinite, decide_eq_true_eq] at h
  simp only [isInfinite, beq_eq_false_iff_ne]
  omega

theorem Binary64.isProbability_minusZero :
    (⟨0x8000000000000000⟩ : Binary64).isProbability = true := by
  decide

/-- Minus zero is a rate as good as zero. -/
theorem Config.validate_minusZero {c : Config} (hvalid : c.Valid) :
    { c with negativeRate := ⟨0x8000000000000000⟩ }.validate = .ok () :=
  (validate_eq_ok_iff _).2 { hvalid with rate := Binary64.isProbability_minusZero }

theorem Store.exists_record_eq_ok {s : Store} {h : Handle} {a : Aggregator} {step : Nat}
    (ha : s.aggregators[h]? = some a) (hstep : step < a.stepCount) (latency : Int) :
    ∃ next, s.record h latency step = (.ok (), next) := by
  refine ⟨s.applyAll h (sampleUpdates latency step), ?_⟩
  rw [record, ha]
  simp only [Aggregator.updates_of_lt hstep]

/-- A consistent configuration that was validated cannot make a worker fail: whatever the generator
decides and whatever is measured, there is a kind to choose, the latency range is not empty, the
rate is a probability, every sample is recorded on a declared step, and turning it below zero does
not cut it. So every worker completes all of its operations, and only the sink can fail the run. -/
theorem Config.fails_only_at_sink {γ : Type} (c : Config) (g : Generator γ)
    (hvalid : c.validate = .ok ()) (hconsistent : c.Consistent) :
    ∃ r, c.register = (.ok (), r) ∧ r.kinds ≠ [] ∧
      c.minLatency ≤ c.maxLatency ∧
      (c.negativeRate.isProbability = true ∧ c.negativeRate.isNaN = false ∧
        c.negativeRate.isInfinite = false ∧
        { c with negativeRate := ⟨0x8000000000000000⟩ }.validate = .ok ()) ∧
      (∀ h ∈ r.kinds, ∀ us, ∃ a, (r.store.applyTagged us).aggregators[h]? = some a ∧
        ∀ step < a.stepCount, ∀ latency,
          ∃ next, (r.store.applyTagged us).record h latency step = (.ok (), next)) ∧
      (∀ us, anomalousSample (measuredSample us) = -1 - measuredSample us ∧
        -0x8000000000000000 ≤ -1 - measuredSample us) ∧
      (∀ t worker, ∃ updates, c.runWorker g r t worker = .ok ⟨c.opsPerThread, updates⟩) ∧
      ∀ {σ ε : Type} (o : Occasion) (sink : Sink σ ε) (state : σ),
        (∃ report, (c.run g o sink state).result = .ok report) ∨
          (∃ cause, (c.run g o sink state).result = .error (.exporting cause)) ∨
          ∃ cause, (c.run g o sink state).result = .error (.closing cause) := by
  have hv : c.Valid := (validate_eq_ok_iff c).1 hvalid
  have hfinite := Binary64.isFinite_of_isProbability hv.rate
  obtain ⟨r, kinds, plan, hc⟩ := exists_prepared hv hconsistent g
  refine ⟨r, hc.register, ?_, hv.latencies, ⟨hv.rate, Binary64.isNaN_of_isFinite hfinite,
    Binary64.isInfinite_of_isFinite hfinite, validate_minusZero hv⟩, ?_,
    anomalousSample_measuredSample_eq, fun t worker => ⟨_, hc.runWorker t worker⟩, ?_⟩
  · obtain ⟨spec, hspec⟩ := List.exists_mem_of_ne_nil _ hv.operations
    have hpos : 0 < kinds.length := List.length_pos_of_mem ((hc.declared spec).2 hspec)
    rw [hc.holds.handles]
    simpa using Nat.ne_of_gt hpos
  · intro h hmem us
    rw [hc.holds.handles, List.mem_range] at hmem
    have hspec : kinds[h]? = some kinds[h] := List.getElem?_eq_getElem hmem
    obtain ⟨a, ha, -⟩ :=
      Store.exists_aggregator_applyTagged (hc.holds.unused hspec).aggregator us
    exact ⟨a, ha, fun step hstep latency => Store.exists_record_eq_ok ha hstep latency⟩
  · intro σ ε o sink state
    rcases (hc.completes o).result_cases sink state with hok | hfailed
    · exact .inl ⟨_, hok⟩
    · exact .inr hfailed

/-- The workers of a run that draws its decisions from the keystream. -/
theorem Config.fails_only_at_sink_twoKinds :
    ∃ r, twoKinds.register = (.ok (), r) ∧ ∀ t worker, ∃ updates,
      twoKinds.runWorker Random.keystreamGenerator r t worker = .ok ⟨3, updates⟩ := by
  obtain ⟨r, hregister, -, -, -, -, -, hrun, -⟩ :=
    twoKinds.fails_only_at_sink Random.keystreamGenerator (by decide +kernel) (by decide)
  exact ⟨r, hregister, hrun⟩

end StepLatency
