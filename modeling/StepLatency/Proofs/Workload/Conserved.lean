import Mathlib
import StepLatency.Proofs.Workload.Tally
import StepLatency.Random.Draw

/-!
# Samples are conserved

Over a whole run the books balance: every operation that a worker completes is one choice of a kind
and one pacing interval, and every step of it is one sample, which is counted at its step or as
invalid.
-/

namespace StepLatency

/-- The summary of a kind accounts for every choice of the kind at each of its steps. -/
structure Summary.Balances (summary : Summary) (decided : List OperationChoice) (kind : Nat)
    (spec : OperationSpec) : Prop where
  operation : summary.operation = spec.name
  length : summary.steps.length = spec.steps
  steps : ∀ step < spec.steps, ∃ stats, summary.steps[step]? = some stats ∧ stats.step = step ∧
    stats.operations.toNat + injected decided kind step = chosen decided kind
  invalidSamples :
    summary.invalidSamples.toNat = ((List.range spec.steps).map (injected decided kind)).sum

theorem sum_range_map_le {n m bound : Nat} {f : Nat → Nat} (hn : n ≤ m) (hf : ∀ i, f i ≤ bound) :
    ((List.range n).map f).sum ≤ bound * m := by
  calc
    ((List.range n).map f).sum ≤ ((List.range n).map fun _ => bound).sum :=
      List.sum_le_sum fun i _ => hf i
    _ = bound * n := by simp [Nat.mul_comm]
    _ ≤ bound * m := Nat.mul_le_mul_left _ hn

theorem anomalousSample_neg {sample : Int} (h : 0 ≤ sample) : anomalousSample sample < 0 := by
  unfold anomalousSample
  omega

namespace Config.Prepared

variable {γ : Type} {c : Config} {g : Generator γ} {r : Registration} {kinds : List OperationSpec}
  {plan : Nat → List OperationChoice}

/-- With so few operations no counter starts again from zero, and every kind balances. -/
theorem balances (hc : c.Prepared g r kinds plan) (hvalid : c.Valid)
    (hfew : c.threads * c.opsPerThread * 4096 < 2 ^ 64) (o : Occasion) {kind : Nat}
    {spec : OperationSpec} (hspec : kinds[kind]? = some spec) :
    ((c.finalStore o r plan).kindSummary kind spec).Balances (c.decided plan) kind spec := by
  have hlength := hc.length_decided
  refine ⟨rfl, by simp [Store.kindSummary], ?_, ?_⟩
  · intro step hstep
    refine ⟨(c.finalStore o r plan).stepStats kind step, ?_, rfl, ?_⟩
    · simp [Store.kindSummary, hstep]
    have hfits : recorded (c.decided plan) kind step < UInt64.size := by
      refine Nat.lt_of_le_of_lt List.countP_le_length ?_
      unfold UInt64.size
      omega
    rw [Store.operations_stepStats, hc.toNat_operations o hspec hstep, Nat.mod_eq_of_lt hfits]
    exact recorded_add_injected hc.decided_fits hspec hstep
  · have hsteps : spec.steps ≤ maxSteps :=
      (hvalid.steps spec ((hc.declared spec).1 (List.mem_of_getElem? hspec))).2
    have hfits :
        ((List.range spec.steps).map (injected (c.decided plan) kind)).sum < UInt64.size := by
      refine Nat.lt_of_le_of_lt
        (sum_range_map_le hsteps fun step => (List.countP_le_length : injected _ kind step ≤ _)) ?_
      rw [hlength]
      exact hfew
    exact (hc.toNat_invalidSamples o hspec).trans (Nat.mod_eq_of_lt hfits)

end Config.Prepared

/-- Whatever the workers decide and measure, and however they interleave: the operations of a run
are its pacing intervals and its choices of kinds. Each kind has one summary, in which each step
holds as many samples as the kind was chosen, less those that were made negative; these are the
invalid samples of the kind. A worker records of every operation each step once, in order, on its
kind; and every interleaving of the workers is that of some schedule. -/
theorem Config.samples_conserved {γ : Type} (c : Config) (g : Generator γ) (o : Occasion)
    (hvalid : c.validate = .ok ()) (hconsistent : c.Consistent)
    (hfew : c.threads * c.opsPerThread * 4096 < 2 ^ 64) :
    ∃ r plan report, c.register = (.ok (), r) ∧
      (r.specs.map (·.name)).Nodup ∧ (∀ spec, spec ∈ r.specs ↔ spec ∈ c.operations) ∧
      (∀ worker, c.plan g r.stepCounts worker = .ok (plan worker) ∧
        c.runWorker g r o.timings worker =
          .ok ⟨c.opsPerThread, planUpdates o.timings worker 0 (plan worker)⟩) ∧
      c.SchedulesAll g r o.timings ∧
      c.Completes g o report ∧
      report.totalOperations.toNat = c.threads * c.opsPerThread ∧
      report.pacingSamples = report.totalOperations ∧
      ((List.range r.specs.length).map (chosen (c.decided plan))).sum =
        c.threads * c.opsPerThread ∧
      (report.summaries.map (·.operation)).Perm (r.specs.map (·.name)) ∧
      (∀ summary ∈ report.summaries, summary.pacingSamples = report.pacingSamples) ∧
      (∀ kind spec, r.specs[kind]? = some spec → ∃ summary ∈ report.summaries,
        summary.Balances (c.decided plan) kind spec) ∧
      ∀ sample, 0 ≤ sample → anomalousSample sample < 0 := by
  have hv : c.Valid := (validate_eq_ok_iff c).1 hvalid
  obtain ⟨r, kinds, plan, hc⟩ := exists_prepared hv hconsistent g
  have hspecs := hc.holds.specs_eq
  let store := c.finalStore o r plan
  have hsummaries : store.summaries.Perm (kinds.mapIdx store.kindSummary) :=
    hc.holds.summaries_perm _
  have htotal : (totalCompleted (c.planResults o.timings plan)).toNat =
      c.threads * c.opsPerThread := by
    rw [toNat_totalCompleted, Nat.mod_eq_of_lt]
    unfold UInt64.size
    omega
  refine ⟨r, plan, _, hc.register, ?_, ?_,
    fun worker => ⟨hc.planned worker, hc.runWorker o.timings worker⟩, hc.schedulesAll o.timings,
    hc.completes o, htotal, ?_, ?_, ?_, ?_, ?_, fun sample => anomalousSample_neg⟩
  · rw [hspecs]
    exact hc.holds.names
  · rw [hspecs]
    exact hc.declared
  · obtain ⟨spec, hspec⟩ := List.exists_mem_of_ne_nil _ hv.operations
    obtain ⟨h, hh⟩ := List.mem_iff_getElem?.1 ((hc.declared spec).2 hspec)
    apply UInt64.toNat_inj.1
    exact (hc.toNat_pacingSamples o hh).trans (c.toNat_totalCompleted o.timings plan).symm
  · rw [hspecs, sum_chosen hc.decided_fits, hc.length_decided]
  · rw [hspecs]
    refine (hsummaries.map (·.operation)).trans (.of_eq ?_)
    apply List.ext_getElem?
    intro h
    simp only [List.getElem?_map, List.getElem?_mapIdx, Option.map_map]
    rfl
  · intro summary hmem
    obtain ⟨h, hh, rfl⟩ := List.mem_mapIdx.1 (hsummaries.mem_iff.1 hmem)
    rfl
  · intro kind spec hspec
    rw [hspecs] at hspec
    obtain ⟨hkind, rfl⟩ := List.getElem?_eq_some_iff.1 hspec
    exact ⟨_, hsummaries.mem_iff.2 (List.mem_mapIdx.2 ⟨kind, hkind, rfl⟩),
      hc.balances hv hfew o hspec⟩

/-- A run of six operations by two workers, of whom the second one begins. -/
theorem Config.samples_conserved_twoKinds :
    ∃ report, twoKinds.Completes Random.keystreamGenerator
      ⟨"run", ⟨fun _ _ _ => 5, fun _ _ => 3, .zero⟩, [1, 0]⟩ report ∧
      report.totalOperations.toNat = 6 ∧
      ∀ summary ∈ report.summaries, summary.pacingSamples.toNat = 6 := by
  obtain ⟨r, plan, report, -, -, -, -, -, hcompletes, htotal, hpacing, -, -, hsame, -⟩ :=
    twoKinds.samples_conserved Random.keystreamGenerator
      ⟨"run", ⟨fun _ _ _ => 5, fun _ _ => 3, .zero⟩, [1, 0]⟩ (by decide +kernel) (by decide)
      (by decide)
  refine ⟨report, hcompletes, htotal, fun summary hmem => ?_⟩
  rw [hsame summary hmem, hpacing]
  exact htotal

end StepLatency
