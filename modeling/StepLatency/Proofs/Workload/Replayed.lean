import Mathlib
import StepLatency.Proofs.Report.RowKey
import StepLatency.Proofs.Workload.Tally
import StepLatency.Random.Draw

/-!
# Replayed runs

Two runs of one configuration decide the same, since no measured time reaches the generator. So they
count the same, whatever they measure and however their workers take turns, and their reports have
the same rows but for the averages.
-/

namespace StepLatency

structure Summary.SameCounts (first second : Summary) : Prop where
  operation : first.operation = second.operation
  steps : List.Forall₂ (fun stats other => stats.step = other.step ∧
    stats.operations = other.operations) first.steps second.steps
  invalidSamples : first.invalidSamples = second.invalidSamples
  pacingSamples : first.pacingSamples = second.pacingSamples
  paced : first.averagePacing.isSome = second.averagePacing.isSome

/-- Rows at one place of two reports: only averages may differ. -/
structure Row.Replays (first second : Row) : Prop where
  group : first.group = second.group
  label : first.label = second.label
  negative : first.label = negativeLabel → first.value = second.value
  average : first.value ≠ second.value →
    first.label = pacingLabel ∨ ∃ step operations, first.label = stepLabel step operations

/-- Reports that count the same. -/
structure RunReport.Replays (first second : RunReport) : Prop where
  totalOperations : first.totalOperations = second.totalOperations
  pacingSamples : first.pacingSamples = second.pacingSamples
  summaries : List.Forall₂ Summary.SameCounts first.summaries second.summaries
  addresses : first.rows.map (fun row => (row.group, row.label)) =
    second.rows.map fun row => (row.group, row.label)
  rows : List.Forall₂ Row.Replays first.rows second.rows

/-! ### Rows of summaries -/

theorem pacingLabel_ne_negativeLabel : pacingLabel ≠ negativeLabel :=
  fun h => nomatch @RowKey.label_injective .pacing .negative h

theorem stepLabel_ne_negativeLabel (step : Nat) (operations : UInt64) :
    stepLabel step operations ≠ negativeLabel :=
  fun h => nomatch @RowKey.label_injective (.step step operations) .negative h

namespace Summary.SameCounts

variable {first second : Summary}

theorem pacingRows (h : first.SameCounts second) :
    List.Forall₂ Row.Replays first.pacingRows second.pacingRows := by
  have hpaced := h.paced
  unfold Summary.pacingRows
  cases hfirst : first.averagePacing with
  | none =>
      cases hsecond : second.averagePacing with
      | none => exact .nil
      | some average => simp [hfirst, hsecond] at hpaced
  | some average =>
      cases hsecond : second.averagePacing with
      | none => simp [hfirst, hsecond] at hpaced
      | some other =>
          exact .cons ⟨h.operation, rfl, fun hlabel => absurd hlabel pacingLabel_ne_negativeLabel,
            fun _ => .inl rfl⟩ .nil

theorem negativeRows (h : first.SameCounts second) :
    List.Forall₂ Row.Replays first.negativeRows second.negativeRows := by
  unfold Summary.negativeRows
  rw [h.invalidSamples, h.operation]
  split
  · exact .nil
  · exact .cons ⟨rfl, rfl, fun _ => rfl, fun hne => absurd rfl hne⟩ .nil

theorem stepRows (h : first.SameCounts second) :
    List.Forall₂ Row.Replays (first.steps.map first.stepRow) (second.steps.map second.stepRow) := by
  rw [List.forall₂_map_left_iff, List.forall₂_map_right_iff]
  refine h.steps.imp fun stats other hstats => ⟨h.operation, ?_, ?_, ?_⟩
  · change stepLabel stats.step stats.operations = stepLabel other.step other.operations
    rw [hstats.1, hstats.2]
  · exact fun hlabel => absurd hlabel (stepLabel_ne_negativeLabel _ _)
  · exact fun _ => .inr ⟨_, _, rfl⟩

theorem rows (h : first.SameCounts second) : List.Forall₂ Row.Replays first.rows second.rows :=
  List.rel_append (List.rel_append h.pacingRows h.negativeRows) h.stepRows

end Summary.SameCounts

/-! ### Two runs -/

theorem Pacing.isSome_average_eq {p q : Pacing} (h : p.samples = q.samples) :
    p.average.isSome = q.average.isSome := by
  by_cases hq : q.samples = 0 <;> simp [average, h, hq]

theorem Store.kindSummary_sameCounts {s t : Store} {h : Handle} {spec : OperationSpec}
    (hoperations : ∀ step < spec.steps,
      (Counter.operations h step).value s = (Counter.operations h step).value t)
    (hinvalid : (Counter.invalidSamples h).value s = (Counter.invalidSamples h).value t)
    (hpacing : (Counter.pacingSamples registryTracker).value s =
      (Counter.pacingSamples registryTracker).value t) :
    (s.kindSummary h spec).SameCounts (t.kindSummary h spec) := by
  refine ⟨rfl, ?_, hinvalid, hpacing, Pacing.isSome_average_eq hpacing⟩
  change List.Forall₂ _ ((List.range spec.steps).map _) ((List.range spec.steps).map _)
  rw [List.forall₂_map_left_iff, List.forall₂_map_right_iff, List.forall₂_same]
  intro step hstep
  exact ⟨rfl, hoperations step (List.mem_range.1 hstep)⟩

namespace Config.Prepared

variable {γ : Type} {c : Config} {g : Generator γ} {r : Registration} {kinds : List OperationSpec}
  {plan : Nat → List OperationChoice}

/-- What the counters of a kind show does not depend on the occasion. -/
theorem kindSummary_sameCounts (hc : c.Prepared g r kinds plan) (first second : Occasion)
    {h : Handle} {spec : OperationSpec} (hspec : kinds[h]? = some spec) :
    ((c.finalStore first r plan).kindSummary h spec).SameCounts
      ((c.finalStore second r plan).kindSummary h spec) := by
  apply Store.kindSummary_sameCounts
  · intro step hstep
    apply UInt64.toNat_inj.1
    rw [hc.toNat_operations first hspec hstep, hc.toNat_operations second hspec hstep]
  · apply UInt64.toNat_inj.1
    rw [hc.toNat_invalidSamples first hspec, hc.toNat_invalidSamples second hspec]
  · apply UInt64.toNat_inj.1
    rw [hc.toNat_pacingSamples first hspec, hc.toNat_pacingSamples second hspec]

/-- On two occasions every kind counts the same. -/
theorem summaries_sameCounts (hc : c.Prepared g r kinds plan) (first second : Occasion) :
    List.Forall₂ Summary.SameCounts (c.finalStore first r plan).summaries
      (c.finalStore second r plan).summaries := by
  have hentries : ∀ entry ∈ r.store.entries,
      Option.Rel Summary.SameCounts ((c.finalStore first r plan).summary? entry.2)
        ((c.finalStore second r plan).summary? entry.2) := by
    rintro ⟨name, h⟩ hmem
    obtain ⟨spec, hspec, -⟩ := mem_kindEntries_iff.1 (hc.holds.entries.mem_iff.1 hmem)
    rw [finalStore, finalStore, hc.holds.summary?_applyTagged hspec,
      hc.holds.summary?_applyTagged hspec]
    exact .some (hc.kindSummary_sameCounts first second hspec)
  rw [Store.summaries, Store.summaries, finalStore, finalStore, Store.entries_applyTagged,
    Store.entries_applyTagged]
  exact List.rel_filterMap (fun _ _ hrel => hrel) (List.forall₂_same.2 hentries)

end Config.Prepared

/-- Two runs of a consistent configuration that was validated count the same, whatever they measure
and however their workers interleave: they complete the same number of operations and pacing
intervals, every kind has the same operations at every step and the same invalid samples, and the
rows have the same groups and labels in the same order. Only the averages may differ. The schedules
of occasions leave no interleaving out. -/
theorem Config.counts_replay {γ : Type} (c : Config) (g : Generator γ) (first second : Occasion)
    (hvalid : c.validate = .ok ()) (hconsistent : c.Consistent) :
    (∃ r, c.register = (.ok (), r) ∧ ∀ t, c.SchedulesAll g r t) ∧
      ∃ report other, c.Completes g first report ∧ c.Completes g second other ∧
        report.Replays other := by
  have hv : c.Valid := (validate_eq_ok_iff c).1 hvalid
  obtain ⟨r, kinds, plan, hc⟩ := exists_prepared hv hconsistent g
  obtain ⟨spec, hspec⟩ := List.exists_mem_of_ne_nil _ hv.operations
  obtain ⟨h, hh⟩ := List.mem_iff_getElem?.1 ((hc.declared spec).2 hspec)
  have hsummaries := hc.summaries_sameCounts first second
  have hrows : List.Forall₂ Row.Replays
      ((c.finalStore first r plan).summaries.flatMap (·.rows))
      ((c.finalStore second r plan).summaries.flatMap (·.rows)) :=
    List.rel_flatMap hsummaries fun _ _ hsame => hsame.rows
  refine ⟨⟨r, hc.register, hc.schedulesAll⟩, _, _, hc.completes first, hc.completes second, ?_, ?_,
    hsummaries, ?_, hrows⟩
  · apply UInt64.toNat_inj.1
    exact (c.toNat_totalCompleted first.timings plan).trans
      (c.toNat_totalCompleted second.timings plan).symm
  · apply UInt64.toNat_inj.1
    exact (hc.toNat_pacingSamples first hh).trans (hc.toNat_pacingSamples second hh).symm
  · rw [← List.forall₂_eq_eq_eq, List.forall₂_map_left_iff, List.forall₂_map_right_iff]
    exact hrows.imp fun row other hrow => Prod.ext hrow.group hrow.label

/-- The second worker begins in a run of short steps; a run of longer ones goes worker by worker. -/
theorem Config.counts_replay_twoKinds :
    ∃ report other,
      twoKinds.Completes Random.keystreamGenerator
        ⟨"first", ⟨fun _ _ _ => 0, fun _ _ => 0, .zero⟩, [1, 0, 1]⟩ report ∧
      twoKinds.Completes Random.keystreamGenerator
        ⟨"second", ⟨fun _ _ step => 100 * step, fun _ _ => 7, .zero⟩, []⟩ other ∧
      report.Replays other :=
  (twoKinds.counts_replay Random.keystreamGenerator _ _ (by decide +kernel) (by decide)).2

end StepLatency
