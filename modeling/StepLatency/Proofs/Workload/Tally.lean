import Mathlib
import StepLatency.Proofs.Workload.Completed

/-!
# What decisions come to

Counters of samples depend on what the workers decided, not on what they measured. A sample that was
decided to be negative is counted as invalid, any other one at its step; every operation is counted
once on the tracker.
-/

namespace StepLatency

def chosen (decided : List OperationChoice) (kind : Nat) : Nat :=
  decided.countP (·.kind == kind)

/-- How often the sample of a step of a kind was made negative. -/
def injected (decided : List OperationChoice) (kind step : Nat) : Nat :=
  decided.countP fun choice => choice.kind == kind && choice.steps[step]?.any (·.negative)

/-- How often the sample of a step of a kind was left as it was measured. -/
def recorded (decided : List OperationChoice) (kind step : Nat) : Nat :=
  decided.countP fun choice => choice.kind == kind && choice.steps[step]?.any (!·.negative)

def Config.decided (c : Config) (plan : Nat → List OperationChoice) : List OperationChoice :=
  (List.range c.threads).flatMap plan

/-! ### Balances of decisions -/

section Balances

variable {kinds : List OperationSpec} {decided : List OperationChoice}

theorem OperationChoice.Fits.kind_lt {choice : OperationChoice} (h : choice.Fits kinds) :
    choice.kind < kinds.length := by
  obtain ⟨spec, hspec, -⟩ := h
  exact (List.getElem?_eq_some_iff.1 hspec).1

theorem OperationChoice.Fits.length_steps {choice : OperationChoice} (h : choice.Fits kinds)
    {spec : OperationSpec} (hspec : kinds[choice.kind]? = some spec) :
    choice.steps.length = spec.steps := by
  obtain ⟨other, hother, hlength⟩ := h
  rw [hspec, Option.some.injEq] at hother
  rw [hlength, hother]

/-- Every decision chooses one of the kinds. -/
theorem sum_chosen (hfits : ∀ choice ∈ decided, choice.Fits kinds) :
    ((List.range kinds.length).map (chosen decided)).sum = decided.length := by
  have hone : ∀ choice ∈ decided,
      (List.range kinds.length).countP (choice.kind == ·) = 1 := by
    intro choice hmem
    simp only [BEq.comm (a := choice.kind), countP_range_beq, (hfits choice hmem).kind_lt, if_true]
  unfold chosen
  rw [sum_countP_comm fun kind (choice : OperationChoice) => choice.kind == kind,
    List.map_congr_left hone]
  simp

/-- Whenever a kind was chosen, each of its steps has been decided on. -/
theorem recorded_add_injected (hfits : ∀ choice ∈ decided, choice.Fits kinds) {kind step : Nat}
    {spec : OperationSpec} (hspec : kinds[kind]? = some spec) (hstep : step < spec.steps) :
    recorded decided kind step + injected decided kind step = chosen decided kind := by
  unfold recorded injected chosen
  induction decided with
  | nil => rfl
  | cons choice rest ih =>
      have hrest := ih fun other hmem => hfits other (List.mem_cons_of_mem _ hmem)
      simp only [List.countP_cons]
      by_cases hkind : choice.kind = kind
      · have hlt : step < choice.steps.length := by
          rwa [(hfits choice List.mem_cons_self).length_steps (hkind ▸ hspec)]
        cases hneg : choice.steps[step].negative <;>
          simp only [hkind, hlt, hneg, List.getElem?_eq_getElem, Option.any_some, beq_self_eq_true,
            Bool.true_and, Bool.not_true, Bool.not_false, Bool.false_eq_true, if_true, if_false] <;>
          omega
      · simp only [beq_eq_false_iff_ne.2 hkind, Bool.false_and, Bool.false_eq_true, if_false]
        omega

theorem countP_eq_countP_range {α : Type} (p : α → Bool) (l : List α) :
    l.countP p = (List.range l.length).countP fun i => l[i]?.any p := by
  induction l with
  | nil => rfl
  | cons x rest ih =>
      rw [List.length_cons, List.range_succ_eq_map, List.countP_cons, List.countP_cons,
        List.countP_map, ih]
      simp [Function.comp_def]

/-- The negative samples of a kind, operation by operation or step by step. -/
theorem sum_injected (hfits : ∀ choice ∈ decided, choice.Fits kinds) {kind : Nat}
    {spec : OperationSpec} (hspec : kinds[kind]? = some spec) :
    ((List.range spec.steps).map (injected decided kind)).sum =
      (decided.map fun choice =>
        if choice.kind = kind then choice.steps.countP (·.negative) else 0).sum := by
  unfold injected
  refine (sum_countP_comm (fun step (choice : OperationChoice) =>
    choice.kind == kind && choice.steps[step]?.any StepChoice.negative) _ _).trans ?_
  refine congrArg List.sum (List.map_congr_left fun choice hmem => ?_)
  by_cases hkind : choice.kind = kind
  · have hlength : choice.steps.length = spec.steps :=
      (hfits choice hmem).length_steps (hkind ▸ hspec)
    rw [if_pos hkind, countP_eq_countP_range _ choice.steps, hlength]
    simp [hkind]
  · simp [hkind]

end Balances

/-! ### What operations add to the counters -/

theorem StepChoice.sample_neg_iff (choice : StepChoice) (us : Nat) :
    choice.sample us < 0 ↔ choice.negative = true := by
  unfold sample
  cases choice.negative with
  | true => simpa using anomalousSample_measuredSample_neg us
  | false => simp [measuredSample]

theorem StepChoice.sample_nonneg_iff (choice : StepChoice) (us : Nat) :
    0 ≤ choice.sample us ↔ choice.negative = false := by
  rw [← Int.not_lt, sample_neg_iff, Bool.not_eq_true]

section Added

variable {s : Store} {h h' : Handle}

/-- Of the steps from one on, that at its own position adds to the counter of a step. -/
theorem addedOn_steps_operations (latency : Nat → Nat) (steps : List StepChoice)
    (start step : Nat) :
    (Counter.operations h step).addedOn s h' (stepUpdates latency start steps) =
      if h' = h ∧ start ≤ step ∧ steps[step - start]?.any (!·.negative) then 1 else 0 := by
  induction steps generalizing start with
  | nil => simp [stepUpdates, Counter.addedOn_nil]
  | cons choice rest ih =>
      rw [stepUpdates, Counter.addedOn_append, Counter.addedOn_sample_operations, ih]
      simp only [choice.sample_nonneg_iff]
      -- The first of the steps is before the one that is counted, or is it, or is past it.
      rcases Nat.lt_trichotomy start step with hlt | rfl | hgt
      · have hoffset : step - start = step - (start + 1) + 1 := by omega
        have hne : start ≠ step := by omega
        simp [hoffset, hne, hlt, Nat.le_of_lt hlt]
      · simp
      · have hnot : ¬ start ≤ step := by omega
        have hnot' : ¬ start + 1 ≤ step := by omega
        have hne : start ≠ step := by omega
        simp [hnot, hnot', hne]

theorem addedOn_steps_invalidSamples (latency : Nat → Nat) (steps : List StepChoice)
    (start : Nat) :
    (Counter.invalidSamples h).addedOn s h' (stepUpdates latency start steps) =
      if h' = h then steps.countP (·.negative) else 0 := by
  induction steps generalizing start with
  | nil => simp [stepUpdates, Counter.addedOn_nil]
  | cons choice rest ih =>
      rw [stepUpdates, Counter.addedOn_append, Counter.addedOn_sample_invalidSamples, ih]
      simp only [choice.sample_neg_iff]
      by_cases hh : h' = h
      · simp [hh, List.countP_cons, Nat.add_comm]
      · simp [hh]

theorem addedOn_steps_pacingSamples (latency : Nat → Nat) (steps : List StepChoice) (start : Nat)
    (tracker : TrackerId) :
    (Counter.pacingSamples tracker).addedOn s h' (stepUpdates latency start steps) = 0 := by
  induction steps generalizing start with
  | nil => rfl
  | cons choice rest ih =>
      rw [stepUpdates, Counter.addedOn_append, Counter.addedOn_sample_pacingSamples, ih]

theorem OperationChoice.sum_added_operations (choice : OperationChoice) (t : Timings)
    (worker operation step : Nat) :
    ((choice.updates t worker operation).map ((Counter.operations h step).added s)).sum =
      if choice.kind == h && choice.steps[step]?.any (!·.negative) then 1 else 0 := by
  rw [updates, Counter.sum_map_added, Counter.addedOn_append, addedOn_steps_operations,
    Counter.addedOn_pacing]
  simp

theorem OperationChoice.sum_added_invalidSamples (choice : OperationChoice) (t : Timings)
    (worker operation : Nat) :
    ((choice.updates t worker operation).map ((Counter.invalidSamples h).added s)).sum =
      if choice.kind = h then choice.steps.countP (·.negative) else 0 := by
  rw [updates, Counter.sum_map_added, Counter.addedOn_append, addedOn_steps_invalidSamples,
    Counter.addedOn_pacing]
  rfl

theorem OperationChoice.sum_added_pacingSamples (choice : OperationChoice) (t : Timings)
    (worker operation : Nat) {tracker : TrackerId}
    (htracker : s.trackerOf (some choice.kind) = tracker) :
    ((choice.updates t worker operation).map
      ((Counter.pacingSamples tracker).added s)).sum = 1 := by
  rw [updates, Counter.sum_map_added, Counter.addedOn_append, addedOn_steps_pacingSamples,
    Counter.addedOn_pacing, Nat.zero_add]
  exact if_pos htracker

/-- A counter that depends on the decisions only adds up what each of them comes to. -/
theorem sum_added_planUpdates {k : Counter} {f : OperationChoice → Nat} {t : Timings} {worker : Nat}
    (hadded : ∀ choice operation,
      ((OperationChoice.updates t worker operation choice).map (k.added s)).sum = f choice)
    (operation : Nat) (choices : List OperationChoice) :
    ((planUpdates t worker operation choices).map (k.added s)).sum = (choices.map f).sum := by
  induction choices generalizing operation with
  | nil => rfl
  | cons choice rest ih =>
      rw [planUpdates, List.map_append, List.sum_append, hadded, ih, List.map_cons, List.sum_cons]

theorem Config.sum_added_allUpdates {c : Config} {k : Counter} {f : OperationChoice → Nat}
    {t : Timings} {plan : Nat → List OperationChoice}
    (hadded : ∀ choice worker operation,
      ((OperationChoice.updates t worker operation choice).map (k.added s)).sum = f choice) :
    ((c.allUpdates t plan).map (k.added s)).sum = ((c.decided plan).map f).sum := by
  unfold allUpdates decided
  induction List.range c.threads with
  | nil => rfl
  | cons worker rest ih =>
      simp only [List.flatMap_cons, List.map_append, List.sum_append]
      rw [ih, sum_added_planUpdates fun choice operation => hadded choice worker operation]

end Added

/-! ### Counters after a run -/

namespace Config.Prepared

variable {γ : Type} {c : Config} {g : Generator γ} {r : Registration} {kinds : List OperationSpec}
  {plan : Nat → List OperationChoice}

theorem decided_fits (hc : c.Prepared g r kinds plan) :
    ∀ choice ∈ c.decided plan, choice.Fits kinds := by
  intro choice hmem
  obtain ⟨worker, -, hchoice⟩ := List.mem_flatMap.1 hmem
  exact hc.fits worker choice hchoice

theorem length_decided (hc : c.Prepared g r kinds plan) :
    (c.decided plan).length = c.threads * c.opsPerThread := by
  have hlength : ∀ worker ∈ List.range c.threads, (plan worker).length = c.opsPerThread :=
    fun worker _ => hc.length worker
  rw [decided, List.length_flatMap, List.map_congr_left hlength]
  simp

theorem sum_added_finalStore (o : Occasion) (plan : Nat → List OperationChoice) (s : Store)
    (k : Counter) :
    ((weave o.schedule ((c.planResults o.timings plan).map (·.updates))).map (k.added s)).sum =
      ((c.allUpdates o.timings plan).map (k.added s)).sum :=
  ((c.weave_perm_allUpdates o plan).map (k.added s)).sum_eq

/-- A step counts the samples of its kind that were not made negative. -/
theorem toNat_operations (hc : c.Prepared g r kinds plan) (o : Occasion) {h step : Nat}
    {spec : OperationSpec} (hspec : kinds[h]? = some spec) (hstep : step < spec.steps) :
    ((Counter.operations h step).value (c.finalStore o r plan)).toNat =
      recorded (c.decided plan) h step % UInt64.size := by
  rw [finalStore, (hc.holds.unused hspec).toNat_operations (by simpa using hstep),
    sum_added_finalStore, sum_added_allUpdates fun choice worker operation =>
      choice.sum_added_operations o.timings worker operation step, recorded, countP_eq_sum_map]

/-- A kind counts the samples that were made negative, over all of its steps. -/
theorem toNat_invalidSamples (hc : c.Prepared g r kinds plan) (o : Occasion) {h : Nat}
    {spec : OperationSpec} (hspec : kinds[h]? = some spec) :
    ((Counter.invalidSamples h).value (c.finalStore o r plan)).toNat =
      ((List.range spec.steps).map (injected (c.decided plan) h)).sum % UInt64.size := by
  rw [finalStore, (hc.holds.unused hspec).toNat_invalidSamples, sum_added_finalStore,
    sum_added_allUpdates fun choice worker operation =>
      choice.sum_added_invalidSamples o.timings worker operation,
    sum_injected hc.decided_fits hspec]

/-- The tracker counts every operation of every worker. -/
theorem toNat_pacingSamples (hc : c.Prepared g r kinds plan) (o : Occasion) {h : Nat}
    {spec : OperationSpec} (hspec : kinds[h]? = some spec) :
    ((Counter.pacingSamples Store.registryTracker).value (c.finalStore o r plan)).toNat =
      c.threads * c.opsPerThread % UInt64.size := by
  calc
    ((Counter.pacingSamples Store.registryTracker).value (c.finalStore o r plan)).toNat =
      ((weave o.schedule ((c.planResults o.timings plan).map (·.updates))).map
        ((Counter.pacingSamples Store.registryTracker).added r.store)).sum % UInt64.size :=
          (hc.holds.unused hspec).toNat_pacingSamples _
    _ = ((c.decided plan).map fun _ => 1).sum % UInt64.size := by
        rw [sum_added_finalStore, sum_added_allUpdates fun choice worker operation =>
          choice.sum_added_pacingSamples o.timings worker operation (hc.holds.trackerOf_eq _)]
    _ = c.threads * c.opsPerThread % UInt64.size := by
        rw [← hc.length_decided]
        simp

end Config.Prepared

/-! ### Summaries after a run -/

def Store.kindSummary (s : Store) (h : Handle) (spec : OperationSpec) : Summary where
  operation := spec.name
  steps := (List.range spec.steps).map (s.stepStats h)
  invalidSamples := (Counter.invalidSamples h).value s
  pacingSamples := (Counter.pacingSamples Store.registryTracker).value s
  averagePacing := (s.pacing Store.registryTracker).average

namespace Registration.Holds

variable {r : Registration} {kinds : List OperationSpec}

theorem summary?_applyTagged (hr : r.Holds kinds) {h : Handle} {spec : OperationSpec}
    (hspec : kinds[h]? = some spec) (us : List (Handle × Update)) :
    (r.store.applyTagged us).summary? h = some ((r.store.applyTagged us).kindSummary h spec) := by
  obtain ⟨a, ha, hoperation, hcount, htracker⟩ :=
    Store.exists_aggregator_applyTagged (hr.unused hspec).aggregator us
  rw [Store.summary?_eq_some ha, hoperation, hcount, htracker, Aggregator.stepCount_fresh]
  rfl

/-- Every kind has one summary, whatever their order. -/
theorem summaries_perm (hr : r.Holds kinds) (us : List (Handle × Update)) :
    (r.store.applyTagged us).summaries.Perm
      (kinds.mapIdx (r.store.applyTagged us).kindSummary) := by
  have hentry : ∀ entry ∈ kindEntries kinds, (r.store.applyTagged us).summary? entry.2 =
      some ((r.store.applyTagged us).kindSummary entry.2 (kinds.getD entry.2 default)) := by
    rintro ⟨name, h⟩ hmem
    obtain ⟨spec, hspec, -⟩ := mem_kindEntries_iff.1 hmem
    rw [hr.summary?_applyTagged hspec us]
    simp [hspec]
  have hsummaries : ((kindEntries kinds).filterMap
      fun entry => (r.store.applyTagged us).summary? entry.2) =
        kinds.mapIdx (r.store.applyTagged us).kindSummary := by
    rw [List.filterMap_congr hentry, List.filterMap_eq_map']
    apply List.ext_getElem?
    intro h
    by_cases hh : h < kinds.length <;> simp [kindEntries, hh]
  rw [Store.summaries, Store.entries_applyTagged, ← hsummaries]
  exact hr.entries.filterMap _

end Registration.Holds

end StepLatency
