import Mathlib
import StepLatency.Proofs.Report.RunReads
import StepLatency.Proofs.Workload.Delivered
import StepLatency.Report.MemorySink

/-!
# Reports of runs, read back

Whatever report a run hands back: its text is decoded to a report that differs from it in the pacing
averages at most. These are read in several roundings. An average of few digits comes back as it
was, and any other one within a small part of its value.
-/

namespace StepLatency

open Json

/-! ### The summaries of a run -/

def Store.StepsWithin (s : Store) (bound : Nat) : Prop :=
  ∀ a ∈ s.aggregators, a.stepCount ≤ bound

namespace Store.StepsWithin

variable {s s' : Store} {bound : Nat}

theorem empty : Store.empty.StepsWithin bound := by
  intro a ha
  exact absurd ha (Array.not_mem_empty a)

theorem register (hs : s.StepsWithin bound) (name : String) {stepCount : Nat}
    (hcount : stepCount ≤ bound) : (s.register name stepCount).2.StepsWithin bound := by
  unfold Store.register
  split
  · dsimp only
    split <;> exact hs
  · rcases Nat.eq_zero_or_pos stepCount with rfl | hpos
    · exact hs
    · rw [Aggregator.create_of_pos hpos]
      intro a ha
      rcases Array.mem_push.1 ha with hold | rfl
      · exact hs a hold
      · rwa [Aggregator.stepCount_fresh]

theorem addAll {r : Registration} (hr : r.store.StepsWithin bound) {specs : List OperationSpec}
    (hsteps : ∀ spec ∈ specs, spec.steps ≤ bound) : (r.addAll specs).2.store.StepsWithin bound := by
  induction specs generalizing r with
  | nil => exact hr
  | cons spec rest ih =>
      have hrest := fun other hmem => hsteps other (List.mem_cons_of_mem _ hmem)
      have hstore := hr.register spec.name (hsteps spec List.mem_cons_self)
      unfold Registration.addAll Registration.add
      rcases hregister : r.store.register spec.name spec.steps with ⟨_ | h, store⟩
      · rw [hregister] at hstore
        exact hstore
      · rw [hregister] at hstore
        exact ih hstore hrest

theorem apply (hs : s.StepsWithin bound) (h : Handle) (u : Update) :
    (s.apply h u).StepsWithin bound := by
  intro a ha
  obtain ⟨i, hi, rfl⟩ := Array.mem_iff_getElem.1 ha
  have hold : i < s.aggregators.size := by simpa [Store.apply] using hi
  have hcount : ((s.apply h u).aggregators[i]).stepCount = (s.aggregators[i]).stepCount := by
    simp only [Store.apply, Array.getElem_modify]
    split
    · exact Aggregator.stepCount_onAggregator u _
    · rfl
  rw [hcount]
  exact hs _ (Array.getElem_mem hold)

theorem applyTagged (hs : s.StepsWithin bound) (us : List (Handle × Update)) :
    (s.applyTagged us).StepsWithin bound :=
  Store.applyTagged_preserves (motive := fun t => t.StepsWithin bound)
    (fun _ h u ht => ht.apply h u) hs us

theorem isTaken (hs : s.StepsWithin UInt64.size) {summary : Summary}
    (hmem : summary ∈ s.summaries) : summary.IsTaken := by
  obtain ⟨entry, -, hsummary⟩ := List.mem_filterMap.1 hmem
  obtain ⟨a, ha, rfl⟩ := Option.map_eq_some_iff.1 hsummary
  exact ⟨a, _, hs a (Array.mem_of_getElem? ha), rfl⟩

end Store.StepsWithin

namespace Config

variable {γ σ ε : Type} {c : Config} {g : Generator γ} {o : Occasion}

theorem stepsWithin_of_register {r : Registration} {bound : Nat}
    (hsteps : ∀ spec ∈ c.operations, spec.steps ≤ bound) (hregister : c.register = (.ok (), r)) :
    r.store.StepsWithin bound := by
  obtain ⟨-, rfl⟩ := Prod.mk.inj hregister
  have hall := Store.StepsWithin.addAll (r := .empty) Store.StepsWithin.empty hsteps
  exact fun a ha => hall a ha

theorem isTaken_of_run {sink : Sink σ ε} {state : σ} {report : RunReport}
    (hsteps : ∀ spec ∈ c.operations, spec.steps ≤ UInt64.size)
    (hrun : (c.run g o sink state).result = .ok report) : report.IsTaken := by
  obtain ⟨r, results, store, hregister, hexecute, rfl⟩ := exists_execute_of_run hrun
  obtain ⟨us, rfl⟩ := exists_applyTagged_of_execute hexecute
  have hstore := (stepsWithin_of_register hsteps hregister).applyTagged us
  exact fun summary hmem => hstore.isTaken hmem

end Config

/-! ### Reports that come back -/

/-- What an average comes back as: a finite number that is close to it, and the average itself where
the digits of its text, taken as a whole number, and the power of ten are small enough to be
exact. -/
structure Binary64.Restored (x y : Binary64) : Prop where
  finite : y.isFinite = true
  close : |y.value - x.value| ≤ x.value / 2 ^ 50
  exact : (written x).significand ≤ 2 ^ 53 → (written x).exponent.natAbs ≤ 22 → y = x

theorem Json.IsModerate.restored {x : Binary64} (hx : IsModerate x) : x.Restored (reread x) where
  finite := hx.magnitude?_written.2
  close := hx.abs_reread_sub_le
  exact := hx.reread_eq

/-- Every report that a run hands back was taken from its aggregators; and every report that was
taken from any aggregators, whatever they have counted, is read back from its compact and from its
indented text with all names, counters, times and missing averages as they were. Each pacing average
comes back as what its text is read as, which is close to it, and equal to it for few digits. -/
theorem RunReport.decode_restored :
    (∀ {γ σ ε : Type} (c : Config) (g : Generator γ) (o : Occasion) (sink : Sink σ ε) (state : σ)
      (report : RunReport), (∀ spec ∈ c.operations, spec.steps ≤ UInt64.size) →
      (c.run g o sink state).result = .ok report → report.IsTaken) ∧
    ∀ report : RunReport, report.IsTaken →
      Decoder.decode RunReport.schema.decoder report.jsonValue.compactText = .ok report.restored ∧
      Decoder.decode RunReport.schema.decoder report.jsonValue.prettyText = .ok report.restored ∧
      ∀ s ∈ report.summaries, ∀ x, s.averagePacing = some x → x.Restored (reread x) := by
  refine ⟨fun c g o sink state report hsteps hrun => Config.isTaken_of_run hsteps hrun,
    fun report htaken => ⟨htaken.decode_eq (spells_compact _), htaken.decode_eq (spells_pretty 0 _),
      fun s hs x hx => ((htaken s hs).isModerate hx).restored⟩⟩

/-! ### An average that does not come back -/

/-- Always makes the first choice, and no sample negative. -/
def firstChoices : Generator Unit where
  start _ := ()
  position _ hpos _ := (⟨0, hpos⟩, ())
  word low _ _ _ := (low, ())
  event _ _ _ := (false, ())

def unevenPacing : Occasion where
  runId := "run"
  timings := ⟨fun _ _ _ => 1,
    fun worker operation => if worker = 0 ∧ operation = 0 then 92 else 90, .zero⟩
  schedule := []

/-- The average of six intervals of 542 microseconds in all, `90.33333333333333`. -/
def unevenAverage : Binary64 := ⟨0x4056955555555555⟩

def unevenReport : RunReport where
  runId := "run"
  elapsed := .zero
  totalOperations := 6
  pacingSamples := 6
  summaries :=
    [⟨"READ", [⟨0, 0, 0, none⟩], 0, 6, some unevenAverage⟩,
     ⟨"SCAN", [⟨0, 6, 6, some 1⟩, ⟨1, 6, 6, some 1⟩], 0, 6, some unevenAverage⟩]

theorem run_unevenPacing :
    (Config.twoKinds.run firstChoices unevenPacing MemorySink.sink .empty).result =
      .ok unevenReport := by
  decide +kernel

/-- The report of a run whose average has sixteen digits. -/
theorem RunReport.decode_restored_uneven :
    (Config.twoKinds.run firstChoices unevenPacing MemorySink.sink .empty).result =
        .ok unevenReport ∧
      Decoder.decode RunReport.schema.decoder unevenReport.jsonValue.compactText =
        .ok unevenReport.restored ∧
      unevenAverage.Restored (reread unevenAverage) := by
  have htaken := RunReport.decode_restored.1 Config.twoKinds firstChoices unevenPacing
    MemorySink.sink .empty unevenReport (by decide) run_unevenPacing
  obtain ⟨hcompact, -, haverages⟩ := RunReport.decode_restored.2 unevenReport htaken
  exact ⟨run_unevenPacing, hcompact, haverages _ List.mem_cons_self _ rfl⟩

/-- Its text is read as the number below it, so the report does not come back as it was. -/
theorem RunReport.decode_ne_uneven :
    (Config.twoKinds.run firstChoices unevenPacing MemorySink.sink .empty).result =
        .ok unevenReport ∧
      Decoder.decode RunReport.schema.decoder unevenReport.jsonValue.compactText ≠
        .ok unevenReport := by
  have hreread : reread unevenAverage ≠ unevenAverage := by decide +kernel
  have htaken : unevenReport.IsTaken := Config.isTaken_of_run (by decide) run_unevenPacing
  -- If the report came back, its averages would, and they are the reread ones.
  refine ⟨run_unevenPacing, fun hdecode => hreread ?_⟩
  have hrestored := (htaken.decode_eq (spells_compact _)).symm.trans hdecode
  have hsummaries := congrArg RunReport.summaries (Except.ok.inj hrestored)
  have haverages := congrArg (List.map Summary.averagePacing) hsummaries
  exact Option.some.inj (List.cons.inj haverages).1

end StepLatency
