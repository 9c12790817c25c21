import Mathlib
import StepLatency.Proofs.Concurrency.Interleaved
import StepLatency.Proofs.Workload.Decided

/-!
# Completed runs

A run of a consistent configuration that was validated registers its kinds and waits for its workers
without a failure. From then on everything is up to the sink: if it takes the rows and closes, the
run hands back its report.
-/

namespace StepLatency

def RunReport.rows (report : RunReport) : List Row := report.summaries.flatMap (·.rows)

def Sink.finish {σ ε : Type} (sink : Sink σ ε) (rows : List Row) (state : σ) :
    Except (RunFailure ε) Unit × σ :=
  match sink.writeAll rows state with
  | (.error cause, state) => (.error (.exporting cause), state)
  | (.ok (), state) =>
    match sink.close state with
    | (.error cause, state) => (.error (.closing cause), state)
    | (.ok (), state) => (.ok (), state)

/-- A run offers the rows of the report to any sink, closes it, and hands back the report. -/
def Config.Completes {γ : Type} (c : Config) (g : Generator γ) (o : Occasion) (report : RunReport) :
    Prop :=
  ∀ ⦃σ ε : Type⦄ (sink : Sink σ ε) (state : σ),
    (c.run g o sink state).result = (sink.finish report.rows state).1.map (fun () => report) ∧
      (c.run g o sink state).sink = (sink.finish report.rows state).2

/-- However the workers interleave, there is a schedule by which a run has them do so. -/
def Config.SchedulesAll {γ : Type} (c : Config) (g : Generator γ) (r : Registration) (t : Timings) :
    Prop :=
  ∃ results, joinWorkers (c.runWorkers g r t) = .ok results ∧
    ∀ us, Interleaving (results.map (·.updates)) us → ∃ schedule, ∀ runId,
      c.execute g ⟨runId, t, schedule⟩ r = .ok (results, r.store.applyTagged us)

theorem joinWorkers_map_ok {α : Type} (results : List α) :
    joinWorkers (results.map .ok) = .ok results := by
  induction results with
  | nil => rfl
  | cons result rest ih =>
      rw [List.map_cons, joinWorkers, ih]
      rfl

theorem foldl_completed (n : Nat) (results : List WorkerResult) (total : Nat)
    (hcompleted : ∀ result ∈ results, result.completed = n) :
    results.foldl (fun total result => total + result.completed) total =
      total + results.length * n := by
  induction results generalizing total with
  | nil => simp
  | cons result rest ih =>
      rw [List.foldl_cons, ih _ fun other hmem => hcompleted other (List.mem_cons_of_mem _ hmem),
        hcompleted result List.mem_cons_self, List.length_cons, Nat.succ_mul]
      omega

namespace Config

variable {γ : Type} {c : Config} {g : Generator γ} {r : Registration}

def planResults (c : Config) (t : Timings) (plan : Nat → List OperationChoice) :
    List WorkerResult :=
  (List.range c.threads).map fun worker => ⟨c.opsPerThread, planUpdates t worker 0 (plan worker)⟩

def allUpdates (c : Config) (t : Timings) (plan : Nat → List OperationChoice) :
    List (Handle × Update) :=
  (List.range c.threads).flatMap fun worker => planUpdates t worker 0 (plan worker)

def finalStore (c : Config) (o : Occasion) (r : Registration) (plan : Nat → List OperationChoice) :
    Store :=
  r.store.applyTagged (weave o.schedule ((c.planResults o.timings plan).map (·.updates)))

theorem weave_perm_allUpdates (c : Config) (o : Occasion) (plan : Nat → List OperationChoice) :
    (weave o.schedule ((c.planResults o.timings plan).map (·.updates))).Perm
      (c.allUpdates o.timings plan) := by
  refine (interleaving_weave _ _).perm.trans (.of_eq ?_)
  rw [planResults, List.map_map, allUpdates, List.flatMap_def]
  rfl

/-- Workers that carry out their plans are all waited for. -/
theorem joinWorkers_runWorkers {plan : Nat → List OperationChoice} {t : Timings}
    (hworkers : ∀ worker, c.runWorker g r t worker =
      .ok ⟨c.opsPerThread, planUpdates t worker 0 (plan worker)⟩) :
    joinWorkers (c.runWorkers g r t) = .ok (c.planResults t plan) := by
  rw [← joinWorkers_map_ok, runWorkers, planResults, List.map_map]
  exact congrArg joinWorkers (List.map_congr_left fun worker _ => hworkers worker)

theorem execute_of_joinWorkers {o : Occasion} {results : List WorkerResult}
    (hjoin : joinWorkers (c.runWorkers g r o.timings) = .ok results) :
    c.execute g o r =
      .ok (results, r.store.applyTagged (weave o.schedule (results.map (·.updates)))) := by
  rw [execute, hjoin]
  rfl

/-- Every interleaving of the updates of workers that finish is that of some schedule. -/
theorem schedulesAll_of_joinWorkers {t : Timings} {results : List WorkerResult}
    (hjoin : joinWorkers (c.runWorkers g r t) = .ok results) : c.SchedulesAll g r t := by
  refine ⟨results, hjoin, fun us hus => ?_⟩
  obtain ⟨schedule, rfl⟩ := exists_weave_eq hus
  exact ⟨schedule, fun runId => execute_of_joinWorkers hjoin⟩

theorem deliver_eq_finish {σ ε : Type} (sink : Sink σ ε) (store : Store) (state : σ) :
    deliver sink store state = sink.finish (store.summaries.flatMap (·.rows)) state := by
  rw [deliver, store.exportTo_eq_writeAll]
  rfl

theorem completes_of_execute {o : Occasion} {results : List WorkerResult} {store : Store}
    (hregister : c.register = (.ok (), r)) (hexecute : c.execute g o r = .ok (results, store)) :
    c.Completes g o (report o results store) := by
  intro σ ε sink state
  rw [run, hregister]
  dsimp only
  rw [hexecute]
  dsimp only
  rw [deliver_eq_finish]
  exact ⟨rfl, rfl⟩

theorem toNat_totalCompleted (c : Config) (t : Timings) (plan : Nat → List OperationChoice) :
    (totalCompleted (c.planResults t plan)).toNat =
      c.threads * c.opsPerThread % UInt64.size := by
  have hcompleted : ∀ result ∈ c.planResults t plan, result.completed = c.opsPerThread := by
    intro result hmem
    obtain ⟨worker, -, rfl⟩ := List.mem_map.1 hmem
    rfl
  have hlength : (c.planResults t plan).length = c.threads := by simp [planResults]
  rw [totalCompleted, foldl_completed _ _ 0 hcompleted, UInt64.toNat_ofNat', hlength, Nat.zero_add]

/-- A registration, and a plan for every worker which it carries out on every occasion. -/
structure Prepared (c : Config) (g : Generator γ) (r : Registration) (kinds : List OperationSpec)
    (plan : Nat → List OperationChoice) : Prop where
  register : c.register = (.ok (), r)
  holds : r.Holds kinds
  declared : ∀ spec, spec ∈ kinds ↔ spec ∈ c.operations
  planned : ∀ worker, c.plan g r.stepCounts worker = .ok (plan worker)
  length : ∀ worker, (plan worker).length = c.opsPerThread
  fits : ∀ worker, ∀ choice ∈ plan worker, choice.Fits kinds
  runWorker : ∀ t worker,
    c.runWorker g r t worker = .ok ⟨c.opsPerThread, planUpdates t worker 0 (plan worker)⟩

theorem exists_prepared (hvalid : c.Valid) (hconsistent : c.Consistent) (g : Generator γ) :
    ∃ r kinds plan, c.Prepared g r kinds plan := by
  obtain ⟨r, kinds, hregister, hholds, hdeclared⟩ := exists_register_eq_ok hvalid hconsistent
  have hkinds : kinds ≠ [] := by
    obtain ⟨spec, hspec⟩ := List.exists_mem_of_ne_nil _ hvalid.operations
    exact List.ne_nil_of_mem ((hdeclared spec).2 hspec)
  choose plan hplanned hlength hfits hrun using
    exists_runWorker_eq_ok hvalid hholds hkinds g
  exact ⟨r, kinds, plan, hregister, hholds, hdeclared, hplanned, hlength, hfits,
    fun t worker => hrun worker t⟩

theorem Prepared.completes {kinds : List OperationSpec} {plan : Nat → List OperationChoice}
    (hc : c.Prepared g r kinds plan) (o : Occasion) :
    c.Completes g o (report o (c.planResults o.timings plan) (c.finalStore o r plan)) :=
  completes_of_execute hc.register
    (execute_of_joinWorkers (joinWorkers_runWorkers (hc.runWorker o.timings)))

theorem Prepared.schedulesAll {kinds : List OperationSpec} {plan : Nat → List OperationChoice}
    (hc : c.Prepared g r kinds plan) (t : Timings) : c.SchedulesAll g r t :=
  schedulesAll_of_joinWorkers (joinWorkers_runWorkers (hc.runWorker t))

end Config

theorem Config.Completes.result_cases {γ σ ε : Type} {c : Config} {g : Generator γ} {o : Occasion}
    {report : RunReport} (hc : c.Completes g o report) (sink : Sink σ ε) (state : σ) :
    (c.run g o sink state).result = .ok report ∨
      (∃ cause, (c.run g o sink state).result = .error (.exporting cause)) ∨
      ∃ cause, (c.run g o sink state).result = .error (.closing cause) := by
  rw [(hc sink state).1, Sink.finish]
  rcases sink.writeAll report.rows state with ⟨_ | _, after⟩
  · exact .inr (.inl ⟨_, rfl⟩)
  · dsimp only
    rcases sink.close after with ⟨_ | _, closed⟩
    · exact .inr (.inr ⟨_, rfl⟩)
    · exact .inl rfl

end StepLatency
