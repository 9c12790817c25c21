import StepLatency.Report.RunReport
import StepLatency.Report.Sink
import StepLatency.Workload.Execution
import StepLatency.Workload.Progress

/-!
# Runs

A run registers its operation kinds, lets the workers carry out their plans, reads the summaries
once all of them are done, offers the rows to a sink and closes it. It stops at the first failure;
the sink sees nothing of a run whose registration or workers failed.
-/

namespace StepLatency

/-- What a run is given besides its configuration: its name, what it measures, and the order in which
the workers take their turns. -/
structure Occasion where
  runId : String
  timings : Timings
  schedule : List Nat

inductive RunFailure (ε : Type)
  | registration (fault : RegistrationFault)
  | workers (cause : JoinFailure)
  | exporting (cause : ε)
  | closing (cause : ε)
deriving DecidableEq

def WorkerFailure.chain : WorkerFailure → List String
  | .noKinds => ["No operation kinds registered"]
  | .stepFailed worker cause => [s!"Worker {worker} failed", cause.message]
  | .crashed => ["Worker thread panicked"]

def JoinFailure.chain : JoinFailure → List String
  | .aborted cause => "Workload aborted" :: cause.chain
  | .crashedUnjoined => ["Worker scope panicked"]

def RunFailure.chain {ε : Type} (describe : ε → String) : RunFailure ε → List String
  | .registration fault => [s!"Failed to register operation {fault.operation}", fault.cause.message]
  | .workers cause => cause.chain
  | .exporting cause => ["Failed to export measurements", describe cause]
  | .closing cause => ["Failed to finalize report", describe cause]

inductive RunStep
  | note (note : Progress)
  /-- The sink takes a row. -/
  | row (row : Row)
  /-- The sink is closed. -/
  | close
deriving DecidableEq

structure RunOutcome (σ ε : Type) where
  result : Except (RunFailure ε) RunReport
  sink : σ
  trace : List RunStep

namespace Registration

def notes (r : Registration) : List Progress := r.specs.map fun spec => .registered spec.name spec.steps

end Registration

/-- The steps of an export: kinds without a pacing row are told of when their turn comes. -/
def exportTrace {σ ε : Type} (sink : Sink σ ε) : List Summary → σ → List RunStep
  | [], state => if (sink.close state).1.isOk then [.close] else []
  | s :: rest, state =>
    (if s.averagePacing.isNone then [.note (.noPacing s.operation)] else []) ++
      (sink.taken s.rows state).map .row ++
      match sink.writeAll s.rows state with
      | (.ok (), state) => exportTrace sink rest state
      | (.error _, _) => []

namespace Config

variable {γ σ ε : Type}

def register (c : Config) : Except RegistrationFault Unit × Registration :=
  let (result, r) := Registration.empty.addAll c.operations
  (result, { r with store := r.store.resetPacing Store.registryTracker })

def started (c : Config) (o : Occasion) (r : Registration) : Progress :=
  .started o.runId c.threads c.opsPerThread r.kinds.length c.seed

/-- The workers' results; the store once all of them are done. -/
def execute (c : Config) (g : Generator γ) (o : Occasion) (r : Registration) :
    Except JoinFailure (List WorkerResult × Store) := do
  let results ← joinWorkers (c.runWorkers g r o.timings)
  return (results, r.store.applyTagged (weave o.schedule (results.map (·.updates))))

def totalCompleted (results : List WorkerResult) : UInt64 :=
  UInt64.ofNat (results.foldl (fun total result => total + result.completed) 0)

def report (o : Occasion) (results : List WorkerResult) (store : Store) : RunReport where
  runId := o.runId
  elapsed := o.timings.elapsed
  totalOperations := totalCompleted results
  pacingSamples := (store.pacing Store.registryTracker).samples
  summaries := store.summaries

def deliver (sink : Sink σ ε) (store : Store) (state : σ) : Except (RunFailure ε) Unit × σ :=
  match store.exportTo none sink state with
  | (.error cause, state) => (.error (.exporting cause), state)
  | (.ok (), state) =>
    match sink.close state with
    | (.error cause, state) => (.error (.closing cause), state)
    | (.ok (), state) => (.ok (), state)

def workerNotes (results : List WorkerResult) : List Progress :=
  results.mapIdx fun worker result => .workerCompleted worker result.completed

def negativeNotes (summaries : List Summary) : List Progress :=
  (summaries.filter (0 < ·.invalidSamples)).map fun s => .negativeSamples s.operation s.invalidSamples

def finishedNotes (o : Occasion) (results : List WorkerResult) (store : Store) : List Progress :=
  workerNotes results ++ [.workersFinished (totalCompleted results) o.timings.elapsed] ++
    negativeNotes store.summaries ++ [.exporting store.entries.length]

def run (c : Config) (g : Generator γ) (o : Occasion) (sink : Sink σ ε) (state : σ) :
    RunOutcome σ ε :=
  match c.register with
  | (.error fault, r) => ⟨.error (.registration fault), state, r.notes.map .note⟩
  | (.ok (), r) =>
    let notes := r.notes ++ [c.started o r]
    match c.execute g o r with
    | .error cause => ⟨.error (.workers cause), state, notes.map .note⟩
    | .ok (results, store) =>
      let (result, after) := deliver sink store state
      ⟨result.map fun () => report o results store, after,
        (notes ++ finishedNotes o results store).map .note ++ exportTrace sink store.summaries state⟩

end Config

end StepLatency
