import StepLatency.Measurement.Call
import StepLatency.Workload.Plan
import StepLatency.Workload.Registration

/-!
# Execution of operations

A worker decides on a step, measures it and records the sample, step after step and operation after
operation. A sample that was chosen to be negative is the measured time turned below zero. All that a
worker does comes down to updates of counters, in its own order; the updates of all workers
interleave.
-/

namespace StepLatency

/-- The times that a run measures: of every step, of every pacing interval, and of the whole. The
positions are those of worker, operation and step. -/
structure Timings where
  latency : Nat → Nat → Nat → Nat
  pacing : Nat → Nat → UInt64
  elapsed : Duration

def maxLatencySample : Nat := 0x7fffffffffffffff

def measuredSample (us : Nat) : Int := min us maxLatencySample

def anomalousSample (sample : Int) : Int := max (-0x8000000000000000) (-1 - sample)

def StepChoice.sample (choice : StepChoice) (us : Nat) : Int :=
  if choice.negative then anomalousSample (measuredSample us) else measuredSample us

theorem anomalousSample_measuredSample_neg (us : Nat) : anomalousSample (measuredSample us) < 0 := by
  unfold anomalousSample measuredSample
  omega

inductive WorkerFailure
  | noKinds
  | stepFailed (worker : Nat) (cause : MeasurementError)
  | crashed
deriving DecidableEq

def PlanFault.failure : PlanFault → WorkerFailure
  | .noKinds => .noKinds
  | .noChoice => .crashed

structure WorkerResult where
  completed : Nat
  updates : List (Handle × Update)

namespace Config

variable {γ : Type}

/-- So many steps of an operation, from a step on: each is decided on, timed and recorded. -/
def performSteps (c : Config) (g : Generator γ) (a : Aggregator) (worker : Nat)
    (latency : Nat → Nat) : Nat → Nat → γ → Except WorkerFailure (List Update × γ)
  | 0, _, s => .ok ([], s)
  | n + 1, step, s => do
    let (choice, s) ← (c.chooseStep g s).mapError PlanFault.failure
    let updates ← (a.updates (choice.sample (latency step)) step).mapError (.stepFailed worker)
    let (later, s) ← c.performSteps g a worker latency n (step + 1) s
    return (updates ++ later, s)

/-- One operation: a kind is chosen, its steps are performed one after the other, and the pacing
interval ends it. -/
def performOperation (c : Config) (g : Generator γ) (r : Registration) (t : Timings)
    (worker operation : Nat) (s : γ) : Except WorkerFailure (List (Handle × Update) × γ) :=
  if hkinds : 0 < r.kinds.length then
    let (kind, s) := g.position r.kinds.length hkinds s
    match r.store.aggregators[r.kinds[kind]]? with
    | none => .ok ([], s)
    | some a => do
      let (updates, s) ← c.performSteps g a worker (t.latency worker operation) a.stepCount 0 s
      let paced := updates ++ Update.pacing (t.pacing worker operation)
      return (paced.map (r.kinds[kind], ·), s)
  else .error .noKinds

def performOperations (c : Config) (g : Generator γ) (r : Registration) (t : Timings)
    (worker : Nat) : Nat → Nat → γ → Except WorkerFailure WorkerResult
  | 0, _, _ => .ok ⟨0, []⟩
  | n + 1, operation, s => do
    let (updates, s) ← c.performOperation g r t worker operation s
    let later ← c.performOperations g r t worker n (operation + 1) s
    return ⟨later.completed + 1, updates ++ later.updates⟩

def runWorker (c : Config) (g : Generator γ) (r : Registration) (t : Timings) (worker : Nat) :
    Except WorkerFailure WorkerResult :=
  c.performOperations g r t worker c.opsPerThread 0 (g.start (c.workerSeed worker))

def runWorkers (c : Config) (g : Generator γ) (r : Registration) (t : Timings) :
    List (Except WorkerFailure WorkerResult) :=
  (List.range c.threads).map (c.runWorker g r t)

end Config

inductive JoinFailure
  | aborted (cause : WorkerFailure)
  /-- A worker crashed that nobody was waiting for any more. -/
  | crashedUnjoined
deriving DecidableEq

def isCrash {α : Type} : Except WorkerFailure α → Bool
  | .error .crashed => true
  | _ => false

/-- Waits for the workers in their order, up to the first failure. -/
def joinWorkers {α : Type} : List (Except WorkerFailure α) → Except JoinFailure (List α)
  | [] => .ok []
  | .ok a :: rest => (joinWorkers rest).map (a :: ·)
  | .error cause :: rest => .error (if rest.any isCrash then .crashedUnjoined else .aborted cause)

end StepLatency
