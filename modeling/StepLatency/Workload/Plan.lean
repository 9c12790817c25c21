import StepLatency.Random.Generator
import StepLatency.Workload.Config

/-!
# Plans of workers

What a worker will do is decided by its generator alone: which operation kind comes next, and for
every step of it how long the step is meant to take and whether its sample comes out negative. No
measured time has a part in it. A worker that asks for a decision that does not exist stops.
-/

namespace StepLatency

structure StepChoice where
  /-- How long the step is meant to take, in microseconds. -/
  target : UInt64
  negative : Bool
deriving DecidableEq, Inhabited

structure OperationChoice where
  /-- The position of the operation kind among all kinds. -/
  kind : Nat
  steps : List StepChoice
deriving DecidableEq, Inhabited

inductive PlanFault
  /-- There is no operation kind to choose from. -/
  | noKinds
  /-- The latency range is empty, or the rate is no probability. -/
  | noChoice
deriving DecidableEq

namespace Config

variable {γ : Type}

def chooseStep (c : Config) (g : Generator γ) (s : γ) : Except PlanFault (StepChoice × γ) :=
  if hrange : c.minLatency ≤ c.maxLatency then
    let (target, s) := g.word c.minLatency c.maxLatency hrange s
    if hrate : c.negativeRate.isProbability = true then
      let (negative, s) := g.event c.negativeRate hrate s
      .ok (⟨target, negative⟩, s)
    else .error .noChoice
  else .error .noChoice

def chooseSteps (c : Config) (g : Generator γ) : Nat → γ → Except PlanFault (List StepChoice × γ)
  | 0, s => .ok ([], s)
  | n + 1, s => do
    let (step, s) ← c.chooseStep g s
    let (steps, s) ← c.chooseSteps g n s
    return (step :: steps, s)

/-- The choices for one operation of a kind whose steps are counted by position. -/
def chooseOperation (c : Config) (g : Generator γ) (stepCounts : List Nat) (s : γ) :
    Except PlanFault (OperationChoice × γ) :=
  if h : 0 < stepCounts.length then do
    let (kind, s) := g.position stepCounts.length h s
    let (steps, s) ← c.chooseSteps g stepCounts[kind] s
    return (⟨kind, steps⟩, s)
  else .error .noKinds

def chooseOperations (c : Config) (g : Generator γ) (stepCounts : List Nat) :
    Nat → γ → Except PlanFault (List OperationChoice × γ)
  | 0, s => .ok ([], s)
  | n + 1, s => do
    let (operation, s) ← c.chooseOperation g stepCounts s
    let (operations, s) ← c.chooseOperations g stepCounts n s
    return (operation :: operations, s)

/-- The seeds of the workers follow each other, modulo `2 ^ 64`. -/
def workerSeed (c : Config) (worker : Nat) : UInt64 := c.seed + UInt64.ofNat worker

def plan (c : Config) (g : Generator γ) (stepCounts : List Nat) (worker : Nat) :
    Except PlanFault (List OperationChoice) :=
  (c.chooseOperations g stepCounts c.opsPerThread (g.start (c.workerSeed worker))).map (·.1)

end Config

end StepLatency
