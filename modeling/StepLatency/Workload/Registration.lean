import StepLatency.Measurement.Store
import StepLatency.Workload.Operation

/-!
# Registration of the operation kinds

The declarations of a run are registered in their order. A name that is declared again with the same
number of steps adds nothing; with another number it stops the registration.
-/

namespace StepLatency

/-- The kinds registered so far, in the order of their first declaration. -/
structure Registration where
  store : Store
  kinds : List Handle

structure RegistrationFault where
  operation : String
  cause : MeasurementError
deriving DecidableEq

namespace Registration

def empty : Registration := ⟨.empty, []⟩

def add (r : Registration) (spec : OperationSpec) : Except RegistrationFault Unit × Registration :=
  match r.store.register spec.name spec.steps with
  | (.error cause, store) => (.error ⟨spec.name, cause⟩, { r with store })
  | (.ok h, store) => (.ok (), ⟨store, if h ∈ r.kinds then r.kinds else r.kinds ++ [h]⟩)

/-- Registers declarations up to the first that fails; what was registered before it stays. -/
def addAll (r : Registration) : List OperationSpec → Except RegistrationFault Unit × Registration
  | [] => (.ok (), r)
  | spec :: rest =>
    match r.add spec with
    | (.ok (), r) => r.addAll rest
    | (.error fault, r) => (.error fault, r)

def specs (r : Registration) : List OperationSpec :=
  r.kinds.filterMap fun h => r.store.aggregators[h]?.map fun a => ⟨a.operation, a.stepCount⟩

def stepCounts (r : Registration) : List Nat := r.specs.map (·.steps)

end Registration

end StepLatency
