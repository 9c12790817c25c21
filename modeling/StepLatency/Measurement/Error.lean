/-!
# Errors of the measurement layer

Why a registration or a sample is refused, and the text of each reason.
-/

namespace StepLatency

inductive MeasurementError
  | invalidStepCount (operation : String)
  | stepOutOfRange (operation : String) (step stepCount : Nat)
  | stepCountMismatch (operation : String) (existing requested : Nat)
  | unknownOperation (operation : String)
deriving DecidableEq

def MeasurementError.message : MeasurementError → String
  | .invalidStepCount operation => s!"operation '{operation}' must declare at least one step"
  | .stepOutOfRange operation step stepCount =>
    s!"step {step} is out of range for operation '{operation}' ({stepCount} steps declared)"
  | .stepCountMismatch operation existing requested =>
    s!"operation '{operation}' is already registered with {existing} steps, not {requested}"
  | .unknownOperation operation => s!"operation '{operation}' has not been registered"

end StepLatency
