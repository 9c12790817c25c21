import StepLatency.Decimal.Layout
import StepLatency.Duration
import StepLatency.Workload.Operation

/-!
# Workload configurations

The parameters of a run, and what makes them unfit. A configuration is checked part by part, in a
fixed order, and the first fault is the one that is reported.
-/

namespace StepLatency

structure Config where
  operations : List OperationSpec
  threads : Nat
  opsPerThread : Nat
  minLatency : UInt64
  maxLatency : UInt64
  pacingDelay : Duration
  negativeRate : Binary64
  seed : UInt64

inductive ConfigFault
  | noOperations
  | noSteps (operation : String)
  | tooManySteps (operation : String) (steps : Nat)
  | noThreads
  | tooManyThreads (threads : Nat)
  | emptyLatencyRange (min max : UInt64)
  | rateOutOfRange (what : String) (rate : Binary64)
deriving DecidableEq

namespace Config

def maxThreads : Nat := 1024

def maxSteps : Nat := 4096

end Config

def ConfigFault.message : ConfigFault → String
  | .noOperations => "At least one operation kind must be configured"
  | .noSteps operation => s!"Operation '{operation}' must have at least one step"
  | .tooManySteps operation steps =>
    s!"Operation '{operation}' declares {steps} steps (maximum {Config.maxSteps})"
  | .noThreads => "Thread count cannot be zero"
  | .tooManyThreads threads =>
    s!"Thread count {threads} is too high (maximum {Config.maxThreads})"
  | .emptyLatencyRange min max =>
    s!"Minimum step latency {min.toNat}us exceeds maximum {max.toNat}us"
  | .rateOutOfRange what rate => s!"{what} must be between 0.0 and 1.0, got {rate.toPlain}"

namespace Config

def checkSteps (operation : String) (steps : Nat) : Except ConfigFault Unit :=
  if steps = 0 then .error (.noSteps operation)
  else if maxSteps < steps then .error (.tooManySteps operation steps)
  else .ok ()

def checkThreads (threads : Nat) : Except ConfigFault Unit :=
  if threads = 0 then .error .noThreads
  else if maxThreads < threads then .error (.tooManyThreads threads)
  else .ok ()

/-- Both bounds belong to the range. -/
def checkLatencyRange (min max : UInt64) : Except ConfigFault Unit :=
  if max < min then .error (.emptyLatencyRange min max) else .ok ()

def checkRate (what : String) (rate : Binary64) : Except ConfigFault Unit :=
  if rate.isProbability then .ok () else .error (.rateOutOfRange what rate)

def validate (c : Config) : Except ConfigFault Unit := do
  if c.operations.isEmpty then throw .noOperations
  c.operations.forM fun operation => checkSteps operation.name operation.steps
  checkThreads c.threads
  checkLatencyRange c.minLatency c.maxLatency
  checkRate "Negative sample rate" c.negativeRate

end Config

end StepLatency
