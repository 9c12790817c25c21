import StepLatency.Report.Format
import StepLatency.Workload.Config

/-!
# Settings

The values of the command-line arguments, and the configuration of the run that they ask for.
-/

namespace StepLatency.CommandLine

structure Settings where
  operations : List OperationSpec
  threads : Option Nat
  opsPerThread : Nat
  minStepLatency : UInt64
  maxStepLatency : UInt64
  pacingDelay : UInt64
  negativeSampleRate : Binary64
  seed : Option UInt64
  format : ExportFormat
  outputFile : Option String
  verbose : Bool

namespace Settings

def defaultOperation : OperationSpec := ⟨"SCAN", 4⟩

def default : Settings where
  operations := [defaultOperation]
  threads := none
  opsPerThread := 1000
  minStepLatency := 50
  maxStepLatency := 500
  pacingDelay := 100
  negativeSampleRate := .zero
  seed := none
  format := .text
  outputFile := none
  verbose := false

/-- The configuration, in which the machine supplies the number of threads and chance the seed where
the settings leave them open. -/
def config (s : Settings) (threads : Nat) (seed : UInt64) : Config where
  operations := s.operations
  threads := s.threads.getD threads
  opsPerThread := s.opsPerThread
  minLatency := s.minStepLatency
  maxLatency := s.maxStepLatency
  pacingDelay := .ofMicros s.pacingDelay
  negativeRate := s.negativeSampleRate
  seed := s.seed.getD seed

end Settings

def recommendedThreads (cores : Nat) : Nat := max 1 (min cores 8)

end StepLatency.CommandLine
