import StepLatency.Report.Format

/-!
# Command-line arguments

The arguments of the program: how each is written, what it stands for, and which value it has when
it is not given.
-/

namespace StepLatency.CommandLine

inductive Argument
  | operation
  | threads
  | opsPerThread
  | minStepLatency
  | maxStepLatency
  | pacingDelay
  | negativeSampleRate
  | seed
  | format
  | outputFile
  | verbose
  | help
  | version
deriving DecidableEq, Repr

namespace Argument

def all : List Argument :=
  [.operation, .threads, .opsPerThread, .minStepLatency, .maxStepLatency, .pacingDelay,
   .negativeSampleRate, .seed, .format, .outputFile, .verbose, .help, .version]

def long : Argument → String
  | .operation => "operation"
  | .threads => "threads"
  | .opsPerThread => "ops-per-thread"
  | .minStepLatency => "min-step-latency-us"
  | .maxStepLatency => "max-step-latency-us"
  | .pacingDelay => "pacing-delay-us"
  | .negativeSampleRate => "negative-sample-rate"
  | .seed => "seed"
  | .format => "format"
  | .outputFile => "output-file"
  | .verbose => "verbose"
  | .help => "help"
  | .version => "version"

def short? : Argument → Option Char
  | .operation => some 'O'
  | .threads => some 't'
  | .opsPerThread => some 'n'
  | .format => some 'f'
  | .outputFile => some 'o'
  | .verbose => some 'v'
  | .help => some 'h'
  | .version => some 'V'
  | .minStepLatency | .maxStepLatency | .pacingDelay | .negativeSampleRate | .seed => none

def placeholder? : Argument → Option String
  | .operation => some "OPERATIONS"
  | .threads => some "THREADS"
  | .opsPerThread => some "OPS_PER_THREAD"
  | .minStepLatency => some "MIN_STEP_LATENCY_US"
  | .maxStepLatency => some "MAX_STEP_LATENCY_US"
  | .pacingDelay => some "PACING_DELAY_US"
  | .negativeSampleRate => some "NEGATIVE_SAMPLE_RATE"
  | .seed => some "SEED"
  | .format => some "FORMAT"
  | .outputFile => some "OUTPUT_FILE"
  | .verbose | .help | .version => none

def takesValue (a : Argument) : Bool := a.placeholder?.isSome

def isRepeatable (a : Argument) : Bool := a == .operation

def default? : Argument → Option String
  | .operation => some "SCAN:4"
  | .opsPerThread => some "1000"
  | .minStepLatency => some "50"
  | .maxStepLatency => some "500"
  | .pacingDelay => some "100"
  | .negativeSampleRate => some "0"
  | .format => some "text"
  | .threads | .seed | .outputFile | .verbose | .help | .version => none

def choices : Argument → List ExportFormat
  | .format => ExportFormat.all
  | _ => []

def flag (a : Argument) : String := s!"--{a.long}"

def valueText (a : Argument) : String :=
  match a.placeholder? with
  | some value => s!" <{value}>"
  | none => ""

def title (a : Argument) : String := a.flag ++ a.valueText

def ofLong? (name : String) : Option Argument := all.find? (·.long == name)

def ofShort? (c : Char) : Option Argument := all.find? (·.short? == some c)

theorem ofLong?_long (a : Argument) : ofLong? a.long = some a := by
  cases a <;> decide

end Argument

end StepLatency.CommandLine
