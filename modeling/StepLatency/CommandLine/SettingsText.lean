import StepLatency.CommandLine.Settings
import StepLatency.Text.Quoted

/-!
# Settings for the log

All settings on one line, each with its name and its value.
-/

namespace StepLatency.CommandLine

def optionText : Option String → String
  | some text => s!"Some({text})"
  | none => "None"

def recordText (type : String) (parts : List (String × String)) : String :=
  let texts := parts.map fun (name, value) => s!"{name}: {value}"
  type ++ " \x7b " ++ String.intercalate ", " texts ++ " \x7d"

def operationText (o : OperationSpec) : String :=
  recordText "OperationSpec" [("name", Text.quoted o.name), ("steps", toString o.steps)]

def listText (items : List String) : String := "[" ++ String.intercalate ", " items ++ "]"

namespace Settings

def text (s : Settings) : String :=
  recordText "Args"
    [("operations", listText (s.operations.map operationText)),
     ("threads", optionText (s.threads.map toString)),
     ("ops_per_thread", toString s.opsPerThread),
     ("min_step_latency_us", toString s.minStepLatency.toNat),
     ("max_step_latency_us", toString s.maxStepLatency.toNat),
     ("pacing_delay_us", toString s.pacingDelay.toNat),
     ("negative_sample_rate", s.negativeSampleRate.toTagged),
     ("seed", optionText (s.seed.map fun n => toString n.toNat)),
     ("format", s.format.title),
     ("output_file", optionText (s.outputFile.map Text.quoted)),
     ("verbose", toString s.verbose)]

end Settings

end StepLatency.CommandLine
