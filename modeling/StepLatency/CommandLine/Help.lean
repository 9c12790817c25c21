import StepLatency.CommandLine.Argument
import StepLatency.Console.Style
import StepLatency.Report.Document

/-!
# Help texts

The short text has a line or two for every argument, the long one a paragraph. Titles and what is to
be typed stand out.
-/

namespace StepLatency.CommandLine

open Console (Medium Span StyledText)

def programName : String := "multistep-bench"

def description : String :=
  "Per-step concurrent latency aggregation for multi-step database benchmark operations"

def versionText : String := s!"{programName} {version}\n"

/-- Arguments under a common title. In the short text their descriptions stand beside the arguments,
or else on lines of their own. -/
structure Section where
  title : String
  arguments : List Argument
  beside : Bool

def sections : List Section :=
  [⟨"Options", [.verbose, .help, .version], true⟩,
   ⟨"Workload Options",
     [.operation, .threads, .opsPerThread, .minStepLatency, .maxStepLatency, .pacingDelay,
      .negativeSampleRate, .seed], false⟩,
   ⟨"Output Options", [.format, .outputFile], true⟩]

namespace Argument

/-- What an argument is for; `long` says in which help text. -/
def purpose (long : Bool) : Argument → String
  | .operation => "Operation kinds to run as NAME:STEPS (repeatable, e.g. -O SCAN:4 -O READ:2)"
  | .threads => "Number of worker threads (defaults to the CPU count, capped at 8)"
  | .opsPerThread => "Operations executed by each worker thread"
  | .minStepLatency => "Lower bound of the simulated latency of one step, in microseconds"
  | .maxStepLatency => "Upper bound of the simulated latency of one step, in microseconds"
  | .pacingDelay => "Think time inserted between two operations, in microseconds"
  | .negativeSampleRate => "Probability of injecting a negative (clock anomaly) sample per step"
  | .seed => "Seed for the per-worker random generators"
  | .format => "Report format"
  | .outputFile => "Write the report to this file instead of stdout"
  | .verbose => "Verbose output"
  | .help =>
    if long then "Print help (see a summary with '-h')" else "Print help (see more with '--help')"
  | .version => "Print version"

/-- Both names of an argument, or its long one where the short one would stand before it, and its
value. -/
def heading (a : Argument) : StyledText :=
  let short := match a.short? with
    | some c => [⟨.literal, String.ofList ['-', c]⟩, .plain ", "]
    | none => [.plain "    "]
  [.plain "  "] ++ short ++ [⟨.literal, a.flag⟩, .plain a.valueText]

def defaultNote (a : Argument) : List String := a.default?.toList.map fun value => s!"[default: {value}]"

def choiceNote (a : Argument) : List String :=
  if a.choices.isEmpty then []
  else
    let names := String.intercalate ", " (a.choices.map (·.name))
    [s!"[possible values: {names}]"]

def shortPurpose (a : Argument) : String :=
  String.intercalate " " (a.purpose false :: (a.defaultNote ++ a.choiceNote))

end Argument

def margin : String := "          "

def plainLine (text : String) : StyledText := [.plain text]

def Section.shortLines (s : Section) : List StyledText :=
  let width := (s.arguments.map fun a => a.heading.content.length).foldl max 0
  s.arguments.flatMap fun a =>
    if s.beside then [a.heading.fill width ++ plainLine ("  " ++ a.shortPurpose)]
    else [a.heading, plainLine (margin ++ a.shortPurpose)]

def choiceLine (choice : ExportFormat) : StyledText :=
  [.plain (margin ++ "- "), ⟨.literal, choice.name⟩, .plain s!": {choice.help}"]

def Argument.longLines (a : Argument) : List StyledText :=
  [a.heading, plainLine (margin ++ a.purpose true)] ++
    a.defaultNote.flatMap (fun note => [plainLine margin, plainLine (margin ++ note)]) ++
    (if a.choices.isEmpty then []
     else [[], plainLine (margin ++ "Possible values:")] ++ a.choices.map choiceLine)

def paragraphs : List (List StyledText) → List StyledText
  | [] => []
  | [lines] => lines
  | lines :: rest => lines ++ [] :: paragraphs rest

def Section.longLines (s : Section) : List StyledText :=
  paragraphs (s.arguments.map Argument.longLines)

def Section.lines (s : Section) (long : Bool) : List StyledText :=
  [⟨.heading, s!"{s.title}:"⟩] :: if long then s.longLines else s.shortLines

def usageLine : StyledText :=
  [⟨.heading, "Usage:"⟩, .plain " ", ⟨.literal, programName⟩, .plain " [OPTIONS]"]

def helpLines (long : Bool) : List StyledText :=
  paragraphs ([plainLine description, [], usageLine] :: sections.map (·.lines long))

def helpText (long : Bool) (medium : Medium) : String :=
  String.join ((helpLines long).map fun line => line.text medium ++ "\n")

end StepLatency.CommandLine
