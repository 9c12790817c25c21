import StepLatency.CommandLine.Help
import StepLatency.CommandLine.Reader
import StepLatency.CommandLine.SettingsText
import StepLatency.Console.SummaryTable
import StepLatency.Log.Filter
import StepLatency.Random.Draw
import StepLatency.Report.FormatSink
import StepLatency.Workload.Run

/-!
# The program

What the program writes, as a function of its command line and its surroundings. It goes in two
parts: the launch, which ends with a configuration or with the program, and the completion, which is
given what was measured meanwhile. Between the two the output file is created.
-/

namespace StepLatency.Program

open CommandLine

structure Surroundings where
  /-- The directives for the log, if there are any. -/
  logFilter : Option String
  inColor : Bool
  cpuCores : Nat
  /-- The seed of a run that is given none. -/
  randomSeed : UInt64

inductive Emission
  | errorLine (line : String)
  | output (bytes : List UInt8)
  /-- A part of the report for the output file. -/
  | file (bytes : List UInt8)
deriving DecidableEq

structure Transcript where
  exitCode : Nat
  emissions : List Emission

structure Launch where
  settings : Settings
  config : Config
  filter : Log.Filter
  inColor : Bool
  /-- What has been logged so far. -/
  logged : List String

def output (text : String) : Emission := .output text.toUTF8.toList

def rightAligned (width : Nat) (text : String) : String :=
  String.ofList (List.replicate (width - text.length) ' ') ++ text

/-- A cause under an error, its further lines indented like its first. A number stands before it
where there are several. -/
def causeText (number : Option Nat) (cause : String) : String :=
  let (start, indent) := match number with
    | some n => (rightAligned 5 (toString n) ++ ": ", "       ")
    | none => ("    ", "    ")
  start ++ String.intercalate ("\n" ++ indent) (cause.splitOn "\n")

def errorText : List String → String
  | [] => "Error: "
  | [error] => s!"Error: {error}"
  | [error, cause] => s!"Error: {error}\n\nCaused by:\n{causeText none cause}"
  | error :: causes =>
    let texts := causes.mapIdx fun n cause => causeText (some n) cause
    s!"Error: {error}\n\nCaused by:\n" ++ String.intercalate "\n" texts

def errorLines (lines : List String) : List Emission := lines.map .errorLine

def failed (before : List Emission) (chain : List String) : Transcript :=
  ⟨1, before ++ errorLines ((errorText chain).splitOn "\n")⟩

def interrupted (inColor : Bool) (interruption : Interruption) : Transcript :=
  let medium := if inColor then .colors else .stream
  match interruption with
  | .usage error => ⟨2, [.errorLine (error.text medium)]⟩
  | .help long => ⟨0, [output (helpText long medium)]⟩
  | .version => ⟨0, [output versionText]⟩

def event (level : Log.Level) (message : String) : Log.Event := ⟨level, .program, message, none⟩

def launch (surroundings : Surroundings) (words : List String) : Except Transcript Launch :=
  match CommandLine.read words with
  | .error interruption => .error (interrupted surroundings.inColor interruption)
  | .ok settings =>
    let filter := Log.Filter.choose surroundings.logFilter (if settings.verbose then .debug else .info)
    let logged := Log.lines filter surroundings.inColor
      [event .info s!"Starting multi-step benchmark v{version}",
       event .info s!"Configuration: {settings.text}"]
    let config :=
      settings.config (recommendedThreads surroundings.cpuCores) surroundings.randomSeed
    match config.validate with
    | .error fault => .error (failed (errorLines logged) [fault.message])
    | .ok () => .ok ⟨settings, config, filter, surroundings.inColor, logged⟩

def notCreated (l : Launch) (path cause : String) : Transcript :=
  failed (errorLines l.logged) [s!"Failed to create {Text.quoted path}", cause]

def progressEvent (note : Progress) : Log.Event :=
  let (level, topic) : Log.Level × Log.Topic := match note with
    | .registered _ _ => (.debug, .registry)
    | .started _ _ _ _ _ => (.info, .workload)
    | .workerCompleted _ _ => (.debug, .workload)
    | .workersFinished _ _ => (.info, .workload)
    | .negativeSamples _ _ => (.warn, .workload)
    | .exporting _ => (.info, .registry)
    | .noPacing _ => (.debug, .measurement)
  ⟨level, topic, note.message, none⟩

def documentEvents (format : ExportFormat) (rows : Nat) : List Log.Event :=
  match format with
  | .text => []
  | .json => [⟨.debug, .exporter, s!"Wrote JSON report with {rows} rows", none⟩]

def Launch.log (l : Launch) (events : List Log.Event) : List Emission :=
  errorLines (Log.lines l.filter l.inColor events)

def Launch.report (l : Launch) (bytes : List UInt8) : List Emission :=
  if bytes.isEmpty then []
  else [if l.settings.outputFile.isSome then .file bytes else .output bytes]

/-- The pieces in which the report is written when a row comes; a document is written as a whole when
the sink is closed. -/
def reportPieces (format : ExportFormat) (row : Row) : List String :=
  match format with
  | .text => row.pieces
  | .json => []

/-- What is written in the course of a run. Notes are written at once, the report whenever its buffer
passes something on; `held` is the number of bytes in the buffer, which `rest` begins with. -/
def Launch.follow (l : Launch) (held : Nat) (rest : List UInt8) : List RunStep → List Emission
  | [] => []
  | .note note :: steps => l.log [progressEvent note] ++ l.follow held rest steps
  | .row row :: steps =>
    let (sent, held) := bufferedAll held (reportPieces l.settings.format row)
    l.report (rest.take sent) ++ l.follow held (rest.drop sent) steps
  | .close :: steps => l.report rest ++ l.follow 0 [] steps

/-- Runs the workload, gives the report to a writer and tells of the result. -/
def complete (l : Launch) (setting : Setting) (o : Occasion) (writer : Writer) : Transcript :=
  let sink := FormatSink.create l.settings.format o.runId writer
  let outcome := l.config.run Random.keystreamGenerator o (formatSink setting) sink
  let before :=
    errorLines l.logged ++ l.follow 0 outcome.sink.writer.written.toList outcome.trace
  match outcome.result with
  | .error failure =>
    let chain := failure.chain SinkError.message
    let message := "Benchmark run failed: " ++ String.intercalate ": " chain
    failed (before ++ l.log [event .error message]) chain
  | .ok r =>
    let written := l.log (documentEvents l.settings.format (r.summaries.flatMap (·.rows)).length)
    let closing := match l.settings.outputFile with
      | some path => l.log [event .info s!"Report written to: {Text.quoted path}"]
      | none => []
    ⟨0, before ++ written ++ errorLines (Console.summaryLines r) ++ closing⟩

end StepLatency.Program
