import StepLatency.Codec.Document
import StepLatency.Report.Sink
import StepLatency.Report.Writer

/-!
# JSON reports

Rows are kept until the sink is closed, and are then written as one document and a line break. A
close that fails has let go of the rows, and the sink stays open.
-/

namespace StepLatency

structure JsonSink where
  writer : Writer
  runId : String
  rows : Array Row
  closed : Bool

namespace JsonSink

def create (writer : Writer) (runId : String) : JsonSink := ⟨writer, runId, #[], false⟩

/-- The text of a document: the value over several lines, and a line break. -/
def documentText (setting : Setting) (runId : String) (rows : List Row) : String :=
  (ReportDocument.current setting runId rows).jsonValue.prettyText ++ "\n"

def write (row : Row) (s : JsonSink) : Except SinkError Unit × JsonSink :=
  if s.closed then (.error .alreadyWritten, s) else (.ok (), { s with rows := s.rows.push row })

def close (setting : Setting) (s : JsonSink) : Except SinkError Unit × JsonSink :=
  if s.closed then (.ok (), s)
  else
    let released := { s with rows := #[] }
    match s.writer.writeText (documentText setting s.runId s.rows.toList) with
    | (.error e, writer) => (.error e, { released with writer })
    | (.ok (), writer) =>
      match writer.flush with
      | (.error e, writer) => (.error e, { released with writer })
      | (.ok (), writer) => (.ok (), { released with writer, closed := true })

end JsonSink

def jsonSink (setting : Setting) : Sink JsonSink SinkError where
  write := JsonSink.write
  close := JsonSink.close setting

end StepLatency
