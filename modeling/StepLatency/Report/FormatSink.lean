import StepLatency.Report.Format
import StepLatency.Report.JsonSink
import StepLatency.Report.TextSink

/-!
# Sinks of a chosen format
-/

namespace StepLatency

inductive FormatSink
  | text (writer : Writer)
  | json (sink : JsonSink)

namespace FormatSink

def create (format : ExportFormat) (runId : String) (writer : Writer) : FormatSink :=
  match format with
  | .text => .text writer
  | .json => .json (.create writer runId)

def writer : FormatSink → Writer
  | .text writer => writer
  | .json sink => sink.writer

end FormatSink

def formatSink (setting : Setting) : Sink FormatSink SinkError where
  write row
    | .text writer => let (result, writer) := textSink.write row writer; (result, .text writer)
    | .json sink => let (result, sink) := (jsonSink setting).write row sink; (result, .json sink)
  close
    | .text writer => let (result, writer) := textSink.close writer; (result, .text writer)
    | .json sink => let (result, sink) := (jsonSink setting).close sink; (result, .json sink)

end StepLatency
