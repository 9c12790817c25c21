import StepLatency.Report.Sink
import StepLatency.Report.Writer

/-!
# Text reports

One line for every row, written as the row arrives.
-/

namespace StepLatency

def Row.line (row : Row) : String := s!"[{row.group}], {row.label}, {row.value.text}\n"

theorem Row.join_pieces (row : Row) : String.join row.pieces = row.line := by
  simp [Row.pieces, Row.line, String.join_append, row.value.join_pieces, String.append_assoc,
    toString]

def textSink : Sink Writer SinkError where
  write row w := w.writeText row.line
  close w := w.flush

end StepLatency
