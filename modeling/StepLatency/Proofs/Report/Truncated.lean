import Mathlib
import StepLatency.Proofs.Report.TextLines
import StepLatency.Proofs.Session.Persistent
import StepLatency.Proofs.Workload.Delivered

/-!
# Reports that break off

A writer may have room for a part of a report only. Then exactly this part arrives, be it in the
middle of a row or of a character. The rows within it were taken, the next one fails with the error
of the writer, and none is offered after it.
-/

namespace StepLatency

/-! ### Rows around a byte -/

section Recording

variable {σ ε : Type} {sink : Sink σ ε} {state next : σ}

end Recording

/-! ### Rows in parts -/

theorem flatten_map_utf8Bytes (pieces : List String) :
    (pieces.map utf8Bytes).flatten = utf8Bytes (String.join pieces) := by
  induction pieces with
  | nil => rfl
  | cons piece rest ih =>
      rw [List.map_cons, List.flatten_cons, ih, String.join_cons, utf8Bytes_append]

/-- A text sink that offers every row in parts, up to the first that is not taken as a whole, and each
part in as many calls of the device as it takes. -/
def partsSink (extra : List UInt8 → Nat) (cut : Row → List (List UInt8)) :
    Sink Writer SinkError where
  write row w := w.writeParts extra (cut row)
  close w := w.flush

theorem partsSink_eq_textSink {cut : Row → List (List UInt8)}
    (hcut : ∀ row, (cut row).flatten = utf8Bytes row.line) (extra : List UInt8 → Nat) :
    partsSink extra cut = textSink := by
  have hwrite : (partsSink extra cut).write = textSink.write := by
    funext row w
    calc w.writeParts extra (cut row)
        = w.write (utf8Bytes row.line) := by rw [Writer.writeParts_eq_write, hcut]
      _ = w.writeText row.line := by rw [Writer.writeText, toList_toUTF8]
  exact congrArg (fun write => (⟨write, Writer.flush⟩ : Sink Writer SinkError)) hwrite

/-- The pieces in which a row is formatted are such parts. -/
theorem partsSink_pieces (extra : List UInt8 → Nat) :
    partsSink extra (fun row => row.pieces.map utf8Bytes) = textSink := by
  refine partsSink_eq_textSink (fun row => ?_) extra
  rw [flatten_map_utf8Bytes, row.join_pieces]

/-! ### Limited writers -/

namespace Writer.Limited

variable {w : Writer} {room : Nat}

theorem writeText (hw : w.Limited room) (text : String) :
    w.Receives room (utf8Bytes text) (w.writeText text) := by
  rw [Writer.writeText, toList_toUTF8]
  exact hw.write _

theorem writeAll (hw : w.Limited room) (rows : List Row) :
    w.Receives room (utf8Bytes (linesText rows)) (textSink.writeAll rows w) := by
  rw [writeAll_textSink]
  exact hw.writeText _

end Writer.Limited

end StepLatency
