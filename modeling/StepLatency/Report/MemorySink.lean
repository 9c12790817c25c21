import StepLatency.Report.Sink
import StepLatency.Report.Writer

/-!
# Rows in memory

A sink that keeps its rows for inspection. A look-up finds the first row with the group and label.
The sink can be made to fail at one of its writes or at its close.
-/

namespace StepLatency

structure MemorySink where
  rows : Array Row
  /-- The number of the write, counted from zero, that fails. -/
  failingWrite : Option Nat
  failingClose : Bool
  closed : Bool
deriving DecidableEq

namespace MemorySink

def empty : MemorySink := ⟨#[], none, false, false⟩

def value? (m : MemorySink) (group label : String) : Option Amount :=
  (m.rows.toList.find? fun row => row.group == group && row.label == label).map (·.value)

def group (m : MemorySink) (group : String) : List Row :=
  m.rows.toList.filter fun row => row.group == group

/-- The write that fails keeps failing, since no row is added by it. -/
def sink : Sink MemorySink SinkError where
  write row m :=
    if m.failingWrite = some m.rows.size then (.error .sinkClosed, m)
    else (.ok (), { m with rows := m.rows.push row })
  close m := if m.failingClose then (.error .closeFailed, m) else (.ok (), { m with closed := true })

end MemorySink

end StepLatency
