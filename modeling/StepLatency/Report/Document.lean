import StepLatency.Report.Row
import StepLatency.Timestamp.Basic

/-!
# Report documents

All rows of a report, with the program version, the run, and the machine and moment of writing.
-/

namespace StepLatency

def version : String := "0.2.0"

/-- The moment and the machine at which a document is written. -/
structure Setting where
  timestamp : Timestamp
  cpuCores : Nat
deriving DecidableEq

structure ReportMetadata where
  version : String
  runId : String
  timestamp : Timestamp
  cpuCores : Nat
deriving DecidableEq

structure ReportDocument where
  metadata : ReportMetadata
  measurements : List Row
deriving DecidableEq

def ReportDocument.current (setting : Setting) (runId : String) (rows : List Row) : ReportDocument :=
  ⟨⟨StepLatency.version, runId, setting.timestamp, setting.cpuCores⟩, rows⟩

end StepLatency
