import StepLatency.Codec.Measurement
import StepLatency.Report.Document
import StepLatency.Report.Format
import StepLatency.Timestamp.Reader

/-!
# Report documents in JSON
-/

namespace StepLatency

open Json

def ExportFormat.jsonValue (f : ExportFormat) : Value := .text f.title

def ExportFormat.decoder : Decoder ExportFormat :=
  .variant (ExportFormat.all.map fun f => (f.title, f)) "`Text` or `Json`"

def Timestamp.jsonValue (t : Timestamp) : Value := .text t.text

def Timestamp.decoder : Decoder Timestamp :=
  .parsed "an RFC 3339 formatted date and time string" fun s =>
    (Timestamp.read s.toList).mapError .timestamp

def ReportMetadata.jsonValue (m : ReportMetadata) : Value :=
  .object
    [("version", .text m.version),
     ("run_id", .text m.runId),
     ("timestamp", m.timestamp.jsonValue),
     ("cpu_cores", .whole m.cpuCores)]

structure ReportMetadata.Draft where
  version : Option String
  runId : Option String
  timestamp : Option Timestamp
  cpuCores : Option Nat

def ReportMetadata.schema : Schema ReportMetadata.Draft ReportMetadata where
  type := structType "ReportMetadata"
  fields :=
    [.of "version" .string (·.version) fun d s => { d with version := some s },
     .of "run_id" .string (·.runId) fun d s => { d with runId := some s },
     .of "timestamp" Timestamp.decoder (·.timestamp) fun d t => { d with timestamp := some t },
     .of "cpu_cores" .size (·.cpuCores) fun d n => { d with cpuCores := some n }]
  blank := ⟨none, none, none, none⟩
  finish d := do
    return ⟨← required "version" d.version, ← required "run_id" d.runId,
      ← required "timestamp" d.timestamp, ← required "cpu_cores" d.cpuCores⟩
  listType := structListType "ReportMetadata" 4
  closedNames := none

def ReportDocument.jsonValue (r : ReportDocument) : Value :=
  .object [("metadata", r.metadata.jsonValue), ("measurements", .list (r.measurements.map Row.jsonValue))]

structure ReportDocument.Draft where
  metadata : Option ReportMetadata
  measurements : Option (List Row)

def ReportDocument.schema : Schema ReportDocument.Draft ReportDocument where
  type := structType "JsonReport"
  fields :=
    [.of "metadata" ReportMetadata.schema.decoder (·.metadata)
       fun d m => { d with metadata := some m },
     .of "measurements" (.list Row.schema.decoder) (·.measurements)
       fun d rows => { d with measurements := some rows }]
  blank := ⟨none, none⟩
  finish d := do
    return ⟨← required "metadata" d.metadata, ← required "measurements" d.measurements⟩
  listType := structListType "JsonReport" 2
  closedNames := none

end StepLatency
