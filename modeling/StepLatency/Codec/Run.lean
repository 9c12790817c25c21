import StepLatency.Codec.Measurement
import StepLatency.Report.RunReport
import StepLatency.Workload.Operation

/-!
# Run reports and operation declarations in JSON

A duration is an object of two fields and admits no others.
-/

namespace StepLatency

open Json

def OperationSpec.jsonValue (o : OperationSpec) : Value :=
  .object [("name", .text o.name), ("steps", .whole o.steps)]

structure OperationSpec.Draft where
  name : Option String
  steps : Option Nat

def OperationSpec.schema : Schema OperationSpec.Draft OperationSpec where
  type := structType "OperationSpec"
  fields :=
    [.of "name" .string (·.name) fun d s => { d with name := some s },
     .of "steps" .size (·.steps) fun d n => { d with steps := some n }]
  blank := ⟨none, none⟩
  finish d := do return ⟨← required "name" d.name, ← required "steps" d.steps⟩
  listType := structListType "OperationSpec" 2
  closedNames := none

def Duration.jsonValue (d : Duration) : Value :=
  .object [("secs", .whole d.seconds.toNat), ("nanos", .whole d.subsecondNanos)]

structure Duration.Draft where
  seconds : Option UInt64
  nanos : Option Nat

def Duration.schema : Schema Duration.Draft Duration where
  type := structType "Duration"
  fields :=
    [.of "secs" .word (·.seconds) fun d n => { d with seconds := some n },
     .of "nanos" .halfWord (·.nanos) fun d n => { d with nanos := some n }]
  blank := ⟨none, none⟩
  finish d := do
    match Duration.ofParts? (← required "secs" d.seconds) (← required "nanos" d.nanos) with
    | some duration => return duration
    | none => throw .durationOverflow
  listType := structType "Duration"
  closedNames := some "`secs` or `nanos`"

def RunReport.jsonValue (r : RunReport) : Value :=
  .object
    [("run_id", .text r.runId),
     ("elapsed", r.elapsed.jsonValue),
     ("total_operations", .whole r.totalOperations.toNat),
     ("pacing_samples", .whole r.pacingSamples.toNat),
     ("summaries", .list (r.summaries.map Summary.jsonValue))]

structure RunReport.Draft where
  runId : Option String
  elapsed : Option Duration
  totalOperations : Option UInt64
  pacingSamples : Option UInt64
  summaries : Option (List Summary)

def RunReport.schema : Schema RunReport.Draft RunReport where
  type := structType "RunReport"
  fields :=
    [.of "run_id" .string (·.runId) fun d s => { d with runId := some s },
     .of "elapsed" Duration.schema.decoder (·.elapsed) fun d e => { d with elapsed := some e },
     .of "total_operations" .word (·.totalOperations)
       fun d n => { d with totalOperations := some n },
     .of "pacing_samples" .word (·.pacingSamples) fun d n => { d with pacingSamples := some n },
     .of "summaries" (.list Summary.schema.decoder) (·.summaries)
       fun d s => { d with summaries := some s }]
  blank := ⟨none, none, none, none, none⟩
  finish d := do
    return ⟨← required "run_id" d.runId, ← required "elapsed" d.elapsed,
      ← required "total_operations" d.totalOperations, ← required "pacing_samples" d.pacingSamples,
      ← required "summaries" d.summaries⟩
  listType := structListType "RunReport" 5
  closedNames := none

end StepLatency
