import StepLatency.Json.Record
import StepLatency.Json.Value
import StepLatency.Report.Row

/-!
# Rows and summaries in JSON

Amounts are plain numbers: whole ones stay exact, and any other number is read as a binary64 one.
-/

namespace StepLatency

open Json

def Amount.jsonValue : Amount → Value
  | .whole n => .whole n.toNat
  | .real x => .real x

/-- The amount that a number stands for; a negative whole number is a real amount. -/
def Amount.ofNumber : Number → Amount
  | .natural n => .whole (UInt64.ofNat n)
  | n => .real n.toBinary64

/-- Reads a number; of any other value it says only that it is none, once the value is complete. -/
def Amount.decoder : Decoder Amount := fun room cs =>
  match skipBlanks cs with
  | [] => textFault .truncated
  | c :: rest =>
    if startsNumber c then do
      let (n, rest) ← liftFault (scanNumber (c :: rest))
      return (Amount.ofNumber n, rest)
    else do
      let _ ← liftFault ((Care.strict room).walk (c :: rest))
      mismatch (.noVariant "MetricValue")

def Row.jsonValue (row : Row) : Value :=
  .object [("metric", .text row.group), ("measurement", .text row.label), ("value", row.value.jsonValue)]

structure Row.Draft where
  group : Option String
  label : Option String
  value : Option Amount

def Row.schema : Schema Row.Draft Row where
  type := structType "MetricRow"
  fields :=
    [.of "metric" .string (·.group) fun d s => { d with group := some s },
     .of "measurement" .string (·.label) fun d s => { d with label := some s },
     .of "value" Amount.decoder (·.value) fun d a => { d with value := some a }]
  blank := ⟨none, none, none⟩
  finish d := do
    return ⟨← required "metric" d.group, ← required "measurement" d.label,
      ← required "value" d.value⟩
  listType := structListType "MetricRow" 3
  closedNames := none

def StepStats.jsonValue (s : StepStats) : Value :=
  .object
    [("step", .whole s.step),
     ("operations", .whole s.operations.toNat),
     ("total_latency_us", .whole s.latencySum.toNat),
     ("average_latency_us", .ofOption (s.average.map fun n => .whole n.toNat))]

structure StepStats.Draft where
  step : Option Nat
  operations : Option UInt64
  latencySum : Option UInt64
  average : Option (Option UInt64)

def StepStats.schema : Schema StepStats.Draft StepStats where
  type := structType "StepStats"
  fields :=
    [.of "step" .size (·.step) fun d n => { d with step := some n },
     .of "operations" .word (·.operations) fun d n => { d with operations := some n },
     .of "total_latency_us" .word (·.latencySum) fun d n => { d with latencySum := some n },
     .of "average_latency_us" (.optional .word) (·.average) fun d n => { d with average := some n }]
  blank := ⟨none, none, none, none⟩
  finish d := do
    return ⟨← required "step" d.step, ← required "operations" d.operations,
      ← required "total_latency_us" d.latencySum, d.average.getD none⟩
  listType := structListType "StepStats" 4
  closedNames := none

def Summary.jsonValue (s : Summary) : Value :=
  .object
    [("name", .text s.operation),
     ("steps", .list (s.steps.map StepStats.jsonValue)),
     ("invalid_samples", .whole s.invalidSamples.toNat),
     ("pacing_samples", .whole s.pacingSamples.toNat),
     ("average_pacing_delay_us", .ofOption (s.averagePacing.map .real))]

structure Summary.Draft where
  operation : Option String
  steps : Option (List StepStats)
  invalidSamples : Option UInt64
  pacingSamples : Option UInt64
  averagePacing : Option (Option Binary64)

def Summary.schema : Schema Summary.Draft Summary where
  type := structType "StepSummary"
  fields :=
    [.of "name" .string (·.operation) fun d s => { d with operation := some s },
     .of "steps" (.list StepStats.schema.decoder) (·.steps) fun d s => { d with steps := some s },
     .of "invalid_samples" .word (·.invalidSamples) fun d n => { d with invalidSamples := some n },
     .of "pacing_samples" .word (·.pacingSamples) fun d n => { d with pacingSamples := some n },
     .of "average_pacing_delay_us" (.optional .binary64) (·.averagePacing)
       fun d x => { d with averagePacing := some x }]
  blank := ⟨none, none, none, none, none⟩
  finish d := do
    return ⟨← required "name" d.operation, ← required "steps" d.steps,
      ← required "invalid_samples" d.invalidSamples, ← required "pacing_samples" d.pacingSamples,
      d.averagePacing.getD none⟩
  listType := structListType "StepSummary" 5
  closedNames := none

end StepLatency
