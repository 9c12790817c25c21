import StepLatency.Console.Micros
import StepLatency.Console.Table
import StepLatency.Report.RunReport

/-!
# The table of a run

One row for every step of every operation kind, then a line on the run as a whole.
-/

namespace StepLatency.Console

def summaryWidths : List Nat := [16, 6, 12, 14]

def summaryHeadings : List String := ["Operation", "Step", "Operations", "Avg latency"]

/-- The rows of the summary are within the limit of widths. -/
theorem tableRow?_summaryWidths (columns : List String) :
    tableRow? columns summaryWidths = some (tableRow columns summaryWidths) :=
  tableRow?_eq_some (by decide) columns

def averageText (stats : StepStats) : String := (stats.average.map microsText).getD "-"

def stepLine (s : Summary) (stats : StepStats) : String :=
  tableRow [s.operation, toString stats.step, toString stats.operations.toNat, averageText stats]
    summaryWidths

def runLine (r : RunReport) : String :=
  s!"Run {r.runId}: {r.totalOperations.toNat} operations in {microsText r.elapsed.micros}"

def summaryLines (r : RunReport) : List String :=
  let separator := tableSeparator summaryWidths
  [separator, tableRow summaryHeadings summaryWidths, separator] ++
    r.summaries.flatMap (fun s => s.steps.map (stepLine s)) ++ [separator, runLine r]

end StepLatency.Console
