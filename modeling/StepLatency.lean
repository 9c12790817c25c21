import StepLatency.Codec.Run
import StepLatency.Main
import StepLatency.Proofs.Console.LatencyText
import StepLatency.Proofs.Console.TableGeometry
import StepLatency.Proofs.Measurement.InFlight
import StepLatency.Proofs.Report.JsonFailedClose
import StepLatency.Proofs.Report.Truncated
import StepLatency.Proofs.Session.LookedUp
import StepLatency.Proofs.Session.Refused
import StepLatency.Proofs.Session.Shared
import StepLatency.Proofs.Session.StepMean
import StepLatency.Proofs.Workload.Conserved
import StepLatency.Proofs.Workload.DeclarationText
import StepLatency.Proofs.Workload.Declared
import StepLatency.Proofs.Workload.Printed
import StepLatency.Proofs.Workload.Replayed
import StepLatency.Proofs.Workload.Restored
import StepLatency.Proofs.Workload.Unfailing
