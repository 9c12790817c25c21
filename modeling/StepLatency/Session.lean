import StepLatency.Report.Sink

/-!
# Sessions

A session is a sequence of requests to a store. Every request has one reply, and one that is refused
leaves the store as it was.
-/

namespace StepLatency

/-- A request; where a handle may be missing, the registry is meant. -/
inductive Request
  | register (name : String) (stepCount : Nat)
  | lookup (name : String)
  | create (name : String) (stepCount : Nat)
  | share (name : String) (stepCount : Nat) (source : Option Handle)
  | record (handle : Handle) (latency : Int) (step : Nat)
  | recordByName (name : String) (latency : Int) (step : Nat)
  | pace (target : Option Handle) (delay : UInt64)
  | reset (target : Option Handle)
  | summarize (target : Option Handle)
  | rows (target : Option Handle)
deriving DecidableEq

inductive Reply
  | handle (handle : Handle)
  | unknown
  | done
  | refused (cause : MeasurementError)
  | summaries (summaries : List Summary)
  | rows (rows : List Row)
deriving DecidableEq

namespace Reply

/-- The reply to a request by its result; `reply` says what a result that is no error comes to. -/
def ofResult {α : Type} (reply : α → Reply) : Except MeasurementError α → Reply
  | .ok a => reply a
  | .error cause => .refused cause

theorem ofResult_eq_refused {α : Type} {reply : α → Reply}
    (hreply : ∀ a cause, reply a ≠ .refused cause) {result : Except MeasurementError α}
    {cause : MeasurementError} (h : ofResult reply result = .refused cause) :
    result = .error cause := by
  cases result with
  | ok a => exact absurd h (hreply a cause)
  | error other => exact congrArg Except.error (refused.inj h)

end Reply

namespace Store

def answer (s : Store) : Request → Reply × Store
  | .register name stepCount => (s.register name stepCount).map (Reply.ofResult .handle) id
  | .lookup name =>
    match s.lookup name with
    | some h => (.handle h, s)
    | none => (.unknown, s)
  | .create name stepCount => (s.create name stepCount).map (Reply.ofResult .handle) id
  | .share name stepCount source => (s.share name stepCount source).map (Reply.ofResult .handle) id
  | .record h latency step => (s.record h latency step).map (Reply.ofResult fun () => .done) id
  | .recordByName name latency step =>
    (s.recordByName name latency step).map (Reply.ofResult fun () => .done) id
  | .pace target delay => (.done, s.pace (s.trackerOf target) delay)
  | .reset target => (.done, s.resetPacing (s.trackerOf target))
  | .summarize target => (.summaries (s.summariesOf target), s)
  | .rows target => (.rows (s.rowsOf target), s)

def answerAll (s : Store) : List Request → List Reply × Store
  | [] => ([], s)
  | request :: rest =>
    let (reply, s) := s.answer request
    let (replies, s) := s.answerAll rest
    (reply :: replies, s)

/-- A request that is refused changes nothing. -/
theorem answer_of_refused {s : Store} {request : Request} {cause : MeasurementError}
    (h : (s.answer request).1 = .refused cause) : (s.answer request).2 = s := by
  cases request with
  | register name stepCount => exact register_of_refused (Reply.ofResult_eq_refused nofun h)
  | lookup name =>
    simp only [answer]
    split <;> rfl
  | create name stepCount => exact create_of_refused (Reply.ofResult_eq_refused nofun h)
  | share name stepCount source => exact share_of_refused (Reply.ofResult_eq_refused nofun h)
  | record handle latency step => exact record_of_refused (Reply.ofResult_eq_refused nofun h)
  | recordByName name latency step =>
    exact recordByName_of_refused (Reply.ofResult_eq_refused nofun h)
  | pace target delay => simp [answer] at h
  | reset target => simp [answer] at h
  | summarize target => rfl
  | rows target => rfl

end Store

end StepLatency
