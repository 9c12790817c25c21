import StepLatency.Measurement.Store
import StepLatency.Report.Row

/-!
# Sinks

A sink takes rows one by one and is closed at the end of a report. It is a state machine that may
answer any call with an error of its own. Rows are offered in order, up to the first that fails.
-/

namespace StepLatency

structure Sink (σ ε : Type) where
  write : Row → σ → Except ε Unit × σ
  close : σ → Except ε Unit × σ

variable {σ ε : Type}

def Sink.writeAll (sink : Sink σ ε) : List Row → σ → Except ε Unit × σ
  | [], state => (.ok (), state)
  | row :: rest, state =>
    match sink.write row state with
    | (.ok (), state) => sink.writeAll rest state
    | (.error e, state) => (.error e, state)

/-- The rows that a sink takes of those offered. -/
def Sink.taken (sink : Sink σ ε) : List Row → σ → List Row
  | [], _ => []
  | row :: rest, state =>
    match sink.write row state with
    | (.ok (), state) => row :: sink.taken rest state
    | (.error _, _) => []

theorem Sink.writeAll_append (sink : Sink σ ε) (first second : List Row) (state : σ) :
    sink.writeAll (first ++ second) state =
      match sink.writeAll first state with
      | (.ok (), state) => sink.writeAll second state
      | (.error e, state) => (.error e, state) := by
  induction first generalizing state with
  | nil => rfl
  | cons row rest ih =>
    rcases h : sink.write row state with ⟨_ | _, state'⟩
    · simp [Sink.writeAll, h]
    · simp [Sink.writeAll, h, ih]

namespace Store

def rowsOf (s : Store) (target : Option Handle) : List Row := (s.summariesOf target).flatMap (·.rows)

/-- Takes a summary of one aggregator and offers its rows to a sink. -/
def exportKind (s : Store) (sink : Sink σ ε) (h : Handle) (state : σ) : Except ε Unit × σ :=
  match s.summary? h with
  | some summary => sink.writeAll summary.rows state
  | none => (.ok (), state)

def exportKinds (s : Store) (sink : Sink σ ε) : List Handle → σ → Except ε Unit × σ
  | [], state => (.ok (), state)
  | h :: rest, state =>
    match s.exportKind sink h state with
    | (.ok (), state) => s.exportKinds sink rest state
    | (.error e, state) => (.error e, state)

/-- Exports one aggregator, or the whole registry in the order of its names. -/
def exportTo (s : Store) (target : Option Handle) (sink : Sink σ ε) (state : σ) :
    Except ε Unit × σ :=
  match target with
  | some h => s.exportKind sink h state
  | none => s.exportKinds sink (s.entries.map (·.2)) state

/-- An aggregator is exported by writing the rows of its summary. -/
theorem exportKind_eq_writeAll (s : Store) (sink : Sink σ ε) (h : Handle) (state : σ) :
    s.exportKind sink h state = sink.writeAll ((s.summary? h).toList.flatMap (·.rows)) state := by
  unfold exportKind
  cases s.summary? h with
  | none => rfl
  | some summary => simp

theorem exportKinds_eq_writeAll (s : Store) (sink : Sink σ ε) (handles : List Handle) (state : σ) :
    s.exportKinds sink handles state =
      sink.writeAll ((handles.filterMap s.summary?).flatMap (·.rows)) state := by
  induction handles generalizing state with
  | nil => rfl
  | cons h rest ih =>
    have hrows : ((h :: rest).filterMap s.summary?).flatMap (·.rows) =
        (s.summary? h).toList.flatMap (·.rows) ++
          (rest.filterMap s.summary?).flatMap (·.rows) := by
      cases hs : s.summary? h <;> simp [hs]
    rw [exportKinds, exportKind_eq_writeAll, hrows, Sink.writeAll_append]
    simp only [ih]

/-- Exporting kind by kind offers the rows of all summaries in one go. -/
theorem exportTo_eq_writeAll (s : Store) (target : Option Handle) (sink : Sink σ ε) (state : σ) :
    s.exportTo target sink state = sink.writeAll (s.rowsOf target) state := by
  cases target with
  | some h => exact s.exportKind_eq_writeAll sink h state
  | none =>
    have hsummaries : (s.entries.map (·.2)).filterMap s.summary? = s.summaries := by
      rw [List.filterMap_map]
      rfl
    rw [exportTo, exportKinds_eq_writeAll, hsummaries]
    rfl

end Store

end StepLatency
