import Mathlib
import StepLatency.Proofs.Workload.Completed
import StepLatency.Random.Draw
import StepLatency.Report.MemorySink

/-!
# How a report is delivered

A run calls its sink only once all workers are done. It then offers the rows one after the other, up
to the first that is refused, and closes the sink if none was. What it hands back is decided by the
answers alone. To see the calls, a sink is replaced by one that answers alike and keeps a record.
-/

namespace StepLatency

variable {σ ε : Type}

inductive SinkCall
  | write (row : Row)
  | close
deriving DecidableEq

abbrev AnsweredCall (ε : Type) := SinkCall × Except ε Unit

/-- The sink answers as before, and keeps every call with its answer. -/
def Sink.recorded (sink : Sink σ ε) : Sink (σ × List (AnsweredCall ε)) ε where
  write row := fun (state, calls) =>
    let (answer, state) := sink.write row state
    (answer, state, calls ++ [(.write row, answer)])
  close := fun (state, calls) =>
    let (answer, state) := sink.close state
    (answer, state, calls ++ [(.close, answer)])

def SinkCall.failure : SinkCall → ε → RunFailure ε
  | .write _, cause => .exporting cause
  | .close, cause => .closing cause

/-- The calls of a sink that takes all rows. -/
def takenCalls (ε : Type) (rows : List Row) : List (AnsweredCall ε) :=
  rows.map fun row => (.write row, .ok ())

def takenRows (calls : List (AnsweredCall ε)) : List Row :=
  calls.filterMap fun
    | (.write row, .ok ()) => some row
    | _ => none

/-- The ways in which rows are delivered, with the result and the calls of each. -/
inductive Delivery (rows : List Row) :
    Except (RunFailure ε) Unit → List (AnsweredCall ε) → Prop
  | refused {taken rest : List Row} {row : Row} (cause : ε) (h : rows = taken ++ row :: rest) :
      Delivery rows (.error (.exporting cause)) (takenCalls ε taken ++ [(.write row, .error cause)])
  | notClosed (cause : ε) :
      Delivery rows (.error (.closing cause)) (takenCalls ε rows ++ [(.close, .error cause)])
  | closed : Delivery rows (.ok ()) (takenCalls ε rows ++ [(.close, .ok ())])

/-! ### Delivering rows -/

section Recording

variable (sink : Sink σ ε)

theorem Sink.write_recorded {row : Row} {state next : σ} {answer : Except ε Unit}
    (h : sink.write row state = (answer, next)) (calls : List (AnsweredCall ε)) :
    sink.recorded.write row (state, calls) = (answer, next, calls ++ [(.write row, answer)]) := by
  simp only [recorded, h]

theorem Sink.close_recorded {state next : σ} {answer : Except ε Unit}
    (h : sink.close state = (answer, next)) (calls : List (AnsweredCall ε)) :
    sink.recorded.close (state, calls) = (answer, next, calls ++ [(.close, answer)]) := by
  simp only [recorded, h]

/-- Rows are written up to the first that is refused, and the record shows it. -/
theorem Sink.writeAll_recorded (rows : List Row) (state : σ) (calls : List (AnsweredCall ε)) :
    (∃ next, sink.writeAll rows state = (.ok (), next) ∧
      sink.recorded.writeAll rows (state, calls) = (.ok (), next, calls ++ takenCalls ε rows)) ∨
    ∃ taken row rest cause next, rows = taken ++ row :: rest ∧
      sink.writeAll rows state = (.error cause, next) ∧
      sink.recorded.writeAll rows (state, calls) =
        (.error cause, next, calls ++ (takenCalls ε taken ++ [(.write row, .error cause)])) := by
  induction rows generalizing state calls with
  | nil => exact .inl ⟨state, rfl, by simp [writeAll, takenCalls]⟩
  | cons row rest ih =>
      rcases hwrite : sink.write row state with ⟨cause | _, next⟩
      · have hrecorded := sink.write_recorded hwrite calls
        refine .inr ⟨[], row, rest, cause, next, rfl, ?_, ?_⟩
        · rw [writeAll, hwrite]
        · rw [writeAll, hrecorded]
          rfl
      · have hrecorded := sink.write_recorded hwrite calls
        have hfirst : sink.writeAll (row :: rest) state = sink.writeAll rest next := by
          rw [writeAll, hwrite]
        have hrest : sink.recorded.writeAll (row :: rest) (state, calls) =
            sink.recorded.writeAll rest (next, calls ++ takenCalls ε [row]) := by
          rw [writeAll, hrecorded]
          rfl
        have hjoin (more : List Row) :
            takenCalls ε [row] ++ takenCalls ε more = takenCalls ε (row :: more) := rfl
        rw [hfirst, hrest]
        rcases ih next (calls ++ takenCalls ε [row]) with
          ⟨last, hplain, hkept⟩ | ⟨taken, other, later, cause, last, rfl, hplain, hkept⟩
        · refine .inl ⟨last, hplain, ?_⟩
          rw [hkept, List.append_assoc, hjoin]
        · refine .inr ⟨row :: taken, other, later, cause, last, rfl, hplain, ?_⟩
          rw [hkept, List.append_assoc, ← List.append_assoc (takenCalls ε [row]), hjoin]

/-- Whatever a sink answers, the rows are delivered in one of the ways. -/
theorem Sink.finish_recorded (rows : List Row) (state : σ) :
    ∃ result next calls, sink.finish rows state = (result, next) ∧
      sink.recorded.finish rows (state, []) = (result, next, calls) ∧
      Delivery rows result calls := by
  rcases sink.writeAll_recorded rows state [] with
    ⟨next, hplain, hkept⟩ | ⟨taken, row, rest, cause, next, hrows, hplain, hkept⟩
  · rcases hclose : sink.close next with ⟨cause | _, last⟩
    · refine ⟨_, last, _, ?_, ?_, .notClosed cause⟩
      · simp only [finish, hplain, hclose]
      · simp only [finish, hkept, sink.close_recorded hclose, List.nil_append]
    · refine ⟨_, last, _, ?_, ?_, .closed⟩
      · simp only [finish, hplain, hclose]
      · simp only [finish, hkept, sink.close_recorded hclose, List.nil_append]
  · refine ⟨_, next, _, ?_, ?_, .refused cause hrows⟩
    · simp only [finish, hplain]
    · simp only [finish, hkept, List.nil_append]

end Recording

/-! ### What a delivery says -/

theorem takenRows_takenCalls (rows : List Row) : takenRows (takenCalls ε rows) = rows := by
  induction rows with
  | nil => rfl
  | cons row rest ih => exact congrArg (row :: ·) ih

theorem not_mem_takenCalls_of_error {rows : List Row} {call : SinkCall} {cause : ε} :
    (call, Except.error cause) ∉ takenCalls ε rows := by
  simp [takenCalls]

namespace Delivery

variable {rows : List Row} {result : Except (RunFailure ε) Unit} {calls : List (AnsweredCall ε)}

/-- A delivery succeeds just if every row is taken and the sink closes. -/
theorem ok_iff (h : Delivery rows result calls) :
    result = .ok () ↔ calls = takenCalls ε rows ++ [(.close, .ok ())] := by
  cases h with
  | refused cause hrows =>
      simp only [reduceCtorEq, false_iff]
      intro heq
      have hlast := (List.append_inj' heq rfl).2
      simp at hlast
  | notClosed cause => simp
  | closed => simp

theorem takenRows_eq (h : Delivery rows (.ok ()) calls) : takenRows calls = rows := by
  rw [h.ok_iff.1 rfl, takenRows, List.filterMap_append]
  exact (List.append_nil _).trans (takenRows_takenCalls rows)

/-- The answer that ends a delivery is the cause of the failure. -/
theorem eq_failure (h : Delivery rows result calls) {call : SinkCall} {cause : ε}
    (hmem : (call, Except.error cause) ∈ calls) : result = .error (call.failure cause) := by
  cases h with
  | refused other hrows =>
      rcases List.mem_append.1 hmem with hbefore | hlast
      · exact absurd hbefore not_mem_takenCalls_of_error
      · simp only [List.mem_singleton, Prod.mk.injEq, Except.error.injEq] at hlast
        rw [hlast.1, hlast.2, SinkCall.failure]
  | notClosed other =>
      rcases List.mem_append.1 hmem with hbefore | hlast
      · exact absurd hbefore not_mem_takenCalls_of_error
      · simp only [List.mem_singleton, Prod.mk.injEq, Except.error.injEq] at hlast
        rw [hlast.1, hlast.2, SinkCall.failure]
  | closed =>
      rcases List.mem_append.1 hmem with hbefore | hlast
      · exact absurd hbefore not_mem_takenCalls_of_error
      · simp at hlast

end Delivery

/-! ### Runs -/

section Runs

variable {γ : Type} {c : Config} {g : Generator γ} {o : Occasion}

theorem Config.run_of_register_error {fault : RegistrationFault} {r : Registration}
    (hregister : c.register = (.error fault, r)) (sink : Sink σ ε) (state : σ) :
    (c.run g o sink state).result = .error (.registration fault) ∧
      (c.run g o sink state).sink = state := by
  rw [run, hregister]
  exact ⟨rfl, rfl⟩

theorem Config.run_of_execute_error {cause : JoinFailure} {r : Registration}
    (hregister : c.register = (.ok (), r)) (hexecute : c.execute g o r = .error cause)
    (sink : Sink σ ε) (state : σ) :
    (c.run g o sink state).result = .error (.workers cause) ∧
      (c.run g o sink state).sink = state := by
  rw [run, hregister]
  dsimp only
  rw [hexecute]
  exact ⟨rfl, rfl⟩

/-- A run that hands back a report has registered its kinds, and its workers have not failed. -/
theorem Config.exists_execute_of_run {sink : Sink σ ε} {state : σ} {rep : RunReport}
    (hrun : (c.run g o sink state).result = .ok rep) :
    ∃ r results store, c.register = (.ok (), r) ∧ c.execute g o r = .ok (results, store) ∧
      report o results store = rep := by
  rcases hregister : c.register with ⟨fault | _, r⟩
  · rw [(run_of_register_error hregister sink state).1] at hrun
    exact nomatch hrun
  rcases hexecute : c.execute g o r with cause | ⟨results, store⟩
  · rw [(run_of_execute_error hregister hexecute sink state).1] at hrun
    exact nomatch hrun
  refine ⟨r, results, store, rfl, hexecute, ?_⟩
  rcases (completes_of_execute hregister hexecute).result_cases sink state with
    heq | ⟨cause, heq⟩ | ⟨cause, heq⟩
  · exact Except.ok.inj (heq.symm.trans hrun)
  · exact nomatch heq.symm.trans hrun
  · exact nomatch heq.symm.trans hrun

/-- The workers change nothing but counters. -/
theorem Config.exists_applyTagged_of_execute {r : Registration} {results : List WorkerResult}
    {store : Store} (hexecute : c.execute g o r = .ok (results, store)) :
    ∃ us, store = r.store.applyTagged us := by
  unfold execute at hexecute
  cases hjoin : joinWorkers (c.runWorkers g r o.timings) with
  | error cause =>
      rw [hjoin] at hexecute
      exact nomatch hexecute
  | ok joined =>
      rw [hjoin] at hexecute
      exact ⟨_, (Prod.mk.inj (Except.ok.inj hexecute)).2.symm⟩

end Runs

theorem SinkCall.chain_failure (call : SinkCall) (cause : ε) (describe : ε → String) :
    (call.failure cause).chain describe =
      [match call with
        | .write _ => "Failed to export measurements"
        | .close => "Failed to finalize report", describe cause] := by
  cases call <;> rfl

/-- A run does not touch its sink when the registration or a worker fails. Otherwise it offers the
rows of the registry up to the first that is refused, and closes the sink once if none was. It hands
back a report just if every row was taken and the sink closed; the rows of the report are those that
were taken. The error of the sink ends the chain of causes as the sink gave it. -/
theorem Config.run_calls {γ σ ε : Type} (c : Config) (g : Generator γ) (o : Occasion)
    (sink : Sink σ ε) (state : σ) :
    ∃ result next calls,
      ((c.run g o sink state).result = result ∧ (c.run g o sink state).sink = next) ∧
      ((c.run g o sink.recorded (state, [])).result = result ∧
        (c.run g o sink.recorded (state, [])).sink = (next, calls)) ∧
      ((∃ fault r, c.register = (.error fault, r) ∧
          result = .error (.registration fault) ∧ calls = []) ∨
        (∃ r cause, c.register = (.ok (), r) ∧ c.execute g o r = .error cause ∧
          result = .error (.workers cause) ∧ calls = []) ∨
        ∃ r results store, c.register = (.ok (), r) ∧ c.execute g o r = .ok (results, store) ∧
          Delivery (store.rowsOf none) (result.map fun _ => ()) calls ∧
          ((∃ report, result = .ok report) ↔
            calls = takenCalls ε (store.rowsOf none) ++ [(.close, .ok ())])) ∧
      (∀ report, result = .ok report → report.summaries.flatMap (·.rows) = takenRows calls) ∧
      (∀ row cause, (SinkCall.write row, Except.error cause) ∈ calls →
        ∃ failure, result = .error failure ∧ ∀ describe,
          failure.chain describe = ["Failed to export measurements", describe cause]) ∧
      (∀ cause, (SinkCall.close, Except.error cause) ∈ calls →
        ∃ failure, result = .error failure ∧ ∀ describe,
          failure.chain describe = ["Failed to finalize report", describe cause]) := by
  rcases hregister : c.register with ⟨fault | _, r⟩
  · exact ⟨_, state, [], run_of_register_error hregister sink state,
      run_of_register_error hregister sink.recorded (state, []),
      .inl ⟨fault, r, rfl, rfl, rfl⟩, by simp, by simp, by simp⟩
  rcases hexecute : c.execute g o r with cause | ⟨results, store⟩
  · exact ⟨_, state, [], run_of_execute_error hregister hexecute sink state,
      run_of_execute_error hregister hexecute sink.recorded (state, []),
      .inr (.inl ⟨r, cause, rfl, hexecute, rfl, rfl⟩), by simp, by simp, by simp⟩
  have hcompletes := completes_of_execute hregister hexecute
  obtain ⟨result, next, calls, hfinish, hrecorded, hdelivery⟩ :=
    sink.finish_recorded (report o results store).rows state
  have hplain := hcompletes sink state
  have hkept := hcompletes sink.recorded (state, [])
  rw [hfinish] at hplain
  rw [hrecorded] at hkept
  -- A result of the run tells no more of the delivery than whether it succeeded.
  have hresult : (result.map fun _ => report o results store).map (fun _ => ()) = result := by
    cases result <;> rfl
  have hok : (∃ rep, (result.map fun _ => report o results store) = .ok rep) ↔ result = .ok () := by
    cases result <;> simp [Except.map]
  have herror {call : SinkCall} {cause : ε} (hmem : (call, Except.error cause) ∈ calls) :
      (result.map fun _ => report o results store) = .error (call.failure cause) := by
    rw [hdelivery.eq_failure hmem]
    rfl
  refine ⟨result.map fun _ => report o results store, next, calls, hplain, hkept,
    .inr (.inr ⟨r, results, store, rfl, hexecute, ?_, ?_⟩), ?_, ?_, ?_⟩
  · rw [hresult]
    exact hdelivery
  · exact hok.trans hdelivery.ok_iff
  · intro rep hrep
    have hdone : result = .ok () := hok.1 ⟨rep, hrep⟩
    subst hdone
    obtain rfl : report o results store = rep := Except.ok.inj hrep
    exact hdelivery.takenRows_eq.symm
  · exact fun row cause hmem => ⟨_, herror hmem, (SinkCall.write row).chain_failure cause⟩
  · exact fun cause hmem => ⟨_, herror hmem, SinkCall.close.chain_failure cause⟩

/-- A run without operations has three rows, and its sink refuses the second one. -/
theorem Config.run_calls_refused :
    ∃ next calls,
      (({ twoKinds with opsPerThread := 0 }).run Random.keystreamGenerator
        ⟨"run", ⟨fun _ _ _ => 0, fun _ _ => 0, .zero⟩, []⟩ MemorySink.sink.recorded
        ({ MemorySink.empty with failingWrite := some 1 }, [])).sink = (next, calls) ∧
      calls = [(.write ⟨"READ", stepLabel 0 0, .whole 0⟩, .ok ()),
        (.write ⟨"SCAN", stepLabel 0 0, .whole 0⟩, .error .sinkClosed)] := by
  obtain ⟨result, next, calls, -, ⟨-, hsink⟩, -⟩ :=
    Config.run_calls { twoKinds with opsPerThread := 0 } Random.keystreamGenerator
      ⟨"run", ⟨fun _ _ _ => 0, fun _ _ => 0, .zero⟩, []⟩ MemorySink.sink
      { MemorySink.empty with failingWrite := some 1 }
  refine ⟨next, calls, hsink, ?_⟩
  rw [← show _ = calls from congrArg Prod.snd hsink]
  decide +kernel

end StepLatency
