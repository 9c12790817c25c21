import Mathlib
import StepLatency.Proofs.Measurement.Sample
import StepLatency.Proofs.Workload.Registered

/-!
# Workers do what they decide

In a configuration that was validated, every decision that a worker asks for exists and every sample
that it records is accepted. So no worker stops early, and what it does is what its plan says: of
every operation each step once, in order, and then the pacing interval, all on the chosen kind.
-/

namespace StepLatency

def stepUpdates (latency : Nat → Nat) : Nat → List StepChoice → List Update
  | _, [] => []
  | step, choice :: rest =>
    sampleUpdates (choice.sample (latency step)) step ++ stepUpdates latency (step + 1) rest

def OperationChoice.updates (t : Timings) (worker operation : Nat) (choice : OperationChoice) :
    List (Handle × Update) :=
  (stepUpdates (t.latency worker operation) 0 choice.steps ++
    Update.pacing (t.pacing worker operation)).map (choice.kind, ·)

def planUpdates (t : Timings) (worker : Nat) : Nat → List OperationChoice → List (Handle × Update)
  | _, [] => []
  | operation, choice :: rest =>
    choice.updates t worker operation ++ planUpdates t worker (operation + 1) rest

/-- An operation of one of the kinds, with a choice for every step of it. -/
def OperationChoice.Fits (kinds : List OperationSpec) (choice : OperationChoice) : Prop :=
  ∃ spec, kinds[choice.kind]? = some spec ∧ choice.steps.length = spec.steps

theorem Generator.position_congr {γ : Type} (g : Generator γ) {m n : Nat} (hmn : m = n) (hm : 0 < m)
    (hn : 0 < n) (s : γ) :
    (g.position m hm s).1.val = (g.position n hn s).1.val ∧
      (g.position m hm s).2 = (g.position n hn s).2 := by
  subst hmn
  exact ⟨rfl, rfl⟩

namespace Config

variable {γ : Type} {c : Config} {r : Registration} {kinds : List OperationSpec}

/-! ### Steps -/

theorem exists_chooseStep_eq_ok (hvalid : c.Valid) (g : Generator γ) (s : γ) :
    ∃ choice s', c.chooseStep g s = .ok (choice, s') := by
  rw [chooseStep, dif_pos hvalid.latencies]
  simp only [hvalid.rate, dif_pos]
  exact ⟨_, _, rfl⟩

/-- The loop over the steps decides on every one of them and records each once. -/
theorem exists_performSteps_eq_ok (hvalid : c.Valid) (g : Generator γ) (n : Nat) (s : γ) :
    ∃ steps s', c.chooseSteps g n s = .ok (steps, s') ∧ steps.length = n ∧
      ∀ (a : Aggregator) (worker : Nat) (latency : Nat → Nat) (step : Nat), step + n ≤ a.stepCount →
        c.performSteps g a worker latency n step s = .ok (stepUpdates latency step steps, s') := by
  induction n generalizing s with
  | zero => exact ⟨[], s, rfl, rfl, fun a worker latency step _ => rfl⟩
  | succ n ih =>
      obtain ⟨choice, next, hchoice⟩ := exists_chooseStep_eq_ok hvalid g s
      obtain ⟨rest, s', hrest, hlength, hperform⟩ := ih next
      refine ⟨choice :: rest, s', ?_, by simp [hlength], ?_⟩
      · rw [chooseSteps, hchoice]
        simp [bind, Except.bind, hrest, pure, Except.pure]
      · intro a worker latency step hbound
        have hstep : step < a.stepCount := by omega
        rw [performSteps, hchoice]
        simp [bind, Except.bind, Except.mapError, Aggregator.updates_of_lt hstep,
          hperform a worker latency (step + 1) (by omega), pure, Except.pure, stepUpdates]

/-! ### Operations -/

/-- An operation is one of the kinds, and it is carried out as it was decided on. -/
theorem exists_performOperation_eq_ok (hvalid : c.Valid) (hr : r.Holds kinds) (hkinds : kinds ≠ [])
    (g : Generator γ) (s : γ) :
    ∃ choice s', c.chooseOperation g (kinds.map (·.steps)) s = .ok (choice, s') ∧
      choice.Fits kinds ∧
      ∀ (t : Timings) (worker operation : Nat),
        c.performOperation g r t worker operation s =
          .ok (choice.updates t worker operation, s') := by
  have hpos : 0 < (kinds.map (·.steps)).length := by
    rw [List.length_map]
    exact List.length_pos_iff.2 hkinds
  have hlength : r.kinds.length = (kinds.map (·.steps)).length := by
    rw [hr.handles, List.length_range, List.length_map]
  -- The loop draws below the number of handles, the plan below the number of step counts.
  have hposition := g.position_congr hlength (hlength ▸ hpos) hpos s
  obtain ⟨kind, hkind⟩ : ∃ kind, kind = (g.position _ hpos s).1 := ⟨_, rfl⟩
  obtain ⟨next, hnext⟩ : ∃ next, next = (g.position _ hpos s).2 := ⟨_, rfl⟩
  rw [← hkind, ← hnext] at hposition
  have hlt : kind.val < kinds.length := by simpa using kind.isLt
  have hget : kinds[kind.val]? = some kinds[kind.val] := List.getElem?_eq_getElem hlt
  obtain ⟨steps, s', hsteps, hcount, hperform⟩ :=
    exists_performSteps_eq_ok hvalid g (kinds.map (·.steps))[kind] next
  have hspec : (kinds.map (·.steps))[kind] = kinds[kind.val].steps := List.getElem_map _
  refine ⟨⟨kind, steps⟩, s', ?_, ⟨kinds[kind.val], hget, hcount.trans hspec⟩, ?_⟩
  · rw [chooseOperation, dif_pos hpos]
    simp only [← hkind, ← hnext]
    rw [hsteps]
    rfl
  · intro t worker operation
    rw [performOperation, dif_pos (hlength ▸ hpos)]
    have hhandle : r.kinds[(g.position r.kinds.length (hlength ▸ hpos) s).1] = kind.val := by
      simp [hr.handles, hposition.1]
    simp only [hhandle, hposition.2, hr.getElem?_aggregators, hget, Option.map_some]
    rw [Aggregator.stepCount_fresh, ← hspec, hperform _ worker _ 0 (by simp [hspec])]
    rfl

/-- A worker decides on so many operations without a failure, and does what it has decided. -/
theorem exists_performOperations_eq_ok (hvalid : c.Valid) (hr : r.Holds kinds) (hkinds : kinds ≠ [])
    (g : Generator γ) (n : Nat) (s : γ) :
    ∃ choices s', c.chooseOperations g (kinds.map (·.steps)) n s = .ok (choices, s') ∧
      choices.length = n ∧ (∀ choice ∈ choices, choice.Fits kinds) ∧
      ∀ (t : Timings) (worker operation : Nat),
        c.performOperations g r t worker n operation s =
          .ok ⟨n, planUpdates t worker operation choices⟩ := by
  induction n generalizing s with
  | zero => exact ⟨[], s, rfl, rfl, by simp, fun t worker operation => rfl⟩
  | succ n ih =>
      obtain ⟨choice, next, hchoice, hfits, hperform⟩ :=
        exists_performOperation_eq_ok hvalid hr hkinds g s
      obtain ⟨rest, s', hrest, hlength, hrestFits, hperformRest⟩ := ih next
      refine ⟨choice :: rest, s', ?_, by simp [hlength], ?_, ?_⟩
      · rw [chooseOperations, hchoice]
        simp [bind, Except.bind, hrest, pure, Except.pure]
      · exact List.forall_mem_cons.2 ⟨hfits, hrestFits⟩
      · intro t worker operation
        rw [performOperations, hperform]
        simp [bind, Except.bind, hperformRest, pure, Except.pure, planUpdates]

/-- Every worker has a plan and carries it out to the end, whatever it measures. -/
theorem exists_runWorker_eq_ok (hvalid : c.Valid) (hr : r.Holds kinds) (hkinds : kinds ≠ [])
    (g : Generator γ) (worker : Nat) :
    ∃ plan, c.plan g r.stepCounts worker = .ok plan ∧ plan.length = c.opsPerThread ∧
      (∀ choice ∈ plan, choice.Fits kinds) ∧
      ∀ t, c.runWorker g r t worker = .ok ⟨c.opsPerThread, planUpdates t worker 0 plan⟩ := by
  obtain ⟨choices, s', hchoices, hlength, hfits, hperform⟩ :=
    exists_performOperations_eq_ok hvalid hr hkinds g c.opsPerThread
      (g.start (c.workerSeed worker))
  refine ⟨choices, ?_, hlength, hfits, fun t => hperform t worker 0⟩
  rw [plan, hr.stepCounts_eq, hchoices]
  rfl

end Config

end StepLatency
