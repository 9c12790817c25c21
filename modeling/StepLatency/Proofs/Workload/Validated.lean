import Mathlib
import StepLatency.Workload.Config

/-!
# Validated configurations

What a configuration promises once its check has passed: there is an operation kind, every kind has
a step, there is a worker, the latency range is not empty, and the rate of negative samples is a
probability.
-/

namespace StepLatency

theorem forM_eq_ok_iff {α ε : Type} (check : α → Except ε Unit) (items : List α) :
    items.forM check = .ok () ↔ ∀ item ∈ items, check item = .ok () := by
  induction items with
  | nil => simp [pure, Except.pure]
  | cons item rest ih =>
      change (check item >>= fun _ => rest.forM check) = .ok () ↔ _
      rw [List.forall_mem_cons, ← ih]
      cases check item with
      | error cause => simp [bind, Except.bind]
      | ok _ => simp [bind, Except.bind]

namespace Config

structure Valid (c : Config) : Prop where
  operations : c.operations ≠ []
  steps : ∀ spec ∈ c.operations, 0 < spec.steps ∧ spec.steps ≤ maxSteps
  threads : 0 < c.threads ∧ c.threads ≤ maxThreads
  latencies : c.minLatency ≤ c.maxLatency
  rate : c.negativeRate.isProbability = true

/-- Declarations of one name agree on the number of steps. -/
def Consistent (c : Config) : Prop :=
  ∀ first ∈ c.operations, ∀ second ∈ c.operations,
    first.name = second.name → first.steps = second.steps

instance (c : Config) : Decidable c.Consistent :=
  inferInstanceAs (Decidable (∀ first ∈ c.operations, ∀ second ∈ c.operations,
    first.name = second.name → first.steps = second.steps))

/-- Two workers and two kinds, of which one is declared twice. Half of the samples are negative. -/
def twoKinds : Config where
  operations := [⟨"SCAN", 2⟩, ⟨"READ", 1⟩, ⟨"SCAN", 2⟩]
  threads := 2
  opsPerThread := 3
  minLatency := 0
  maxLatency := 10
  pacingDelay := .zero
  negativeRate := ⟨0x3fe0000000000000⟩
  seed := 7

theorem checkSteps_eq_ok_iff (operation : String) (steps : Nat) :
    checkSteps operation steps = .ok () ↔ 0 < steps ∧ steps ≤ maxSteps := by
  unfold checkSteps
  by_cases hzero : steps = 0
  · simp [hzero]
  · by_cases hmany : maxSteps < steps
    · simp [hzero, hmany]
    · simp [hzero, hmany, Nat.pos_of_ne_zero hzero, Nat.le_of_not_lt hmany]

theorem checkThreads_eq_ok_iff (threads : Nat) :
    checkThreads threads = .ok () ↔ 0 < threads ∧ threads ≤ maxThreads := by
  unfold checkThreads
  by_cases hzero : threads = 0
  · simp [hzero]
  · by_cases hmany : maxThreads < threads
    · simp [hzero, hmany]
    · simp [hzero, hmany, Nat.pos_of_ne_zero hzero, Nat.le_of_not_lt hmany]

theorem checkLatencyRange_eq_ok_iff (min max : UInt64) :
    checkLatencyRange min max = .ok () ↔ min ≤ max := by
  unfold checkLatencyRange
  by_cases hempty : max < min
  · simp [hempty]
  · simp [hempty, UInt64.not_lt.1 hempty]

theorem checkRate_eq_ok_iff (what : String) (rate : Binary64) :
    checkRate what rate = .ok () ↔ rate.isProbability = true := by
  unfold checkRate
  by_cases hrate : rate.isProbability = true <;> simp [hrate]

/-- The checks pass just if what they establish holds. -/
theorem validate_eq_ok_iff (c : Config) : c.validate = .ok () ↔ c.Valid := by
  have hchecks : c.validate = .ok () ↔
      c.operations.isEmpty = false ∧
        (c.operations.forM fun operation => checkSteps operation.name operation.steps) = .ok () ∧
        checkThreads c.threads = .ok () ∧
        checkLatencyRange c.minLatency c.maxLatency = .ok () ∧
        checkRate "Negative sample rate" c.negativeRate = .ok () := by
    unfold validate
    cases c.operations.isEmpty with
    | true => simp [throw, throwThe, MonadExceptOf.throw, bind, Except.bind]
    | false =>
        cases c.operations.forM fun operation => checkSteps operation.name operation.steps with
        | error cause => simp [bind, Except.bind]
        | ok _ =>
            cases checkThreads c.threads with
            | error cause => simp [bind, Except.bind]
            | ok _ =>
                cases checkLatencyRange c.minLatency c.maxLatency <;> simp [bind, Except.bind]
  rw [hchecks, forM_eq_ok_iff, checkThreads_eq_ok_iff, checkLatencyRange_eq_ok_iff,
    checkRate_eq_ok_iff, List.isEmpty_eq_false_iff]
  simp only [checkSteps_eq_ok_iff]
  exact ⟨fun ⟨h₁, h₂, h₃, h₄, h₅⟩ => ⟨h₁, h₂, h₃, h₄, h₅⟩,
    fun ⟨h₁, h₂, h₃, h₄, h₅⟩ => ⟨h₁, h₂, h₃, h₄, h₅⟩⟩

end Config

end StepLatency
