import StepLatency.Binary64.Basic

/-!
# Generators of random decisions

A generator is started from a seed and makes three kinds of decisions, each of which leads to its
next state. A decision is asked for only where it exists: a position below a positive bound, a word
of a range that is not empty, an event whose rate is a probability.
-/

namespace StepLatency

structure Generator (γ : Type) where
  start : UInt64 → γ
  /-- A position below a bound. -/
  position : (bound : Nat) → 0 < bound → γ → Fin bound × γ
  /-- A word between two bounds that both belong to the range. -/
  word : (low high : UInt64) → low ≤ high → γ → UInt64 × γ
  /-- Whether an event of the given probability happens. -/
  event : (rate : Binary64) → rate.isProbability = true → γ → Bool × γ

end StepLatency
