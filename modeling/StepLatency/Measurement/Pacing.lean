import StepLatency.Binary64.Nearest

/-!
# Pacing trackers

A tracker accumulates the think time between operations. Its sum sticks at the largest 64-bit word;
its average is the quotient of the two counters, each rounded to binary64 first.
-/

namespace StepLatency

def maxCount : Nat := UInt64.size - 1

/-- Addition that sticks at the largest word. -/
def addCapped (sum value : UInt64) : UInt64 :=
  if maxCount - sum.toNat < value.toNat then UInt64.ofNat maxCount else sum + value

theorem toNat_addCapped (sum value : UInt64) :
    (addCapped sum value).toNat = min (sum.toNat + value.toNat) maxCount := by
  have hsum := sum.toNat_lt
  have hvalue := value.toNat_lt
  unfold addCapped maxCount UInt64.size
  split
  · rw [UInt64.toNat_ofNat']
    omega
  · rw [UInt64.toNat_add]
    omega

structure Pacing where
  delaySum : UInt64
  samples : UInt64
deriving DecidableEq, Inhabited

namespace Pacing

def empty : Pacing := ⟨0, 0⟩

def addDelay (p : Pacing) (delay : UInt64) : Pacing :=
  { p with delaySum := addCapped p.delaySum delay }

def countSample (p : Pacing) : Pacing := { p with samples := p.samples + 1 }

/-- One pacing interval: its delay is added, then it is counted. -/
def record (p : Pacing) (delay : UInt64) : Pacing := (p.addDelay delay).countSample

def average (p : Pacing) : Option Binary64 :=
  if p.samples = 0 then none
  else some ((Binary64.ofNat p.delaySum.toNat).divMagnitude (Binary64.ofNat p.samples.toNat))

theorem average_eq_none_iff (p : Pacing) : p.average = none ↔ p.samples = 0 := by
  unfold average
  split <;> simp [*]

end Pacing

end StepLatency
