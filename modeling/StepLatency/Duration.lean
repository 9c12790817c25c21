/-!
# Durations

A duration is a whole number of nanoseconds whose seconds fit a 64-bit word.
-/

namespace StepLatency

def nanosPerSecond : Nat := 1000000000

def nanosPerMicro : Nat := 1000

structure Duration where
  nanos : Nat
  bounded : nanos < UInt64.size * nanosPerSecond
deriving DecidableEq

namespace Duration

def zero : Duration := ⟨0, by decide⟩

def seconds (d : Duration) : UInt64 := UInt64.ofNat (d.nanos / nanosPerSecond)

def subsecondNanos (d : Duration) : Nat := d.nanos % nanosPerSecond

/-- The whole microseconds, modulo `2 ^ 64`. -/
def micros (d : Duration) : UInt64 := UInt64.ofNat (d.nanos / nanosPerMicro)

def ofMicros (us : UInt64) : Duration :=
  ⟨us.toNat * nanosPerMicro, by
    have h := us.toNat_lt_size
    unfold nanosPerMicro nanosPerSecond
    omega⟩

/-- Seconds and any number of nanoseconds, none if together they are too long. -/
def ofParts? (seconds : UInt64) (nanos : Nat) : Option Duration :=
  let total := seconds.toNat * nanosPerSecond + nanos
  if h : total < UInt64.size * nanosPerSecond then some ⟨total, h⟩ else none

theorem toNat_seconds (d : Duration) : d.seconds.toNat = d.nanos / nanosPerSecond := by
  have h : d.nanos / nanosPerSecond < UInt64.size := by
    have := d.bounded
    unfold nanosPerSecond at *
    omega
  exact UInt64.toNat_ofNat_of_lt h

theorem ofParts?_seconds_subsecondNanos (d : Duration) :
    ofParts? d.seconds d.subsecondNanos = some d := by
  have hsplit : d.seconds.toNat * nanosPerSecond + d.subsecondNanos = d.nanos := by
    rw [toNat_seconds, subsecondNanos, Nat.mul_comm]
    exact Nat.div_add_mod d.nanos nanosPerSecond
  unfold ofParts?
  simp only [hsplit]
  exact dif_pos d.bounded

end Duration

end StepLatency
