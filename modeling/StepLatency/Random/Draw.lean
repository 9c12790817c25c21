import StepLatency.Random.Generator
import StepLatency.Random.Keystream

/-!
# Decisions from a keystream

A number below a bound is the high part of a draw times the bound. Draws whose low part is past a
zone are rejected, so that every number is equally likely; the zone is the bound shifted to the top
of the word, less one.
-/

namespace StepLatency.Random

/-- Draws are no longer rejected after this many; the chance to get there is less than one in
`2 ^ 1000`. -/
def maxRejections : Nat := 1000

/-- The largest low part that is accepted for a bound below `2 ^ width`. -/
def zone (width bound : Nat) : Nat := bound * Nat.pow 2 (width - 1 - bound.log2) - 1

def below {σ : Type} (width bound : Nat) (draw : σ → Nat × σ) : Nat → σ → Nat × σ
  | 0, s => let (v, s) := draw s; (v * bound / Nat.pow 2 width, s)
  | rejections + 1, s =>
    let (v, s) := draw s
    if v * bound % Nat.pow 2 width ≤ zone width bound then (v * bound / Nat.pow 2 width, s)
    else below width bound draw rejections s

/-- However draws fall, the number is below its bound. -/
theorem below_lt {σ : Type} {width bound : Nat} {draw : σ → Nat × σ}
    (hdraw : ∀ s, (draw s).1 < Nat.pow 2 width) (hbound : 0 < bound) (rejections : Nat) (s : σ) :
    (below width bound draw rejections s).1 < bound := by
  have hquot (v : Nat) (hv : v < Nat.pow 2 width) : v * bound / Nat.pow 2 width < bound := by
    have hpos : 0 < Nat.pow 2 width := Nat.two_pow_pos width
    rw [Nat.div_lt_iff_lt_mul hpos, Nat.mul_comm bound]
    exact Nat.mul_lt_mul_of_pos_right hv hbound
  induction rejections generalizing s with
  | zero => exact hquot _ (hdraw s)
  | succ n ih =>
    unfold below
    simp only
    split
    · exact hquot _ (hdraw s)
    · exact ih (draw s).2

def drawHalf (s : Keystream) : Nat × Keystream :=
  let (v, s) := s.nextHalf
  (v.toNat, s)

def drawWord (s : Keystream) : Nat × Keystream :=
  let (v, s) := s.nextWord
  (v.toNat, s)

theorem drawHalf_lt (s : Keystream) : (drawHalf s).1 < Nat.pow 2 32 := (s.nextHalf).1.toNat_lt

/-- A position below a bound, which is meant to fit 32 bits. -/
def position (bound : Nat) (h : 0 < bound) (s : Keystream) : Fin bound × Keystream :=
  let r := below 32 bound drawHalf maxRejections s
  (⟨r.1, below_lt drawHalf_lt h maxRejections s⟩, r.2)

/-- A word of a range; the whole range of words takes a draw as it is. -/
def word (low high : UInt64) (s : Keystream) : UInt64 × Keystream :=
  let size := high.toNat - low.toNat + 1
  if size = UInt64.size then s.nextWord
  else
    let (n, s) := below 64 size drawWord maxRejections s
    (low + UInt64.ofNat n, s)

/-- The number of words, of all `2 ^ 64`, for which an event of that rate happens. -/
def favourable (rate : Binary64) : Nat := rate.units * UInt64.size / Binary64.unitsPerOne

/-- An event of rate one happens without a draw. -/
def event (rate : Binary64) (s : Keystream) : Bool × Keystream :=
  if rate.units = Binary64.unitsPerOne then (true, s)
  else
    let (v, s) := s.nextWord
    (v.toNat < favourable rate, s)

def keystreamGenerator : Generator Keystream where
  start := .ofSeed
  position := position
  word low high _ := word low high
  event rate _ := event rate

end StepLatency.Random
