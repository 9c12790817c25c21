/-!
# Binary64 numbers

A number is its 64 bits. The low 63 bits, read as a natural number, are the *rank* of its magnitude:
a larger rank is a larger magnitude, infinity has one fixed rank, and every rank above that one is
not a number. A finite magnitude is a natural number of *units* of `2 ^ -1074`, so exact arithmetic
on finite numbers is arithmetic on natural numbers.
-/

namespace StepLatency

structure Binary64 where
  bits : UInt64
deriving DecidableEq, Inhabited

namespace Binary64

def unitsPerOne : Nat := Nat.pow 2 1074

def ranksPerBinade : Nat := 0x10000000000000

def signBit : Nat := 0x8000000000000000

def infinityRank : Nat := 2047 * ranksPerBinade

/-- The number with the given sign and rank; ranks past infinity are cut to it. -/
def ofRank (negative : Bool) (rank : Nat) : Binary64 :=
  ⟨UInt64.ofNat (min rank infinityRank + if negative then signBit else 0)⟩

def isNegative (x : Binary64) : Bool := signBit ≤ x.bits.toNat

def rank (x : Binary64) : Nat := x.bits.toNat % signBit

def isNaN (x : Binary64) : Bool := infinityRank < x.rank

def isInfinite (x : Binary64) : Bool := x.rank == infinityRank

def isFinite (x : Binary64) : Bool := x.rank < infinityRank

def isZero (x : Binary64) : Bool := x.rank == 0

def nan : Binary64 := ⟨0x7ff8000000000000⟩

def infinity : Binary64 := ofRank false infinityRank

def zero : Binary64 := ofRank false 0

def negate (x : Binary64) : Binary64 := ⟨x.bits ^^^ 0x8000000000000000⟩

/-- The power of two, in units, that one step of the significand is worth. -/
def stepExponent (x : Binary64) : Nat := x.rank / ranksPerBinade - 1

def significand (x : Binary64) : Nat :=
  if x.rank < ranksPerBinade then x.rank else ranksPerBinade + x.rank % ranksPerBinade

def units (x : Binary64) : Nat := x.significand * Nat.pow 2 x.stepExponent

/-- Whether `0 ≤ x ≤ 1`; minus zero is inside and what is not a number is outside. -/
def isProbability (x : Binary64) : Bool :=
  x.isFinite && (x.isZero || (!x.isNegative && x.units ≤ unitsPerOne))

theorem rank_ofRank {negative : Bool} {rank : Nat} (h : rank ≤ infinityRank) :
    (ofRank negative rank).rank = rank := by
  unfold infinityRank ranksPerBinade at h
  simp only [ofRank, Binary64.rank, UInt64.toNat_ofNat', infinityRank, ranksPerBinade, signBit]
  cases negative <;> simp only [Bool.false_eq_true, if_true, if_false] <;> omega

theorem isNegative_ofRank {negative : Bool} {rank : Nat} :
    (ofRank negative rank).isNegative = negative := by
  simp only [ofRank, isNegative, UInt64.toNat_ofNat', infinityRank, ranksPerBinade, signBit]
  cases negative <;>
    simp only [Bool.false_eq_true, if_true, if_false, decide_eq_true_eq, decide_eq_false_iff_not] <;>
    omega

end Binary64

end StepLatency
