/-!
# The keystream

Words come from a stream cipher in counter mode: sixteen words of constants, key and block number
are mixed in twelve rounds, half of them on the columns and half on the diagonals of a square, and
are added to what they were before.
-/

namespace StepLatency.Random

abbrev Block := Vector UInt32 16

abbrev Key := Vector UInt32 8

def rotateLeft (x n : UInt32) : UInt32 := (x <<< n) ||| (x >>> (32 - n))

def mix (x y z : Fin 16) (n : UInt32) (block : Block) : Block :=
  let sum := block[x] + block[y]
  (block.set x sum).set z (rotateLeft (block[z] ^^^ sum) n)

def quarterRound (a b c d : Fin 16) (block : Block) : Block :=
  block |> mix a b d 16 |> mix c d b 12 |> mix a b d 8 |> mix c d b 7

/-- A round on the columns and one on the diagonals. -/
def doubleRound (block : Block) : Block :=
  block
    |> quarterRound 0 4 8 12 |> quarterRound 1 5 9 13
    |> quarterRound 2 6 10 14 |> quarterRound 3 7 11 15
    |> quarterRound 0 5 10 15 |> quarterRound 1 6 11 12
    |> quarterRound 2 7 8 13 |> quarterRound 3 4 9 14

def doubleRounds : Nat := 6

def initialBlock (key : Key) (number : UInt64) : Block :=
  #v[0x61707865, 0x3320646e, 0x79622d32, 0x6b206574,
     key[0], key[1], key[2], key[3], key[4], key[5], key[6], key[7],
     number.toUInt32, (number >>> 32).toUInt32, 0, 0]

def keystreamBlock (key : Key) (number : UInt64) : Block :=
  let initial := initialBlock key number
  (Nat.repeat doubleRound doubleRounds initial).zipWith (· + ·) initial

/-- The multiplier and the increment of the sequence that a seed is expanded by. -/
def seedMultiplier : UInt64 := 6364136223846793005

def seedIncrement : UInt64 := 11634580027462260723

def rotateRight (x n : UInt32) : UInt32 := (x >>> n) ||| (x <<< (32 - n))

def seedWord (state : UInt64) : UInt32 :=
  rotateRight (((state >>> 18) ^^^ state) >>> 27).toUInt32 (state >>> 59).toUInt32

def seedState (seed : UInt64) : Nat → UInt64
  | 0 => seed
  | n + 1 => seedState seed n * seedMultiplier + seedIncrement

def keyOfSeed (seed : UInt64) : Key := Vector.ofFn fun i => seedWord (seedState seed (i.val + 1))

/-- A keystream, of which some words of the last block may be left. -/
structure Keystream where
  key : Key
  nextBlock : UInt64
  pending : List UInt32

namespace Keystream

def ofSeed (seed : UInt64) : Keystream := ⟨keyOfSeed seed, 0, []⟩

def nextHalf (s : Keystream) : UInt32 × Keystream :=
  match s.pending with
  | w :: rest => (w, { s with pending := rest })
  | [] =>
    let words := (keystreamBlock s.key s.nextBlock).toList
    (words.headD 0, { s with nextBlock := s.nextBlock + 1, pending := words.tail })

/-- A word of 64 bits: the low half comes first. -/
def nextWord (s : Keystream) : UInt64 × Keystream :=
  let (low, s) := s.nextHalf
  let (high, s) := s.nextHalf
  (high.toUInt64 <<< 32 ||| low.toUInt64, s)

end Keystream

end StepLatency.Random
