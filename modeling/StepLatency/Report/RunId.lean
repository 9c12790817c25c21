/-!
# Run identifiers

A run is known by 16 random bytes. They are written as 32 hexadecimal digits in five groups; six of
their bits are fixed and say that the others are random.
-/

namespace StepLatency.RunId

def byteCount : Nat := 16

def marked (position byte : Nat) : Nat :=
  if position = 6 then byte % 16 + 64 else if position = 8 then byte % 64 + 128 else byte

/-- The positions of the bytes with a dash before them. -/
def groupStarts : List Nat := [4, 6, 8, 10]

def byteText (position byte : Nat) : List Char :=
  (if position ∈ groupStarts then ['-'] else []) ++
    [Nat.digitChar (marked position byte / 16), Nat.digitChar (marked position byte % 16)]

def ofBytes (bytes : List Nat) : String :=
  String.ofList (((bytes.take byteCount).mapIdx byteText).flatten)

end StepLatency.RunId
