/-!
# Ranges of code points

Classes of characters are given as tables of ranges, in order and with both ends included.
-/

namespace StepLatency.Text

def inRanges (ranges : Array (Nat × Nat)) (code : Nat) : Bool :=
  ranges.any fun (first, last) => first ≤ code && code ≤ last

end StepLatency.Text
