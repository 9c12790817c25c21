import StepLatency.Report.Row

/-!
# Buffered writing

A row is written in pieces, and pieces are gathered in a buffer before they are passed on. A piece
that does not fit any more sends off what the buffer holds; one as large as the buffer goes right
after it. So what has been passed on may end in the middle of a row, but never within a piece.
-/

namespace StepLatency

/-- The bytes that are gathered before a device is asked to take them. -/
def bufferSize : Nat := 8192

/-- The number of bytes that are passed on when a piece comes, and the number held after that. -/
def buffered (held piece : Nat) : Nat × Nat :=
  let sent := if bufferSize < held + piece then held else 0
  if bufferSize ≤ piece then (held + piece, 0) else (sent, held + piece - sent)

def bufferedAll (held : Nat) : List String → Nat × Nat
  | [] => (0, held)
  | piece :: rest =>
    let (sent, held) := buffered held piece.utf8ByteSize
    let (later, held) := bufferedAll held rest
    (sent + later, held)

/-- A buffer loses nothing. -/
theorem buffered_sum (held piece : Nat) :
    (buffered held piece).1 + (buffered held piece).2 = held + piece := by
  unfold buffered
  by_cases hlarge : bufferSize ≤ piece <;> by_cases hfull : bufferSize < held + piece <;>
    simp [hlarge, hfull]

theorem buffered_held_le (held piece : Nat) : (buffered held piece).2 ≤ bufferSize := by
  unfold buffered
  by_cases hlarge : bufferSize ≤ piece <;> by_cases hfull : bufferSize < held + piece <;>
    simp [hlarge, hfull] <;> omega

/-- The pieces of an amount. In a number below one the zeros after the point stand apart. -/
def Amount.pieces : Amount → List String
  | .whole n => [toString n.toNat]
  | .real x =>
    if x.isFinite then
      let places := Decimal.padded 2 (x.hundredths % 100)
      x.sign ::
        if x.hundredths < 100 then
          ["0.", String.ofList (places.toList.takeWhile (· == '0')),
            String.ofList (places.toList.dropWhile (· == '0'))]
        else [toString (x.hundredths / 100), ".", places]
    else [x.specialText]

/-- The pieces of an amount make up its text. -/
theorem Amount.join_pieces (a : Amount) : String.join a.pieces = a.text := by
  cases a with
  | whole n => simp [pieces, text, String.join]
  | real x =>
    simp only [pieces, text, Binary64.toHundredths]
    split
    · split
      · rename_i h
        have hzero : Nat.repr 0 = "0" := rfl
        have hpoint : "0." = "0" ++ "." := rfl
        simp [String.join, Nat.div_eq_of_lt h, String.append_assoc, ← String.ofList_append, hzero,
          hpoint, toString]
      · simp [String.join, String.append_assoc, toString]
    · simp [String.join]

def Row.pieces (row : Row) : List String :=
  ["[", row.group, "], ", row.label, ", "] ++ row.value.pieces ++ ["\n"]

end StepLatency
