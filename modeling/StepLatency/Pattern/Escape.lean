import StepLatency.Pattern.Basic
import StepLatency.Text.Blank
import StepLatency.Text.Hexadecimal

/-!
# Escapes

What a backslash makes of the characters after it. Each reader takes the text after what it has seen
and returns what it read with the text that is left; it fails if the text is no pattern.
-/

namespace StepLatency.Pattern

/-- The text from the next character that counts, where blanks and comments do not; a comment goes to
the end of its line. -/
def dropBlanks (inComment : Bool) : List Char → List Char
  | [] => []
  | c :: rest =>
    if inComment then dropBlanks (c != '\n') rest
    else if Text.isBlank c then dropBlanks false rest
    else if c = '#' then dropBlanks true rest
    else c :: rest

def skipBlanks (ignoreBlanks : Bool) (cs : List Char) : List Char :=
  if ignoreBlanks then dropBlanks false cs else cs

def readHex? (ignoreBlanks : Bool) : Nat → Nat → List Char → Option (Nat × List Char)
  | 0, value, cs => some (value, cs)
  | count + 1, value, cs =>
    match skipBlanks ignoreBlanks cs with
    | [] => none
    | c :: rest =>
      match Text.hexValue? c with
      | some digit => readHex? ignoreBlanks count (16 * value + digit) rest
      | none => none

def charOf? (code : Nat) : Option Char := if code.isValidChar then some (Char.ofNat code) else none

def hexDigits? : Char → Option Nat
  | 'x' => some 2
  | 'u' => some 4
  | 'U' => some 8
  | _ => none

def shorthand? : Char → Option (Bool × Shorthand)
  | 'd' => some (false, .digit)
  | 'D' => some (true, .digit)
  | 's' => some (false, .blank)
  | 'S' => some (true, .blank)
  | 'w' => some (false, .word)
  | 'W' => some (true, .word)
  | _ => none

def assertion? : Char → Option Assertion
  | 'A' => some .textStart
  | 'z' => some .textEnd
  | 'b' => some .wordBoundary
  | 'B' => some .noWordBoundary
  | '<' => some .wordStart
  | '>' => some .wordEnd
  | _ => none

def control? : Char → Option Char
  | 'a' => some '\x07'
  | 'f' => some '\x0c'
  | 'n' => some '\n'
  | 'r' => some '\r'
  | 't' => some '\t'
  | 'v' => some '\x0b'
  | _ => none

/-- The characters that an escape makes stand for themselves: those of the ASCII set that are no
letters, no digits and no angle brackets. -/
def isEscapable (c : Char) : Bool := c.toNat < 0x80 && !c.isAlphanum && c != '<' && c != '>'

inductive Escape
  | literal (l : Literal)
  | shorthand (negated : Bool) (s : Shorthand)
  | assertion (a : Assertion)
deriving DecidableEq

def Escape.ofChar? (c : Char) : Option Escape :=
  if isEscapable c then some (.literal ⟨c, false⟩)
  else
    match shorthand? c, assertion? c, control? c with
    | some (negated, s), _, _ => some (.shorthand negated s)
    | _, some a, _ => some (.assertion a)
    | _, _, some c => some (.literal ⟨c, false⟩)
    | none, none, none => none

def readEscape? (ignoreBlanks : Bool) : List Char → Option (Escape × List Char)
  | [] => none
  | c :: rest =>
    match hexDigits? c with
    | some count => do
      let (code, rest) ← readHex? ignoreBlanks count 0 rest
      return (.literal ⟨← charOf? code, c == 'x'⟩, rest)
    | none => (Escape.ofChar? c).map (·, rest)

end StepLatency.Pattern
