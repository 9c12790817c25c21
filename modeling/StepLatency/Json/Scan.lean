import StepLatency.Json.Failure
import StepLatency.Text.Hexadecimal

/-!
# Scanning blanks, words, strings and numbers

Each scanner takes the text from where it stands and returns what it read and the text that is left.
Strings are scanned after their opening quote. A number is scanned as its digits first, so that the
value of a number that is skipped need not exist.
-/

namespace StepLatency.Json

open Text (hexValue?)

def isBlank (c : Char) : Bool := c == ' ' || c == '\n' || c == '\t' || c == '\r'

def skipBlanks (cs : List Char) : List Char := cs.dropWhile isBlank

def scanWord : List Char → List Char → Except Fault (List Char)
  | [], cs => .ok cs
  | _ :: _, [] => .error .truncated
  | expected :: word, c :: cs => if c = expected then scanWord word cs else .error .malformed

def quadValue? (a b c d : Char) : Option Nat := do
  return (((← hexValue? a) * 16 + (← hexValue? b)) * 16 + (← hexValue? c)) * 16 + (← hexValue? d)

/-- What is wrong when fewer than four characters follow: four bytes are looked at. -/
def shortQuadFault (cs : List Char) : Fault :=
  if cs.foldl (fun size c => size + c.utf8Size) 0 < 4 then .truncated else .malformed

def namedEscape? : Char → Option Char
  | '"' => some '"'
  | '\\' => some '\\'
  | '/' => some '/'
  | 'b' => some '\x08'
  | 'f' => some '\x0c'
  | 'n' => some '\n'
  | 'r' => some '\r'
  | 't' => some '\t'
  | _ => none

def isHighSurrogate (n : Nat) : Bool := 0xd800 ≤ n && n ≤ 0xdbff

def isLowSurrogate (n : Nat) : Bool := 0xdc00 ≤ n && n ≤ 0xdfff

def pairedChar (high low : Nat) : Char :=
  Char.ofNat ((high - 0xd800) * 0x400 + (low - 0xdc00) + 0x10000)

/-- The characters of a string up to its closing quote. An escaped surrogate must be followed by the
other half of its pair. -/
def scanString : List Char → Except Fault (List Char × List Char)
  | [] => .error .truncated
  | c :: rest =>
    if c = '"' then .ok ([], rest)
    else if c = '\\' then
      match rest with
      | [] => .error .truncated
      | 'u' :: a :: b :: c :: d :: rest =>
        match quadValue? a b c d with
        | none => .error .malformed
        | some n =>
          if isLowSurrogate n then .error .malformed
          else if isHighSurrogate n then
            match rest with
            | [] => .error .truncated
            | ['\\'] => .error .truncated
            | '\\' :: 'u' :: e :: f :: g :: h :: rest =>
              match quadValue? e f g h with
              | none => .error .malformed
              | some low =>
                if isLowSurrogate low then
                  (scanString rest).map fun (s, rest) => (pairedChar n low :: s, rest)
                else .error .malformed
            | '\\' :: 'u' :: short => .error (shortQuadFault short)
            | _ => .error .malformed
          else (scanString rest).map fun (s, rest) => (Char.ofNat n :: s, rest)
      | 'u' :: short => .error (shortQuadFault short)
      | letter :: rest =>
        match namedEscape? letter with
        | some c => (scanString rest).map fun (s, rest) => (c :: s, rest)
        | none => .error .malformed
    else if c.toNat < 0x20 then .error .malformed
    else (scanString rest).map fun (s, rest) => (c :: s, rest)

/-- Passes over a string; its escaped surrogates need not be paired. -/
def skipString : List Char → Except Fault (List Char)
  | [] => .error .truncated
  | c :: rest =>
    if c = '"' then .ok rest
    else if c = '\\' then
      match rest with
      | [] => .error .truncated
      | 'u' :: a :: b :: c :: d :: rest =>
        if (quadValue? a b c d).isSome then skipString rest else .error .malformed
      | 'u' :: short => .error (shortQuadFault short)
      | letter :: rest => if (namedEscape? letter).isSome then skipString rest else .error .malformed
    else if c.toNat < 0x20 then .error .malformed
    else skipString rest

structure Numeral where
  negative : Bool
  whole : List Char
  fraction : Option (List Char)
  /-- Whether the exponent is negative, and its digits. -/
  exponent : Option (Bool × List Char)
deriving DecidableEq

/-- Digits, of which there must be one; the fault of a text that ends is the caller's. -/
def scanDigits (atEnd : Fault) (cs : List Char) : Except Fault (List Char × List Char) :=
  match cs with
  | [] => .error atEnd
  | c :: _ =>
    if c.isDigit then .ok (cs.takeWhile Char.isDigit, cs.dropWhile Char.isDigit)
    else .error .malformed

def scanWhole (atEnd : Fault) (cs : List Char) : Except Fault (List Char × List Char) :=
  match cs with
  | '0' :: c :: rest => if c.isDigit then .error .malformed else .ok (['0'], c :: rest)
  | _ => scanDigits atEnd cs

def scanFraction (atEnd : Fault) : List Char → Except Fault (Option (List Char) × List Char)
  | '.' :: rest => (scanDigits atEnd rest).map fun (digits, rest) => (some digits, rest)
  | rest => .ok (none, rest)

def scanExponent (atEnd : Fault) (cs : List Char) :
    Except Fault (Option (Bool × List Char) × List Char) :=
  match cs with
  | [] => .ok (none, [])
  | c :: rest =>
    if c = 'e' ∨ c = 'E' then
      let (negative, rest) := match rest with
        | '-' :: rest => (true, rest)
        | '+' :: rest => (false, rest)
        | rest => (false, rest)
      (scanDigits atEnd rest).map fun (digits, rest) => (some (negative, digits), rest)
    else .ok (none, cs)

def scanNumeral (atEnd : Fault) (cs : List Char) : Except Fault (Numeral × List Char) := do
  let (negative, rest) := match cs with
    | '-' :: rest => (true, rest)
    | rest => (false, rest)
  let (whole, rest) ← scanWhole atEnd rest
  let (fraction, rest) ← scanFraction atEnd rest
  let (exponent, rest) ← scanExponent atEnd rest
  return (⟨negative, whole, fraction, exponent⟩, rest)

def startsNumber (c : Char) : Bool := c == '-' || c.isDigit

end StepLatency.Json
