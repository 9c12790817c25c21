import StepLatency.Pattern.Basic

/-!
# Patterns that can be matched

A pattern is matched on text without knowledge of which characters are letters or how their cases
correspond. So where it is about characters, it cannot ask for shorthands, for the boundaries of
words, or for a match in any case. Where it is about bytes, it can, as long as what it matches is
still text: no byte beyond the ASCII set may match by itself, and so no class may be negated.
-/

namespace StepLatency.Pattern

/-- The flags that decide on what can be matched. -/
structure Modes where
  unicode : Bool
  ignoreCase : Bool
deriving DecidableEq

namespace Modes

def default : Modes := ⟨true, false⟩

def change (m : Modes) (f : Flags) : Modes :=
  ⟨f.state .unicode m.unicode, f.state .ignoreCase m.ignoreCase⟩

end Modes

def isASCII (c : Char) : Bool := c.toNat < 0x80

def Literal.isSupported (m : Modes) (l : Literal) : Bool :=
  if m.unicode then !m.ignoreCase else !l.isByte || isASCII l.char

def Literal.isSupportedInClass (m : Modes) (l : Literal) : Bool :=
  if m.unicode then !m.ignoreCase else isASCII l.char

mutual

def CharSet.isSupported (m : Modes) : CharSet → Bool
  | .literal l => l.isSupportedInClass m
  | .range first last => first.isSupportedInClass m && last.isSupportedInClass m
  | .named negated _ => if m.unicode then !m.ignoreCase else !negated
  | .shorthand negated _ => !m.unicode && !negated
  | .bracketed negated set => (m.unicode || !negated) && set.isSupported m
  | .union sets => CharSet.areSupported m sets
  | .operation _ left right => left.isSupported m && right.isSupported m

def CharSet.areSupported (m : Modes) : List CharSet → Bool
  | [] => true
  | set :: rest => set.isSupported m && CharSet.areSupported m rest

end

def Modes.provided (m : Modes) (condition : Bool) : Option Modes := if condition then some m else none

mutual

/-- The modes after a pattern, if it can be matched in the modes before it. -/
def modesAfter? (m : Modes) : Pattern → Option Modes
  | .flags f => some (m.change f)
  | .literal l => m.provided (l.isSupported m)
  | .anyChar => m.provided m.unicode
  | .assertion a => m.provided (!m.unicode || !a.isAboutWords)
  | .shorthand negated _ => m.provided (!m.unicode && !negated)
  | .chars negated set => m.provided ((m.unicode || !negated) && set.isSupported m)
  | .repetition _ _ p => p.modesAfter? m
  | .group f p => (p.modesAfter? (m.change f)).map fun _ => m
  | .sequence ps => modesAfterAll? m ps
  | .choice ps => modesAfterAll? m ps

/-- The modes after patterns that stand one after the other; the branches of a choice do so as well. -/
def modesAfterAll? (m : Modes) : List Pattern → Option Modes
  | [] => some m
  | p :: rest =>
    match p.modesAfter? m with
    | some m => modesAfterAll? m rest
    | none => none

end

def maxDepth : Nat := 250

def isSupported (p : Pattern) : Bool := p.depth ≤ maxDepth && (p.modesAfter? .default).isSome

end StepLatency.Pattern
