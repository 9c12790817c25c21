/-!
# Patterns

A pattern stands for a set of texts: it is built from characters, classes of characters and
assertions by repetition, sequence and choice. Flags change how a pattern is read or what it stands
for. They are set for a group, or from a place on to the end of the group around it.
-/

namespace StepLatency

namespace Pattern

inductive Flag
  | ignoreCase
  | multiLine
  | dotMatchesNewline
  | swapGreed
  | unicode
  | carriageReturns
  | ignoreBlanks
deriving DecidableEq

def Flag.all : List Flag :=
  [.ignoreCase, .multiLine, .dotMatchesNewline, .swapGreed, .unicode, .carriageReturns,
   .ignoreBlanks]

def Flag.letter : Flag → Char
  | .ignoreCase => 'i'
  | .multiLine => 'm'
  | .dotMatchesNewline => 's'
  | .swapGreed => 'U'
  | .unicode => 'u'
  | .carriageReturns => 'R'
  | .ignoreBlanks => 'x'

def Flag.ofLetter? (c : Char) : Option Flag := all.find? (·.letter == c)

theorem Flag.ofLetter?_letter (flag : Flag) : ofLetter? flag.letter = some flag := by
  cases flag <;> rfl

structure Flags where
  on : List Flag
  off : List Flag
deriving DecidableEq

namespace Flags

def empty : Flags := ⟨[], []⟩

def mentions (f : Flags) (flag : Flag) : Bool := f.on.contains flag || f.off.contains flag

def state (f : Flags) (flag : Flag) (before : Bool) : Bool :=
  if f.on.contains flag then true else if f.off.contains flag then false else before

end Flags

structure Literal where
  char : Char
  /-- Whether it was given by the two hexadecimal digits of a byte. -/
  isByte : Bool
deriving DecidableEq

inductive Assertion
  | lineStart
  | lineEnd
  | textStart
  | textEnd
  | wordBoundary
  | noWordBoundary
  | wordStart
  | wordEnd
deriving DecidableEq

def Assertion.isAboutWords : Assertion → Bool
  | .lineStart | .lineEnd | .textStart | .textEnd => false
  | .wordBoundary | .noWordBoundary | .wordStart | .wordEnd => true

inductive Shorthand
  | digit
  | blank
  | word
deriving DecidableEq

inductive SetOperator
  | intersection
  | difference
  | symmetricDifference
deriving DecidableEq

/-- The names of classes that are written inside a class, between colons and brackets. -/
def classNames : List String :=
  ["alnum", "alpha", "ascii", "blank", "cntrl", "digit", "graph", "lower", "print", "punct",
   "space", "upper", "word", "xdigit"]

inductive CharSet
  | literal (l : Literal)
  | range (first last : Literal)
  | named (negated : Bool) (name : String)
  | shorthand (negated : Bool) (s : Shorthand)
  | bracketed (negated : Bool) (set : CharSet)
  | union (sets : List CharSet)
  | operation (operator : SetOperator) (left right : CharSet)

inductive Repetition
  | atMostOnce
  | anyNumber
  | atLeastOnce
deriving DecidableEq

end Pattern

open Pattern in
inductive Pattern
  | flags (f : Flags)
  | literal (l : Literal)
  | anyChar
  | assertion (a : Assertion)
  | shorthand (negated : Bool) (s : Shorthand)
  | chars (negated : Bool) (set : CharSet)
  | repetition (r : Repetition) (greedy : Bool) (p : Pattern)
  | group (f : Flags) (p : Pattern)
  | sequence (ps : List Pattern)
  | choice (ps : List Pattern)

namespace Pattern

/-! ### Depth

Parts that hold others count one level each; a sequence, a choice or a union of a single part is that
part.
-/

def depthOfParts (count deepest : Nat) : Nat := if count < 2 then deepest else deepest + 1

mutual

def CharSet.depth : CharSet → Nat
  | .literal _ => 0
  | .range _ _ => 0
  | .named _ _ => 0
  | .shorthand _ _ => 0
  | .bracketed _ set => set.depth + 1
  | .union sets => depthOfParts sets.length (CharSet.deepest sets)
  | .operation _ left right => max left.depth right.depth + 1

def CharSet.deepest : List CharSet → Nat
  | [] => 0
  | set :: rest => max set.depth (CharSet.deepest rest)

end

mutual

def depth : Pattern → Nat
  | .flags _ => 0
  | .literal _ => 0
  | .anyChar => 0
  | .assertion _ => 0
  | .shorthand _ _ => 0
  | .chars _ set => set.depth + 1
  | .repetition _ _ p => p.depth + 1
  | .group _ p => p.depth + 1
  | .sequence ps => depthOfParts ps.length (deepest ps)
  | .choice ps => depthOfParts ps.length (deepest ps)

def deepest : List Pattern → Nat
  | [] => 0
  | p :: rest => max p.depth (deepest rest)

end

end Pattern

end StepLatency
