import StepLatency.Pattern.Escape

/-!
# Reading classes of characters

A class is read with a stack of the classes that are open around the place that is read. The text
itself is the clock: every step but the last passes a character.
-/

namespace StepLatency.Pattern

structure OpenClass where
  negated : Bool
  /-- What was read since the last operator, the last part first. -/
  parts : List CharSet
  /-- What stands before the last operator, and the operator. -/
  operand : Option (CharSet × SetOperator)

namespace OpenClass

def push (o : OpenClass) (set : CharSet) : OpenClass := { o with parts := set :: o.parts }

/-- All that was read; operators group to the left. -/
def set (o : OpenClass) : CharSet :=
  let last := CharSet.union o.parts.reverse
  match o.operand with
  | some (left, operator) => .operation operator left last
  | none => last

def operate (o : OpenClass) (operator : SetOperator) : OpenClass :=
  ⟨o.negated, [], some (o.set, operator)⟩

end OpenClass

def minus : Literal := ⟨'-', false⟩

/-- The minus signs at the start of a class, which stand for themselves, and the text after them. -/
def readMinuses (ignoreBlanks : Bool) : List Char → List Char → List CharSet × List Char
  | [], cs => ([], cs)
  | _ :: clock, cs =>
    match cs with
    | '-' :: rest =>
      let (parts, rest) := readMinuses ignoreBlanks clock (skipBlanks ignoreBlanks rest)
      (.literal minus :: parts, rest)
    | rest => ([], rest)

/-- The start of a class, after its bracket: a bracket that would close it at once stands for
itself. -/
def openClass (ignoreBlanks : Bool) (cs : List Char) : OpenClass × List Char :=
  let (negated, rest) := match skipBlanks ignoreBlanks cs with
    | '^' :: rest => (true, skipBlanks ignoreBlanks rest)
    | rest => (false, rest)
  match readMinuses ignoreBlanks rest rest with
  | ([], ']' :: rest) => (⟨negated, [.literal ⟨']', false⟩], none⟩, rest)
  | (parts, rest) => (⟨negated, parts, none⟩, rest)

def readNamed? (cs : List Char) : Option (CharSet × List Char) :=
  match cs with
  | ':' :: rest =>
    let (negated, rest) := match rest with
      | '^' :: rest => (true, rest)
      | rest => (false, rest)
    let name := String.ofList (rest.takeWhile (· != ':'))
    match rest.dropWhile (· != ':') with
    | ':' :: ']' :: rest => if classNames.contains name then some (.named negated name, rest) else none
    | _ => none
  | _ => none

def readItem? (ignoreBlanks : Bool) : List Char → Option (Escape × List Char)
  | [] => none
  | '\\' :: rest => readEscape? ignoreBlanks rest
  | c :: rest => some (.literal ⟨c, false⟩, rest)

/-- The character after a minus sign, which decides whether the sign makes a range. Blanks before it
are passed over, and so are a comment mark and the blanks after that. -/
def glance? (ignoreBlanks : Bool) (cs : List Char) : Option Char :=
  if ignoreBlanks then
    match cs.dropWhile Text.isBlank with
    | '#' :: rest => (rest.dropWhile Text.isBlank).head?
    | rest => rest.head?
  else cs.head?

def rangeFollows (ignoreBlanks : Bool) : List Char → Bool
  | '-' :: rest => glance? ignoreBlanks rest ≠ some ']' && glance? ignoreBlanks rest ≠ some '-'
  | _ => false

/-- A single item as a set; assertions are none. -/
def Escape.set? : Escape → Option CharSet
  | .literal l => some (.literal l)
  | .shorthand negated s => some (.shorthand negated s)
  | .assertion _ => none

def rangeOf? : Escape → Escape → Option CharSet
  | .literal first, .literal last =>
    if first.char ≤ last.char then some (.range first last) else none
  | _, _ => none

def readRange? (ignoreBlanks : Bool) (cs : List Char) : Option (CharSet × List Char) := do
  let (first, rest) ← readItem? ignoreBlanks cs
  let rest := skipBlanks ignoreBlanks rest
  if rangeFollows ignoreBlanks rest then
    let (last, rest) ← readItem? ignoreBlanks (skipBlanks ignoreBlanks rest.tail)
    return (← rangeOf? first last, rest)
  else return (← first.set?, rest)

def operator? : List Char → Option (SetOperator × List Char)
  | '&' :: '&' :: rest => some (.intersection, rest)
  | '-' :: '-' :: rest => some (.difference, rest)
  | '~' :: '~' :: rest => some (.symmetricDifference, rest)
  | _ => none

/-- Reads on inside a class, the `outer` ones being open around it, up to the end of the outermost. -/
def readClassFrom? (ignoreBlanks : Bool) : List Char → OpenClass → List OpenClass → List Char →
    Option (Bool × CharSet × List Char)
  | [], _, _, _ => none
  | _ :: clock, o, outer, cs =>
    match skipBlanks ignoreBlanks cs with
    | [] => none
    | '[' :: rest =>
      match readNamed? rest with
      | some (set, rest) => readClassFrom? ignoreBlanks clock (o.push set) outer rest
      | none =>
        let (inner, rest) := openClass ignoreBlanks rest
        readClassFrom? ignoreBlanks clock inner (o :: outer) rest
    | ']' :: rest =>
      match outer with
      | [] => some (o.negated, o.set, rest)
      | next :: outer =>
        readClassFrom? ignoreBlanks clock (next.push (.bracketed o.negated o.set)) outer rest
    | rest =>
      match operator? rest with
      | some (operator, rest) => readClassFrom? ignoreBlanks clock (o.operate operator) outer rest
      | none =>
        match readRange? ignoreBlanks rest with
        | some (set, rest) => readClassFrom? ignoreBlanks clock (o.push set) outer rest
        | none => none

def readClass? (ignoreBlanks : Bool) (cs : List Char) : Option (Bool × CharSet × List Char) :=
  let (o, rest) := openClass ignoreBlanks cs
  readClassFrom? ignoreBlanks cs o [] rest

end StepLatency.Pattern
