import StepLatency.Pattern.ClassReader
import StepLatency.Pattern.Support
import StepLatency.Text.Alphanumeric

/-!
# Reading patterns

A pattern is read item by item, with a stack of the groups that are open. What a flag for blanks does
is a matter of reading: it holds up to the end of the group in which it was set. A count in braces
does not occur in the texts that are read here, and so an opening brace is no pattern.
-/

namespace StepLatency.Pattern

structure OpenGroup where
  flags : Flags
  /-- The items before the group in its branch, the last first. -/
  items : List Pattern
  /-- The branches before that one, the last first. -/
  branches : List Pattern
  ignoreBlanks : Bool

structure Reading where
  /-- The items of the branch that is read, the last first. -/
  items : List Pattern
  /-- The branches before it in the same group, the last first. -/
  branches : List Pattern
  groups : List OpenGroup
  ignoreBlanks : Bool
  /-- The names of groups so far. -/
  names : List String

namespace Reading

def start : Reading := ⟨[], [], [], false, []⟩

def push (r : Reading) (p : Pattern) : Reading := { r with items := p :: r.items }

def branch (r : Reading) : Pattern := .sequence r.items.reverse

def content (r : Reading) : Pattern := .choice (r.branch :: r.branches).reverse

def nextBranch (r : Reading) : Reading := { r with items := [], branches := r.branch :: r.branches }

def openGroup (r : Reading) (f : Flags) : Reading :=
  { r with
    items := []
    branches := []
    groups := ⟨f, r.items, r.branches, r.ignoreBlanks⟩ :: r.groups
    ignoreBlanks := f.state .ignoreBlanks r.ignoreBlanks }

def closeGroup? (r : Reading) : Option Reading :=
  match r.groups with
  | [] => none
  | g :: groups =>
    some
      { r with
        items := .group g.flags r.content :: g.items
        branches := g.branches
        groups
        ignoreBlanks := g.ignoreBlanks }

def setFlags (r : Reading) (f : Flags) : Reading :=
  { r.push (.flags f) with ignoreBlanks := f.state .ignoreBlanks r.ignoreBlanks }

/-- Repeats the last item; there must be one, and flags are none. -/
def repeatLast? (r : Reading) (how : Repetition) (greedy : Bool) : Option Reading :=
  match r.items with
  | [] => none
  | .flags _ :: _ => none
  | p :: items => some { r with items := .repetition how greedy p :: items }

def finish? (r : Reading) : Option Pattern := if r.groups.isEmpty then some r.content else none

end Reading

/-! ### Groups -/

def canBeginName (c : Char) : Bool := c == '_' || Text.isAlphabetic c

def canBeInName (c : Char) : Bool := ['_', '.', '[', ']'].contains c || Text.isAlphanumeric c

def readName? (cs : List Char) : Option (String × List Char) :=
  match cs.takeWhile (· != '>'), cs.dropWhile (· != '>') with
  | first :: others, '>' :: rest =>
    if canBeginName first && others.all canBeInName then
      some (String.ofList (first :: others), rest)
    else none
  | _, _ => none

/-- The flags up to a colon or parenthesis, which the rest begins with. One minus sign may stand
before those that are turned off, and no flag may be there twice. -/
def readFlags? (f : Flags) (negated afterMinus : Bool) : List Char → Option (Flags × List Char)
  | [] => none
  | c :: rest =>
    if c = ':' ∨ c = ')' then if afterMinus then none else some (f, c :: rest)
    else if c = '-' then if negated then none else readFlags? f true true rest
    else
      match Flag.ofLetter? c with
      | none => none
      | some flag =>
        if f.mentions flag then none
        else
          let f := if negated then { f with off := flag :: f.off } else { f with on := flag :: f.on }
          readFlags? f negated false rest

namespace Reading

def openNamed? (r : Reading) (cs : List Char) : Option (Reading × List Char) := do
  let (name, rest) ← readName? cs
  if r.names.contains name then none
  else some ({ r.openGroup .empty with names := name :: r.names }, rest)

/-- What stands after an opening parenthesis: a name, flags for the group or for the rest of the
group around it, or nothing. -/
def readOpening? (r : Reading) (cs : List Char) : Option (Reading × List Char) :=
  match skipBlanks r.ignoreBlanks cs with
  | '?' :: 'P' :: '<' :: rest => r.openNamed? rest
  | '?' :: '<' :: rest => r.openNamed? rest
  | '?' :: rest =>
    match readFlags? .empty false false rest with
    | some (f, ':' :: rest) => some (r.openGroup f, rest)
    | some (f, ')' :: rest) => if f = .empty then none else some (r.setFlags f, rest)
    | _ => none
  | rest => some (r.openGroup .empty, rest)

/-- The repetition of the last item; a question mark after its mark makes it reluctant. -/
def readRepetition? (r : Reading) (how : Repetition) : List Char → Option (Reading × List Char)
  | '?' :: rest => (r.repeatLast? how false).map (·, rest)
  | rest => (r.repeatLast? how true).map (·, rest)

def step? (r : Reading) (c : Char) (rest : List Char) : Option (Reading × List Char) :=
  match c with
  | '(' => r.readOpening? rest
  | ')' => r.closeGroup?.map (·, rest)
  | '|' => some (r.nextBranch, rest)
  | '[' =>
    (readClass? r.ignoreBlanks rest).map fun (negated, set, rest) =>
      (r.push (.chars negated set), rest)
  | '?' => r.readRepetition? .atMostOnce rest
  | '*' => r.readRepetition? .anyNumber rest
  | '+' => r.readRepetition? .atLeastOnce rest
  | '\x7b' => none
  | '\\' =>
    (readEscape? r.ignoreBlanks rest).map fun
      | (.literal l, rest) => (r.push (.literal l), rest)
      | (.shorthand negated s, rest) => (r.push (.shorthand negated s), rest)
      | (.assertion a, rest) => (r.push (.assertion a), rest)
  | '.' => some (r.push .anyChar, rest)
  | '^' => some (r.push (.assertion .lineStart), rest)
  | '$' => some (r.push (.assertion .lineEnd), rest)
  | c => some (r.push (.literal ⟨c, false⟩), rest)

/-- Reads on to the end of the text, which is also the clock: every step passes a character. -/
def readFrom? : List Char → Reading → List Char → Option Pattern
  | clock, r, cs =>
    match skipBlanks r.ignoreBlanks cs, clock with
    | [], _ => r.finish?
    | _, [] => none
    | c :: rest, _ :: clock =>
      match r.step? c rest with
      | some (r, rest) => readFrom? clock r rest
      | none => none

end Reading

def read? (text : String) : Option Pattern := Reading.readFrom? text.toList .start text.toList

def isMatchable (text : String) : Bool := (read? text).any (·.isSupported)

end StepLatency.Pattern
