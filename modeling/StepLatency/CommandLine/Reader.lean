import StepLatency.CommandLine.Settings
import StepLatency.CommandLine.UsageError

/-!
# Reading command lines

Words are read from left to right. A value may be joined to its argument or be the next word; in the
second case it is kept until the next known argument or the end is met, and only then looked at, so
that an unknown word before that point is reported first. After a word of two dashes nothing is an
argument any more.
-/

namespace StepLatency.CommandLine

structure State where
  settings : Settings
  /-- The operations given so far. -/
  operations : List OperationSpec
  /-- The arguments given so far. -/
  given : List Argument
  /-- The last argument, if it has not been looked at yet, and its value. -/
  pending : Option (Argument × Option String)
  /-- Whether a word of two dashes has been met. -/
  dashed : Bool

abbrev Reading (α : Type) := Except Interruption α

def fail {α : Type} (e : UsageError) : Reading α := .error (.usage e)

namespace State

def initial : State := ⟨.default, [], [], none, false⟩

def withNatural (s : State) (a : Argument) (value : String) (set : Nat → Settings) : Reading State :=
  match Decimal.readNatural UInt64.size value.toList with
  | .ok n => .ok { s with settings := set n }
  | .error fault => fail (.invalidValue a value (.integer fault))

def withWord (s : State) (a : Argument) (value : String) (set : UInt64 → Settings) : Reading State :=
  s.withNatural a value fun n => set (UInt64.ofNat n)

def withValue (s : State) (a : Argument) (value : String) : Reading State :=
  match a with
  | .operation =>
    match OperationSpec.parse value with
    | .ok spec => .ok { s with operations := s.operations ++ [spec] }
    | .error fault => fail (.invalidValue a value (.operation fault))
  | .threads => s.withNatural a value fun n => { s.settings with threads := some n }
  | .opsPerThread => s.withNatural a value fun n => { s.settings with opsPerThread := n }
  | .minStepLatency => s.withWord a value fun n => { s.settings with minStepLatency := n }
  | .maxStepLatency => s.withWord a value fun n => { s.settings with maxStepLatency := n }
  | .pacingDelay => s.withWord a value fun n => { s.settings with pacingDelay := n }
  | .seed => s.withWord a value fun n => { s.settings with seed := some n }
  | .negativeSampleRate =>
    match Decimal.readBinary64 value.toList with
    | .ok x => .ok { s with settings := { s.settings with negativeSampleRate := x } }
    | .error fault => fail (.invalidValue a value (.decimal fault))
  | .format =>
    if value.isEmpty then fail (.missingValue a)
    else
      match ExportFormat.ofName? value with
      | some f => .ok { s with settings := { s.settings with format := f } }
      | none => fail (.unknownChoice a value)
  | .outputFile =>
    if value.isEmpty then fail (.missingValue a)
    else .ok { s with settings := { s.settings with outputFile := some value } }
  | .verbose => .ok s
  | .help => .ok s
  | .version => .ok s

/-- Marks an argument as given; all but operations may be given once. -/
def mark (s : State) (a : Argument) : Reading State :=
  if a ∈ s.given ∧ !a.isRepeatable then fail (.repeated a)
  else .ok { s with given := a :: s.given }

def takeValue (s : State) (a : Argument) : Option String → Reading State
  | none => fail (.missingValue a)
  | some value => do (← s.mark a).withValue a value

def resolve (s : State) : Reading State :=
  match s.pending with
  | none => .ok s
  | some (a, value) => { s with pending := none }.takeValue a value

/-- Takes an argument without a value; `long` says in which form it was written. -/
def takeFlag (s : State) (a : Argument) (long : Bool) : Reading State := do
  let s ← s.resolve
  match a with
  | .help => throw (.help long)
  | .version => throw .version
  | _ =>
    let s ← s.mark a
    return { s with settings := { s.settings with verbose := true } }

def keep (s : State) (a : Argument) (value : Option String) : Reading State := do
  let s ← s.resolve
  match value with
  | some value => s.takeValue a (some value)
  | none => return { s with pending := some (a, none) }

/-- A word that begins with two dashes: a name, and perhaps an equals sign and a value. -/
def readLong (s : State) (word : List Char) : Reading State :=
  let name := String.ofList (word.takeWhile (· != '='))
  let value := match word.dropWhile (· != '=') with
    | [] => none
    | _ :: value => some (String.ofList value)
  match Argument.ofLong? name, value with
  | none, _ => fail (.unknownArgument ("--" ++ name))
  | some a, value =>
    if a.takesValue then s.keep a value
    else
      match value with
      | some value => fail (.unneededValue a value)
      | none => s.takeFlag a true

/-- The letters after a single dash. The first that takes a value takes the rest of the word, from
which an equals sign is dropped. -/
def readShorts (s : State) : List Char → Reading State
  | [] => .ok s
  | c :: rest =>
    match Argument.ofShort? c with
    | none => fail (.unknownArgument (String.ofList ['-', c]))
    | some a =>
      if a.takesValue then
        match rest with
        | [] => s.keep a none
        | '=' :: value => s.keep a (some (String.ofList value))
        | value => s.keep a (some (String.ofList value))
      else do (← s.takeFlag a false).readShorts rest

/-- A word that is no argument: the value of the one before it, or a stray word. -/
def readPlain (s : State) (word : String) : Reading State :=
  match s.pending with
  | some (a, none) => .ok { s with pending := some (a, some word) }
  | _ => fail (.unknownArgument word)

def readWord (s : State) (word : String) : Reading State :=
  if s.dashed then fail (.unknownArgument word)
  else
    match word.toList with
    | ['-', '-'] => .ok { s with dashed := true }
    | '-' :: '-' :: rest => s.readLong rest
    | ['-'] => s.readPlain word
    | '-' :: rest => s.readShorts rest
    | _ => s.readPlain word

def finish (s : State) : Reading Settings := do
  let s ← s.resolve
  if s.operations.isEmpty then return s.settings
  else return { s.settings with operations := s.operations }

end State

def read (words : List String) : Reading Settings := do
  (← words.foldlM State.readWord State.initial).finish

end StepLatency.CommandLine
