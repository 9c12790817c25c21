import StepLatency.Json.Walk

/-!
# Decoders

A decoder reads a value of one shape. It is told how many containers may still be opened, and
returns what it read with the text that is left.
-/

namespace StepLatency.Json

abbrev Decoder (α : Type) := Nat → List Char → Except Failure (α × List Char)

variable {α β : Type}

def textFault (fault : Fault) : Except Failure α := .error (.text fault)

def liftFault : Except Fault α → Except Failure α
  | .ok a => .ok a
  | .error fault => .error (.text fault)

def mismatch (m : Mismatch) : Except Failure α := .error (.shape m)

/-- Reads on after the value that stands where another kind belongs, to say what it is. -/
def wrongType (expected : String) (cs : List Char) : Except Failure α :=
  match cs with
  | [] => textFault .truncated
  | c :: rest =>
    if c = 'n' then do
      let _ ← liftFault (scanWord "ull".toList rest)
      mismatch (.invalidType .null expected)
    else if c = 't' then do
      let _ ← liftFault (scanWord "rue".toList rest)
      mismatch (.invalidType (.bool true) expected)
    else if c = 'f' then do
      let _ ← liftFault (scanWord "alse".toList rest)
      mismatch (.invalidType (.bool false) expected)
    else if c = '"' then do
      let (s, _) ← liftFault (scanString rest)
      mismatch (.invalidType (.text (String.ofList s)) expected)
    else if c = '[' then mismatch (.invalidType .list expected)
    else if c = '\x7b' then mismatch (.invalidType .object expected)
    else if startsNumber c then do
      let (n, _) ← liftFault (scanNumber (c :: rest))
      mismatch (.invalidType n.found expected)
    else textFault .malformed

namespace Decoder

def number (expected : String) (accept : Number → Except Mismatch α) : Decoder α := fun _ cs =>
  match skipBlanks cs with
  | [] => textFault .truncated
  | c :: rest =>
    if startsNumber c then do
      let (n, rest) ← liftFault (scanNumber (c :: rest))
      match accept n with
      | .ok a => .ok (a, rest)
      | .error m => mismatch m
    else wrongType expected (c :: rest)

def natural (expected : String) (bound : Nat) : Decoder Nat :=
  number expected fun
    | .natural n => if n < bound then .ok n else .error (.invalidValue n expected)
    | .negative n => .error (.invalidValue n expected)
    | .real x => .error (.invalidType (.real x) expected)

def size : Decoder Nat := natural "usize" UInt64.size

def map (f : α → β) (d : Decoder α) : Decoder β := fun room cs =>
  (d room cs).map fun (a, rest) => (f a, rest)

def word : Decoder UInt64 := (natural "u64" UInt64.size).map UInt64.ofNat

def halfWord : Decoder Nat := natural "u32" UInt32.size

def binary64 : Decoder Binary64 := number "f64" fun n => .ok n.toBinary64

def stringExpecting (expected : String) : Decoder String := fun _ cs =>
  match skipBlanks cs with
  | [] => textFault .truncated
  | '"' :: rest => (liftFault (scanString rest)).map fun (s, rest) => (String.ofList s, rest)
  | rest => wrongType expected rest

def string : Decoder String := stringExpecting "a string"

def parsed (expected : String) (parse : String → Except Mismatch α) : Decoder α := fun room cs => do
  let (s, rest) ← stringExpecting expected room cs
  match parse s with
  | .ok a => .ok (a, rest)
  | .error m => mismatch m

def optional (d : Decoder α) : Decoder (Option α) := fun room cs =>
  match skipBlanks cs with
  | 'n' :: rest => (liftFault (scanWord "ull".toList rest)).map fun rest => (none, rest)
  | rest => (d room rest).map fun (a, rest) => (some a, rest)

def enter (room : Nat) (body : Nat → Except Failure α) : Except Failure α :=
  match room with
  | 0 => textFault .malformed
  | room + 1 => body room

/-- Moves to the next item of a list: to its first character, or to the closing bracket. -/
def nextItem (first : Bool) (cs : List Char) : Except Fault (Option (List Char)) :=
  match skipBlanks cs with
  | [] => .error .truncated
  | ']' :: _ => .ok none
  | ',' :: rest =>
    if first then .ok (some (',' :: rest))
    else
      match skipBlanks rest with
      | [] => .error .truncated
      | ']' :: _ => .error .malformed
      | rest => .ok (some rest)
  | rest => if first then .ok (some rest) else .error .malformed

def closeList (cs : List Char) : Except Fault (List Char) :=
  match skipBlanks cs with
  | [] => .error .truncated
  | ']' :: rest => .ok rest
  | _ => .error .malformed

/-- The items of a list up to its closing bracket. Each passes a character of the clock. -/
def itemsFrom (d : Decoder α) (room : Nat) : List Char → Bool → List Char →
    Except Failure (List α × List Char)
  | [], _, _ => textFault .truncated
  | _ :: clock, first, cs => do
    match ← liftFault (nextItem first cs) with
    | none => return ([], cs)
    | some cs =>
      let (a, rest) ← d room cs
      let (items, rest) ← itemsFrom d room clock false rest
      return (a :: items, rest)

def list (d : Decoder α) : Decoder (List α) := fun room cs =>
  match skipBlanks cs with
  | [] => textFault .truncated
  | '[' :: rest =>
    enter room fun room => do
      let (items, rest) ← itemsFrom d room rest true rest
      let rest ← liftFault (closeList rest)
      return (items, rest)
  | rest => wrongType "a sequence" rest

def unit : Decoder Unit := fun _ cs =>
  match skipBlanks cs with
  | [] => textFault .truncated
  | 'n' :: rest => (liftFault (scanWord "ull".toList rest)).map fun rest => ((), rest)
  | rest => wrongType "unit" rest

/-- One of several names, alone or as the only field of an object, whose value is null. -/
def variant (names : List (String × α)) (expected : String) : Decoder α := fun room cs =>
  let named (name : String) : Except Failure α :=
    match names.find? (·.1 == name) with
    | some (_, a) => .ok a
    | none => mismatch (.unknownVariant name expected)
  match skipBlanks cs with
  | [] => textFault .truncated
  | '"' :: rest => do
    let (name, rest) ← liftFault (scanString rest)
    return (← named (String.ofList name), rest)
  | '\x7b' :: rest =>
    enter room fun room => do
      let (name, rest) ← stringExpecting "variant identifier" room rest
      let a ← named name
      let rest ← liftFault (scanColon rest)
      let (_, rest) ← unit room rest
      match skipBlanks rest with
      | [] => textFault .truncated
      | '\x7d' :: rest => return (a, rest)
      | _ => textFault .malformed
  | _ => textFault .malformed

def maxDepth : Nat := 127

def decode (d : Decoder α) (text : String) : Except Failure α := do
  let (a, rest) ← d maxDepth text.toList
  if (skipBlanks rest).isEmpty then return a else textFault .malformed

end Decoder

end StepLatency.Json
