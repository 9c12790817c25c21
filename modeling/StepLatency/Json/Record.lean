import StepLatency.Json.Decoder

/-!
# Records

A record is written as an object, whose fields come in any order, or as a list of all its fields in
their order. While it is read, its fields are collected in a draft; a finished draft is turned into
the record, or a field is missing.
-/

namespace StepLatency.Json

variable {α π ρ : Type}

/-- A field of a record with drafts of type `π`. -/
structure Field (π : Type) where
  name : String
  isRead : π → Bool
  read : π → Decoder π

def Field.of (name : String) (d : Decoder α) (get : π → Option α) (set : π → α → π) : Field π where
  name := name
  isRead p := (get p).isSome
  read p := d.map (set p)

structure Schema (π ρ : Type) where
  /-- How the record is called where something else stands. -/
  type : String
  fields : List (Field π)
  /-- The draft without fields. -/
  blank : π
  finish : π → Except Mismatch ρ
  /-- What is expected of a list that is too short. -/
  listType : String
  /-- The names that are expected where others are refused; else others are skipped. -/
  closedNames : Option String

def required (name : String) : Option α → Except Mismatch α
  | some a => .ok a
  | none => .error (.missingField name)

def structType (name : String) : String := s!"struct {name}"

def structListType (name : String) (count : Nat) : String :=
  s!"struct {name} with {count} elements"

/-- Moves to the next field of an object: past the opening quote of its name, or to the closing
brace. -/
def nextName (first : Bool) (cs : List Char) : Except Fault (Option (List Char)) :=
  match skipBlanks cs with
  | [] => .error .truncated
  | '\x7d' :: _ => .ok none
  | '"' :: rest => if first then .ok (some rest) else .error .malformed
  | ',' :: rest =>
    if first then .error .malformed
    else
      match skipBlanks rest with
      | [] => .error .truncated
      | '"' :: rest => .ok (some rest)
      | _ => .error .malformed
  | _ => .error .malformed

def closeObject (cs : List Char) : Except Fault (List Char) :=
  match skipBlanks cs with
  | [] => .error .truncated
  | '\x7d' :: rest => .ok rest
  | _ => .error .malformed

namespace Schema

variable (schema : Schema π ρ)

def readField (room : Nat) (p : π) (name : String) (cs : List Char) :
    Except Failure (π × List Char) :=
  match schema.fields.find? (·.name == name) with
  | some field =>
    if field.isRead p then mismatch (.duplicateField name)
    else do field.read p room (← liftFault (scanColon cs))
  | none =>
    match schema.closedNames with
    | some expected => mismatch (.unknownField name expected)
    | none => do
      let cs ← liftFault (scanColon cs)
      return (p, ← liftFault (Care.lenient.walk cs))

/-- The fields of an object up to its closing brace. Each passes a character of the clock. -/
def fieldsFrom (room : Nat) : List Char → Bool → π → List Char → Except Failure (π × List Char)
  | [], _, _, _ => textFault .truncated
  | _ :: clock, first, p, cs => do
    match ← liftFault (nextName first cs) with
    | none => return (p, cs)
    | some cs =>
      let (name, rest) ← liftFault (scanString cs)
      let (p, rest) ← schema.readField room p (String.ofList name) rest
      fieldsFrom room clock false p rest

def itemsFrom (room : Nat) (p : π) (count : Nat) : List (Field π) → List Char →
    Except Failure (π × List Char)
  | [], cs => .ok (p, cs)
  | field :: fields, cs => do
    match ← liftFault (Decoder.nextItem (count == 0) cs) with
    | none => mismatch (.invalidLength count schema.listType)
    | some cs =>
      let (p, rest) ← field.read p room cs
      itemsFrom room p (count + 1) fields rest

def finished (p : π) : Except Failure ρ :=
  match schema.finish p with
  | .ok r => .ok r
  | .error m => mismatch m

def decoder : Decoder ρ := fun room cs =>
  match skipBlanks cs with
  | [] => textFault .truncated
  | '[' :: rest =>
    Decoder.enter room fun room => do
      let (p, rest) ← schema.itemsFrom room schema.blank 0 schema.fields rest
      let r ← schema.finished p
      return (r, ← liftFault (Decoder.closeList rest))
  | '\x7b' :: rest =>
    Decoder.enter room fun room => do
      let (p, rest) ← schema.fieldsFrom room rest true schema.blank rest
      let r ← schema.finished p
      return (r, ← liftFault (closeObject rest))
  | rest => wrongType schema.type rest

end Schema

end StepLatency.Json
