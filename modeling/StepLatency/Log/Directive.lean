import StepLatency.Decimal.Reader
import StepLatency.Log.Event
import StepLatency.Pattern.Reader
import StepLatency.Text.Alphanumeric
import StepLatency.Text.Blank

/-!
# Directives for the log

A directive sets a limit of detail for some events: for those whose topic begins with its target, and
which have its field if it names one. It is written as a target, then a span and a field in brackets,
then an equals sign and the limit; any part may be missing. A limit alone is for all targets, and a
target alone lets everything through.

The marks between the parts are looked for in the text without the blanks around it, but the parts
are cut from the whole text. So blanks at its end belong to the last part, and blanks at its start
move every cut to the left.
-/

namespace StepLatency.Log

/-- A field that is asked for, by its name alone or with a value: a number, or a pattern for texts. -/
structure FieldPattern where
  name : String
  value : Option String
deriving DecidableEq

structure Directive where
  target : Option String
  span : Option String
  field : Option FieldPattern
  /-- The detail that is let through, zero for nothing. -/
  limit : Nat
deriving DecidableEq

def unlimitedDetail : Nat := Level.trace.detail

def readLimit? (text : String) : Option Nat :=
  match Decimal.readNatural UInt64.size text.toList with
  | .ok n => if n ≤ unlimitedDetail then some n else none
  | .error _ =>
    let name := String.ofList (text.toList.map Char.toLower)
    if name = "off" then some 0 else (Level.ofName? name).map (·.detail)

def isFieldValue (text : String) : Bool :=
  (Decimal.readBinary64 text.toList).isOk || Pattern.isMatchable text

/-- A name, and a value after an equals sign; what stands after a second one is not read. -/
def readField? (text : String) : Option FieldPattern :=
  match text.toList.takeWhile (· != '='), text.toList.dropWhile (· != '=') with
  | [], [] => none
  | name, [] => some ⟨String.ofList name, none⟩
  | name, _ :: rest =>
    let value := String.ofList (rest.takeWhile (· != '='))
    if isFieldValue value then some ⟨String.ofList name, some value⟩ else none

/-- The text between two places, which are counted in bytes; there is none if one of them lies inside
a character. -/
def cut? (text : String) (first last : Nat) : Option String :=
  String.fromUTF8? (text.toUTF8.extract first last)

/-- The characters that a directive may begin with, apart from a bracket. -/
def canBegin (c : Char) : Bool := c == '-' || c == ':' || c == '_' || Text.isAlphanumeric c

inductive Part
  | beginning
  | limitOrTarget (first : Nat)
  | span (first : Nat)
  | field (first : Nat)
  | afterField
  | afterBrackets
  | limit (first : Nat)
deriving DecidableEq

namespace Directive

def unlimited : Directive := ⟨none, none, none, unlimitedDetail⟩

def ofLevel (level : Level) : Directive := { unlimited with limit := level.detail }

def step (text : String) (d : Directive) (part : Part) (place : Nat) (c : Char) :
    Option (Directive × Part) :=
  match part with
  | .beginning =>
    if c = '[' then some (d, .span (place + 1))
    else if canBegin c then some (d, .limitOrTarget place)
    else none
  | .limitOrTarget first =>
    if c = '=' then
      (cut? text first place).map fun target => ({ d with target := some target }, .limit (place + 1))
    else if c = '[' then
      (cut? text first place).map fun target => ({ d with target := some target }, .span (place + 1))
    else some (d, part)
  | .span first =>
    if c = ']' then
      (cut? text first place).map fun span => ({ d with span := some span }, .afterBrackets)
    else if c = '\x7b' then
      (cut? text first place).map fun span =>
        ({ d with span := if span.isEmpty then none else some span }, .field (place + 1))
    else some (d, part)
  | .field first =>
    if c = '\x7d' then
      ((cut? text first place).bind readField?).map fun field =>
        ({ d with field := some field }, .afterField)
    else some (d, part)
  | .afterField => if c = ']' then some (d, .afterBrackets) else none
  | .afterBrackets => if c = '=' then some (d, .limit (place + 1)) else none
  | .limit _ => some (d, part)

def finish? (text : String) (d : Directive) : Part → Option Directive
  | .limitOrTarget first =>
    (cut? text first text.utf8ByteSize).map fun last =>
      match readLimit? last with
      | some limit => { d with limit }
      | none => { d with target := some last }
  | .limit first =>
    (cut? text first text.utf8ByteSize).bind fun last =>
      if last.isEmpty then some d else (readLimit? last).map fun limit => { d with limit }
  | .afterBrackets => some d
  | .beginning | .span _ | .field _ | .afterField => none

def readFrom? (text : String) (d : Directive) (part : Part) (place : Nat) :
    List Char → Option Directive
  | [] => finish? text d part
  | c :: rest =>
    match step text d part place c with
    | some (d, part) => readFrom? text d part (place + c.utf8Size) rest
    | none => none

def read? (text : String) : Option Directive :=
  readFrom? text unlimited .beginning 0 (Text.trim text.toList)

/-- Whether a directive is about events by themselves. A span or the value of a field make it one
about what happens within spans. -/
def isAboutEvents (d : Directive) : Bool := d.span.isNone && !d.field.any (·.value.isSome)

def appliesTo (d : Directive) (e : Event) : Bool :=
  d.isAboutEvents && d.target.all (fun target => target.toList.isPrefixOf e.topic.name.toList) &&
    d.field.all fun field => e.fieldNames.contains field.name

/-- How narrow the target is; no target is the widest. -/
def targetSize (d : Directive) : Nat :=
  match d.target with
  | some target => target.utf8ByteSize + 1
  | none => 0

/-- Whether a directive leaves the decision to another one: to one with a narrower target, or with a
field where the targets are alike, or to a later one that is as narrow. -/
def yieldsTo (earlier later : Directive) : Bool :=
  if earlier.targetSize = later.targetSize then later.field.isSome || earlier.field.isNone
  else earlier.targetSize < later.targetSize

end Directive

end StepLatency.Log
