import StepLatency.Json.Number

/-!
# Walking over a value

A value that is not looked at is walked over with a stack of the containers that are open. A lenient
walk accepts any depth, numbers of any size and lone surrogates; a strict one accepts what a reader
of values would. The walk is measured by a clock: every step but the last passes a character.
-/

namespace StepLatency.Json

inductive Container
  | list
  | object
deriving DecidableEq

/-- How a walk treats what it passes over: leniently, or with room for so many containers. -/
inductive Care
  | lenient
  | strict (room : Nat)
deriving DecidableEq

namespace Care

def admits : Care → List Container → Bool
  | .lenient, _ => true
  | .strict room, stack => stack.length ≤ room

def string : Care → List Char → Except Fault (List Char)
  | .lenient, cs => skipString cs
  | .strict _, cs => (scanString cs).map (·.2)

def number : Care → List Char → Except Fault (List Char)
  | .lenient, cs => (scanNumeral .malformed cs).map (·.2)
  | .strict _, cs => (scanNumber cs).map (·.2)

end Care

def Care.scalar (care : Care) : List Char → Except Fault (List Char)
  | [] => .error .truncated
  | c :: rest =>
    if c = 'n' then scanWord "ull".toList rest
    else if c = 't' then scanWord "rue".toList rest
    else if c = 'f' then scanWord "alse".toList rest
    else if c = '"' then care.string rest
    else if startsNumber c then care.number (c :: rest)
    else .error .malformed

def scanColon (cs : List Char) : Except Fault (List Char) :=
  match skipBlanks cs with
  | [] => .error .truncated
  | ':' :: rest => .ok rest
  | _ => .error .malformed

def Care.name (care : Care) (cs : List Char) : Except Fault (List Char) :=
  match skipBlanks cs with
  | [] => .error .truncated
  | '"' :: rest => (care.string rest).bind scanColon
  | _ => .error .malformed

/-- Walks on. `done` says whether a value has just ended inside the open containers. -/
def Care.walkFrom (care : Care) : List Char → Bool → List Container → List Char →
    Except Fault (List Char)
  | _, true, [], cs => .ok cs
  | [], _, _, _ => .error .truncated
  | _ :: clock, false, stack, cs =>
    match skipBlanks cs with
    | [] => .error .truncated
    | '[' :: rest =>
      if !care.admits (.list :: stack) then .error .malformed
      else
        match skipBlanks rest with
        | ']' :: rest => care.walkFrom clock true stack rest
        | rest => care.walkFrom clock false (.list :: stack) rest
    | '\x7b' :: rest =>
      if !care.admits (.object :: stack) then .error .malformed
      else
        match skipBlanks rest with
        | '\x7d' :: rest => care.walkFrom clock true stack rest
        | rest => do care.walkFrom clock false (.object :: stack) (← care.name rest)
    | rest => do care.walkFrom clock true stack (← care.scalar rest)
  | _ :: clock, true, top :: stack, cs =>
    match skipBlanks cs, top with
    | [], _ => .error .truncated
    | ',' :: rest, .list => care.walkFrom clock false (top :: stack) rest
    | ',' :: rest, .object => do care.walkFrom clock false (top :: stack) (← care.name rest)
    | ']' :: rest, .list => care.walkFrom clock true stack rest
    | '\x7d' :: rest, .object => care.walkFrom clock true stack rest
    | _, _ => .error .malformed

def Care.walk (care : Care) (cs : List Char) : Except Fault (List Char) :=
  care.walkFrom cs false [] cs

end StepLatency.Json
