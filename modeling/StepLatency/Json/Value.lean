import StepLatency.Decimal.Layout

/-!
# JSON values and their text

A value is written without blanks, or over several lines that are indented by two blanks for each
level; empty lists and objects stay on one line. In strings only quotes, backslashes and control
characters are escaped.
-/

namespace StepLatency.Json

inductive Value
  | null
  | bool (b : Bool)
  | whole (n : Nat)
  | real (x : Binary64)
  | text (s : String)
  | list (items : List Value)
  | object (fields : List (String × Value))
deriving Inhabited

def hexPair (n : Nat) : List Char := [Nat.digitChar (n / 16), Nat.digitChar (n % 16)]

def escaped (c : Char) : List Char :=
  if c = '"' then ['\\', '"']
  else if c = '\\' then ['\\', '\\']
  else if c = '\x08' then ['\\', 'b']
  else if c = '\x0c' then ['\\', 'f']
  else if c = '\n' then ['\\', 'n']
  else if c = '\r' then ['\\', 'r']
  else if c = '\t' then ['\\', 't']
  else if c.toNat < 0x20 then ['\\', 'u', '0', '0'] ++ hexPair c.toNat
  else [c]

def stringText (s : String) : List Char := '"' :: s.toList.flatMap escaped ++ ['"']

def separated (separator : List Char) : List (List Char) → List Char
  | [] => []
  | [text] => text
  | text :: rest => text ++ separator ++ separated separator rest

def lineBreak (level : Nat) : List Char := '\n' :: List.replicate (2 * level) ' '

def bracketed (opening closing : Char) (level : Nat) : List (List Char) → List Char
  | [] => [opening, closing]
  | parts =>
    opening :: lineBreak (level + 1) ++ separated (',' :: lineBreak (level + 1)) parts ++
      lineBreak level ++ [closing]

namespace Value

def scalarText : Value → List Char
  | .bool b => (if b then "true" else "false").toList
  | .whole n => (toString n).toList
  | .real x => x.toJson.toList
  | .text s => stringText s
  | _ => "null".toList

mutual

def compact : Value → List Char
  | .list items => '[' :: separated [','] (compactItems items) ++ [']']
  | .object fields => '\x7b' :: separated [','] (compactFields fields) ++ ['\x7d']
  | .null => scalarText .null
  | .bool b => scalarText (.bool b)
  | .whole n => scalarText (.whole n)
  | .real x => scalarText (.real x)
  | .text s => scalarText (.text s)

def compactItems : List Value → List (List Char)
  | [] => []
  | v :: rest => v.compact :: compactItems rest

def compactFields : List (String × Value) → List (List Char)
  | [] => []
  | (name, v) :: rest => (stringText name ++ ':' :: v.compact) :: compactFields rest

end

mutual

def pretty (level : Nat) : Value → List Char
  | .list items => bracketed '[' ']' level (prettyItems level items)
  | .object fields => bracketed '\x7b' '\x7d' level (prettyFields level fields)
  | .null => scalarText .null
  | .bool b => scalarText (.bool b)
  | .whole n => scalarText (.whole n)
  | .real x => scalarText (.real x)
  | .text s => scalarText (.text s)

def prettyItems (level : Nat) : List Value → List (List Char)
  | [] => []
  | v :: rest => v.pretty (level + 1) :: prettyItems level rest

def prettyFields (level : Nat) : List (String × Value) → List (List Char)
  | [] => []
  | (name, v) :: rest =>
    (stringText name ++ ':' :: ' ' :: v.pretty (level + 1)) :: prettyFields level rest

end

def compactText (v : Value) : String := String.ofList v.compact

def prettyText (v : Value) : String := String.ofList (v.pretty 0)

def ofOption : Option Value → Value
  | some v => v
  | none => .null

end Value

end StepLatency.Json
