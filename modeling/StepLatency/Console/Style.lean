import StepLatency.Console.Visible

/-!
# Styled text

A styled text is a list of spans, each in one style. With colours a span stands between the control
sequences of its style; without them only what a terminal shows of that is written. So a sequence
that a span leaves open ends with the style of the span.
-/

namespace StepLatency.Console

inductive Style
  | plain
  | heading
  /-- What is to be typed as it is. -/
  | literal
  /-- What was typed and is not accepted. -/
  | rejected
  | alarm
deriving DecidableEq

/-- The numbers of the terminal for a style: bold, underlined, red, yellow. -/
def Style.codes : Style → List Nat
  | .plain => []
  | .heading => [1, 4]
  | .literal => [1]
  | .rejected => [33]
  | .alarm => [1, 31]

def setting (code : Nat) : String := s!"{escape}[{code}m"

def styled (codes : List Nat) (text : String) : String :=
  if codes.isEmpty then text else String.join (codes.map setting) ++ text ++ setting 0

inductive Medium
  /-- Anywhere where colours are wanted. -/
  | colors
  | stream
  | memory
deriving DecidableEq

structure Span where
  style : Style
  text : String
deriving DecidableEq

def Span.plain (text : String) : Span := ⟨.plain, text⟩

abbrev StyledText := List Span

namespace StyledText

def content (t : StyledText) : String := String.join (t.map (·.text))

def colored (t : StyledText) : String :=
  String.join (t.map fun span => styled span.style.codes span.text)

def text (t : StyledText) : Medium → String
  | .colors => t.colored
  | .stream => visible true t.colored
  | .memory => visible false t.colored

def fill (width : Nat) (t : StyledText) : StyledText :=
  t ++ [.plain (String.ofList (List.replicate (width - t.content.length) ' '))]

end StyledText

end StepLatency.Console
