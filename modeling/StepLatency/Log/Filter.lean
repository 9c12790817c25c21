import StepLatency.Log.Directive

/-!
# Log filters

A filter is a list of directives. Of those that apply to an event the narrowest decides, and of
several that are as narrow the last one. Events that no directive applies to are not shown, and the
program has no spans for directives about them.
-/

namespace StepLatency.Log

abbrev Filter := List Directive

namespace Filter

def parts : List Char → List (List Char)
  | [] => [[]]
  | c :: rest =>
    if c = ',' then [] :: parts rest
    else
      match parts rest with
      | part :: others => (c :: part) :: others
      | [] => [[c]]

def read? (text : String) : Option Filter :=
  ((parts text.toList).filter (!·.isEmpty)).mapM fun part => Directive.read? (String.ofList part)

/-- The filter of a program: that of its environment if there is one, else a level. -/
def choose (environment : Option String) (level : Level) : Filter :=
  (environment.bind read?).getD [.ofLevel level]

def prefer (best : Option Directive) (d : Directive) : Option Directive :=
  match best with
  | none => some d
  | some b => if b.yieldsTo d then some d else some b

def deciding (filter : Filter) (e : Event) : Option Directive :=
  (filter.filter (·.appliesTo e)).foldl prefer none

def admits (filter : Filter) (e : Event) : Bool :=
  match deciding filter e with
  | some d => e.level.detail ≤ d.limit
  | none => false

end Filter

def lines (filter : Filter) (inColor : Bool) (events : List Event) : List String :=
  (events.filter filter.admits).map (·.line inColor)

end StepLatency.Log
