import StepLatency.Console.Style

/-!
# Log events

An event has a severity, the part of the program that it comes from, a message and perhaps a count.
It is written on one line, in the colour of its severity if colours are wanted; only warnings and
errors are tagged with their severity. Controls of terminals inside a message are spelled out.
-/

namespace StepLatency.Log

open Console (escape styled)

inductive Level
  | error
  | warn
  | info
  | debug
  | trace
deriving DecidableEq, Repr

namespace Level

def all : List Level := [.error, .warn, .info, .debug, .trace]

def name : Level → String
  | .error => "error"
  | .warn => "warn"
  | .info => "info"
  | .debug => "debug"
  | .trace => "trace"

/-- How much a level lets through: itself and all that is more severe. -/
def detail : Level → Nat
  | .error => 1
  | .warn => 2
  | .info => 3
  | .debug => 4
  | .trace => 5

def tag : Level → String
  | .error => "[ERROR] "
  | .warn => "[WARN] "
  | .info | .debug | .trace => ""

/-- The number of the terminal colour: red, yellow, white, blue or magenta. -/
def color : Level → Nat
  | .error => 31
  | .warn => 33
  | .info => 37
  | .debug => 34
  | .trace => 35

def ofName? (name : String) : Option Level := all.find? (·.name == name)

theorem ofName?_name (level : Level) : ofName? level.name = some level := by
  cases level <;> decide

end Level

inductive Topic
  | program
  | exporter
  | measurement
  | registry
  | workload
deriving DecidableEq

def Topic.name : Topic → String
  | .program => "multistep_bench"
  | .exporter => "multistep_bench::exporter"
  | .measurement => "multistep_bench::measurement"
  | .registry => "multistep_bench::registry"
  | .workload => "multistep_bench::workload"

structure Event where
  level : Level
  topic : Topic
  message : String
  count : Option UInt64
deriving DecidableEq

def Event.fieldNames (e : Event) : List String :=
  "message" :: if e.count.isSome then ["count"] else []

/-- The controls of 7 bits that a terminal acts on, apart from blanks. -/
def isTerminalControl (c : Char) : Bool :=
  c == escape || c == '\x07' || c == '\x08' || c == '\x0c' || c == '\x7f'

def spelledChar (c : Char) : String :=
  if isTerminalControl c then
    "\\x" ++ String.ofList [Nat.digitChar (c.toNat / 16), Nat.digitChar (c.toNat % 16)]
  else if 0x80 ≤ c.toNat ∧ c.toNat ≤ 0x9f then
    "\\u\x7b" ++ String.ofList (Nat.toDigits 16 c.toNat) ++ "\x7d"
  else c.toString

def spelledText (s : String) : String := String.join (s.toList.map spelledChar)

/-- Whether colours are wanted: they can be forced or forbidden, and else they are for terminals. A
variable that is set to zero counts as a no. -/
def wantsColor (force forbid terminalColor : Option String) (onTerminal : Bool) : Bool :=
  if force.any (· != "0") then true
  else if forbid.isSome then false
  else onTerminal && terminalColor.all (· != "0")

def Event.body (e : Event) : String :=
  spelledText e.message ++
    match e.count with
    | some n => s!" count={n.toNat}"
    | none => ""

def Event.line (e : Event) (inColor : Bool) : String :=
  let text := e.level.tag ++ e.body
  if inColor then styled [e.level.color] text else text

end StepLatency.Log
