import StepLatency.CommandLine.Argument
import StepLatency.Console.Style
import StepLatency.Decimal.Reader
import StepLatency.Workload.Operation

/-!
# Usage errors

Why a command line is not accepted. A request for help or for the version ends the reading of a
command line as well.
-/

namespace StepLatency.CommandLine

inductive ValueFault
  | operation (fault : OperationFault)
  | integer (fault : Decimal.IntegerFault)
  | decimal (fault : Decimal.DecimalFault)
deriving DecidableEq

def ValueFault.message : ValueFault → String
  | .operation fault => fault.message
  | .integer fault => fault.message
  | .decimal fault => fault.message

inductive UsageError
  | invalidValue (argument : Argument) (value : String) (fault : ValueFault)
  | unknownChoice (argument : Argument) (value : String)
  | missingValue (argument : Argument)
  | unknownArgument (text : String)
  | repeated (argument : Argument)
  | unneededValue (argument : Argument) (value : String)
deriving DecidableEq

namespace UsageError

open Console (Medium Span StyledText)

def rejected (text : String) : Span := ⟨.rejected, text⟩

def literal (argument : Argument) : Span := ⟨.literal, argument.title⟩

/-- What is wrong; what was typed stands out, and so does the argument that is meant. -/
def reason : UsageError → StyledText
  | .invalidValue argument value fault =>
    [.plain "invalid value '", rejected value, .plain "' for '", literal argument,
     .plain s!"': {fault.message}"]
  | .unknownChoice argument value =>
    [.plain "invalid value '", rejected value, .plain "' for '", literal argument, .plain "'"]
  | .missingValue argument =>
    [.plain "a value is required for '", rejected argument.title, .plain "' but none was supplied"]
  | .unknownArgument text => [.plain "unexpected argument '", rejected text, .plain "' found"]
  | .repeated argument =>
    [.plain "the argument '", rejected argument.title, .plain "' cannot be used multiple times"]
  | .unneededValue argument value =>
    [.plain "unexpected value '", rejected value, .plain "' for '", literal argument,
     .plain "' found; no more were expected"]

def hint : StyledText :=
  [.plain "\n\nFor more information, try '", ⟨.literal, Argument.help.flag⟩, .plain "'."]

def text (e : UsageError) (medium : Medium) : String :=
  StyledText.text ([⟨.alarm, "error:"⟩, .plain " "] ++ e.reason ++ hint) medium

end UsageError

/-- Why no settings come out of a command line. -/
inductive Interruption
  | usage (error : UsageError)
  | help (long : Bool)
  | version
deriving DecidableEq

end StepLatency.CommandLine
