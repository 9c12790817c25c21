import StepLatency.Decimal.Layout
import StepLatency.Text.Quoted
import StepLatency.Timestamp.Fault

/-!
# Failures of reading JSON

A text may be broken as JSON, or it may end too early, or it may be JSON of the wrong shape. Only
the last has a message. Reading goes from left to right and stops at the first failure.
-/

namespace StepLatency.Json

inductive Fault
  | malformed
  | truncated
deriving DecidableEq

/-- The value that stands where another kind of value belongs. -/
inductive Found
  | null
  | bool (b : Bool)
  | integer (n : Int)
  | real (x : Binary64)
  | text (s : String)
  | list
  | object
deriving DecidableEq

def Found.description : Found → String
  | .null => "null"
  | .bool b => s!"boolean `{b}`"
  | .integer n => s!"integer `{n}`"
  | .real x => s!"floating point `{x.toJson}`"
  | .text s => s!"string {Text.quoted s}"
  | .list => "sequence"
  | .object => "map"

inductive Mismatch
  | missingField (name : String)
  | duplicateField (name : String)
  | unknownField (name : String) (expected : String)
  | unknownVariant (name : String) (expected : String)
  | invalidType (found : Found) (expected : String)
  | invalidValue (found : Int) (expected : String)
  | invalidLength (length : Nat) (expected : String)
  | noVariant (type : String)
  | durationOverflow
  | timestamp (fault : Timestamp.Fault)
deriving DecidableEq

def Mismatch.message : Mismatch → String
  | .missingField name => s!"missing field `{name}`"
  | .duplicateField name => s!"duplicate field `{name}`"
  | .unknownField name expected => s!"unknown field `{name}`, expected {expected}"
  | .unknownVariant name expected => s!"unknown variant `{name}`, expected {expected}"
  | .invalidType found expected => s!"invalid type: {found.description}, expected {expected}"
  | .invalidValue found expected => s!"invalid value: integer `{found}`, expected {expected}"
  | .invalidLength length expected => s!"invalid length {length}, expected {expected}"
  | .noVariant type => s!"data did not match any variant of untagged enum {type}"
  | .durationOverflow => "overflow deserializing Duration"
  | .timestamp fault => fault.message

inductive Failure
  | text (fault : Fault)
  | shape (mismatch : Mismatch)
deriving DecidableEq

end StepLatency.Json
