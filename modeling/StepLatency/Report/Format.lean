/-!
# Report formats

The formats that a report can be written in. A format is chosen by its name.
-/

namespace StepLatency

inductive ExportFormat
  | text
  | json
deriving DecidableEq, Repr

namespace ExportFormat

def all : List ExportFormat := [.text, .json]

def name : ExportFormat → String
  | .text => "text"
  | .json => "json"

def title : ExportFormat → String
  | .text => "Text"
  | .json => "Json"

def help : ExportFormat → String
  | .text => "`[GROUP], label, value` lines"
  | .json => "A single JSON document with run metadata"

def ofName? (name : String) : Option ExportFormat := all.find? (·.name == name)

/-- A text in lower case, as far as it is ASCII. -/
def lowerCase (s : String) : String := String.ofList (s.toList.map Char.toLower)

def ofNameAnyCase? (name : String) : Option ExportFormat := ofName? (lowerCase name)

def unknownMessage (text : String) : String := s!"invalid variant: {text}"

theorem ofName?_name (f : ExportFormat) : ofName? f.name = some f := by
  cases f <;> rfl

theorem ofNameAnyCase?_name (f : ExportFormat) : ofNameAnyCase? f.name = some f := by
  cases f <;> rfl

end ExportFormat

end StepLatency
