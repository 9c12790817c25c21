/-!
# What a terminal shows

A terminal takes some characters for commands. A control character is one by itself, and the escape
character begins a sequence of them; what is left is shown. Tabs and the ends of lines are shown even
in the middle of most sequences, which they break off. Characters beyond the ASCII set are text, and
inside a sequence a part of it.
-/

namespace StepLatency.Console

def escape : Char := '\x1b'

def isLayout (c : Char) : Bool := c == '\t' || c == '\n' || c == '\x0c' || c == '\r'

/-- The control characters that break off any sequence. -/
def isCancel (c : Char) : Bool := c == '\x18' || c == '\x1a'

def isCommand (c : Char) : Bool := c.toNat < 0x20 || c == '\x7f'

def isASCII (c : Char) : Bool := c.toNat < 0x80

/-- The byte that ends a string for the terminal, also as a part of a character. -/
def stringEnd : UInt8 := 0x9c

/-- How far the command at the start of a string for a device has come. -/
inductive DeviceCommand
  | start
  | parameters
  | marks
deriving DecidableEq

inductive Mode
  | text
  /-- The character after an escape character. -/
  | escaped
  /-- The rest of a sequence that began with a mark such as a parenthesis. -/
  | marked
  /-- The parameters of a sequence, up to its letter. -/
  | parameters
  /-- The command at the start of a string, up to its letter. -/
  | device (command : DeviceCommand)
  /-- A string for the terminal, which ends either at the bell or at a byte of its own. -/
  | string (endsAtBell : Bool)
deriving DecidableEq

namespace Mode

def afterEscape (c : Char) : Mode :=
  if c.toNat < 0x30 then .marked
  else if c = '[' then .parameters
  else if c = ']' then .string true
  else if c = 'P' then .device .start
  else if c ∈ ['X', '^', '_'] then .string false
  else .text

/-- What follows a character of a device command. One that is out of place ends the command. -/
def inCommand (command : DeviceCommand) (c : Char) : Mode :=
  if c.toNat < 0x30 then .device .marks
  else if 0x40 ≤ c.toNat then .string false
  else
    match command with
    | .start => .device .parameters
    | .parameters => if c ≤ ';' then .device .parameters else .string false
    | .marks => .string false

/-- The mode after a character of the ASCII set that is not shown. -/
def inSequence (mode : Mode) (c : Char) : Mode :=
  match mode with
  | .text => .text
  | .escaped => if isCommand c then mode else afterEscape c
  | .marked => if isCommand c || c.toNat < 0x30 then mode else .text
  | .parameters => if isCommand c || c.toNat < 0x40 then mode else .text
  | .device command => if isCommand c then mode else inCommand command c
  | .string endsAtBell => if endsAtBell && c == '\x07' then .text else mode

/-- The mode after a character beyond the ASCII set that is not shown. -/
def beyondASCII (mode : Mode) (c : Char) : Mode :=
  match mode with
  | .string false => if (String.utf8EncodeChar c).contains stringEnd then .text else mode
  | _ => mode

def shows (mode : Mode) (c : Char) : Bool :=
  match mode with
  | .text => isLayout c || !isCommand c
  | .device _ | .string _ => false
  | _ => isLayout c

def pass (mode : Mode) (c : Char) : Mode :=
  if isASCII c then mode.inSequence c else mode.beyondASCII c

end Mode

structure Terminal where
  mode : Mode
  /-- Whether the sequence waits while text is shown. -/
  waits : Bool
deriving DecidableEq

namespace Terminal

def start : Terminal := ⟨.text, false⟩

def shows (t : Terminal) (c : Char) : Bool := (if t.waits then .text else t.mode).shows c

/-- What follows a character. In a stream a sequence waits from a tab or the end of a line on; it goes
on at the next control that is not shown, and is given up at a character beyond the ASCII set. -/
def next (inStream : Bool) (t : Terminal) (c : Char) : Terminal :=
  if c = escape then ⟨.escaped, false⟩
  else if isCancel c then start
  else if t.shows c then
    if inStream && t.mode ≠ .text && isASCII c then ⟨t.mode, true⟩ else start
  else ⟨t.mode.pass c, false⟩

end Terminal

def shown (inStream : Bool) : Terminal → List Char → List Char
  | _, [] => []
  | t, c :: rest => (if t.shows c then [c] else []) ++ shown inStream (t.next inStream c) rest

def visible (inStream : Bool) (s : String) : String := String.ofList (shown inStream .start s.toList)

end StepLatency.Console
