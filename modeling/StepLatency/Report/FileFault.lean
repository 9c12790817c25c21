/-!
# Faults of files

Why the machine does not create a file or does not take what is written to it. The machine gives a
number, and the message has the number after the words for it.
-/

namespace StepLatency

inductive FileFault
  | notPermitted
  | missing
  | inputOutput
  | noDevice
  | denied
  | notDirectory
  | isDirectory
  | invalidArgument
  | textFileBusy
  | storageFull
  | readOnly
  | nameTooLong
  | linkLoop
deriving DecidableEq, Repr

namespace FileFault

def all : List FileFault :=
  [.notPermitted, .missing, .inputOutput, .noDevice, .denied, .notDirectory, .isDirectory,
   .invalidArgument, .textFileBusy, .storageFull, .readOnly, .nameTooLong, .linkLoop]

def number : FileFault → Nat
  | .notPermitted => 1
  | .missing => 2
  | .inputOutput => 5
  | .noDevice => 6
  | .denied => 13
  | .notDirectory => 20
  | .isDirectory => 21
  | .invalidArgument => 22
  | .textFileBusy => 26
  | .storageFull => 28
  | .readOnly => 30
  | .nameTooLong => 36
  | .linkLoop => 40

def reason : FileFault → String
  | .notPermitted => "Operation not permitted"
  | .missing => "No such file or directory"
  | .inputOutput => "Input/output error"
  | .noDevice => "No such device or address"
  | .denied => "Permission denied"
  | .notDirectory => "Not a directory"
  | .isDirectory => "Is a directory"
  | .invalidArgument => "Invalid argument"
  | .textFileBusy => "Text file busy"
  | .storageFull => "No space left on device"
  | .readOnly => "Read-only file system"
  | .nameTooLong => "File name too long"
  | .linkLoop => "Too many levels of symbolic links"

def message (fault : FileFault) : String := s!"{fault.reason} (os error {fault.number})"

def ofNumber? (number : Nat) : Option FileFault := all.find? (·.number == number)

theorem ofNumber?_number (fault : FileFault) : ofNumber? fault.number = some fault := by
  cases fault <;> rfl

end FileFault

end StepLatency
