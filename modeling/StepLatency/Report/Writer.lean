import StepLatency.Report.Buffer
import StepLatency.Report.FileFault

/-!
# Byte writers

A writer keeps the bytes that reached it. It may take a limited number of bytes or of lines; the
next byte offered after that is refused with an error. A writer that heals then takes bytes up to its
next limits, of which there may be any number, and everything after the last ones. The first flushes
may fail as well, each with an error of its own.
-/

namespace StepLatency

inductive FaultKind
  | brokenPipe
  | timedOut
  | writeZero
  | storageFull
  | other
deriving DecidableEq

inductive SinkError
  /-- The writer failed by itself. -/
  | device (kind : FaultKind) (text : String)
  /-- The writer took none of the bytes offered. -/
  | tookNothing
  /-- The report was closed before. -/
  | alreadyWritten
deriving DecidableEq

namespace SinkError

def kind : SinkError → FaultKind
  | .device kind _ => kind
  | .tookNothing => .writeZero
  | .alreadyWritten => .other

def message : SinkError → String
  | .device _ text => text
  | .tookNothing => "failed to write whole buffer"
  | .alreadyWritten => "JSON report has already been written"

def sinkClosed : SinkError := .device .brokenPipe "sink closed"

def flushFailed : SinkError := .device .timedOut "flush failed"

def closeFailed : SinkError := .device .timedOut "close failed"

/-- The fault of a file, which is known by a kind of its own only if there is no room. -/
def ofFile (fault : FileFault) : SinkError :=
  .device (if fault = .storageFull then .storageFull else .other) fault.message

end SinkError

/-- How much is taken until a byte is refused, with which error, and whether more is taken then. -/
structure WriteLimits where
  byteRoom : Option Nat
  lineRoom : Option Nat
  refusal : SinkError
  heals : Bool

structure Writer extends WriteLimits where
  written : Array UInt8
  /-- The limits that follow, each once the writer has healed. -/
  later : List WriteLimits
  /-- The errors of the next flushes; those after them succeed. -/
  flushFaults : List SinkError

namespace Writer

def newline : UInt8 := 10

def noLimits : WriteLimits := ⟨none, none, .sinkClosed, false⟩

def unlimited : Writer := ⟨noLimits, #[], [], []⟩

/-- A writer before a device that takes nothing: it fails when its buffer is full, or else when it is
flushed. -/
def ofFaultyDevice (fault : SinkError) : Writer :=
  { unlimited with
    byteRoom := some bufferSize
    refusal := fault
    flushFaults := [fault] }

def accepted : Option Nat → Option Nat → List UInt8 → List UInt8
  | some 0, _, _ => []
  | _, some 0, _ => []
  | none, none, bytes => bytes
  | _, _, [] => []
  | byteRoom, lineRoom, byte :: rest =>
    byte :: accepted (byteRoom.map (· - 1))
      (if byte = newline then lineRoom.map (· - 1) else lineRoom) rest

def take (w : Writer) (bytes : List UInt8) : Writer :=
  { w with
    written := w.written ++ bytes.toArray
    byteRoom := w.byteRoom.map (· - bytes.length)
    lineRoom := w.lineRoom.map (· - bytes.count newline) }

def afterRefusal (w : Writer) : Writer :=
  if w.heals then
    match w.later with
    | [] => { w with toWriteLimits := noLimits }
    | next :: later => { w with toWriteLimits := next, later }
  else w

def write (w : Writer) (bytes : List UInt8) : Except SinkError Unit × Writer :=
  let taken := accepted w.byteRoom w.lineRoom bytes
  let after := w.take taken
  if taken.length = bytes.length then (.ok (), after) else (.error w.refusal, after.afterRefusal)

def flush (w : Writer) : Except SinkError Unit × Writer :=
  match w.flushFaults with
  | [] => (.ok (), w)
  | fault :: rest => (.error fault, { w with flushFaults := rest })

def writeText (w : Writer) (text : String) : Except SinkError Unit × Writer :=
  w.write text.toUTF8.toList

theorem write_unlimited (bytes : List UInt8) {w : Writer} (hbytes : w.byteRoom = none)
    (hlines : w.lineRoom = none) : w.write bytes = (.ok (), w.take bytes) := by
  simp [write, hbytes, hlines, accepted]

end Writer

end StepLatency
