import StepLatency.Program
import StepLatency.Report.RunId

/-!
# Entry point

The outer layer of the program: it asks the machine for what the program is told, waits as the plans
of the workers say and measures how long that takes, and writes what comes out. What is written and
when a run fails is decided elsewhere.
-/

namespace StepLatency.Main

open Program

def countCores : IO Nat := do
  try
    let lines ← IO.FS.lines "/proc/cpuinfo"
    return max 1 (lines.filter (·.startsWith "processor")).size
  catch _ => return 1

/-- The present time, which a fresh file bears. -/
def currentTime : IO Timestamp := do
  let (_, path) ← IO.FS.createTempFile
  let modified := (← path.metadata).modified
  IO.FS.removeFile path
  return .ofClock modified.sec modified.nsec.toNat

def randomBytes (count : Nat) : IO (List Nat) := do
  return (← IO.getRandomBytes (USize.ofNat count)).toList.map (·.toNat)

def randomWord : IO UInt64 := do
  return UInt64.ofNat ((← randomBytes 8).foldl (fun n b => 256 * n + b) 0)

def surroundings : IO Surroundings := do
  let onTerminal ← (← IO.getStdout).isTty
  let inColor := Log.wantsColor (← IO.getEnv "CLICOLOR_FORCE") (← IO.getEnv "NO_COLOR")
    (← IO.getEnv "CLICOLOR") onTerminal
  return ⟨← IO.getEnv "RUST_LOG", inColor, ← countCores, ← randomWord⟩

/-- Waits until a moment of the clock, in nanoseconds. -/
partial def waitUntil (deadline : Nat) : IO Unit := do
  let now ← IO.monoNanosNow
  if now < deadline then
    let millis := (deadline - now) / 1000000
    if 0 < millis then IO.sleep (UInt32.ofNat millis)
    waitUntil deadline

/-- Waits for some nanoseconds; tells how many microseconds have passed. -/
def waitFor (nanos : Nat) : IO Nat := do
  let start ← IO.monoNanosNow
  if 0 < nanos then waitUntil (start + nanos)
  return ((← IO.monoNanosNow) - start) / nanosPerMicro

/-- What a worker has measured: for every operation its steps and its pacing interval. -/
abbrev Measured := Array (Array Nat × Nat)

def carryOut (pacing : Duration) (plan : List OperationChoice) : IO Measured := do
  let mut measured := #[]
  for operation in plan do
    let mut latencies := #[]
    for step in operation.steps do
      latencies := latencies.push (← waitFor (step.target.toNat * nanosPerMicro))
    measured := measured.push (latencies, ← waitFor pacing.nanos)
  return measured

def measure (c : Config) : IO Timings := do
  let (_, r) := c.register
  let start ← IO.monoNanosNow
  let tasks ← (List.range c.threads).mapM fun worker =>
    let plan := ((c.plan Random.keystreamGenerator r.stepCounts worker).toOption).getD []
    IO.asTask (carryOut c.pacingDelay plan) .dedicated
  let results ← tasks.toArray.mapM fun task => IO.ofExcept task.get
  let elapsed := ((← IO.monoNanosNow) - start) / nanosPerMicro
  return {
    latency := fun worker operation step => ((results.getD worker #[]).getD operation (#[], 0)).1.getD step 0
    pacing := fun worker operation => UInt64.ofNat ((results.getD worker #[]).getD operation (#[], 0)).2
    elapsed := .ofMicros (UInt64.ofNat elapsed) }

def faultNumber? : IO.Error → Option UInt32
  | .noFileOrDirectory _ number _ => some number
  | .permissionDenied _ number _ | .inappropriateType _ number _ | .noSuchThing _ number _
  | .invalidArgument _ number _ | .resourceExhausted _ number _ => some number
  | .otherError number _ | .hardwareFault number _ | .unsupportedOperation number _ => some number
  | _ => none

def fileFault? (e : IO.Error) : Option FileFault :=
  (faultNumber? e).bind fun number => FileFault.ofNumber? number.toNat

def creationText (e : IO.Error) : String :=
  match fileFault? e with
  | some fault => fault.message
  | none => toString e

def deviceFault (e : IO.Error) : SinkError :=
  match fileFault? e with
  | some fault => .ofFile fault
  | none => .device .other (toString e)

/-- What remains when a part of the report is not taken: how many emissions came before, and why. -/
abbrev Interrupted := Option (Nat × IO.Error)

def emit (file : Option IO.FS.Handle) (emissions : List Emission) : IO Interrupted := do
  let output ← IO.getStdout
  for (emission, place) in emissions.zipIdx do
    match emission with
    | .errorLine line => IO.eprintln line
    | .output bytes =>
      output.write ⟨bytes.toArray⟩
      output.flush
    | .file bytes =>
      if let some handle := file then
        try
          handle.write ⟨bytes.toArray⟩
          handle.flush
        catch e => return some (place, e)
  return none

def finish (t : Transcript) (alreadyWritten : Nat) : IO UInt32 := do
  let _ ← emit none (t.emissions.drop alreadyWritten)
  return UInt32.ofNat t.exitCode

def runLaunch (l : Launch) : IO UInt32 := do
  let _ ← emit none (errorLines l.logged)
  let alreadyWritten := l.logged.length
  let file ← match l.settings.outputFile with
    | none => pure none
    | some path =>
      try
        pure (some (← IO.FS.Handle.mk path .write))
      catch e => return ← finish (notCreated l path (creationText e)) alreadyWritten
  let timings ←
    if l.config.register.1.isOk then measure l.config
    else pure ⟨fun _ _ _ => 0, fun _ _ => 0, .zero⟩
  let runId := RunId.ofBytes (← randomBytes RunId.byteCount)
  let completed := complete l ⟨← currentTime, ← countCores⟩ ⟨runId, timings, []⟩
  let transcript := completed .unlimited
  match ← emit file (transcript.emissions.drop alreadyWritten) with
  | none => return UInt32.ofNat transcript.exitCode
  | some (place, e) =>
    finish (completed (.ofFaultyDevice (deviceFault e))) (alreadyWritten + place)

end StepLatency.Main

def main (words : List String) : IO UInt32 := do
  match StepLatency.Program.launch (← StepLatency.Main.surroundings) words with
  | .error transcript => StepLatency.Main.finish transcript 0
  | .ok l => StepLatency.Main.runLaunch l
