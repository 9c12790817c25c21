import StepLatency.Measurement.Summary

/-!
# The store of a session

All aggregators and trackers that a session has made, and the registry over them: a list of names in
increasing order, each with the handle of its aggregator. The registry has a tracker of its own,
which every aggregator it registers shares.
-/

namespace StepLatency

/-- Aggregators are known by their position among all aggregators. -/
abbrev Handle := Nat

structure Store where
  trackers : Array Pacing
  aggregators : Array Aggregator
  entries : List (String × Handle)
deriving DecidableEq

namespace Store

def registryTracker : TrackerId := 0

def empty : Store := ⟨#[.empty], #[], []⟩

def pacing (s : Store) (tracker : TrackerId) : Pacing := s.trackers.getD tracker .empty

/-- The tracker that an aggregator reports to; without a handle, that of the registry. -/
def trackerOf (s : Store) : Option Handle → TrackerId
  | none => registryTracker
  | some h => (s.aggregators[h]?.map (·.tracker)).getD registryTracker

def lookup (s : Store) (name : String) : Option Handle :=
  (s.entries.find? (·.1 == name)).map (·.2)

/-- Puts a name before the first larger one. -/
def insertEntry (name : String) (h : Handle) : List (String × Handle) → List (String × Handle)
  | [] => [(name, h)]
  | entry :: rest =>
    if name < entry.1 then (name, h) :: entry :: rest else entry :: insertEntry name h rest

def keep (s : Store) (a : Aggregator) : Handle × Store :=
  (s.aggregators.size, { s with aggregators := s.aggregators.push a })

/-- An aggregator outside the registry, on the tracker of another one. -/
def share (s : Store) (name : String) (stepCount : Nat) (source : Option Handle) :
    Except MeasurementError Handle × Store :=
  match Aggregator.create name stepCount (s.trackerOf source) with
  | .error cause => (.error cause, s)
  | .ok a =>
    let (h, s) := s.keep a
    (.ok h, s)

/-- An aggregator outside the registry, on a tracker of its own. -/
def create (s : Store) (name : String) (stepCount : Nat) : Except MeasurementError Handle × Store :=
  match Aggregator.create name stepCount s.trackers.size with
  | .error cause => (.error cause, s)
  | .ok a =>
    let (h, s) := { s with trackers := s.trackers.push .empty }.keep a
    (.ok h, s)

/-- The aggregator of a name: the registered one if its step count agrees, else a fresh one. -/
def register (s : Store) (name : String) (stepCount : Nat) :
    Except MeasurementError Handle × Store :=
  match s.lookup name with
  | some h =>
    let existing := (s.aggregators[h]?.map (·.stepCount)).getD 0
    if existing = stepCount then (.ok h, s)
    else (.error (.stepCountMismatch name existing stepCount), s)
  | none =>
    match Aggregator.create name stepCount registryTracker with
    | .error cause => (.error cause, s)
    | .ok a =>
      let (h, s) := s.keep a
      (.ok h, { s with entries := insertEntry name h s.entries })

def apply (s : Store) (h : Handle) (u : Update) : Store :=
  { s with
    aggregators := s.aggregators.modify h u.onAggregator
    trackers := s.trackers.modify (s.trackerOf (some h)) u.onPacing }

def applyAll (s : Store) (h : Handle) (us : List Update) : Store := us.foldl (·.apply h) s

/-- Records a latency; an unissued handle records nothing. -/
def record (s : Store) (h : Handle) (latency : Int) (step : Nat) :
    Except MeasurementError Unit × Store :=
  match s.aggregators[h]? with
  | none => (.ok (), s)
  | some a =>
    match a.updates latency step with
    | .error cause => (.error cause, s)
    | .ok us => (.ok (), s.applyAll h us)

def recordByName (s : Store) (name : String) (latency : Int) (step : Nat) :
    Except MeasurementError Unit × Store :=
  match s.lookup name with
  | none => (.error (.unknownOperation name), s)
  | some h => s.record h latency step

def pace (s : Store) (tracker : TrackerId) (delay : UInt64) : Store :=
  { s with trackers := s.trackers.modify tracker (·.record delay) }

def resetPacing (s : Store) (tracker : TrackerId) : Store :=
  { s with trackers := s.trackers.modify tracker fun _ => .empty }

def summary? (s : Store) (h : Handle) : Option Summary :=
  s.aggregators[h]?.map fun a => a.summary (s.pacing a.tracker)

/-- The summaries of the registered kinds, in the order of their names. -/
def summaries (s : Store) : List Summary := s.entries.filterMap fun entry => s.summary? entry.2

def summariesOf (s : Store) : Option Handle → List Summary
  | some h => (s.summary? h).toList
  | none => s.summaries

/-! ### Calls that are refused -/

section Refused

variable {s : Store} {name : String} {n : Nat} {cause : MeasurementError}

theorem share_of_refused {source : Option Handle} (h : (s.share name n source).1 = .error cause) :
    (s.share name n source).2 = s := by
  unfold share at h ⊢
  cases hcreate : Aggregator.create name n (s.trackerOf source) with
  | error cause => rfl
  | ok a => simp [hcreate] at h

theorem create_of_refused (h : (s.create name n).1 = .error cause) : (s.create name n).2 = s := by
  unfold create at h ⊢
  cases hcreate : Aggregator.create name n s.trackers.size with
  | error cause => rfl
  | ok a => simp [hcreate] at h

theorem register_of_refused (h : (s.register name n).1 = .error cause) :
    (s.register name n).2 = s := by
  unfold register at h ⊢
  cases hlookup : s.lookup name with
  | some known =>
    dsimp only
    split <;> rfl
  | none =>
    cases hcreate : Aggregator.create name n registryTracker with
    | error cause => rfl
    | ok a => simp [hlookup, hcreate] at h

theorem record_of_refused {handle : Handle} {latency : Int} {step : Nat}
    (h : (s.record handle latency step).1 = .error cause) :
    (s.record handle latency step).2 = s := by
  unfold record at h ⊢
  cases ha : s.aggregators[handle]? with
  | none => rfl
  | some a =>
    cases hupdates : a.updates latency step with
    | error cause => simp [hupdates]
    | ok us => simp [ha, hupdates] at h

theorem recordByName_of_refused {latency : Int} {step : Nat}
    (h : (s.recordByName name latency step).1 = .error cause) :
    (s.recordByName name latency step).2 = s := by
  unfold recordByName at h ⊢
  cases hlookup : s.lookup name with
  | none => rfl
  | some known =>
    rw [hlookup] at h
    exact record_of_refused h

end Refused

end Store

end StepLatency
