import Mathlib
import StepLatency.Proofs.Report.DocumentReads
import StepLatency.Proofs.Timestamp.RoundTrip
import StepLatency.Report.JsonSink

/-!
# The life of a JSON sink

A sink keeps rows until it is closed for the first time. Then one document leaves it, and from then
on it only answers. The document is read back with the metadata of the sink and with all rows that
were taken.
-/

namespace StepLatency

structure Writer.Unfailing (w : Writer) : Prop where
  byteRoom : w.byteRoom = none
  lineRoom : w.lineRoom = none
  flushFaults : w.flushFaults = []

/-- A moment that a clock can show, and as many cores as a word can count. -/
structure Setting.Valid (setting : Setting) : Prop where
  timestamp : setting.timestamp.Valid
  cpuCores_lt : setting.cpuCores < UInt64.size

namespace JsonSink

open Json

inductive Call
  | write (row : Row)
  | close (setting : Setting)
deriving DecidableEq

namespace Call

def isClose : Call → Bool
  | .write _ => false
  | .close _ => true

def perform : Call → JsonSink → Except SinkError Unit × JsonSink
  | .write row, s => s.write row
  | .close setting, s => s.close setting

def answerClosed : Call → Except SinkError Unit
  | .write _ => .error .alreadyWritten
  | .close _ => .ok ()

/-- A row carries a whole amount or an average, and a close is told a moment that a clock can show. -/
def Admissible : Call → Prop
  | .write row => row.value.IsMeasured
  | .close setting => setting.Valid

end Call

def performAll : List Call → JsonSink → List (Except SinkError Unit) × JsonSink
  | [], s => ([], s)
  | call :: rest, s =>
    let (answer, s) := call.perform s
    let (answers, s) := performAll rest s
    (answer :: answers, s)

/-- The rows of the writes that were answered without an error. -/
def acceptedRows (calls : List Call) (answers : List (Except SinkError Unit)) : List Row :=
  (calls.zip answers).filterMap fun
    | (.write row, .ok ()) => some row
    | _ => none

section Calls

variable {s : JsonSink}

theorem performAll_cons (call : Call) (rest : List Call) (s : JsonSink) :
    performAll (call :: rest) s =
      ((call.perform s).1 :: (performAll rest (call.perform s).2).1,
        (performAll rest (call.perform s).2).2) :=
  rfl

theorem performAll_append (first second : List Call) (s : JsonSink) :
    performAll (first ++ second) s =
      ((performAll first s).1 ++ (performAll second (performAll first s).2).1,
        (performAll second (performAll first s).2).2) := by
  induction first generalizing s with
  | nil => rfl
  | cons call rest ih =>
      rw [List.cons_append, performAll_cons, performAll_cons, ih]
      rfl

/-- A sink that has not been closed keeps every row. -/
theorem performAll_writes (rows : List Row) (hopen : s.closed = false) :
    performAll (rows.map .write) s =
      (rows.map fun _ => .ok (), { s with rows := s.rows ++ rows.toArray }) := by
  induction rows generalizing s with
  | nil => simp [performAll]
  | cons row rest ih =>
      have hwrite : (Call.write row).perform s = (.ok (), { s with rows := s.rows.push row }) :=
        if_neg (by rw [hopen]; decide)
      have hrest := ih (s := { s with rows := s.rows.push row }) hopen
      rw [List.map_cons, performAll_cons, hwrite, hrest]
      simp

/-- The first close writes the document of all rows. -/
theorem close_open {setting : Setting} (hwriter : s.writer.Unfailing) (hopen : s.closed = false) :
    s.close setting = (.ok (),
      { writer := s.writer.take (documentText setting s.runId s.rows.toList).toUTF8.toList
        runId := s.runId
        rows := #[]
        closed := true }) := by
  have hwrite := Writer.write_unlimited (documentText setting s.runId s.rows.toList).toUTF8.toList
    hwriter.byteRoom hwriter.lineRoom
  have hflushes := hwriter.flushFaults
  unfold close Writer.writeText
  rw [if_neg (by rw [hopen]; decide), hwrite]
  simp only [Writer.flush, Writer.take, hflushes]

/-- A closed sink only answers. -/
theorem perform_closed (hclosed : s.closed = true) (call : Call) :
    call.perform s = (call.answerClosed, s) := by
  cases call with
  | write row => exact if_pos hclosed
  | close setting => exact if_pos hclosed

theorem performAll_closed (hclosed : s.closed = true) (calls : List Call) :
    performAll calls s = (calls.map Call.answerClosed, s) := by
  induction calls with
  | nil => rfl
  | cons call rest ih =>
      rw [performAll_cons, perform_closed hclosed, ih]
      rfl

/-- Some writes and the first close, whatever comes after them. -/
theorem performAll_create {writer : Writer} (hwriter : writer.Unfailing) (runId : String)
    (rows : List Row) (setting : Setting) (later : List Call) :
    performAll (rows.map .write ++ .close setting :: later) (create writer runId) =
      (rows.map (fun _ => .ok ()) ++ .ok () :: later.map Call.answerClosed,
        { writer := writer.take (documentText setting runId rows).toUTF8.toList
          runId
          rows := #[]
          closed := true }) := by
  have hwrites : performAll (rows.map .write) (create writer runId) =
      (rows.map fun _ => .ok (), ⟨writer, runId, rows.toArray, false⟩) := by
    rw [performAll_writes rows rfl]
    simp [create]
  have hclose : (Call.close setting).perform ⟨writer, runId, rows.toArray, false⟩ = _ :=
    close_open hwriter rfl
  rw [performAll_append, hwrites, performAll_cons, hclose, performAll_closed rfl]

theorem exists_writes {calls : List Call} (h : ∀ call ∈ calls, call.isClose = false) :
    ∃ rows : List Row, calls = rows.map .write := by
  induction calls with
  | nil => exact ⟨[], rfl⟩
  | cons call rest ih =>
      obtain ⟨rows, rfl⟩ := ih fun call hcall => h call (List.mem_cons_of_mem _ hcall)
      cases call with
      | write row => exact ⟨row :: rows, rfl⟩
      | close setting => exact nomatch h _ List.mem_cons_self

theorem acceptedRows_closed (calls : List Call) :
    acceptedRows calls (calls.map Call.answerClosed) = [] := by
  induction calls with
  | nil => rfl
  | cons call rest ih =>
      cases call with
      | write row => exact ih
      | close setting => exact ih

/-- The rows before the first close are accepted, and those after it are not. -/
theorem acceptedRows_eq (rows : List Row) (setting : Setting) (later : List Call) :
    acceptedRows (rows.map .write ++ .close setting :: later)
      (rows.map (fun _ => .ok ()) ++ .ok () :: later.map Call.answerClosed) = rows := by
  induction rows with
  | nil => exact acceptedRows_closed later
  | cons row rest ih =>
      calc
        _ = row :: acceptedRows (rest.map .write ++ .close setting :: later)
            (rest.map (fun _ => .ok ()) ++ .ok () :: later.map Call.answerClosed) := rfl
        _ = row :: rest := by rw [ih]

end Calls

/-! ### The document -/

/-- The document of admissible rows is decoded, at any moment and on any machine. -/
theorem exists_decode_documentText {setting : Setting} (hsetting : setting.Valid) (runId : String)
    {rows : List Row} (hrows : ∀ row ∈ rows, row.value.IsMeasured) :
    ∃ report, Decoder.decode ReportDocument.schema.decoder (documentText setting runId rows) =
        .ok report ∧
      report.metadata = ⟨version, runId, setting.timestamp, setting.cpuCores⟩ ∧
      List.Forall₂ Row.Restored rows report.measurements := by
  have hblank : Blank ("\n" : String).toList := by
    intro c hc
    obtain rfl : c = '\n' := by simpa using hc
    rfl
  have htimestamp := Timestamp.read_text hsetting.timestamp
  obtain ⟨rows', hrestored, hdecode⟩ :=
    exists_decode_prettyText (ReportDocument.current setting runId rows) htimestamp
      hsetting.cpuCores_lt hrows hblank
  exact ⟨_, hdecode, rfl, hrestored⟩

/-- Before its first close a sink writes nothing; the first close writes one document and a line
break; after it writes are refused, closes do nothing, and no byte is added. The document is read as
a report of the run with the rows that were accepted, in their order: whole amounts as they were and
averages as finite real ones. For averages are finite as soon as there is a sample. -/
theorem life_cycle {writer : Writer} (hwriter : writer.Unfailing) (runId : String)
    {calls : List Call} (hcalls : ∀ call ∈ calls, call.Admissible) :
    (∀ p : Pacing, p.samples ≠ 0 → ∃ x, p.average = some x ∧ x.isFinite = true) ∧
      (∀ before later, calls = before ++ later → (∀ call ∈ before, call.isClose = false) →
        (performAll before (create writer runId)).2.writer = writer) ∧
      ∀ before setting later, calls = before ++ .close setting :: later →
        (∀ call ∈ before, call.isClose = false) →
        ∃ answers final text report,
          performAll calls (create writer runId) = (answers, final) ∧
          answers = before.map (fun _ => .ok ()) ++ .ok () :: later.map Call.answerClosed ∧
          final.writer = (performAll (before ++ [.close setting]) (create writer runId)).2.writer ∧
          final.writer.written = writer.written ++ (text ++ "\n").toUTF8.toList.toArray ∧
          text = (ReportDocument.current setting runId
            (acceptedRows calls answers)).jsonValue.prettyText ∧
          Decoder.decode ReportDocument.schema.decoder (text ++ "\n") = .ok report ∧
          report.metadata = ⟨version, runId, setting.timestamp, setting.cpuCores⟩ ∧
          List.Forall₂ Row.Restored (acceptedRows calls answers) report.measurements := by
  refine ⟨fun p hp => Pacing.exists_average hp, fun before later hsplit hbefore => ?_,
    fun before setting later hsplit hbefore => ?_⟩
  · obtain ⟨rows, rfl⟩ := exists_writes hbefore
    rw [performAll_writes rows rfl]
    rfl
  · obtain ⟨rows, rfl⟩ := exists_writes hbefore
    subst hsplit
    have hsetting : setting.Valid := hcalls (.close setting) (by simp)
    have hrows : ∀ row ∈ rows, row.value.IsMeasured := by
      intro row hrow
      exact hcalls (.write row) (List.mem_append_left _ (List.mem_map_of_mem hrow))
    obtain ⟨report, hdecode, hmetadata, hrestored⟩ :=
      exists_decode_documentText hsetting runId hrows
    have hanswers : (rows.map Call.write).map (fun _ => (.ok () : Except SinkError Unit)) =
        rows.map fun _ => .ok () := by
      rw [List.map_map]
      rfl
    have haccepted := acceptedRows_eq rows setting later
    refine ⟨_, _, _, report, performAll_create hwriter runId rows setting later, by rw [hanswers],
      ?_, ?_, rfl, ?_, hmetadata, ?_⟩
    · rw [performAll_create hwriter runId rows setting []]
    · rw [haccepted]
      rfl
    · rw [haccepted]
      exact hdecode
    · rw [haccepted]
      exact hrestored

/-- Two rows are taken, one with quotes and a line break in its label and one with an average of 1.5;
a third row comes too late. -/
theorem life_cycle_twoRows :
    ∃ final text report y,
      performAll [.write ⟨"SCAN", "step \"0\"\n", .whole 10⟩,
          .write ⟨"SCAN", "sleep ☾", .real ((Binary64.ofNat 15).divMagnitude (Binary64.ofNat 10))⟩,
          .close ⟨⟨19675, 80000, 500⟩, 8⟩, .write ⟨"READ", "late", .whole 1⟩,
          .close ⟨⟨19676, 0, 0⟩, 8⟩] (create .unlimited "run-1") =
        ([.ok (), .ok (), .ok (), .error .alreadyWritten, .ok ()], final) ∧
      final.writer.written = (text ++ "\n").toUTF8.toList.toArray ∧
      Decoder.decode ReportDocument.schema.decoder (text ++ "\n") = .ok report ∧
      report.metadata.runId = "run-1" ∧ y.isFinite = true ∧
      report.measurements =
        [⟨"SCAN", "step \"0\"\n", .whole 10⟩, ⟨"SCAN", "sleep ☾", .real y⟩] := by
  have hcalls : ∀ call ∈ [Call.write ⟨"SCAN", "step \"0\"\n", .whole 10⟩,
      .write ⟨"SCAN", "sleep ☾", .real ((Binary64.ofNat 15).divMagnitude (Binary64.ofNat 10))⟩,
      .close ⟨⟨19675, 80000, 500⟩, 8⟩, .write ⟨"READ", "late", .whole 1⟩,
      .close ⟨⟨19676, 0, 0⟩, 8⟩], call.Admissible := by
    have hfirst : Setting.Valid ⟨⟨19675, 80000, 500⟩, 8⟩ :=
      ⟨⟨by decide, by decide, .inl (by decide)⟩, by decide⟩
    have hsecond : Setting.Valid ⟨⟨19676, 0, 0⟩, 8⟩ :=
      ⟨⟨by decide, by decide, .inl (by decide)⟩, by decide⟩
    have haverage : (Amount.real
        ((Binary64.ofNat 15).divMagnitude (Binary64.ofNat 10))).IsMeasured := ⟨⟨15, 10⟩, rfl⟩
    simp only [List.forall_mem_cons]
    exact ⟨trivial, haverage, hfirst, trivial, hsecond, fun _ h => absurd h List.not_mem_nil⟩
  have hwriter : Writer.unlimited.Unfailing := ⟨rfl, rfl, rfl⟩
  obtain ⟨-, -, hclose⟩ := life_cycle hwriter "run-1" hcalls
  obtain ⟨answers, final, text, ⟨metadata, rows⟩, hrun, rfl, -, hwritten, -, hdecode, hmetadata,
    hrows⟩ := hclose [_, _] _ _ rfl (by simp [Call.isClose])
  change List.Forall₂ Row.Restored [⟨"SCAN", "step \"0\"\n", .whole 10⟩, ⟨"SCAN", "sleep ☾", _⟩] rows
    at hrows
  obtain _ | ⟨⟨hgroup, hlabel, hvalue⟩, _ | ⟨⟨hgroup', hlabel', hvalue'⟩, _ | _⟩⟩ := hrows
  rename_i first second
  obtain ⟨group, label, value⟩ := first
  obtain ⟨group', label', value'⟩ := second
  obtain rfl : group = "SCAN" := hgroup
  obtain rfl : label = "step \"0\"\n" := hlabel
  obtain rfl : group' = "SCAN" := hgroup'
  obtain rfl : label' = "sleep ☾" := hlabel'
  obtain rfl : value = .whole 10 := hvalue.eq_whole
  obtain ⟨y, rfl, hfinite⟩ := hvalue'.eq_real
  have hempty : Writer.unlimited.written = #[] := rfl
  rw [hempty, Array.empty_append] at hwritten
  exact ⟨final, text, _, y, hrun, hwritten, hdecode, congrArg ReportMetadata.runId hmetadata,
    hfinite, rfl⟩

end JsonSink

end StepLatency
