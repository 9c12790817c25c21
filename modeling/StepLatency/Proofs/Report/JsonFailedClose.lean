import Mathlib
import StepLatency.Proofs.Report.JsonLifeCycle
import StepLatency.Proofs.Report.Writing

/-!
# Failed closes of a JSON sink

Closing a sink may fail, at any byte of the document or when it is flushed, and closes may fail in
different ways one after the other. The sink stays open then, and another close may succeed; but the
rows went with the attempt that failed. The document that is written in the end holds the rows since
then and no others.
-/

namespace StepLatency

namespace JsonSink

variable {s : JsonSink}

/-- A close either fails, and the sink is open without its rows, or it has written the document. -/
theorem close_cases (setting : Setting) (hopen : s.closed = false) :
    (∃ e writer, s.close setting = (.error e, { s with writer, rows := #[] })) ∨
      ∃ writer, s.close setting = (.ok (), { s with writer, rows := #[], closed := true }) ∧
        writer.written =
          s.writer.written ++
            (documentText setting s.runId s.rows.toList).toUTF8.toList.toArray := by
  rw [close, if_neg (by rw [hopen]; decide)]
  rcases hwrite : s.writer.writeText (documentText setting s.runId s.rows.toList) with ⟨_ | _, w⟩
  · exact .inl ⟨_, w, rfl⟩
  · have hwritten := Writer.written_of_write_eq_ok hwrite
    have hflushed := w.written_flush
    rcases hflush : w.flush with ⟨_ | _, w'⟩
    · simp only [hflush]
      exact .inl ⟨_, w', rfl⟩
    · rw [hflush] at hflushed
      simp only [hflush]
      exact .inr ⟨w', rfl, hflushed.trans hwritten⟩

theorem write_open (row : Row) (hopen : s.closed = false) :
    s.write row = (.ok (), { s with rows := s.rows.push row }) :=
  if_neg (by rw [hopen]; decide)

/-! ### Writers that fail as they are told -/

/-- Where a close fails: at a byte of its document, or when it is flushed. -/
inductive CloseFault
  | atByte (position : Nat) (cause : SinkError)
  | atFlush (cause : SinkError)

def CloseFault.cause : CloseFault → SinkError
  | .atByte _ cause => cause
  | .atFlush cause => cause

/-- Some writes and a close after them that fails. -/
structure FailedClose where
  rows : List Row
  setting : Setting
  fault : CloseFault

namespace FailedClose

variable (runId : String) (f : FailedClose)

def calls : List Call := f.rows.map .write ++ [.close f.setting]

def answers : List (Except SinkError Unit) := f.rows.map (fun _ => .ok ()) ++ [.error f.fault.cause]

def bytes : List UInt8 := (documentText f.setting runId f.rows).toUTF8.toList

def Possible : Prop :=
  match f.fault with
  | .atByte position _ => position < (f.bytes runId).length
  | .atFlush _ => True

def arriving : List UInt8 :=
  match f.fault with
  | .atByte position _ => (f.bytes runId).take position
  | .atFlush _ => f.bytes runId

/-- A writer that lets the close fail, and goes on as another writer. -/
def failing (w : Writer) : Writer :=
  match f.fault with
  | .atByte position cause => w.refusingAt position cause
  | .atFlush cause => w.flushingBadlyAfter (f.bytes runId) cause

variable {runId} {f}

theorem lineRoom_failing {w : Writer} (h : w.lineRoom = none) :
    (f.failing runId w).lineRoom = none := by
  unfold failing
  cases f.fault with
  | atByte position cause => rfl
  | atFlush cause => exact h

/-- The writer that was made for a close lets it fail, and is the other writer from then on. -/
theorem close_failing {w : Writer} (hlines : w.lineRoom = none) (hf : f.Possible runId) :
    close f.setting ⟨f.failing runId w, runId, f.rows.toArray, false⟩ =
      (.error f.fault.cause,
        create { w with written := w.written ++ (f.arriving runId).toArray } runId) := by
  unfold Possible at hf
  unfold close failing arriving Writer.writeText
  rw [if_neg Bool.false_ne_true, List.toList_toArray]
  cases hfault : f.fault with
  | atByte position cause =>
      rw [hfault] at hf
      have hwrite : (w.refusingAt position cause).write
          (documentText f.setting runId f.rows).toUTF8.toList = _ :=
        Writer.write_refusingAt hf
      simp only [hwrite]
      rfl
  | atFlush cause =>
      have hwrite : (w.flushingBadlyAfter (f.bytes runId) cause).write
          (documentText f.setting runId f.rows).toUTF8.toList = _ :=
        Writer.write_flushingBadlyAfter hlines
      simp only [hwrite]
      rfl

/-- The writes before the close are taken, and the close fails. -/
theorem performAll_calls {w : Writer} (hlines : w.lineRoom = none) (hf : f.Possible runId) :
    performAll f.calls (create (f.failing runId w) runId) =
      (f.answers, create { w with written := w.written ++ (f.arriving runId).toArray } runId) := by
  have hwrites : performAll (f.rows.map .write) (create (f.failing runId w) runId) =
      (f.rows.map fun _ => .ok (), ⟨f.failing runId w, runId, f.rows.toArray, false⟩) := by
    rw [performAll_writes f.rows rfl]
    simp [create]
  have hclose : (Call.close f.setting).perform
      ⟨f.failing runId w, runId, f.rows.toArray, false⟩ = _ := close_failing hlines hf
  rw [calls, performAll_append, hwrites, performAll_cons, hclose]
  rfl

/-- What has arrived before does not change how a writer fails. -/
theorem foldr_failing_written (runId : String) (closes : List FailedClose) (w : Writer)
    (written : Array UInt8) :
    closes.foldr (failing runId) { w with written } =
      { closes.foldr (failing runId) w with written } := by
  induction closes with
  | nil => rfl
  | cons f rest ih =>
      rw [List.foldr_cons, List.foldr_cons, ih, failing, failing]
      cases f.fault <;> rfl

theorem lineRoom_foldr_failing (runId : String) (closes : List FailedClose) {w : Writer}
    (h : w.lineRoom = none) : (closes.foldr (failing runId) w).lineRoom = none := by
  induction closes with
  | nil => exact h
  | cons f rest ih => exact lineRoom_failing ih

end FailedClose

/-- For closes that fail one after the other, each at a byte of its document or when it is flushed,
and each with an error of its own, there is a writer that lets them fail so. Then it goes on as any
writer that has no limit of lines. -/
theorem performAll_failedCloses (runId : String) {w : Writer} (hlines : w.lineRoom = none)
    {closes : List FailedClose} (hcloses : ∀ f ∈ closes, f.Possible runId) :
    performAll (closes.flatMap (·.calls))
        (create (closes.foldr (FailedClose.failing runId) w) runId) =
      (closes.flatMap (·.answers),
        create { w with written := w.written ++ (closes.flatMap (·.arriving runId)).toArray }
          runId) := by
  induction closes generalizing w with
  | nil => simp [performAll]
  | cons f rest ih =>
      have hrest := ih (w := { w with written := w.written ++ (f.arriving runId).toArray }) hlines
        fun other hmem => hcloses other (List.mem_cons_of_mem _ hmem)
      have hsame := congrArg Writer.written
        (FailedClose.foldr_failing_written runId rest w w.written)
      have hwritten : (rest.foldr (FailedClose.failing runId) w).written = w.written := hsame
      have hfirst := FailedClose.performAll_calls
        (FailedClose.lineRoom_foldr_failing runId rest hlines) (hcloses f List.mem_cons_self)
      rw [hwritten, ← FailedClose.foldr_failing_written] at hfirst
      rw [List.flatMap_cons, List.foldr_cons, performAll_append, hfirst, hrest]
      simp [Array.append_assoc]

/-! ### What is held and what is dropped -/

/-- The rows that a sink holds after calls of which every close fails. -/
def held : List Row → List Call → List Row
  | rows, [] => rows
  | rows, .write row :: rest => held (rows ++ [row]) rest
  | _, .close _ :: rest => held [] rest

/-- The rows that went with the closes that failed. -/
def dropped : List Row → List Call → List Row
  | _, [] => []
  | rows, .write row :: rest => dropped (rows ++ [row]) rest
  | rows, .close _ :: rest => rows ++ dropped [] rest

/-- As long as a sink is open, its rows are those since the last close, and every row that it took
before them is dropped. -/
theorem performAll_open {calls : List Call} (hopen : s.closed = false)
    (hstill : (performAll calls s).2.closed = false) :
    (performAll calls s).2.rows.toList = held s.rows.toList calls ∧
      (performAll calls s).2.runId = s.runId ∧
      s.rows.toList ++ acceptedRows calls (performAll calls s).1 =
        dropped s.rows.toList calls ++ held s.rows.toList calls := by
  induction calls generalizing s with
  | nil => exact ⟨rfl, rfl, List.append_nil _⟩
  | cons call rest ih =>
      rw [performAll_cons] at hstill ⊢
      cases call with
      | write row =>
          have hwrite : (Call.write row).perform s = _ := write_open row hopen
          rw [hwrite] at hstill ⊢
          obtain ⟨hrows, hrunId, haccepted⟩ :=
            ih (s := { s with rows := s.rows.push row }) hopen hstill
          rw [Array.toList_push] at hrows haccepted
          rw [List.append_assoc] at haccepted
          exact ⟨hrows, hrunId, haccepted⟩
      | close setting =>
          -- A close that succeeds would have closed the sink for good.
          obtain ⟨e, writer, hclose⟩ | ⟨writer, hclose, -⟩ := close_cases setting hopen
          · have hclose : (Call.close setting).perform s = _ := hclose
            rw [hclose] at hstill ⊢
            obtain ⟨hrows, hrunId, haccepted⟩ :=
              ih (s := { s with writer, rows := #[] }) hopen hstill
            refine ⟨hrows, hrunId, ?_⟩
            rw [dropped, List.append_assoc]
            exact congrArg (s.rows.toList ++ ·) haccepted
          · have hclose : (Call.close setting).perform s = _ := hclose
            rw [hclose, performAll_closed rfl] at hstill
            exact nomatch hstill

theorem mem_held {row : Row} {rows : List Row} {calls : List Call} (h : row ∈ held rows calls) :
    row ∈ rows ∨ .write row ∈ calls := by
  induction calls generalizing rows with
  | nil => exact .inl h
  | cons call rest ih =>
      cases call with
      | write row' =>
          rcases ih h with hrows | hrest
          · rcases List.mem_append.1 hrows with hrows | hrow
            · exact .inl hrows
            · obtain rfl := List.mem_singleton.1 hrow
              exact .inr List.mem_cons_self
          · exact .inr (List.mem_cons_of_mem _ hrest)
      | close setting =>
          rcases ih h with hrows | hrest
          · exact nomatch hrows
          · exact .inr (List.mem_cons_of_mem _ hrest)

open Json in
/-- Whatever was called and however the writer failed, a sink that is still open holds the rows
since the last close only. If the next close fails too, these are dropped and the sink is open
again. If it succeeds, it has written one document, of the rows that were held; and all rows that
were ever taken are in it just when no row was dropped. -/
theorem failed_close {writer : Writer} {runId : String} {calls : List Call}
    (hcalls : ∀ call ∈ calls, call.Admissible) {answers : List (Except SinkError Unit)}
    {s : JsonSink} (hrun : performAll calls (create writer runId) = (answers, s))
    (hopen : s.closed = false) {setting : Setting} (hsetting : setting.Valid) :
    s.rows.toList = held [] calls ∧
      acceptedRows calls answers = dropped [] calls ++ held [] calls ∧
      (∀ e s', s.close setting = (.error e, s') → s'.closed = false ∧ s'.rows = #[]) ∧
      ∀ s', s.close setting = (.ok (), s') → s'.closed = true ∧
        ∃ text report, s'.writer.written = s.writer.written ++ text.toUTF8.toList.toArray ∧
          Decoder.decode ReportDocument.schema.decoder text = .ok report ∧
          report.metadata.runId = runId ∧
          List.Forall₂ Row.Restored (held [] calls) report.measurements ∧
          (List.Forall₂ Row.Restored (acceptedRows calls answers) report.measurements ↔
            dropped [] calls = []) := by
  have hstill : (performAll calls (create writer runId)).2.closed = false := by rwa [hrun]
  obtain ⟨hrows, hrunId, haccepted⟩ := performAll_open rfl hstill
  simp only [hrun] at hrows hrunId haccepted
  replace haccepted : acceptedRows calls answers = dropped [] calls ++ held [] calls := haccepted
  refine ⟨hrows, haccepted, fun e s' hclose => ?_, fun s' hclose => ?_⟩
  · obtain ⟨e', writer', hfailed⟩ | ⟨writer', hdone, -⟩ := close_cases setting hopen
    · obtain rfl := congrArg Prod.snd (hfailed.symm.trans hclose)
      exact ⟨hopen, rfl⟩
    · exact nomatch congrArg Prod.fst (hdone.symm.trans hclose)
  · obtain ⟨e', writer', hfailed⟩ | ⟨writer', hdone, hwritten⟩ := close_cases setting hopen
    · exact nomatch congrArg Prod.fst (hfailed.symm.trans hclose)
    · obtain rfl := congrArg Prod.snd (hdone.symm.trans hclose)
      have hmeasured : ∀ row ∈ held [] calls, row.value.IsMeasured := by
        intro row hrow
        rcases mem_held hrow with hnone | hwrite
        · exact nomatch hnone
        · exact hcalls _ hwrite
      obtain ⟨report, hdecode, hmetadata, hrestored⟩ :=
        exists_decode_documentText hsetting s.runId hmeasured
      rw [hrows] at hwritten
      refine ⟨rfl, _, report, hwritten, hdecode, by rw [hmetadata, hrunId]; rfl, hrestored, ?_⟩
      constructor
      · intro hall
        have hlength := hall.length_eq.trans hrestored.length_eq.symm
        rw [haccepted, List.length_append] at hlength
        exact List.eq_nil_of_length_eq_zero (by omega)
      · intro hnone
        rwa [haccepted, hnone]

/-- The first close fails when it flushes. The second one succeeds, and its document has lost the
row before the first. -/
theorem failed_close_drops_row :
    ∃ s s' text report,
      performAll [.write ⟨"SCAN", "a", .whole 1⟩, .close ⟨⟨19675, 80000, 500⟩, 8⟩,
          .write ⟨"SCAN", "b", .whole 2⟩]
          (create { Writer.unlimited with flushFaults := [.flushFailed] } "run") =
        ([.ok (), .error .flushFailed, .ok ()], s) ∧
      s.close ⟨⟨19676, 0, 0⟩, 8⟩ = (.ok (), s') ∧
      s'.writer.written = s.writer.written ++ text.toUTF8.toList.toArray ∧
      Json.Decoder.decode ReportDocument.schema.decoder text = .ok report ∧
      report.measurements = [⟨"SCAN", "b", .whole 2⟩] := by
  have hcalls : ∀ call ∈ [Call.write ⟨"SCAN", "a", .whole 1⟩, .close ⟨⟨19675, 80000, 500⟩, 8⟩,
      .write ⟨"SCAN", "b", .whole 2⟩], call.Admissible := by
    have hsetting : Setting.Valid ⟨⟨19675, 80000, 500⟩, 8⟩ :=
      ⟨⟨by decide, by decide, .inl (by decide)⟩, by decide⟩
    simp only [List.forall_mem_cons]
    exact ⟨trivial, hsetting, trivial, fun _ h => absurd h List.not_mem_nil⟩
  have hsetting : Setting.Valid ⟨⟨19676, 0, 0⟩, 8⟩ :=
    ⟨⟨by decide, by decide, .inl (by decide)⟩, by decide⟩
  -- The writer fails once as it is flushed, and then it does not fail any more.
  let failed : FailedClose :=
    ⟨[⟨"SCAN", "a", .whole 1⟩], ⟨⟨19675, 80000, 500⟩, 8⟩, .atFlush .flushFailed⟩
  have hpossible : ∀ f ∈ [failed], f.Possible "run" := by simp [FailedClose.Possible, failed]
  have hfails := performAll_failedCloses "run" (w := .unlimited) rfl hpossible
  obtain ⟨s, hrun, hwriter, hopen⟩ : ∃ s : JsonSink,
      performAll [.write ⟨"SCAN", "a", .whole 1⟩, .close ⟨⟨19675, 80000, 500⟩, 8⟩,
          .write ⟨"SCAN", "b", .whole 2⟩]
          (create { Writer.unlimited with flushFaults := [.flushFailed] } "run") =
        ([.ok (), .error .flushFailed, .ok ()], s) ∧ s.writer.Unfailing ∧ s.closed = false := by
    have hlast := performAll_append ([failed].flatMap (·.calls)) [.write ⟨"SCAN", "b", .whole 2⟩]
      (create ([failed].foldr (FailedClose.failing "run") .unlimited) "run")
    rw [hfails] at hlast
    exact ⟨_, hlast, ⟨rfl, rfl, rfl⟩, rfl⟩
  have hclose : s.close ⟨⟨19676, 0, 0⟩, 8⟩ = _ := close_open hwriter hopen
  obtain ⟨-, -, -, hdone⟩ := failed_close hcalls hrun hopen hsetting
  obtain ⟨-, text, report, hwritten, hdecode, -, hrows, -⟩ := hdone _ hclose
  obtain ⟨metadata, rows⟩ := report
  change List.Forall₂ Row.Restored [⟨"SCAN", "b", .whole 2⟩] rows at hrows
  obtain _ | ⟨⟨hgroup, hlabel, hvalue⟩, _ | _⟩ := hrows
  rename_i row
  obtain ⟨group, label, value⟩ := row
  obtain rfl : group = "SCAN" := hgroup
  obtain rfl : label = "b" := hlabel
  obtain rfl : value = .whole 2 := hvalue.eq_whole
  exact ⟨s, _, text, _, hrun, hclose, hwritten, hdecode, rfl⟩

end JsonSink

end StepLatency
