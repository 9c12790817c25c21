import Mathlib
import StepLatency.Proofs.Report.JsonLifeCycle
import StepLatency.Proofs.Report.RowKey
import StepLatency.Proofs.Report.Writing

/-!
# The lines of a text report

A row is written as one line as far as its label and its value go, which never hold a line break.
The group is written as it is, so every line break in it begins a line of its own.
-/

namespace StepLatency

/-! ### Texts without a line break -/

def OnOneLine (text : String) : Prop := '\n' ∉ text.toList

theorem onOneLine_of_digits {text : String} (h : ∀ c ∈ text.toList, c.isDigit = true) :
    OnOneLine text := by
  intro hmem
  exact absurd (h _ hmem) (by decide)

theorem OnOneLine.append {first second : String} (hfirst : OnOneLine first)
    (hsecond : OnOneLine second) : OnOneLine (first ++ second) := by
  rw [OnOneLine, String.toList_append, List.mem_append, not_or]
  exact ⟨hfirst, hsecond⟩

theorem onOneLine_toString (n : Nat) : OnOneLine (toString n) := by
  refine onOneLine_of_digits fun c hc => ?_
  rw [Decimal.toList_toString] at hc
  exact Decimal.isDigit_of_mem_toDigits hc

theorem Amount.onOneLine_text (a : Amount) : OnOneLine a.text := by
  intro hmem
  rcases a.of_mem_text hmem with hdigit | hmark
  · exact absurd hdigit (by decide)
  · exact absurd hmark (by decide)

theorem onOneLine_stepLabel (step : Nat) (operations : UInt64) :
    OnOneLine (stepLabel step operations) := by
  have hstep : OnOneLine "step:" := by simp [OnOneLine]
  have hoperations : OnOneLine ", operations: " := by simp [OnOneLine]
  have haverage : OnOneLine ", Average Latency(us)" := by simp [OnOneLine]
  exact (((hstep.append (onOneLine_toString step)).append hoperations).append
    (onOneLine_toString _)).append haverage

theorem RowKey.onOneLine_label (key : RowKey) : OnOneLine key.label := by
  cases key with
  | pacing => simp [OnOneLine, label, pacingLabel]
  | negative => simp [OnOneLine, label, negativeLabel]
  | step number operations => exact onOneLine_stepLabel number operations

theorem Summary.onOneLine_label {s : Summary} {row : Row} (h : row ∈ s.rows) :
    OnOneLine row.label := by
  obtain ⟨-, key, hkey⟩ := exists_key_of_mem_rows h
  rw [hkey]
  exact key.onOneLine_label

/-! ### Rows and their lines -/

namespace Row

def entry (row : Row) : String := s!"[{row.group}], {row.label}, {row.value.text}"

theorem line_eq (row : Row) : row.line = row.entry ++ "\n" := by
  simp [line, entry, toString, String.append_assoc]

theorem count_newline_entry {row : Row} (h : OnOneLine row.label) :
    row.entry.toList.count '\n' = row.group.toList.count '\n' := by
  have hlabel := List.count_eq_zero.2 h
  have hvalue := List.count_eq_zero.2 row.value.onOneLine_text
  simp [entry, toString, List.count_append, hlabel, hvalue]

theorem count_newline_line {row : Row} (h : OnOneLine row.label) :
    row.line.toList.count '\n' = 1 + row.group.toList.count '\n' := by
  rw [line_eq, String.toList_append, List.count_append, count_newline_entry h, Nat.add_comm]
  rfl

end Row

def linesText (rows : List Row) : String := String.join (rows.map Row.line)

theorem linesText_cons (row : Row) (rest : List Row) :
    linesText (row :: rest) = row.line ++ linesText rest :=
  String.join_cons

theorem count_newline_linesText {rows : List Row} (h : ∀ row ∈ rows, OnOneLine row.label) :
    (linesText rows).toList.count '\n' =
      rows.length + (rows.map fun row => row.group.toList.count '\n').sum := by
  induction rows with
  | nil => rfl
  | cons row rest ih =>
      have hrest := ih fun other hmem => h other (List.mem_cons_of_mem _ hmem)
      have hrow := Row.count_newline_line (h row List.mem_cons_self)
      rw [linesText_cons, String.toList_append, List.count_append, hrow, hrest, List.length_cons,
        List.map_cons, List.sum_cons]
      omega

theorem count_newline_eq_length_iff {rows : List Row} (h : ∀ row ∈ rows, OnOneLine row.label) :
    (linesText rows).toList.count '\n' = rows.length ↔ ∀ row ∈ rows, OnOneLine row.group := by
  rw [count_newline_linesText h, Nat.add_eq_left, List.sum_eq_zero_iff, List.forall_mem_map]
  simp only [List.count_eq_zero, OnOneLine]

theorem toList_linesText (rows : List Row) :
    (linesText rows).toList = ['\n'].intercalate (rows.map (·.entry.toList) ++ [[]]) := by
  induction rows with
  | nil => rfl
  | cons row rest ih =>
      have hne : rest.map (·.entry.toList) ++ [[]] ≠ [] := by simp
      rw [linesText_cons, String.toList_append, Row.line_eq, String.toList_append, ih,
        List.map_cons, List.cons_append, List.intercalate_cons_of_ne_nil hne]
      rfl

/-- Cut at its line breaks, a text of rows on one line each falls into their entries. -/
theorem splitOn_linesText {rows : List Row} (hlabels : ∀ row ∈ rows, OnOneLine row.label)
    (hgroups : ∀ row ∈ rows, OnOneLine row.group) :
    (linesText rows).toList.splitOn '\n' = rows.map (·.entry.toList) ++ [[]] := by
  rw [toList_linesText]
  refine List.splitOn_intercalate '\n' (fun line hline => ?_) (by simp)
  rcases List.mem_append.1 hline with hline | hline
  · obtain ⟨row, hrow, rfl⟩ := List.mem_map.1 hline
    have hentry := Row.count_newline_entry (hlabels row hrow)
    rw [List.count_eq_zero.2 (hgroups row hrow)] at hentry
    exact List.count_eq_zero.1 hentry
  · rw [List.mem_singleton.1 hline]
    exact List.not_mem_nil

/-! ### What a writer gets -/

theorem Writer.writeText_append (w : Writer) (first second : String) :
    w.writeText (first ++ second) =
      match w.writeText first with
      | (.ok (), w) => w.writeText second
      | (.error e, w) => (.error e, w) := by
  simp only [writeText, toList_toUTF8, utf8Bytes_append]
  exact w.write_append _ _

/-- Row after row, a writer is offered the text of all rows. -/
theorem writeAll_textSink (rows : List Row) (w : Writer) :
    textSink.writeAll rows w = w.writeText (linesText rows) := by
  induction rows generalizing w with
  | nil =>
      rw [Writer.writeText, toList_toUTF8]
      exact w.write_nil.symm
  | cons row rest ih =>
      have hrow : textSink.write row w = w.writeText row.line := rfl
      rw [linesText_cons, Writer.writeText_append, Sink.writeAll, hrow]
      rcases w.writeText row.line with ⟨_ | _, next⟩
      · rfl
      · exact ih next

/-- A writer that never fails gets the lines of all rows. -/
theorem exists_writeAll_textSink {w : Writer} (hw : w.Unfailing) (rows : List Row) :
    ∃ after, textSink.writeAll rows w = (.ok (), after) ∧
      after.written = w.written ++ (linesText rows).toUTF8.toList.toArray := by
  rw [writeAll_textSink]
  exact ⟨_, Writer.write_unlimited _ hw.byteRoom hw.lineRoom, rfl⟩

/-! ### Telling rows apart -/

/-- Rows that are written as the same text are rows of the same group with the same label, which is
the label of one kind of row, one step and one number of operations only; and they have the same
value unless it is a real one. The group may hold anything, the text of other rows too. -/
theorem text_row_unambiguous {w : Writer} (hw : w.Unfailing) {s s' : Summary} {row row' : Row}
    (hrow : row ∈ s.rows) (hrow' : row' ∈ s'.rows)
    (hsame : (textSink.write row w).2.written = (textSink.write row' w).2.written) :
    row.group = row'.group ∧ row.label = row'.label ∧
      (∃ key : RowKey, ∀ other : RowKey, (row.label = other.label ↔ other = key) ∧
        (row'.label = other.label ↔ other = key)) ∧
      ∀ n, row.value = .whole n ↔ row'.value = .whole n := by
  have hwritten (row : Row) :
      (textSink.write row w).2.written = w.written ++ row.line.toUTF8.toList.toArray :=
    congrArg (·.2.written) (Writer.write_unlimited _ hw.byteRoom hw.lineRoom)
  have hline : row.line = row'.line := by
    rw [hwritten, hwritten, Array.append_right_inj, ← Array.toList_inj, toList_toUTF8,
      toList_toUTF8] at hsame
    exact utf8Bytes_injective hsame
  obtain ⟨-, key, hkey⟩ := Summary.exists_key_of_mem_rows hrow
  obtain ⟨-, key', hkey'⟩ := Summary.exists_key_of_mem_rows hrow'
  obtain ⟨hgroup, rfl, hvalue⟩ := Row.line_inj hkey hkey' hline
  have hother (other : RowKey) : key.label = other.label ↔ other = key := by
    rw [RowKey.label_injective.eq_iff, eq_comm]
  refine ⟨hgroup, hkey.trans hkey'.symm, ⟨key, fun other => ?_⟩, fun n => ?_⟩
  · rw [hkey, hkey']
    exact ⟨hother other, hother other⟩
  · rw [← Amount.text_whole_eq_iff, ← Amount.text_whole_eq_iff, hvalue]

/-- A row under a name that imitates two other rows. -/
def imitatingRow (x : Binary64) : Row := ⟨"A], Negative Latency, 5\n[B", pacingLabel, .real x⟩

/-- Two averages, a third and 333 thousandths, that are equal in the first two places. -/
theorem text_row_unambiguous_imitation :
    ∃ x y : Binary64, x ≠ y ∧
      (textSink.write (imitatingRow x) .unlimited).2.written =
        (textSink.write (imitatingRow y) .unlimited).2.written ∧
      ∃ key : RowKey, ∀ other : RowKey, pacingLabel = other.label ↔ other = key := by
  have hrow (x : Binary64) :
      imitatingRow x ∈ (⟨(imitatingRow x).group, [], 0, 3, some x⟩ : Summary).rows :=
    List.mem_cons_self
  have hsame :
      (textSink.write (imitatingRow ((Binary64.ofNat 1).divMagnitude (Binary64.ofNat 3)))
        .unlimited).2.written =
      (textSink.write (imitatingRow ((Binary64.ofNat 333).divMagnitude (Binary64.ofNat 1000)))
        .unlimited).2.written := by
    decide +kernel
  obtain ⟨-, -, ⟨key, hkey⟩, -⟩ :=
    text_row_unambiguous (w := .unlimited) ⟨rfl, rfl, rfl⟩ (hrow _) (hrow _) hsame
  exact ⟨_, _, by decide +kernel, hsame, key, fun other => (hkey other).1⟩

end StepLatency
