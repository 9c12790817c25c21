import Mathlib
import StepLatency.Proofs.Report.TextLines
import StepLatency.Proofs.Session.Persistent
import StepLatency.Proofs.Workload.Registered

/-!
# Workloads in text reports

The groups of a text report are the names that were declared. A declared name may hold any character
but blanks at its ends, line breaks inside it too, and then a row takes more lines than one.
-/

namespace StepLatency

def Request.registers : Request → Bool
  | .register _ _ => true
  | _ => false

/-! ### Registering is a session -/

/-- To register declarations is to make one request for each. -/
theorem Registration.store_addAll {r r' : Registration} {specs : List OperationSpec}
    (h : r.addAll specs = (.ok (), r')) :
    r'.store =
      (r.store.answerAll (specs.map fun spec => .register spec.name spec.steps)).2 := by
  induction specs generalizing r with
  | nil =>
      obtain rfl : r = r' := congrArg Prod.snd h
      rfl
  | cons spec rest ih =>
      rw [addAll, add] at h
      rw [List.map_cons, Store.answerAll_cons, Store.answer]
      rcases hregister : r.store.register spec.name spec.steps with ⟨cause | handle, store⟩
      · rw [hregister] at h
        cases congrArg Prod.fst h
      · rw [hregister] at h
        exact ih h

theorem Config.store_register {c : Config} {r : Registration} (h : c.register = (.ok (), r)) :
    r.store = Store.session
      (c.operations.map (fun spec => .register spec.name spec.steps) ++ [.reset none]) := by
  obtain ⟨hresult, hstore⟩ := Prod.mk.inj h
  have hadded := Registration.store_addAll (Prod.ext hresult rfl :
    Registration.empty.addAll c.operations = (.ok (), (Registration.empty.addAll c.operations).2))
  rw [Store.session_concat, Store.session, ← hstore]
  exact congrArg (Store.resetPacing · Store.registryTracker) hadded

namespace Store

variable {s : Store}

/-- Entries come from registrations only. -/
theorem WellFormed.entries_answerAll (hs : s.WellFormed) {requests : List Request}
    (h : ∀ request ∈ requests, request.registers = false) :
    (s.answerAll requests).2.entries = s.entries := by
  induction requests generalizing s with
  | nil => rfl
  | cons request rest ih =>
      have hrest := ih (hs.answer request) fun other hmem => h other (List.mem_cons_of_mem _ hmem)
      rw [answerAll_cons, hrest]
      rcases (hs.effect request).entries_eq with hsame | ⟨name, n, rfl, -⟩
      · exact hsame
      · exact nomatch h _ List.mem_cons_self

/-- The groups of a report are the names of the entries, and its labels stay on one line. -/
theorem WellFormed.of_mem_rowsOf (hs : s.WellFormed) {row : Row} (h : row ∈ s.rowsOf none) :
    (∃ handle, (row.group, handle) ∈ s.entries) ∧ OnOneLine row.label := by
  obtain ⟨summary, hsummary, hrow⟩ := List.mem_flatMap.1 h
  obtain ⟨⟨name, handle⟩, hentry, hsome⟩ := List.mem_filterMap.1 hsummary
  obtain ⟨a, ha, hname, -, -⟩ := hs.kinds name handle hentry
  obtain rfl := Option.some.inj ((summary?_eq_some ha).symm.trans hsome)
  refine ⟨⟨handle, ?_⟩, Summary.onOneLine_label hrow⟩
  rw [(Summary.exists_key_of_mem_rows hrow).1, hname]
  exact hentry

theorem WellFormed.exists_row (hs : s.WellFormed) {name : String} {handle : Handle}
    (hentry : (name, handle) ∈ s.entries) : ∃ row ∈ s.rowsOf none, row.group = name := by
  obtain ⟨a, ha, rfl, hsteps, -⟩ := hs.kinds name handle hentry
  have hsummary := summary?_eq_some ha
  refine ⟨_, List.mem_flatMap.2 ⟨_, List.mem_filterMap.2 ⟨_, hentry, hsummary⟩,
    List.mem_append_right _ (List.mem_map.2 ⟨s.stepStats handle 0, ?_, rfl⟩)⟩, rfl⟩
  exact List.mem_map.2 ⟨0, List.mem_range.2 hsteps, rfl⟩

end Store

theorem Registration.Holds.mem_names_iff {r : Registration} {kinds : List OperationSpec}
    (hr : r.Holds kinds) {name : String} :
    (∃ h, (name, h) ∈ r.store.entries) ↔ ∃ spec ∈ kinds, spec.name = name := by
  simp only [hr.entries.mem_iff, mem_kindEntries_iff]
  constructor
  · rintro ⟨h, spec, hspec, hname⟩
    exact ⟨spec, List.mem_of_getElem? hspec, hname⟩
  · rintro ⟨spec, hspec, hname⟩
    obtain ⟨h, hh⟩ := List.getElem?_of_mem hspec
    exact ⟨h, spec, hh, hname⟩

/-- However much was recorded on the kinds of a workload, its text report is the lines of all rows.
The line breaks in it are one for each row and those in the groups, which are declared names. So
there are as many lines as rows just when no declared name holds a line break, and then the report
can be cut into the entries of its rows. -/
theorem Config.text_report {c : Config} (hvalid : c.validate = .ok ())
    (hconsistent : c.Consistent) :
    ∃ r, c.register = (.ok (), r) ∧
      ∀ (requests : List Request) (w : Writer), (∀ request ∈ requests, request.registers = false) →
        w.Unfailing →
        ∃ rows after, (r.store.answerAll requests).2.rowsOf none = rows ∧
          (r.store.answerAll requests).2.exportTo none textSink w = (.ok (), after) ∧
          after.written = w.written ++ (linesText rows).toUTF8.toList.toArray ∧
          (∀ row ∈ rows, ∃ spec ∈ c.operations, spec.name = row.group) ∧
          (linesText rows).toList.count '\n' =
            rows.length + (rows.map fun row => row.group.toList.count '\n').sum ∧
          ((linesText rows).toList.count '\n' = rows.length ↔
            ∀ spec ∈ c.operations, OnOneLine spec.name) ∧
          ((∀ spec ∈ c.operations, OnOneLine spec.name) →
            (linesText rows).toList.splitOn '\n' = rows.map (·.entry.toList) ++ [[]]) := by
  obtain ⟨r, kinds, hregister, hr, hkinds⟩ :=
    exists_register_eq_ok (c.validate_eq_ok_iff.1 hvalid) hconsistent
  refine ⟨r, hregister, fun requests w hrequests hw => ?_⟩
  have hstart : r.store.WellFormed := by
    rw [store_register hregister]
    exact Store.session_wellFormed _
  have hs := (hstart.answerAll requests).1
  have hnames (name : String) : (∃ h, (name, h) ∈ (r.store.answerAll requests).2.entries) ↔
      ∃ spec ∈ c.operations, spec.name = name := by
    rw [hstart.entries_answerAll hrequests, hr.mem_names_iff]
    simp only [hkinds]
  generalize (r.store.answerAll requests).2 = s at hs hnames
  obtain ⟨after, hafter, hwritten⟩ := exists_writeAll_textSink hw (s.rowsOf none)
  have hlabels : ∀ row ∈ s.rowsOf none, OnOneLine row.label := fun row hrow =>
    (hs.of_mem_rowsOf hrow).2
  have hgroups : ∀ row ∈ s.rowsOf none, ∃ spec ∈ c.operations, spec.name = row.group :=
    fun row hrow => (hnames row.group).1 (hs.of_mem_rowsOf hrow).1
  -- Every group is a declared name, and every declared name is the group of a row.
  have hlines : (∀ row ∈ s.rowsOf none, OnOneLine row.group) ↔
      ∀ spec ∈ c.operations, OnOneLine spec.name := by
    constructor
    · intro hone spec hspec
      obtain ⟨handle, hentry⟩ := (hnames spec.name).2 ⟨spec, hspec, rfl⟩
      obtain ⟨row, hrow, hgroup⟩ := hs.exists_row hentry
      rw [← hgroup]
      exact hone row hrow
    · intro hone row hrow
      obtain ⟨spec, hspec, hgroup⟩ := hgroups row hrow
      rw [← hgroup]
      exact hone spec hspec
  refine ⟨_, after, rfl, ?_, hwritten, hgroups, count_newline_linesText hlabels,
    (count_newline_eq_length_iff hlabels).trans hlines,
    fun hone => splitOn_linesText hlabels (hlines.2 hone)⟩
  rw [Store.exportTo_eq_writeAll]
  exact hafter

/-- A declaration with a line break in its name is accepted, and its only row takes two lines. -/
theorem Config.text_report_brokenName :
    OperationSpec.parse "A\nB:1" = .ok ⟨"A\nB", 1⟩ ∧
      ∃ r after, { twoKinds with operations := [⟨"A\nB", 1⟩] }.register = (.ok (), r) ∧
        r.store.exportTo none textSink .unlimited = (.ok (), after) ∧
        after.written =
          "[A\nB], step:0, operations: 0, Average Latency(us), 0\n".toUTF8.toList.toArray ∧
        (r.store.rowsOf none).length = 1 := by
  refine ⟨by decide +kernel, ?_⟩
  obtain ⟨r, hregister, hreport⟩ := Config.text_report
    (c := { twoKinds with operations := [⟨"A\nB", 1⟩] }) (by decide +kernel) (by decide +kernel)
  obtain ⟨rows, after, hrows, hexport, hwritten, -⟩ :=
    hreport [] .unlimited (by simp) ⟨rfl, rfl, rfl⟩
  obtain rfl : _ = r := congrArg Prod.snd hregister
  obtain rfl : [⟨"A\nB", "step:0, operations: 0, Average Latency(us)", .whole 0⟩] = rows := by
    rw [← hrows]
    decide +kernel
  refine ⟨_, after, hregister, hexport, ?_, by decide +kernel⟩
  rw [hwritten]
  decide +kernel

end StepLatency
