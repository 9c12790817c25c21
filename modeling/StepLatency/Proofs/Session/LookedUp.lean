import Mathlib
import StepLatency.Proofs.Report.RowKey
import StepLatency.Proofs.Session.Canonical
import StepLatency.Report.MemorySink

/-!
# Looking up the rows of a report

A look-up takes the first row with a group and a label, so it says something about a report only if
no two rows are addressed alike. Between two kinds the names differ. Within one kind the label tells
the kind of its row and, for a step, the step, and every step has one row.
-/

namespace StepLatency

/-! ### Rows in memory -/

namespace MemorySink

variable {k : MemorySink}

/-- A sink in memory that does not fail keeps all rows. -/
theorem writeAll_sink (hwrite : k.failingWrite = none) (rows : List Row) :
    ∃ after, sink.writeAll rows k = (.ok (), after) ∧
      after.rows.toList = k.rows.toList ++ rows := by
  induction rows generalizing k with
  | nil => exact ⟨k, rfl, (List.append_nil _).symm⟩
  | cons row rest ih =>
      have hstep : sink.write row k = (.ok (), { k with rows := k.rows.push row }) := by
        simp [sink, hwrite]
      obtain ⟨after, hafter, hrows⟩ := @ih { k with rows := k.rows.push row } hwrite
      refine ⟨after, ?_, ?_⟩
      · rw [Sink.writeAll, hstep]
        exact hafter
      · rw [hrows, Array.toList_push, List.append_assoc, List.singleton_append]

/-- Where addresses are unique, looking one up finds the value of its row. -/
theorem value?_eq_some_iff (hunique : (k.rows.toList.map Row.address).Nodup)
    {group label : String} {v : Amount} :
    k.value? group label = some v ↔ ⟨group, label, v⟩ ∈ k.rows.toList := by
  rw [value?, Option.map_eq_some_iff]
  constructor
  · rintro ⟨row, hfind, rfl⟩
    have hmem := List.mem_of_find?_eq_some hfind
    obtain ⟨rfl, rfl⟩ : row.group = group ∧ row.label = label := by
      simpa using List.find?_some hfind
    exact hmem
  · intro hmem
    cases hfind : k.rows.toList.find? fun row => row.group == group && row.label == label with
    | none => simpa using List.find?_eq_none.1 hfind _ hmem
    | some row =>
        have haddress : row.group = group ∧ row.label = label := by
          simpa using List.find?_some hfind
        have hrow : row = ⟨group, label, v⟩ :=
          List.inj_on_of_nodup_map hunique (List.mem_of_find?_eq_some hfind) hmem
            (Prod.ext haddress.1 haddress.2)
        exact ⟨row, rfl, congrArg Row.value hrow⟩

end MemorySink

/-! ### The rows of one summary -/

namespace Summary

/-- No two rows of a summary are about the same. -/
theorem nodup_keys {s : Summary} (hsteps : (s.steps.map (·.step)).Nodup) : s.keys.Nodup := by
  have hpacing : (s.averagePacing.toList.map fun _ => RowKey.pacing).Nodup := by
    cases s.averagePacing <;> simp
  have hnegative : (if s.invalidSamples = 0 then [] else [RowKey.negative]).Nodup := by
    split <;> simp
  have hnumbers : (s.steps.map fun stats => RowKey.step stats.step stats.operations).Nodup := by
    refine List.Nodup.of_map (fun key => match key with | .step number _ => number | _ => 0) ?_
    rw [List.map_map]
    exact hsteps
  refine (hpacing.append hnegative ?_).append hnumbers ?_
  · intro key hleft hright
    obtain ⟨-, -, rfl⟩ := List.mem_map.1 hleft
    split at hright <;> simp at hright
  · intro key hleft hright
    obtain ⟨stats, -, rfl⟩ := List.mem_map.1 hright
    rcases List.mem_append.1 hleft with hpacing | hnegative
    · simp at hpacing
    · split at hnegative <;> simp at hnegative

theorem nodup_address_rows {s : Summary} (hsteps : (s.steps.map (·.step)).Nodup) :
    (s.rows.map Row.address).Nodup := by
  rw [map_address_rows]
  refine (nodup_keys hsteps).map fun key key' h => ?_
  exact RowKey.label_injective (Prod.mk.inj h).2

/-- The number of operations that a step is listed with. -/
theorem exists_mem_rows_iff {s : Summary} {step : Nat} {operations : UInt64} :
    (∃ v, (⟨s.operation, stepLabel step operations, v⟩ : Row) ∈ s.rows) ↔
      ∃ stats ∈ s.steps, stats.step = step ∧ stats.operations = operations := by
  have haddress : (∃ v, (⟨s.operation, stepLabel step operations, v⟩ : Row) ∈ s.rows) ↔
      (s.operation, (RowKey.step step operations).label) ∈ s.rows.map Row.address := by
    rw [List.mem_map]
    constructor
    · rintro ⟨v, hmem⟩
      exact ⟨_, hmem, rfl⟩
    · rintro ⟨⟨group, label, v⟩, hmem, hrow⟩
      obtain ⟨rfl, rfl⟩ := Prod.mk.inj hrow
      exact ⟨v, hmem⟩
  rw [haddress, map_address_rows, List.mem_map]
  constructor
  · rintro ⟨key, hkey, heq⟩
    obtain rfl := RowKey.label_injective (Prod.mk.inj heq).2
    simpa [keys] using hkey
  · rintro ⟨stats, hmem, rfl, rfl⟩
    exact ⟨_, List.mem_append_right _ (List.mem_map_of_mem hmem), rfl⟩

end Summary

/-! ### The rows of several summaries -/

section Summaries

variable {summaries : List Summary}

theorem nodup_address_flatMap (hnames : (summaries.map (·.operation)).Nodup)
    (hsteps : ∀ s ∈ summaries, (s.steps.map (·.step)).Nodup) :
    ((summaries.flatMap (·.rows)).map Row.address).Nodup := by
  rw [List.map_flatMap, List.nodup_flatMap]
  refine ⟨fun s hs => Summary.nodup_address_rows (hsteps s hs), ?_⟩
  refine (List.pairwise_map.1 hnames).imp fun {s s'} hne => ?_
  intro address hleft hright
  obtain ⟨row, hrow, rfl⟩ := List.mem_map.1 hleft
  obtain ⟨row', hrow', heq⟩ := List.mem_map.1 hright
  have hgroup : row'.group = row.group := (Prod.mk.inj heq).1
  rw [(Summary.exists_key_of_mem_rows hrow).1, (Summary.exists_key_of_mem_rows hrow').1] at hgroup
  exact hne hgroup.symm

theorem filter_group_of_not_mem {name : String} (hname : name ∉ summaries.map (·.operation)) :
    (summaries.flatMap (·.rows)).filter (fun row => row.group == name) = [] := by
  rw [List.filter_eq_nil_iff]
  intro row hrow hgroup
  obtain ⟨s, hs, hmem⟩ := List.mem_flatMap.1 hrow
  rw [(Summary.exists_key_of_mem_rows hmem).1] at hgroup
  exact hname (beq_iff_eq.1 hgroup ▸ List.mem_map_of_mem hs)

/-- A group holds the rows of the summary with this name. -/
theorem filter_group_flatMap (hnames : (summaries.map (·.operation)).Nodup) {s : Summary}
    (hs : s ∈ summaries) :
    (summaries.flatMap (·.rows)).filter (fun row => row.group == s.operation) = s.rows := by
  -- The name occurs once, so the summaries before and after this one have no rows of it.
  obtain ⟨before, after, rfl⟩ := List.append_of_mem hs
  rw [List.map_append, List.map_cons, List.nodup_middle, List.nodup_cons, List.mem_append,
    not_or] at hnames
  obtain ⟨⟨hbefore, hafter⟩, -⟩ := hnames
  have hown : s.rows.filter (fun row => row.group == s.operation) = s.rows := by
    rw [List.filter_eq_self]
    intro row hrow
    exact beq_iff_eq.2 (Summary.exists_key_of_mem_rows hrow).1
  rw [List.flatMap_append, List.flatMap_cons, List.filter_append, List.filter_append,
    filter_group_of_not_mem hbefore, filter_group_of_not_mem hafter, hown, List.nil_append,
    List.append_nil]

end Summaries

/-! ### The rows of a session -/

namespace Measured.HeldBy

variable {m : Measured} {s : Store}

theorem names_eq (hm : m.HeldBy s) : s.summaries.map (·.operation) = s.entries.map (·.1) := by
  rw [hm.summaries_eq, Store.kinds, List.map_map, List.map_map]
  rfl

theorem nodup_names (hm : m.HeldBy s) : (s.summaries.map (·.operation)).Nodup := by
  rw [hm.names_eq]
  exact hm.wellFormed.sorted.nodup

theorem nodup_steps (hm : m.HeldBy s) {summary : Summary} (hsummary : summary ∈ s.summaries) :
    (summary.steps.map (·.step)).Nodup := by
  rw [hm.summaries_eq] at hsummary
  obtain ⟨kind, -, rfl⟩ := List.mem_map.1 hsummary
  have hnumbers : (m.summary kind).steps.map (·.step) = List.range kind.2 := by
    rw [Measured.summary, List.map_map]
    exact List.map_id _
  rw [hnumbers]
  exact List.nodup_range

theorem nodup_address_rows (hm : m.HeldBy s) : ((s.rowsOf none).map Row.address).Nodup :=
  nodup_address_flatMap hm.nodup_names fun _ hsummary => hm.nodup_steps hsummary

theorem filter_group_rows (hm : m.HeldBy s) {name : String} {h : Handle}
    (hlookup : s.lookup name = some h) :
    (s.rowsOf none).filter (fun row => row.group == name) = s.rowsOf (some h) := by
  have hmem := hm.wellFormed.lookup_eq_some_iff.1 hlookup
  have hsummary := hm.summary?_eq hmem
  have hlisted : m.summary (name, (s.aggregators[h]?.map (·.stepCount)).getD 0) ∈ s.summaries :=
    List.mem_filterMap.2 ⟨(name, h), hmem, hsummary⟩
  calc (s.rowsOf none).filter (fun row => row.group == name)
      = (m.summary (name, (s.aggregators[h]?.map (·.stepCount)).getD 0)).rows :=
        filter_group_flatMap hm.nodup_names hlisted
    _ = s.rowsOf (some h) := by
        rw [Store.rowsOf, Store.summariesOf, hsummary, Option.toList_some, List.flatMap_singleton]

theorem flatMap_filter_group (hm : m.HeldBy s) :
    ((s.entries.map (·.1)).flatMap fun name => (s.rowsOf none).filter (·.group == name)) =
      s.rowsOf none := by
  rw [← hm.names_eq, List.flatMap_map]
  exact List.flatMap_congr fun summary hsummary => filter_group_flatMap hm.nodup_names hsummary

/-- Every step is listed once, with the number of its valid samples as the counter keeps it. -/
theorem exists_mem_rows_iff (hm : m.HeldBy s) {name : String} {n step : Nat}
    (hkind : (name, n) ∈ m.kinds) (hstep : step < n) (operations : UInt64) :
    (∃ v, (⟨name, stepLabel step operations, v⟩ : Row) ∈ s.rowsOf none) ↔
      operations = UInt64.ofNat (m.latencies name step).length := by
  have hlisted : m.summary (name, n) ∈ s.summaries := by
    rw [hm.summaries_eq]
    exact List.mem_map_of_mem ((hm.mem_kinds_iff _).2 hkind)
  have hrows : (s.rowsOf none).filter (·.group == name) = (m.summary (name, n)).rows :=
    filter_group_flatMap hm.nodup_names hlisted
  have hown (v : Amount) : (⟨name, stepLabel step operations, v⟩ : Row) ∈ s.rowsOf none ↔
      ⟨name, stepLabel step operations, v⟩ ∈ (m.summary (name, n)).rows := by
    rw [← hrows, List.mem_filter, beq_self_eq_true]
    exact (and_iff_left rfl).symm
  have hsteps : (∃ v, (⟨name, stepLabel step operations, v⟩ : Row) ∈ (m.summary (name, n)).rows) ↔
      ∃ stats ∈ (m.summary (name, n)).steps, stats.step = step ∧ stats.operations = operations :=
    Summary.exists_mem_rows_iff
  rw [exists_congr hown, hsteps]
  constructor
  · rintro ⟨stats, hmem, rfl, rfl⟩
    obtain ⟨_, -, rfl⟩ := List.mem_map.1 hmem
    rfl
  · rintro rfl
    exact ⟨_, List.mem_map_of_mem (List.mem_range.2 hstep), rfl, rfl⟩

end Measured.HeldBy

/-- No two rows of a session's report are addressed alike, so in memory a look-up finds exactly the
rows that were written. A group is the report of its kind, the groups in the order of the names are
the whole report, and every step is found under one number of operations, which is the number of its
valid samples. -/
theorem Store.report_looked_up (requests : List Request) :
    ∃ memory : MemorySink,
      (session requests).exportTo none MemorySink.sink .empty = (.ok (), memory) ∧
      memory.rows.toList = (session requests).rowsOf none ∧
      (memory.rows.toList.map fun row => (row.group, row.label)).Nodup ∧
      (∀ group label v, memory.value? group label = some v ↔
        ⟨group, label, v⟩ ∈ (session requests).rowsOf none) ∧
      (∀ name h, (session requests).lookup name = some h →
        memory.group name = (session requests).rowsOf (some h)) ∧
      (((session requests).entries.map (·.1)).Pairwise fun a b => utf8Bytes a < utf8Bytes b) ∧
      ((session requests).entries.map (·.1)).flatMap memory.group =
        (session requests).rowsOf none ∧
      ∀ name n, (name, n) ∈ (measured requests).kinds → ∀ step < n, ∀ operations : UInt64,
        (∃ v, memory.value? name (stepLabel step operations) = some v) ↔
          operations = UInt64.ofNat ((measured requests).latencies name step).length := by
  have hheld := measured_heldBy requests
  obtain ⟨memory, hexport, hrows⟩ :=
    MemorySink.writeAll_sink (k := .empty) rfl ((session requests).rowsOf none)
  replace hrows : memory.rows.toList = (session requests).rowsOf none := hrows
  have hunique : (memory.rows.toList.map Row.address).Nodup := hrows ▸ hheld.nodup_address_rows
  have hvalue (group label : String) (v : Amount) : memory.value? group label = some v ↔
      ⟨group, label, v⟩ ∈ (session requests).rowsOf none := by
    rw [MemorySink.value?_eq_some_iff hunique, hrows]
  have hgroup (name : String) :
      memory.group name = ((session requests).rowsOf none).filter (·.group == name) := by
    rw [MemorySink.group, hrows]
  refine ⟨memory, ?_, hrows, hunique, hvalue, ?_, ?_, ?_, ?_⟩
  · rw [exportTo_eq_writeAll]
    exact hexport
  · intro name h hlookup
    rw [hgroup, hheld.filter_group_rows hlookup]
  · rw [List.pairwise_map]
    exact hheld.wellFormed.sorted.imp fun hlt => utf8Bytes_lt hlt
  · rw [funext hgroup]
    exact hheld.flatMap_filter_group
  · intro name n hkind step hstep operations
    rw [exists_congr (hvalue name _), hheld.exists_mem_rows_iff hkind hstep]

/-- The first of two steps has two samples; it is found under this number and under no other. -/
theorem Store.report_looked_up_twoSamples :
    ∃ memory : MemorySink,
      (session [.register "READ" 2, .recordByName "READ" 5 0, .recordByName "READ" (-1) 0,
        .recordByName "READ" 7 0]).exportTo none MemorySink.sink .empty = (.ok (), memory) ∧
      memory.value? "READ" (stepLabel 0 2) = some (.whole 6) ∧
      memory.value? "READ" (stepLabel 0 3) = none := by
  obtain ⟨memory, hexport, -, -, hvalue, -, -, -, hsteps⟩ :=
    report_looked_up [.register "READ" 2, .recordByName "READ" 5 0, .recordByName "READ" (-1) 0,
      .recordByName "READ" 7 0]
  refine ⟨memory, hexport, (hvalue _ _ _).2 (by decide +kernel), ?_⟩
  rw [Option.eq_none_iff_forall_ne_some]
  intro v hfound
  have hthree := (hsteps "READ" 2 (by decide +kernel) 0 (by decide) 3).1 ⟨v, hfound⟩
  exact absurd hthree (by decide +kernel)

end StepLatency
