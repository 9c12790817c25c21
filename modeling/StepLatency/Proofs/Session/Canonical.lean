import Mathlib
import StepLatency.Proofs.Session.Held
import StepLatency.Proofs.Text.ByteOrder

/-!
# The report of a session

A report is made of what was measured: every summary can be read off it, and the summaries stand in
the order of the names. So two sessions that measured the same, in whatever order and with whatever
requests that failed in between, have the same report.
-/

namespace StepLatency

/-! ### Reading a report off what was measured -/

namespace Measured

def totals (m : Measured) (name : String) (step : Nat) : StepTotals :=
  ⟨UInt64.ofNat (min (m.latencySum name step) maxCount),
    UInt64.ofNat (m.latencies name step).length⟩

def pacing (m : Measured) : Pacing :=
  ⟨UInt64.ofNat (min m.delaySum maxCount), UInt64.ofNat m.delays.length⟩

def summary (m : Measured) (kind : String × Nat) : Summary where
  operation := kind.1
  steps := (List.range kind.2).map fun step => .ofTotals step (m.totals kind.1 step)
  invalidSamples := UInt64.ofNat (m.negatives kind.1)
  pacingSamples := m.pacing.samples
  averagePacing := m.pacing.average

/-- The same kinds, the same samples of every kind and step, and the same pacing intervals, in
whatever order. -/
structure Alike (m m' : Measured) : Prop where
  kinds : ∀ kind, kind ∈ m.kinds ↔ kind ∈ m'.kinds
  latencies : ∀ name step, (m.latencies name step).Perm (m'.latencies name step)
  negatives : ∀ name, m.negatives name = m'.negatives name
  delays : m.delays.Perm m'.delays

section Alike

variable {m m' : Measured}

theorem Alike.of_perm (hkinds : m.kinds.Perm m'.kinds) (hsamples : m.samples.Perm m'.samples)
    (hdelays : m.delays.Perm m'.delays) : m.Alike m' where
  kinds _ := hkinds.mem_iff
  latencies _ _ := (hsamples.filter _).map _
  negatives _ := hsamples.countP_eq _
  delays := hdelays

theorem Alike.totals_eq (h : m.Alike m') (name : String) (step : Nat) :
    m.totals name step = m'.totals name step := by
  have hlatencies := h.latencies name step
  have hsum : m.latencySum name step = m'.latencySum name step := (hlatencies.map amount).sum_eq
  rw [totals, totals, hsum, hlatencies.length_eq]

theorem Alike.pacing_eq (h : m.Alike m') : m.pacing = m'.pacing := by
  have hsum : m.delaySum = m'.delaySum := (h.delays.map _).sum_eq
  rw [pacing, pacing, hsum, h.delays.length_eq]

theorem Alike.summary_eq (h : m.Alike m') (kind : String × Nat) :
    m.summary kind = m'.summary kind := by
  simp only [summary, h.totals_eq, h.negatives, h.pacing_eq]

end Alike

theorem negatives_lt {m : Measured} (hcount : m.samples.length < UInt64.size) (name : String) :
    m.negatives name < UInt64.size :=
  Nat.lt_of_le_of_lt List.countP_le_length hcount

end Measured

/-! ### The kinds of a store -/

def Store.kinds (s : Store) : List (String × Nat) :=
  s.entries.map fun (name, h) => (name, (s.aggregators[h]?.map (·.stepCount)).getD 0)

namespace Measured.HeldBy

variable {m : Measured} {s : Store}

theorem mem_kinds_iff (hm : m.HeldBy s) (kind : String × Nat) :
    kind ∈ s.kinds ↔ kind ∈ m.kinds := by
  obtain ⟨name, n⟩ := kind
  rw [hm.kinds, Store.kinds, List.mem_map]
  constructor
  · rintro ⟨⟨key, h⟩, hmem, heq⟩
    obtain ⟨a, ha, -⟩ := hm.wellFormed.kinds key h hmem
    simp only [ha, Option.map_some, Option.getD_some, Prod.mk.injEq] at heq
    obtain ⟨rfl, hcount⟩ := heq
    exact ⟨h, a, hmem, ha, hcount⟩
  · rintro ⟨h, a, hmem, ha, hcount⟩
    exact ⟨(name, h), hmem, by simp [ha, hcount]⟩

theorem kinds_sorted (hm : m.HeldBy s) : s.kinds.Pairwise fun a b => a.1 < b.1 :=
  List.pairwise_map.2 hm.wellFormed.sorted

/-- Strictly increasing names and the same kinds leave one order. -/
theorem kinds_eq {m' : Measured} {t : Store} (hm : m.HeldBy s) (hm' : m'.HeldBy t)
    (h : m.Alike m') : s.kinds = t.kinds := by
  have hmem (kind : String × Nat) : kind ∈ s.kinds ↔ kind ∈ t.kinds := by
    rw [hm.mem_kinds_iff, hm'.mem_kinds_iff, h.kinds]
  have hne {a b : String × Nat} (hlt : a.1 < b.1) : a ≠ b := by
    rintro rfl
    exact String.lt_irrefl _ hlt
  have hnodup : s.kinds.Nodup := hm.kinds_sorted.imp hne
  have hnodup' : t.kinds.Nodup := hm'.kinds_sorted.imp hne
  refine ((List.perm_ext_iff_of_nodup hnodup hnodup').2 hmem).eq_of_pairwise ?_
    hm.kinds_sorted hm'.kinds_sorted
  intro a b _ _ hab hba
  exact absurd (String.lt_trans hab hba) (String.lt_irrefl _)

theorem totals_eq (hm : m.HeldBy s) {name : String} {h : Handle} {a : Aggregator}
    (hmem : (name, h) ∈ s.entries) (ha : s.aggregators[h]? = some a) {step : Nat}
    (hstep : step < a.stepCount) : (s.totals? h step).getD .empty = m.totals name step := by
  have hshown := hm.shown name h a hmem ha
  have hsum : ((s.totals? h step).getD .empty).latencySum = (m.totals name step).latencySum :=
    (hshown.latencySum step hstep).value_eq
  have hnumber : ((s.totals? h step).getD .empty).operations = (m.totals name step).operations :=
    (hshown.operations step hstep).value_eq.trans UInt64.ofNat_mod_size
  cases htotals : (s.totals? h step).getD .empty
  rw [htotals] at hsum hnumber
  exact congrArg₂ StepTotals.mk hsum hnumber

theorem pacing_eq (hm : m.HeldBy s) : s.pacing Store.registryTracker = m.pacing := by
  have hsum : (s.pacing Store.registryTracker).delaySum = m.pacing.delaySum := hm.delaySum.value_eq
  have hnumber : (s.pacing Store.registryTracker).samples = m.pacing.samples :=
    hm.pacingSamples.value_eq.trans UInt64.ofNat_mod_size
  cases hpacing : s.pacing Store.registryTracker
  rw [hpacing] at hsum hnumber
  exact congrArg₂ Pacing.mk hsum hnumber

/-- What a store says of a kind is what was measured of it. -/
theorem summary?_eq (hm : m.HeldBy s) {name : String} {h : Handle}
    (hmem : (name, h) ∈ s.entries) :
    s.summary? h = some (m.summary (name, (s.aggregators[h]?.map (·.stepCount)).getD 0)) := by
  obtain ⟨a, ha, hname, -, htracker⟩ := hm.wellFormed.kinds name h hmem
  have hsteps : (List.range a.stepCount).map (s.stepStats h) =
      (List.range a.stepCount).map fun step => .ofTotals step (m.totals name step) := by
    apply List.map_congr_left
    intro step hstep
    rw [Store.stepStats, hm.totals_eq hmem ha (List.mem_range.1 hstep)]
  have hinvalid : (Counter.invalidSamples h).value s = UInt64.ofNat (m.negatives name) :=
    (hm.shown name h a hmem ha).invalidSamples.value_eq.trans UInt64.ofNat_mod_size
  have hsamples : (Counter.pacingSamples Store.registryTracker).value s = m.pacing.samples :=
    congrArg Pacing.samples hm.pacing_eq
  rw [Store.summary?_eq_some ha, hname, htracker, hsteps, hinvalid, hsamples, hm.pacing_eq, ha]
  rfl

theorem summaries_eq (hm : m.HeldBy s) : s.summaries = s.kinds.map m.summary := by
  rw [Store.summaries, Store.kinds, List.map_map, ← List.filterMap_eq_map]
  apply List.filterMap_congr
  intro entry hmem
  exact hm.summary?_eq hmem

end Measured.HeldBy

/-! ### The rows of a report -/

/-- The rows of a group: the mean delay of the pacing, if any, the number of negative samples, if
any, and one row for each step. -/
def Measured.groupRows (m : Measured) (kind : String × Nat) : List Row :=
  (m.pacing.average.toList.map fun delay => ⟨kind.1, pacingLabel, .real delay⟩) ++
    (if 0 < m.negatives kind.1 then
      [⟨kind.1, negativeLabel, .whole (UInt64.ofNat (m.negatives kind.1))⟩] else []) ++
    (List.range kind.2).map fun step =>
      ⟨kind.1, stepLabel step (m.totals kind.1 step).operations,
        .whole ((m.totals kind.1 step).average.getD 0)⟩

namespace Measured

variable {m : Measured}

theorem pacingRows_summary (kind : String × Nat) :
    (m.summary kind).pacingRows =
      m.pacing.average.toList.map fun delay => ⟨kind.1, pacingLabel, .real delay⟩ := by
  simp only [Summary.pacingRows, summary]
  cases m.pacing.average <;> rfl

theorem negativeRows_summary (hcount : m.samples.length < UInt64.size) (kind : String × Nat) :
    (m.summary kind).negativeRows =
      if 0 < m.negatives kind.1 then
        [⟨kind.1, negativeLabel, .whole (UInt64.ofNat (m.negatives kind.1))⟩] else [] := by
  have hword : (UInt64.ofNat (m.negatives kind.1)).toNat = m.negatives kind.1 :=
    UInt64.toNat_ofNat_of_lt (m.negatives_lt hcount kind.1)
  have hzero : (m.summary kind).invalidSamples = 0 ↔ ¬ 0 < m.negatives kind.1 := by
    rw [summary, ← UInt64.toNat_inj, hword, UInt64.toNat_zero, Nat.not_lt, Nat.le_zero]
  by_cases hpos : 0 < m.negatives kind.1
  · rw [Summary.negativeRows, if_neg (fun h => hzero.1 h hpos), if_pos hpos]
    rfl
  · rw [Summary.negativeRows, if_pos (hzero.2 hpos), if_neg hpos]

theorem rows_summary (hcount : m.samples.length < UInt64.size) (kind : String × Nat) :
    (m.summary kind).rows = m.groupRows kind := by
  rw [Summary.rows, pacingRows_summary, negativeRows_summary hcount, groupRows]
  congr 1
  exact List.map_map

end Measured

theorem Measured.HeldBy.rows_eq {m : Measured} {s : Store} (hm : m.HeldBy s)
    (hcount : m.samples.length < UInt64.size) : s.rowsOf none = s.kinds.flatMap m.groupRows := by
  rw [Store.rowsOf, Store.summariesOf, hm.summaries_eq, List.flatMap_map]
  exact List.flatMap_congr fun kind _ => Measured.rows_summary hcount kind

namespace Store

/-- Two sessions that measured the same have the same summaries and offer the same rows to any sink.
The groups of the rows stand in increasing order of the bytes of their names, one after the other,
each with the mean delay, if there is one, with the number of negative samples, if there are any, and
with its steps in order. A report changes nothing, so the next one is the same. -/
theorem report_canonical (first second : List Request)
    (halike : (measured first).Alike (measured second))
    (hcount : (measured first).samples.length < UInt64.size) :
    (session first).summaries = (session second).summaries ∧
    (session first).rowsOf none = (session second).rowsOf none ∧
    (∀ (σ ε : Type) (sink : Sink σ ε) (state : σ),
      (session first).exportTo none sink state = (session second).exportTo none sink state) ∧
    (∃ kinds : List (String × Nat),
      (kinds.Pairwise fun a b => utf8Bytes a.1 < utf8Bytes b.1) ∧
      (∀ kind, kind ∈ kinds ↔ kind ∈ (measured first).kinds) ∧
      (session first).rowsOf none = kinds.flatMap (measured first).groupRows) ∧
    empty.answerAll (first ++ [.rows none, .rows none]) =
      ((empty.answerAll first).1 ++
        [.rows ((session first).rowsOf none), .rows ((session first).rowsOf none)],
        session first) := by
  have hheld := measured_heldBy first
  have hheld' := measured_heldBy second
  have hsummaries : (session first).summaries = (session second).summaries := by
    rw [hheld.summaries_eq, hheld'.summaries_eq, hheld.kinds_eq hheld' halike]
    exact List.map_congr_left fun kind _ => halike.summary_eq kind
  have hrows : (session first).rowsOf none = (session second).rowsOf none := by
    rw [rowsOf, rowsOf, summariesOf, summariesOf, hsummaries]
  refine ⟨hsummaries, hrows, ?_, ⟨(session first).kinds, ?_, hheld.mem_kinds_iff,
    hheld.rows_eq hcount⟩, ?_⟩
  · intro σ ε sink state
    rw [exportTo_eq_writeAll, exportTo_eq_writeAll, hrows]
  · exact hheld.kinds_sorted.imp fun hlt => utf8Bytes_lt hlt
  · rw [answerAll_append]
    rfl

/-- Two kinds, registered in either order, with a second attempt at one of them, a sample that comes
too early and an interval before a reset. -/
theorem report_canonical_twoKinds :
    (session [.register "READ" 1, .register "SCAN" 2, .recordByName "READ" 5 0,
        .recordByName "SCAN" (-1) 1, .pace none 7, .register "READ" 3]).rowsOf none =
      (session [.recordByName "READ" 5 0, .register "SCAN" 2, .record 0 (-1) 1, .pace none 9,
        .reset none, .register "READ" 1, .pace (some 1) 7, .record 1 5 0]).rowsOf none :=
  (report_canonical _ _ (.of_perm (by decide +kernel) (by decide +kernel) (by decide +kernel))
    (by decide +kernel)).2.1

end Store

end StepLatency
