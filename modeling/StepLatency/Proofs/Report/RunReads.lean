import Mathlib
import StepLatency.Codec.Run
import StepLatency.Proofs.Json.Reads
import StepLatency.Proofs.Json.Reread

/-!
# Run reports that are read back

A run report that was written is read as a report with the same names, counters and times. Only its
pacing averages are read as other numbers: each as what its text is read as.
-/

namespace StepLatency

open Json

/-! ### Numbers and missing values -/

section Scalars

theorem reads_word (n : UInt64) : Reads Decoder.word 0 (.whole n.toNat) n := by
  have hreads := (reads_natural n.toNat_lt_size (Nat.le_refl _) "u64").map UInt64.ofNat
  rwa [UInt64.ofNat_toNat] at hreads

theorem reads_halfWord {n : Nat} (hn : n < UInt32.size) :
    Reads Decoder.halfWord 0 (.whole n) n :=
  reads_natural hn (by decide) _

theorem reads_binary64 {x : Binary64} (hx : IsModerate x) :
    Reads Decoder.binary64 0 (.real x) (reread x) := by
  obtain ⟨c, more, hcons, hc⟩ := hx.writes_toJson.exists_cons
  intro room blanks text rest _ hblanks htext hrest
  cases htext
  have hscan := hx.scanNumber_toJson hrest
  rw [hcons, List.cons_append] at hscan ⊢
  unfold Decoder.binary64 Decoder.number
  simp only [skipBlanks_digit hblanks hc, startsNumber_of_isDigit hc, if_true, hscan]
  rfl

/-- A missing value is written as null. -/
theorem reads_optional_null {α : Type} (d : Decoder α) :
    Reads (Decoder.optional d) 0 .null none := by
  intro room blanks text rest _ hblanks htext _
  cases htext
  have hskip : skipBlanks (blanks ++ ("null".toList ++ rest)) =
      'n' :: 'u' :: 'l' :: 'l' :: rest := by
    rw [skipBlanks_append hblanks]
    exact skipBlanks_cons (by decide)
  unfold Decoder.optional
  rw [hskip]
  rfl

/-- A value whose text begins with a digit is told from null. -/
theorem Json.Reads.optional {α : Type} {d : Decoder α} {depth : Nat} {v : Value} {a : α}
    (h : Reads d depth v a)
    (hdigit : ∀ text, Spells v text → ∃ c more, text = c :: more ∧ c.isDigit = true) :
    Reads (Decoder.optional d) depth v (some a) := by
  intro room blanks text rest hroom hblanks htext hrest
  obtain ⟨c, more, rfl, hc⟩ := hdigit text htext
  have hread := h hroom blank_nil htext hrest
  have hne : c ≠ 'n' := ne_of_isDigit hc (by decide)
  rw [List.nil_append] at hread
  unfold Decoder.optional
  rw [List.cons_append, skipBlanks_digit hblanks hc]
  split
  · rename_i heq
    exact absurd (List.cons.inj heq).1 hne
  · rw [← List.cons_append, hread]
    rfl

theorem reads_optional_word (n? : Option UInt64) :
    Reads (Decoder.optional Decoder.word) 0 (.ofOption (n?.map fun n => .whole n.toNat)) n? := by
  cases n? with
  | none => exact reads_optional_null _
  | some n =>
      refine (reads_word n).optional fun text htext => ?_
      cases htext
      exact exists_cons_toString _

theorem reads_optional_binary64 {x? : Option Binary64} (hx : ∀ x, x? = some x → IsModerate x) :
    Reads (Decoder.optional Decoder.binary64) 0 (.ofOption (x?.map .real)) (x?.map reread) := by
  cases x? with
  | none => exact reads_optional_null _
  | some x =>
      refine (reads_binary64 (hx x rfl)).optional fun text htext => ?_
      cases htext
      exact (hx x rfl).writes_toJson.exists_cons

end Scalars

/-! ### Records -/

theorem Duration.finish_of_parts {seconds : UInt64} {nanos : Nat} {d : Duration}
    (h : Duration.ofParts? seconds nanos = some d) :
    Duration.schema.finish ⟨some seconds, some nanos⟩ = .ok d := by
  dsimp only [schema, required]
  rw [ok_bind, ok_bind, h]
  rfl

theorem reads_duration (d : Duration) : Reads Duration.schema.decoder 1 d.jsonValue d := by
  have hnanos : d.subsecondNanos < UInt32.size := by
    unfold Duration.subsecondNanos nanosPerSecond UInt32.size
    omega
  have hcollects : Collects Duration.schema 0 Duration.schema.blank
      [("secs", .whole d.seconds.toNat), ("nanos", .whole d.subsecondNanos)]
      ⟨some d.seconds, some d.subsecondNanos⟩ :=
    .field rfl rfl (reads_word _) (.field rfl rfl (reads_halfWord hnanos) (.nil _))
  exact reads_record hcollects (Duration.finish_of_parts d.ofParts?_seconds_subsecondNanos)

theorem reads_stepStats {s : StepStats} (hstep : s.step < UInt64.size) :
    Reads StepStats.schema.decoder 1 s.jsonValue s := by
  have hcollects : Collects StepStats.schema 0 StepStats.schema.blank
      [("step", .whole s.step), ("operations", .whole s.operations.toNat),
        ("total_latency_us", .whole s.latencySum.toNat),
        ("average_latency_us", .ofOption (s.average.map fun n => .whole n.toNat))]
      ⟨some s.step, some s.operations, some s.latencySum, some s.average⟩ :=
    .field rfl rfl (reads_size hstep) (.field rfl rfl (reads_word _) (.field rfl rfl (reads_word _)
      (.field rfl rfl (reads_optional_word _) (.nil _))))
  exact reads_record hcollects rfl

/-- A summary is the state of an aggregator and a tracker; its steps are numbered by words. -/
def Summary.IsTaken (s : Summary) : Prop :=
  ∃ (a : Aggregator) (p : Pacing), a.stepCount ≤ UInt64.size ∧ s = a.summary p

def Summary.restored (s : Summary) : Summary :=
  { s with averagePacing := s.averagePacing.map reread }

theorem Summary.IsTaken.step_lt {s : Summary} (h : s.IsTaken) {stats : StepStats}
    (hstats : stats ∈ s.steps) : stats.step < UInt64.size := by
  obtain ⟨a, p, hcount, rfl⟩ := h
  obtain ⟨step, hstep, rfl⟩ := List.mem_mapIdx.1 hstats
  rw [Array.length_toList] at hstep
  exact Nat.lt_of_lt_of_le hstep hcount

theorem Summary.IsTaken.isModerate {s : Summary} (h : s.IsTaken) {x : Binary64}
    (hx : s.averagePacing = some x) : IsModerate x := by
  obtain ⟨a, p, -, rfl⟩ := h
  exact isModerate_average hx

/-- A summary that was taken comes back restored. -/
theorem reads_summary {s : Summary} (h : s.IsTaken) :
    Reads Summary.schema.decoder 3 s.jsonValue s.restored := by
  have hsteps : List.Forall₂ (Reads StepStats.schema.decoder 1)
      (s.steps.map StepStats.jsonValue) s.steps := by
    rw [List.forall₂_map_left_iff, List.forall₂_same]
    exact fun stats hstats => reads_stepStats (h.step_lt hstats)
  have hcollects : Collects Summary.schema 2 Summary.schema.blank
      [("name", .text s.operation), ("steps", .list (s.steps.map StepStats.jsonValue)),
        ("invalid_samples", .whole s.invalidSamples.toNat),
        ("pacing_samples", .whole s.pacingSamples.toNat),
        ("average_pacing_delay_us", .ofOption (s.averagePacing.map .real))]
      ⟨some s.operation, some s.steps, some s.invalidSamples, some s.pacingSamples,
        some (s.averagePacing.map reread)⟩ :=
    .field rfl rfl ((reads_string _).mono (by decide)) (.field rfl rfl (reads_list hsteps)
      (.field rfl rfl ((reads_word _).mono (by decide))
        (.field rfl rfl ((reads_word _).mono (by decide))
          (.field rfl rfl ((reads_optional_binary64 fun x => h.isModerate).mono (by decide))
            (.nil _)))))
  exact reads_record hcollects rfl

def RunReport.IsTaken (r : RunReport) : Prop := ∀ s ∈ r.summaries, s.IsTaken

/-- What a report comes back as: all the same, but for the averages. -/
def RunReport.restored (r : RunReport) : RunReport :=
  { r with summaries := r.summaries.map Summary.restored }

/-- A report of summaries that were taken comes back restored. -/
theorem reads_runReport {r : RunReport} (h : r.IsTaken) :
    Reads RunReport.schema.decoder 5 r.jsonValue r.restored := by
  have hsummaries : List.Forall₂ (Reads Summary.schema.decoder 3)
      (r.summaries.map Summary.jsonValue) (r.summaries.map Summary.restored) := by
    rw [List.forall₂_map_left_iff, List.forall₂_map_right_iff, List.forall₂_same]
    exact fun s hs => reads_summary (h s hs)
  have hcollects : Collects RunReport.schema 4 RunReport.schema.blank
      [("run_id", .text r.runId), ("elapsed", r.elapsed.jsonValue),
        ("total_operations", .whole r.totalOperations.toNat),
        ("pacing_samples", .whole r.pacingSamples.toNat),
        ("summaries", .list (r.summaries.map Summary.jsonValue))]
      ⟨some r.runId, some r.elapsed, some r.totalOperations, some r.pacingSamples,
        some (r.summaries.map Summary.restored)⟩ :=
    .field rfl rfl ((reads_string _).mono (by decide))
      (.field rfl rfl ((reads_duration _).mono (by decide))
        (.field rfl rfl ((reads_word _).mono (by decide))
          (.field rfl rfl ((reads_word _).mono (by decide))
            (.field rfl rfl (reads_list hsummaries) (.nil _)))))
  exact reads_record hcollects rfl

/-! ### Texts -/

/-- Any text of a report is decoded to the restored report. -/
theorem RunReport.IsTaken.decode_eq {r : RunReport} (h : r.IsTaken) {text : List Char}
    (htext : Spells r.jsonValue text) :
    Decoder.decode RunReport.schema.decoder (String.ofList text) = .ok r.restored := by
  have hdecode := decode_of_reads (reads_runReport h) (by decide) htext blank_nil
  rwa [List.append_nil] at hdecode

end StepLatency
