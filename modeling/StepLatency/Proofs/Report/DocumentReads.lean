import Mathlib
import StepLatency.Codec.Document
import StepLatency.Proofs.Json.Reads
import StepLatency.Proofs.Json.Reread

/-!
# Reports that are read back

A report that was written is read as a report with the same metadata and the same rows in the same
order. Whole amounts come back as they were. Real amounts come back as real ones, and finite; their
last digits may differ, since a number is read in two roundings.
-/

namespace StepLatency

open Json

inductive Amount.Restored : Amount → Amount → Prop
  | whole (n : UInt64) : Restored (.whole n) (.whole n)
  | real (x : Binary64) {y : Binary64} (hfinite : y.isFinite = true) : Restored (.real x) (.real y)

theorem Amount.Restored.eq_whole {n : UInt64} {a : Amount} (h : (Amount.whole n).Restored a) :
    a = .whole n := by
  cases h
  rfl

theorem Amount.Restored.eq_real {x : Binary64} {a : Amount} (h : (Amount.real x).Restored a) :
    ∃ y, a = .real y ∧ y.isFinite = true := by
  cases h with
  | real _ hfinite => exact ⟨_, rfl, hfinite⟩

structure Row.Restored (row row' : Row) : Prop where
  group : row'.group = row.group
  label : row'.label = row.label
  value : row.value.Restored row'.value

/-- A real amount is the average of some pacing tracker. -/
def Amount.IsMeasured : Amount → Prop
  | .whole _ => True
  | .real x => ∃ p : Pacing, p.average = some x

/-! ### Amounts -/

theorem reads_amount_whole (n : UInt64) : Reads Amount.decoder 0 (.whole n.toNat) (.whole n) := by
  intro room blanks text rest _ hblanks htext hrest
  cases htext
  obtain ⟨c, more, hcons, hc⟩ := exists_cons_toString n.toNat
  have hscan := scanNumber_toString n.toNat_lt hrest
  rw [hcons, List.cons_append] at hscan ⊢
  unfold Amount.decoder
  simp only [skipBlanks_digit hblanks hc, startsNumber_of_isDigit hc, if_true, hscan]
  simp only [liftFault, ok_bind, Amount.ofNumber, UInt64.ofNat_toNat]
  rfl

theorem reads_amount_real {x : Binary64} (hx : IsModerate x) :
    Reads Amount.decoder 0 (.real x) (.real (reread x)) := by
  obtain ⟨c, more, hcons, hc⟩ := hx.writes_toJson.exists_cons
  intro room blanks text rest _ hblanks htext hrest
  cases htext
  have hscan := hx.scanNumber_toJson hrest
  rw [hcons, List.cons_append] at hscan ⊢
  unfold Amount.decoder
  simp only [skipBlanks_digit hblanks hc, startsNumber_of_isDigit hc, if_true, hscan]
  rfl

/-- The average of a tracker never loses its kind: it is written with a point or an exponent. -/
theorem Amount.IsMeasured.exists_reads {a : Amount} (h : a.IsMeasured) :
    ∃ a', a.Restored a' ∧ Reads Amount.decoder 0 a.jsonValue a' := by
  cases a with
  | whole n => exact ⟨.whole n, .whole n, reads_amount_whole n⟩
  | real x =>
      obtain ⟨p, hp⟩ := h
      have hx := isModerate_average hp
      exact ⟨.real (reread x), .real x hx.magnitude?_written.2, reads_amount_real hx⟩

/-! ### Rows and metadata -/

theorem reads_row {row : Row} {a : Amount} (h : Reads Amount.decoder 0 row.value.jsonValue a) :
    Reads Row.schema.decoder 1 row.jsonValue ⟨row.group, row.label, a⟩ := by
  have hcollects : Collects Row.schema 0 Row.schema.blank
      [("metric", .text row.group), ("measurement", .text row.label),
        ("value", row.value.jsonValue)] ⟨some row.group, some row.label, some a⟩ :=
    .field rfl rfl (reads_string _) (.field rfl rfl (reads_string _) (.field rfl rfl h (.nil _)))
  exact reads_record hcollects rfl

/-- Rows of measured amounts are read back, each for its own. -/
theorem exists_reads_rows {rows : List Row} (h : ∀ row ∈ rows, row.value.IsMeasured) :
    ∃ rows', List.Forall₂ Row.Restored rows rows' ∧
      List.Forall₂ (Reads Row.schema.decoder 1) (rows.map Row.jsonValue) rows' := by
  induction rows with
  | nil => exact ⟨[], .nil, .nil⟩
  | cons row rest ih =>
      obtain ⟨rest', hrestored, hreads⟩ := ih fun row hrow => h row (List.mem_cons_of_mem _ hrow)
      obtain ⟨a, ha, hamount⟩ := (h row List.mem_cons_self).exists_reads
      exact ⟨⟨row.group, row.label, a⟩ :: rest', .cons ⟨rfl, rfl, ha⟩ hrestored,
        .cons (reads_row hamount) hreads⟩

/-- Metadata comes back as it was. -/
theorem reads_metadata {m : ReportMetadata}
    (htimestamp : Timestamp.read m.timestamp.text.toList = .ok m.timestamp)
    (hcores : m.cpuCores < UInt64.size) :
    Reads ReportMetadata.schema.decoder 1 m.jsonValue m := by
  have hread : Reads Timestamp.decoder 0 (.text m.timestamp.text) m.timestamp := by
    refine reads_parsed ?_ _
    rw [htimestamp]
    rfl
  have hcollects : Collects ReportMetadata.schema 0 ReportMetadata.schema.blank
      [("version", .text m.version), ("run_id", .text m.runId),
        ("timestamp", m.timestamp.jsonValue), ("cpu_cores", .whole m.cpuCores)]
      ⟨some m.version, some m.runId, some m.timestamp, some m.cpuCores⟩ :=
    .field rfl rfl (reads_string _) (.field rfl rfl (reads_string _) (.field rfl rfl hread
      (.field rfl rfl (reads_size hcores) (.nil _))))
  exact reads_record hcollects rfl

/-! ### Documents -/

theorem reads_document {document : ReportDocument} {rows : List Row}
    (hmetadata : Reads ReportMetadata.schema.decoder 1 document.metadata.jsonValue
      document.metadata)
    (hrows : List.Forall₂ (Reads Row.schema.decoder 1)
      (document.measurements.map Row.jsonValue) rows) :
    Reads ReportDocument.schema.decoder 3 document.jsonValue ⟨document.metadata, rows⟩ := by
  have hcollects : Collects ReportDocument.schema 2 ReportDocument.schema.blank
      [("metadata", document.metadata.jsonValue),
        ("measurements", .list (document.measurements.map Row.jsonValue))]
      ⟨some document.metadata, some rows⟩ :=
    .field rfl rfl (hmetadata.mono (by decide)) (.field rfl rfl (reads_list hrows) (.nil _))
  exact reads_record hcollects rfl

/-- The indented text of a document, with blanks after it, is decoded to the document with its rows
restored. -/
theorem exists_decode_prettyText (document : ReportDocument)
    (htimestamp : Timestamp.read document.metadata.timestamp.text.toList =
      .ok document.metadata.timestamp)
    (hcores : document.metadata.cpuCores < UInt64.size)
    (hrows : ∀ row ∈ document.measurements, row.value.IsMeasured) {after : String}
    (hafter : Blank after.toList) :
    ∃ rows, List.Forall₂ Row.Restored document.measurements rows ∧
      Decoder.decode ReportDocument.schema.decoder (document.jsonValue.prettyText ++ after) =
        .ok ⟨document.metadata, rows⟩ := by
  obtain ⟨rows, hrestored, hreads⟩ := exists_reads_rows hrows
  have hdocument := reads_document (reads_metadata htimestamp hcores) hreads
  have htext : document.jsonValue.prettyText ++ after =
      String.ofList (document.jsonValue.pretty 0 ++ after.toList) := by
    rw [Value.prettyText, String.ofList_append, String.ofList_toList]
  refine ⟨rows, hrestored, ?_⟩
  rw [htext]
  exact decode_of_reads hdocument (by decide) (spells_pretty 0 _) hafter

end StepLatency
