import Mathlib
import StepLatency.Proofs.Decimal.Digits
import StepLatency.Proofs.Text.ByteOrder
import StepLatency.Report.TextSink

/-!
# What a row is about

A label tells the kind of its row and, in a row of one step, the step and the number of its
operations. Nothing is quoted in a line of text, and the group, which comes first, may hold
anything; but a line can be read from its end. The value holds no comma, the labels of different
kinds end differently, and each number of a label follows a mark that is no digit.
-/

namespace StepLatency

/-- What the label of a row tells. -/
inductive RowKey
  | pacing
  | negative
  | step (number : Nat) (operations : UInt64)
deriving DecidableEq

def RowKey.label : RowKey → String
  | .pacing => pacingLabel
  | .negative => negativeLabel
  | .step number operations => stepLabel number operations

/-! ### Reading from the end -/

section Endings

variable {mark : Char} {xs ys xs' ys' : List Char}

/-- The last occurrence of a mark divides a text in one way only. -/
theorem append_cons_inj_of_not_mem (hys : mark ∉ ys) (hys' : mark ∉ ys')
    (h : xs ++ mark :: ys = xs' ++ mark :: ys') : xs = xs' ∧ ys = ys' := by
  rcases List.append_eq_append_iff.1 h with ⟨more, rfl, hmore⟩ | ⟨more, rfl, hmore⟩
  · cases more with
    | nil => exact ⟨(List.append_nil _).symm, (List.cons.inj hmore).2⟩
    | cons c rest =>
        obtain ⟨rfl, rfl⟩ := List.cons.inj hmore
        exact absurd (by simp) hys
  · cases more with
    | nil => exact ⟨List.append_nil _, (List.cons.inj hmore).2.symm⟩
    | cons c rest =>
        obtain ⟨rfl, rfl⟩ := List.cons.inj hmore
        exact absurd (by simp) hys'

theorem not_mem_toString {n : Nat} (hmark : mark.isDigit = false) :
    mark ∉ (toString n).toList := by
  intro hmem
  rw [Decimal.toList_toString] at hmem
  rw [Decimal.isDigit_of_mem_toDigits hmem] at hmark
  exact nomatch hmark

/-- A number at the end of a text, after a mark that is no digit. -/
theorem append_number_inj {n n' : Nat} (hmark : mark.isDigit = false)
    (h : xs ++ mark :: (toString n).toList = xs' ++ mark :: (toString n').toList) :
    xs = xs' ∧ n = n' := by
  obtain ⟨hhead, hdigits⟩ :=
    append_cons_inj_of_not_mem (not_mem_toString hmark) (not_mem_toString hmark) h
  exact ⟨hhead, Nat.repr_injective (String.toList_inj.1 hdigits)⟩

end Endings

/-! ### Labels -/

namespace RowKey

def ending : RowKey → List Char
  | .pacing => ['s', '(', 'u', 's', ')']
  | .negative => ['t', 'e', 'n', 'c', 'y']
  | .step _ _ => ['y', '(', 'u', 's', ')']

theorem exists_label_eq_append_ending (key : RowKey) :
    ∃ stem, key.label.toList = stem ++ key.ending := by
  cases key with
  | pacing => exact ⟨"Sleep per next operation".toList, by decide⟩
  | negative => exact ⟨"Negative La".toList, by decide⟩
  | step number operations =>
      refine ⟨"step:".toList ++ (toString number).toList ++ ", operations: ".toList ++
        (toString operations.toNat).toList ++ ", Average Latenc".toList, ?_⟩
      simp [label, stepLabel, ending, ToString.toString]

theorem length_ending (key : RowKey) : key.ending.length = 5 := by
  cases key <;> rfl

/-- The label at the end of a text is known, whatever stands before it. -/
theorem append_label_inj {xs ys : List Char} {key key' : RowKey}
    (h : xs ++ key.label.toList = ys ++ key'.label.toList) : xs = ys ∧ key = key' := by
  have hending : key.ending = key'.ending := by
    obtain ⟨stem, hstem⟩ := key.exists_label_eq_append_ending
    obtain ⟨stem', hstem'⟩ := key'.exists_label_eq_append_ending
    rw [hstem, hstem', ← List.append_assoc, ← List.append_assoc] at h
    exact (List.append_inj' h (by rw [length_ending, length_ending])).2
  cases key with
  | pacing =>
      cases key' with
      | pacing => exact ⟨List.append_cancel_right h, rfl⟩
      | negative | step => simp [ending] at hending
  | negative =>
      cases key' with
      | negative => exact ⟨List.append_cancel_right h, rfl⟩
      | pacing | step => simp [ending] at hending
  | step number operations =>
      cases key' with
      | pacing | negative => simp [ending] at hending
      | step number' operations' =>
          -- The number of operations is read first, and the step before it.
          have hparts (zs : List Char) (i : Nat) (n : UInt64) :
              zs ++ (RowKey.step i n).label.toList =
                ((zs ++ "step".toList ++ ':' :: (toString i).toList) ++ ", operations:".toList ++
                  ' ' :: (toString n.toNat).toList) ++ ", Average Latency(us)".toList := by
            simp [label, stepLabel, ToString.toString]
          rw [hparts, hparts] at h
          obtain ⟨hnumber, hoperations⟩ := append_number_inj (by decide) (List.append_cancel_right h)
          obtain ⟨hhead, rfl⟩ := append_number_inj (by decide) (List.append_cancel_right hnumber)
          obtain rfl := UInt64.toNat_inj.1 hoperations
          exact ⟨List.append_cancel_right hhead, rfl⟩

theorem label_injective : Function.Injective label := by
  intro key key' h
  have hlists : [] ++ key.label.toList = [] ++ key'.label.toList := congrArg String.toList h
  exact (append_label_inj hlists).2

end RowKey

/-! ### The rows of a summary -/

def Row.address (row : Row) : String × String := (row.group, row.label)

namespace Summary

def keys (s : Summary) : List RowKey :=
  s.averagePacing.toList.map (fun _ => .pacing) ++
    (if s.invalidSamples = 0 then [] else [.negative]) ++
    s.steps.map fun stats => .step stats.step stats.operations

/-- The rows of a summary are looked up by its kind and by what they are about. -/
theorem map_address_rows (s : Summary) :
    s.rows.map Row.address = s.keys.map fun key => (s.operation, key.label) := by
  have hpacing : s.pacingRows.map Row.address =
      s.averagePacing.toList.map fun _ => (s.operation, pacingLabel) := by
    rw [pacingRows]
    cases s.averagePacing <;> rfl
  have hnegative : s.negativeRows.map Row.address =
      if s.invalidSamples = 0 then [] else [(s.operation, negativeLabel)] := by
    rw [negativeRows]
    split <;> rfl
  have hsteps : (s.steps.map s.stepRow).map Row.address =
      s.steps.map fun stats => (s.operation, stepLabel stats.step stats.operations) :=
    List.map_map
  rw [rows, keys, List.map_append, List.map_append, hpacing, hnegative, hsteps, List.map_append,
    List.map_append, List.map_map, List.map_map, apply_ite (List.map _)]
  rfl

/-- The rows of a summary belong to its operation. -/
theorem exists_key_of_mem_rows {s : Summary} {row : Row} (h : row ∈ s.rows) :
    row.group = s.operation ∧ ∃ key : RowKey, row.label = key.label := by
  have haddress : row.address ∈ s.rows.map Row.address := List.mem_map_of_mem h
  rw [map_address_rows, List.mem_map] at haddress
  obtain ⟨key, -, heq⟩ := haddress
  obtain ⟨hgroup, hlabel⟩ := Prod.mk.inj heq
  exact ⟨hgroup.symm, key, hlabel.symm⟩

end Summary

/-! ### Values -/

/-- The characters of an amount's text. -/
theorem Amount.of_mem_text {a : Amount} {c : Char} (hc : c ∈ a.text.toList) :
    c.isDigit = true ∨ c ∈ "-.NaNinf".toList := by
  have hsign (x : Binary64) (hx : c ∈ x.sign.toList) : c ∈ "-.NaNinf".toList := by
    unfold Binary64.sign at hx
    split at hx <;> simp_all
  cases a with
  | whole n =>
      rw [text, Decimal.toList_toString] at hc
      exact .inl (Decimal.isDigit_of_mem_toDigits hc)
  | real x =>
      rw [text, Binary64.toHundredths] at hc
      split at hc
      · have hparts : c ∈ x.sign.toList ∨ c ∈ (toString (x.hundredths / 100)).toList ∨ c = '.' ∨
            c ∈ (Decimal.padded 2 (x.hundredths % 100)).toList := by
          simpa [ToString.toString, or_assoc] using hc
        rcases hparts with hx | hwhole | rfl | hplaces
        · exact .inr (hsign x hx)
        · rw [Decimal.toList_toString] at hwhole
          exact .inl (Decimal.isDigit_of_mem_toDigits hwhole)
        · exact .inr (by decide)
        · exact .inl (Decimal.isDigit_of_mem_padded hplaces)
      · unfold Binary64.specialText at hc
        split at hc
        · exact .inr (List.mem_of_mem_drop (i := 2) (List.mem_of_mem_take (i := 3) hc))
        · rw [String.toList_append, List.mem_append] at hc
          rcases hc with hx | hinf
          · exact .inr (hsign x hx)
          · exact .inr (List.mem_of_mem_drop (i := 5) hinf)

theorem Binary64.exists_mem_toHundredths (x : Binary64) :
    ∃ c ∈ x.toHundredths.toList, c.isDigit = false := by
  unfold toHundredths
  split
  · exact ⟨'.', by simp [ToString.toString], by decide⟩
  · unfold specialText
    split
    · exact ⟨'N', by simp, by decide⟩
    · exact ⟨'i', by simp, by decide⟩

/-- A whole amount can be told from its text, also among real ones. -/
theorem Amount.text_whole_eq_iff {n : UInt64} {a : Amount} :
    (Amount.whole n).text = a.text ↔ a = .whole n := by
  constructor
  · intro h
    cases a with
    | whole n' =>
        rw [UInt64.toNat_inj.1 (Nat.repr_injective h)]
    | real x =>
        obtain ⟨c, hmem, hc⟩ := x.exists_mem_toHundredths
        have hwhole : c ∈ (Amount.whole n).text.toList := h.symm ▸ hmem
        exact absurd hwhole (not_mem_toString hc)
  · rintro rfl
    rfl

/-! ### Lines -/

theorem Row.toList_line (row : Row) :
    row.line.toList = ('[' :: row.group.toList ++ "], ".toList) ++ row.label.toList ++
      ',' :: (' ' :: row.value.text.toList ++ ['\n']) := by
  simp [line, ToString.toString]

/-- Rows of one text have one group, one key and one text of their value. -/
theorem Row.line_inj {row row' : Row} {key key' : RowKey} (hkey : row.label = key.label)
    (hkey' : row'.label = key'.label) (h : row.line = row'.line) :
    row.group = row'.group ∧ key = key' ∧ row.value.text = row'.value.text := by
  have hcomma (a : Amount) : ',' ∉ ' ' :: a.text.toList ++ ['\n'] := by
    intro hmem
    have htext : ',' ∈ a.text.toList := by simpa using hmem
    rcases Amount.of_mem_text htext with hdigit | hmark
    · exact absurd hdigit (by decide)
    · exact absurd hmark (by decide)
  have hlines := congrArg String.toList h
  rw [toList_line, toList_line] at hlines
  obtain ⟨hheads, hvalues⟩ := append_cons_inj_of_not_mem (hcomma _) (hcomma _) hlines
  rw [hkey, hkey'] at hheads
  obtain ⟨hgroups, hkeys⟩ := RowKey.append_label_inj hheads
  refine ⟨String.toList_inj.1 ?_, hkeys, String.toList_inj.1 ?_⟩
  · exact (List.cons.inj (List.append_cancel_right hgroups)).2
  · exact (List.cons.inj (List.append_cancel_right hvalues)).2

end StepLatency
