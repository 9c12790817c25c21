import Mathlib
import StepLatency.Console.Table

/-!
# Where the marks of a table stand

A line of a table has a mark before, between and after the texts of its columns, and takes three
characters more for a column than its width. A row and a separator have the marks at the same places
as long as every cell fits its column; a longer cell only moves marks of its row to the right.
-/

namespace StepLatency.Console

/-- Where the mark before a column stands in a line whose columns have these widths. -/
def markPosition (widths : List Nat) (column : Nat) : Nat := ((widths.take column).map (· + 3)).sum

/-- The marks of a line, with the text of a column between each two that follow one another. -/
structure IsTableLine (mark : Char) (widths : List Nat) (texts : List (List Char)) (line : String) :
    Prop where
  length : line.length = 1 + markPosition widths widths.length
  marks : ∀ column ≤ widths.length, line.toList[markPosition widths column]? = some mark
  between : ∀ column < widths.length, texts[column]? =
    some (line.toList.extract (markPosition widths column + 1) (markPosition widths (column + 1)))

/-- The width that a column has in a row: a cell that is longer than its width stays whole. -/
def rowWidths (columns : List String) (widths : List Nat) : List Nat :=
  List.zipWith (fun cell width => max cell.length width) columns widths

def cellText (cell : String) (width : Nat) : List Char :=
  ' ' :: cell.toList ++ List.replicate (width - cell.length) ' ' ++ [' ']

def ruleText (width : Nat) : List Char := List.replicate (width + 2) '-'

/-! ### Positions -/

section Position

variable {widths widths' : List Nat}

theorem markPosition_zero (widths : List Nat) : markPosition widths 0 = 0 := rfl

theorem markPosition_cons (width : Nat) (widths : List Nat) (column : Nat) :
    markPosition (width :: widths) (column + 1) = width + 3 + markPosition widths column := by
  rw [markPosition, List.take_succ_cons, List.map_cons, List.sum_cons]
  rfl

theorem markPosition_mono (h : List.Forall₂ (· ≤ ·) widths widths') (column : Nat) :
    markPosition widths column ≤ markPosition widths' column := by
  induction h generalizing column with
  | nil => exact Nat.le_refl _
  | cons hwidth _ ih =>
      cases column with
      | zero => exact Nat.le_refl _
      | succ column =>
          have hrest := ih column
          rw [markPosition_cons, markPosition_cons]
          omega

/-- The positions of the marks tell the widths. -/
theorem markPosition_eq_iff (hlength : widths.length = widths'.length) :
    (∀ column ≤ widths.length, markPosition widths column = markPosition widths' column) ↔
      widths = widths' := by
  constructor
  · intro h
    induction widths generalizing widths' with
    | nil => exact (List.eq_nil_of_length_eq_zero hlength.symm).symm
    | cons width rest ih =>
        obtain _ | ⟨width', rest'⟩ := widths'
        · exact nomatch hlength
        have hfirst := h 1 (Nat.le_add_left 1 rest.length)
        rw [markPosition_cons, markPosition_cons, markPosition_zero, markPosition_zero] at hfirst
        obtain rfl : width = width' := by omega
        congr 1
        refine ih (Nat.succ.inj hlength) fun column hcolumn => ?_
        have hnext := h (column + 1) (Nat.succ_le_succ hcolumn)
        rw [markPosition_cons, markPosition_cons] at hnext
        omega
  · rintro rfl column -
    rfl

end Position

/-! ### Lines with marks -/

def framed (mark : Char) : List (List Char) → List Char
  | [] => [mark]
  | text :: rest => mark :: text ++ framed mark rest

section Framed

variable {mark : Char} {text : List Char} {texts : List (List Char)} {width : Nat}
  {widths : List Nat}

def FitColumns (texts : List (List Char)) (widths : List Nat) : Prop :=
  List.Forall₂ (fun text width => text.length = width + 2) texts widths

theorem drop_framed_cons (h : text.length = width + 2) (position : Nat) :
    (framed mark (text :: texts)).drop (width + 3 + position) =
      (framed mark texts).drop position := by
  have hlength : (mark :: text).length = width + 3 := by rw [List.length_cons, h]
  rw [framed, ← List.drop_drop, List.drop_left' hlength]

theorem length_framed (h : FitColumns texts widths) :
    (framed mark texts).length = 1 + markPosition widths widths.length := by
  induction h with
  | nil => rfl
  | cons htext _ ih =>
      rw [framed, List.length_append, List.length_cons, htext, ih, List.length_cons,
        markPosition_cons]
      omega

theorem getElem?_framed (h : FitColumns texts widths) {column : Nat}
    (hcolumn : column ≤ widths.length) :
    (framed mark texts)[markPosition widths column]? = some mark := by
  induction h generalizing column with
  | nil =>
      rw [Nat.le_zero.1 hcolumn]
      rfl
  | cons htext _ ih =>
      cases column with
      | zero => rfl
      | succ column =>
          rw [markPosition_cons, ← List.head?_drop, drop_framed_cons htext, List.head?_drop]
          exact ih (Nat.le_of_succ_le_succ hcolumn)

/-- Between two marks stands the text of the column. -/
theorem extract_framed (h : FitColumns texts widths) {column : Nat}
    (hcolumn : column < widths.length) :
    texts[column]? = some ((framed mark texts).extract (markPosition widths column + 1)
      (markPosition widths (column + 1))) := by
  simp only [List.extract_eq_take_drop]
  induction h generalizing column with
  | nil => exact absurd hcolumn (Nat.not_lt_zero _)
  | @cons text width texts widths htext _ ih =>
      cases column with
      | zero =>
          rw [framed, markPosition_cons, markPosition_zero, markPosition_zero]
          simp [htext]
      | succ column =>
          have hstart : width + 3 + markPosition widths column + 1 =
              width + 3 + (markPosition widths column + 1) := Nat.add_assoc _ _ _
          rw [List.getElem?_cons_succ, ih (Nat.lt_of_succ_lt_succ hcolumn), markPosition_cons,
            markPosition_cons, hstart, drop_framed_cons htext, Nat.add_sub_add_left]

theorem isTableLine_framed {line : String} (hline : line.toList = framed mark texts)
    (h : FitColumns texts widths) : IsTableLine mark widths texts line where
  length := by rw [← String.length_toList, hline, length_framed h]
  marks _ hcolumn := by rw [hline, getElem?_framed h hcolumn]
  between _ hcolumn := by rw [hline, ← extract_framed h hcolumn]

end Framed

/-! ### Rows and separators -/

section Lines

variable {columns : List String} {widths : List Nat}

theorem cellText_eq (cell : String) (width : Nat) :
    cellText cell width = ' ' :: (fill width cell).toList ++ [' '] := by
  simp [cellText, fill]

theorem length_cellText (cell : String) (width : Nat) :
    (cellText cell width).length = max cell.length width + 2 := by
  rw [cellText_eq, List.length_append, List.length_cons, String.length_toList, length_fill]
  rfl

theorem cons_toList_cells (h : columns.length = widths.length) :
    '|' :: (cells columns widths).toList = framed '|' (List.zipWith cellText columns widths) := by
  induction columns generalizing widths with
  | nil => rfl
  | cons cell rest ih =>
      obtain _ | ⟨width, widths⟩ := widths
      · exact nomatch h
      rw [List.zipWith_cons_cons, framed, ← ih (Nat.succ.inj h)]
      simp [cells, cellText_eq]

theorem toList_tableRow (h : columns.length = widths.length) :
    (tableRow columns widths).toList = framed '|' (List.zipWith cellText columns widths) := by
  rw [← cons_toList_cells h, tableRow, String.toList_append]
  rfl

theorem cons_toList_rules (widths : List Nat) :
    '+' :: (String.join (widths.map rule)).toList = framed '+' (widths.map ruleText) := by
  induction widths with
  | nil => rfl
  | cons width rest ih =>
      rw [List.map_cons, List.map_cons, framed, ← ih, String.join_cons]
      simp [rule, ruleText]

theorem toList_tableSeparator (widths : List Nat) :
    (tableSeparator widths).toList = framed '+' (widths.map ruleText) := by
  rw [← cons_toList_rules, tableSeparator, String.toList_append]
  rfl

theorem fitColumns_cells (h : columns.length = widths.length) :
    FitColumns (List.zipWith cellText columns widths) (rowWidths columns widths) := by
  induction columns generalizing widths with
  | nil => exact .nil
  | cons cell rest ih =>
      obtain _ | ⟨width, widths⟩ := widths
      · exact nomatch h
      exact .cons (length_cellText cell width) (ih (Nat.succ.inj h))

theorem fitColumns_rules (widths : List Nat) : FitColumns (widths.map ruleText) widths := by
  induction widths with
  | nil => exact .nil
  | cons width rest ih => exact .cons List.length_replicate ih

theorem length_rowWidths (h : columns.length = widths.length) :
    (rowWidths columns widths).length = widths.length := by
  rw [rowWidths, List.length_zipWith, h, Nat.min_self]

theorem le_rowWidths (h : columns.length = widths.length) :
    List.Forall₂ (· ≤ ·) widths (rowWidths columns widths) := by
  induction columns generalizing widths with
  | nil =>
      rw [List.eq_nil_of_length_eq_zero h.symm]
      exact .nil
  | cons cell rest ih =>
      obtain _ | ⟨width, widths⟩ := widths
      · exact nomatch h
      exact .cons (Nat.le_max_right _ _) (ih (Nat.succ.inj h))

/-- No column of a row is wider than asked for just if every cell fits. -/
theorem eq_rowWidths_iff (h : columns.length = widths.length) :
    widths = rowWidths columns widths ↔
      List.Forall₂ (fun cell width => cell.length ≤ width) columns widths := by
  induction columns generalizing widths with
  | nil =>
      rw [List.eq_nil_of_length_eq_zero h.symm]
      exact iff_of_true rfl .nil
  | cons cell rest ih =>
      obtain _ | ⟨width, widths⟩ := widths
      · exact nomatch h
      have hcell : width = max cell.length width ↔ cell.length ≤ width := by omega
      rw [List.forall₂_cons, ← ih (Nat.succ.inj h), ← hcell]
      exact List.cons_eq_cons

theorem tableRow?_eq_none_iff (h : columns.length = widths.length) :
    tableRow? columns widths = none ↔ ∃ width ∈ widths, widthLimit < width := by
  rw [tableRow?, h, List.take_length]
  simp

end Lines

/-- Of widths that are far from the largest word, a separator has its marks where they say, and so has
a row, which is written unless one of them is beyond the limit: between two marks stands the rule, or
the cell between blanks. A bar of a row stands at the mark of the separator or to the right of it, and
all of them stand at the marks just if every cell fits its width. -/
theorem table_aligned {columns : List String} {widths : List Nat}
    (h : columns.length = widths.length) :
    ((∀ width ∈ widths, width ≤ widthLimit) → ∃ row, tableRow? columns widths = some row ∧
      IsTableLine '|' (rowWidths columns widths) (List.zipWith cellText columns widths) row) ∧
    (tableRow? columns widths = none ↔ ∃ width ∈ widths, widthLimit < width) ∧
    IsTableLine '+' widths (widths.map ruleText) (tableSeparator widths) ∧
    (∀ column ≤ widths.length,
      markPosition widths column ≤ markPosition (rowWidths columns widths) column) ∧
    ((∀ column ≤ widths.length,
      markPosition widths column = markPosition (rowWidths columns widths) column) ↔
      List.Forall₂ (fun cell width => cell.length ≤ width) columns widths) := by
  refine ⟨fun hlimit => ⟨_, tableRow?_eq_some hlimit columns, ?_⟩, tableRow?_eq_none_iff h, ?_, ?_,
    ?_⟩
  · exact isTableLine_framed (toList_tableRow h) (fitColumns_cells h)
  · exact isTableLine_framed (toList_tableSeparator widths) (fitColumns_rules widths)
  · exact fun column _ => markPosition_mono (le_rowWidths h) column
  · rw [markPosition_eq_iff (length_rowWidths h).symm, eq_rowWidths_iff h]

/-- A cell that is longer than its column moves the last bar to the right of its mark. -/
theorem table_aligned_longCell :
    ["é", "READ"].length = [3, 2].length ∧ (∀ width ∈ [3, 2], width ≤ widthLimit) ∧
      IsTableLine '|' [3, 4] [" é   ".toList, " READ ".toList] "| é   | READ |" ∧
      IsTableLine '+' [3, 2] ["-----".toList, "----".toList] "+-----+----+" ∧
      ¬ ∀ column ≤ 2, markPosition [3, 2] column = markPosition [3, 4] column := by
  have hlimit : ∀ width ∈ [3, 2], width ≤ widthLimit := by decide
  have hlength : ["é", "READ"].length = [3, 2].length := rfl
  obtain ⟨hrow, -, hseparator, -, hcoincide⟩ := table_aligned hlength
  obtain ⟨row, hwritten, hline⟩ := hrow hlimit
  have htext : tableRow? ["é", "READ"] [3, 2] = some "| é   | READ |" := by decide +kernel
  have hrule : tableSeparator [3, 2] = "+-----+----+" := by decide +kernel
  obtain rfl : "| é   | READ |" = row := Option.some.inj (htext.symm.trans hwritten)
  rw [hrule] at hseparator
  refine ⟨hlength, hlimit, hline, hseparator, fun hall => ?_⟩
  obtain _ | ⟨-, _ | ⟨hcell, -⟩⟩ := hcoincide.1 hall
  exact absurd hcell (by decide)

/-- A row is not written for a width that takes 17 bits, as far as this is from the largest word. -/
theorem no_row_beyond_limit :
    ["a"].length = [65536].length ∧ 2 ^ 40 * 65536 < UInt64.size ∧
      ¬ ∃ row, tableRow? ["a"] [65536] = some row ∧
        row.length = 1 + markPosition (rowWidths ["a"] [65536]) 1 := by
  have hnone : tableRow? ["a"] [65536] = none := by decide
  refine ⟨rfl, by decide, ?_⟩
  rintro ⟨row, hrow, -⟩
  rw [hnone] at hrow
  exact nomatch hrow

end StepLatency.Console
