/-!
# Plain tables

A row has a bar before and after every cell, and a blank on either side of the cell. Cells are
filled up to the width of their column; a cell that is longer stays whole. No cell is filled up to
more than 16 bits can tell, and a row that asks for it is not written at all. Columns as wide as the
largest word are left out: there is no separator for them either.
-/

namespace StepLatency.Console

/-- The width of a column that has none of its own. -/
def defaultWidth : Nat := 10

def fill (width : Nat) (cell : String) : String :=
  cell ++ String.ofList (List.replicate (width - cell.length) ' ')

def cells : List String → List Nat → String
  | [], _ => ""
  | cell :: rest, widths =>
    " " ++ fill (widths.headD defaultWidth) cell ++ " |" ++ cells rest widths.tail

def tableRow (columns : List String) (widths : List Nat) : String := "|" ++ cells columns widths

def widthLimit : Nat := 0xffff

def tableRow? (columns : List String) (widths : List Nat) : Option String :=
  if (widths.take columns.length).all (· ≤ widthLimit) then some (tableRow columns widths) else none

def rule (width : Nat) : String := String.ofList (List.replicate (width + 2) '-') ++ "+"

def tableSeparator (widths : List Nat) : String := "+" ++ String.join (widths.map rule)

theorem length_fill (width : Nat) (cell : String) :
    (fill width cell).length = max cell.length width := by
  simp only [fill, String.length_append, String.length_ofList, List.length_replicate]
  omega

theorem tableRow?_eq_some {widths : List Nat} (h : ∀ width ∈ widths, width ≤ widthLimit)
    (columns : List String) : tableRow? columns widths = some (tableRow columns widths) := by
  have hall : (widths.take columns.length).all (· ≤ widthLimit) = true := by
    rw [List.all_eq_true]
    intro width hwidth
    exact decide_eq_true (h width (List.mem_of_mem_take hwidth))
  rw [tableRow?, if_pos hall]

end StepLatency.Console
