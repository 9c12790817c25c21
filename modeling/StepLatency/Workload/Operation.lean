import StepLatency.Decimal.Reader
import StepLatency.Text.Blank

/-!
# Operation declarations

An operation kind is declared by its name and its number of steps, in text as `NAME:STEPS`. The last
colon divides the two, so a name may hold colons, and blanks around either part do not count.
-/

namespace StepLatency

structure OperationSpec where
  name : String
  steps : Nat
deriving DecidableEq, Inhabited

inductive OperationFault
  | noColon (text : String)
  | noName (text : String)
  | badCount (text : String) (fault : Decimal.IntegerFault)
  | noSteps (name : String)
deriving DecidableEq

def OperationFault.message : OperationFault → String
  | .noColon text => s!"expected NAME:STEPS, got '{text}'"
  | .noName text => s!"operation name is empty in '{text}'"
  | .badCount text fault => s!"invalid step count in '{text}': {fault.message}"
  | .noSteps name => s!"operation '{name}' must have at least one step"

namespace OperationSpec

def splitLast (mark : Char) (cs : List Char) : Option (List Char × List Char) :=
  let after := cs.reverse.takeWhile (· != mark)
  match cs.reverse.dropWhile (· != mark) with
  | [] => none
  | _ :: before => some (before.reverse, after.reverse)

def parse (text : String) : Except OperationFault OperationSpec :=
  match splitLast ':' text.toList with
  | none => .error (.noColon text)
  | some (before, after) =>
    let name := Text.trim before
    if name.isEmpty then .error (.noName text)
    else
      match Decimal.readNatural UInt64.size (Text.trim after) with
      | .error fault => .error (.badCount text fault)
      | .ok steps =>
        if steps = 0 then .error (.noSteps (String.ofList name))
        else .ok ⟨String.ofList name, steps⟩

def text (spec : OperationSpec) : String := s!"{spec.name}:{spec.steps}"

theorem splitLast_append {mark : Char} {before after : List Char} (h : mark ∉ after) :
    splitLast mark (before ++ mark :: after) = some (before, after) := by
  have hall : ∀ c ∈ after.reverse, (c != mark) = true := by
    intro c hc
    rw [bne_iff_ne]
    rintro rfl
    exact h (List.mem_reverse.1 hc)
  have htake : (after.reverse ++ mark :: before.reverse).takeWhile (· != mark) = after.reverse := by
    rw [List.takeWhile_append_of_pos hall]
    simp
  have hdrop : (after.reverse ++ mark :: before.reverse).dropWhile (· != mark) =
      mark :: before.reverse := by
    rw [List.dropWhile_append_of_pos hall]
    simp
  simp [splitLast, htake, hdrop]

end OperationSpec

end StepLatency
