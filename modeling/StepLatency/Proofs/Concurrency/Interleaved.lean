import Mathlib
import StepLatency.Concurrency.Weave

/-!
# What an interleaving keeps

An interleaving holds exactly the items of its lists, each as often as they do. A total over it is
therefore the total over the lists, whatever the order.
-/

namespace StepLatency

variable {α β : Type}

/-- Nothing is lost and nothing is added. -/
theorem Interleaving.perm {lists : List (List α)} {out : List α} (h : Interleaving lists out) :
    out.Perm lists.flatten := by
  induction h with
  | done h =>
      rw [List.flatten_eq_nil_iff.2 h]
  | @step before after a rest out _ ih =>
      calc
        (a :: out).Perm (a :: (before ++ rest :: after).flatten) := ih.cons a
        _ = a :: (before.flatten ++ (rest ++ after.flatten)) := by simp
        _ |>.Perm (before.flatten ++ a :: (rest ++ after.flatten)) := List.perm_middle.symm
        _ = (before ++ (a :: rest) :: after).flatten := by simp

theorem Interleaving.sum_map_eq {lists : List (List α)} {out : List α}
    (h : Interleaving lists out) (f : α → Nat) :
    (out.map f).sum = (lists.flatten.map f).sum :=
  (h.perm.map f).sum_eq

/-! ### Totals over lists -/

theorem sum_filterMap (f : α → Option Nat) (l : List α) :
    (l.filterMap f).sum = (l.map fun x => (f x).getD 0).sum := by
  induction l with
  | nil => rfl
  | cons x rest ih => cases hx : f x <;> simp [hx, ih]

theorem countP_eq_sum_map (p : α → Bool) (l : List α) :
    l.countP p = (l.map fun x => if p x then 1 else 0).sum := by
  induction l with
  | nil => rfl
  | cons x rest ih => cases hx : p x <;> simp [hx, ih, Nat.add_comm]

/-- Pairs can be counted by their first or by their second members. -/
theorem sum_countP_comm (p : α → β → Bool) (xs : List α) (ys : List β) :
    (xs.map fun x => ys.countP (p x)).sum = (ys.map fun y => xs.countP (p · y)).sum := by
  induction ys with
  | nil => simp
  | cons y rest ih =>
      simp only [List.countP_cons, List.map_cons, List.sum_cons]
      rw [List.sum_map_add, ih, Nat.add_comm, ← countP_eq_sum_map]

theorem countP_range_beq (n i : Nat) : (List.range n).countP (· == i) = if i < n then 1 else 0 := by
  rw [← List.count, List.nodup_range.count]
  simp

end StepLatency
