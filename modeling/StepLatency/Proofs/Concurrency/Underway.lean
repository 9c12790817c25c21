import Mathlib
import StepLatency.Proofs.Concurrency.Interleaved

/-!
# Interleavings on their way

After some items of an interleaving every list has a rest that is still to come. Where two kinds of
items come in pairs, one right after the other, the rests show how many pairs are half done.
-/

namespace StepLatency

variable {α : Type}

/-- `Underway lists out rest` says that the items of `out` have been taken so far, in this order,
and that `rest` is what is left of the lists. -/
inductive Underway (lists : List (List α)) : List α → List (List α) → Prop
  | start : Underway lists [] lists
  | step {out : List α} {before after : List (List α)} {a : α} {rest : List α}
      (h : Underway lists out (before ++ (a :: rest) :: after)) :
      Underway lists (out ++ [a]) (before ++ rest :: after)

namespace Underway

variable {lists left : List (List α)} {out : List α}

theorem cons {before after : List (List α)} {a : α} {rest : List α}
    (h : Underway (before ++ rest :: after) out left) :
    Underway (before ++ (a :: rest) :: after) (a :: out) left := by
  induction h with
  | start => exact .step .start
  | step _ ih => exact .step ih

theorem perm (h : Underway lists out left) : (out ++ left.flatten).Perm lists.flatten := by
  induction h with
  | start => exact .refl _
  | @step out before after a rest _ ih =>
      refine .trans ?_ ih
      calc
        (out ++ [a] ++ (before ++ rest :: after).flatten).Perm
            (out ++ (a :: (before.flatten ++ (rest ++ after.flatten)))) := .of_eq (by simp)
        _ |>.Perm (out ++ (before.flatten ++ a :: (rest ++ after.flatten))) :=
            (List.perm_middle.symm).append_left out
        _ = out ++ (before ++ (a :: rest) :: after).flatten := by simp

/-- Every list keeps its place, and what is left of it is its end. -/
theorem forall₂_isSuffix (h : Underway lists out left) :
    List.Forall₂ (fun list tail => tail <:+ list) lists left := by
  induction h with
  | start => exact List.forall₂_same.2 fun list _ => List.suffix_refl list
  | @step out before after a rest _ ih =>
      have hbefore := List.forall₂_take_append lists before ((a :: rest) :: after) ih
      have hnext := List.forall₂_drop_append lists before ((a :: rest) :: after) ih
      obtain ⟨list, others, hsuffix, hafter, hdrop⟩ := List.forall₂_cons_right_iff.1 hnext
      rw [← List.take_append_drop before.length lists, hdrop]
      exact List.rel_append hbefore (.cons ((List.suffix_cons a rest).trans hsuffix) hafter)

theorem isSuffix (h : Underway lists out left) {tail : List α} (hmem : tail ∈ left) :
    ∃ list ∈ lists, tail <:+ list := by
  obtain ⟨i, hi, rfl⟩ := List.getElem_of_mem hmem
  obtain ⟨hlength, hsuffix⟩ := List.forall₂_iff_get.1 h.forall₂_isSuffix
  have hi' : i < lists.length := hlength ▸ hi
  exact ⟨lists[i], List.getElem_mem hi', hsuffix i hi' hi⟩

end Underway

/-- Every state along an interleaving is one of these, and the interleaving goes on from there. -/
theorem Interleaving.exists_underway {lists : List (List α)} {out later : List α}
    (h : Interleaving lists (out ++ later)) :
    ∃ left, Underway lists out left ∧ Interleaving left later := by
  induction out generalizing lists with
  | nil => exact ⟨lists, .start, h⟩
  | cons a out ih =>
      obtain _ | ⟨hnext⟩ := h
      obtain ⟨left, hleft, hlater⟩ := ih hnext
      exact ⟨left, hleft.cons, hlater⟩

/-- Cut anywhere, what is left of blocks is the end of one block and the blocks behind it. -/
theorem suffix_flatMap_cases {β : Type} {f : β → List α} {xs : List β} {tail : List α}
    (h : tail <:+ xs.flatMap f) :
    tail = [] ∨ ∃ x later mid, (x :: later) <:+ xs ∧ mid ≠ [] ∧ mid <:+ f x ∧
      tail = mid ++ later.flatMap f := by
  induction xs with
  | nil => exact .inl (List.suffix_nil.1 h)
  | cons x xs ih =>
      have hlater (hsuffix : tail <:+ xs.flatMap f) : tail = [] ∨ ∃ y later mid,
          (y :: later) <:+ x :: xs ∧ mid ≠ [] ∧ mid <:+ f y ∧ tail = mid ++ later.flatMap f := by
        rcases ih hsuffix with hnil | ⟨y, later, mid, hxs, hmid⟩
        · exact .inl hnil
        · exact .inr ⟨y, later, mid, hxs.trans (List.suffix_cons x xs), hmid⟩
      obtain ⟨front, hfront⟩ := h
      rw [List.flatMap_cons] at hfront
      obtain ⟨mid, hblock, rfl⟩ | ⟨front, -, hrest⟩ := List.append_eq_append_iff.1 hfront
      · cases mid with
        | nil => exact hlater (List.suffix_refl _)
        | cons item mid =>
            exact .inr ⟨x, xs, item :: mid, List.suffix_refl _, List.cons_ne_nil _ _,
              ⟨front, hblock.symm⟩, rfl⟩
      · exact hlater ⟨front, hrest.symm⟩

/-! ### Pairs -/

section Pairs

variable {first : α → Bool} {second : α} [DecidableEq α] [BEq α]

def halfway (second : α) (lists : List (List α)) : Nat :=
  lists.countP fun list => list.head? = some second

/-- The `second` item stands right behind items of the `first` kind and nowhere else: whatever is
cut off in front, only the head can be a second half without its first. -/
structure Paired (first : α → Bool) (second : α) (list : List α) : Prop where
  tails : ∀ tail, tail <:+ list →
    tail.count second = tail.countP first + if tail.head? = some second then 1 else 0
  head : list.head? ≠ some second

namespace Paired

variable {list : List α} {a : α}

theorem nil : Paired first second [] where
  tails tail h := by simp [List.suffix_nil.1 h]
  head := by simp

theorem cons_other [LawfulBEq α] (h : Paired first second list) (hfirst : first a = false)
    (ha : a ≠ second) : Paired first second (a :: list) where
  tails tail htail := by
    rcases List.suffix_cons_iff.1 htail with rfl | htail
    · have hlist := h.tails list (List.suffix_refl list)
      rw [if_neg h.head] at hlist
      simp [hfirst, ha, hlist]
    · exact h.tails tail htail
  head := by simpa using ha

/-- One more pair may stand in front of pairs. -/
theorem cons_pair [LawfulBEq α] (h : Paired first second list) (ha : first a = true)
    (hfirst : first second = false) : Paired first second (a :: second :: list) where
  tails tail htail := by
    have hlist := h.tails list (List.suffix_refl list)
    have hne : a ≠ second := by
      rintro rfl
      rw [ha] at hfirst
      exact nomatch hfirst
    rw [if_neg h.head] at hlist
    rcases List.suffix_cons_iff.1 htail with rfl | htail
    · simp [ha, hfirst, hne, hlist]
    · rcases List.suffix_cons_iff.1 htail with rfl | htail
      · simp [hfirst, hlist]
      · exact h.tails tail htail
  head := by
    intro heq
    rw [List.head?_cons, Option.some.injEq] at heq
    rw [heq, hfirst] at ha
    exact nomatch ha

theorem flatMap {β : Type} {f : β → List α}
    (hf : ∀ x list, Paired first second list → Paired first second (f x ++ list)) (xs : List β) :
    Paired first second (xs.flatMap f) := by
  induction xs with
  | nil => exact .nil
  | cons x xs ih => exact hf x _ ih

theorem count_eq (h : Paired first second list) : list.count second = list.countP first := by
  have hlist := h.tails list (List.suffix_refl list)
  rwa [if_neg h.head] at hlist

end Paired

theorem count_flatten_eq {lists : List (List α)} (h : ∀ list ∈ lists,
      list.count second = list.countP first + if list.head? = some second then 1 else 0) :
    lists.flatten.count second = lists.flatten.countP first + halfway second lists := by
  induction lists with
  | nil => rfl
  | cons list rest ih =>
      have hlist := h list List.mem_cons_self
      have hrest := ih fun other hmem => h other (List.mem_cons_of_mem _ hmem)
      unfold halfway at hrest ⊢
      rw [List.flatten_cons, List.count_append, List.countP_append, List.countP_cons, hlist, hrest]
      simp only [decide_eq_true_eq]
      omega

/-- The pairs that have been begun are those that are completed and those that are half done. -/
theorem Underway.countP_eq {lists left : List (List α)} {out : List α}
    (h : Underway lists out left) (hpaired : ∀ list ∈ lists, Paired first second list) :
    out.countP first = out.count second + halfway second left := by
  have hleft : left.flatten.count second = left.flatten.countP first + halfway second left := by
    refine count_flatten_eq fun tail hmem => ?_
    obtain ⟨list, hlist, hsuffix⟩ := h.isSuffix hmem
    exact (hpaired list hlist).tails tail hsuffix
  have hlists : lists.flatten.count second = lists.flatten.countP first := by
    rw [List.count_flatten, List.countP_flatten]
    exact congrArg List.sum (List.map_congr_left fun list hmem => (hpaired list hmem).count_eq)
  have hfirst := h.perm.countP_eq first
  have hsecond := h.perm.count_eq second
  rw [List.countP_append] at hfirst
  rw [List.count_append] at hsecond
  omega

end Pairs

end StepLatency
