/-!
# Interleavings

Workers act side by side, and what each does keeps its order. A schedule names the worker that goes
next; every interleaving comes from some schedule, and every schedule gives an interleaving.
-/

namespace StepLatency

variable {α : Type}

/-- `Interleaving lists out` says that `out` takes all items of the lists, each list in order. -/
inductive Interleaving : List (List α) → List α → Prop
  | done {lists : List (List α)} (h : ∀ list ∈ lists, list = []) : Interleaving lists []
  | step {before after : List (List α)} {a : α} {rest out : List α}
      (h : Interleaving (before ++ rest :: after) out) :
      Interleaving (before ++ (a :: rest) :: after) (a :: out)

def takeFrom : Nat → List (List α) → Option (α × List (List α))
  | _, [] => none
  | 0, [] :: _ => none
  | 0, (a :: rest) :: after => some (a, rest :: after)
  | i + 1, list :: after => (takeFrom i after).map fun (a, lists) => (a, list :: lists)

/-- The items in the order of a schedule. Turns of workers that are done are passed over, and what a
schedule leaves over follows worker by worker. -/
def weave : List Nat → List (List α) → List α
  | [], lists => lists.flatten
  | i :: schedule, lists =>
    match takeFrom i lists with
    | some (a, lists) => a :: weave schedule lists
    | none => weave schedule lists

theorem takeFrom_eq_some {i : Nat} {lists lists' : List (List α)} {a : α}
    (h : takeFrom i lists = some (a, lists')) :
    ∃ before rest after, lists = before ++ (a :: rest) :: after ∧
      lists' = before ++ rest :: after := by
  induction i, lists using takeFrom.induct generalizing lists' with
  | case1 => simp [takeFrom] at h
  | case2 => simp [takeFrom] at h
  | case3 b rest after =>
    simp only [takeFrom, Option.some.injEq, Prod.mk.injEq] at h
    obtain ⟨rfl, rfl⟩ := h
    exact ⟨[], rest, after, rfl, rfl⟩
  | case4 i list after ih =>
    simp only [takeFrom, Option.map_eq_some_iff, Prod.mk.injEq, Prod.exists] at h
    obtain ⟨_, inner, hinner, rfl, rfl⟩ := h
    obtain ⟨before, rest, after, rfl, rfl⟩ := ih hinner
    exact ⟨list :: before, rest, after, rfl, rfl⟩

theorem takeFrom_length_append (before after : List (List α)) (a : α) (rest : List α) :
    takeFrom before.length (before ++ (a :: rest) :: after) =
      some (a, before ++ rest :: after) := by
  induction before with
  | nil => rfl
  | cons list before ih => simp [takeFrom, ih]

/-- Workers may go one after the other. -/
theorem interleaving_flatten (lists : List (List α)) : Interleaving lists lists.flatten := by
  suffices h : ∀ (n : Nat) (before lists : List (List α)), lists.flatten.length = n →
      (∀ list ∈ before, list = []) → Interleaving (before ++ lists) lists.flatten from
    h _ [] lists rfl (by simp)
  intro n
  induction n with
  | zero =>
    intro before lists hlen hbefore
    have hall : ∀ list ∈ lists, list = [] := by
      simpa [List.flatten_eq_nil_iff] using List.eq_nil_of_length_eq_zero hlen
    rw [List.eq_nil_of_length_eq_zero hlen]
    refine .done fun list hlist => ?_
    rcases List.mem_append.1 hlist with h | h
    · exact hbefore list h
    · exact hall list h
  | succ n ih =>
    intro before lists
    induction lists generalizing before with
    | nil => intro hlen; simp at hlen
    | cons list lists ihl =>
      intro hlen hbefore
      cases list with
      | nil =>
        have hlen' : lists.flatten.length = n + 1 := by simpa using hlen
        have hbefore' : ∀ list ∈ before ++ [[]], list = [] := by
          intro list hlist
          rcases List.mem_append.1 hlist with h | h
          · exact hbefore list h
          · simpa using h
        simpa using ihl (before ++ [[]]) hlen' hbefore'
      | cons a rest =>
        have hlen' : (rest :: lists).flatten.length = n := by simpa using hlen
        exact .step (ih before (rest :: lists) hlen' hbefore)

theorem interleaving_weave (schedule : List Nat) (lists : List (List α)) :
    Interleaving lists (weave schedule lists) := by
  induction schedule generalizing lists with
  | nil => exact interleaving_flatten lists
  | cons i schedule ih =>
    unfold weave
    split
    · rename_i a lists' htake
      obtain ⟨before, rest, after, rfl, rfl⟩ := takeFrom_eq_some htake
      exact .step (ih _)
    · exact ih lists

/-- Every interleaving comes from a schedule. -/
theorem exists_weave_eq {lists : List (List α)} {out : List α} (h : Interleaving lists out) :
    ∃ schedule, weave schedule lists = out := by
  induction h with
  | done h => exact ⟨[], by simpa [weave, List.flatten_eq_nil_iff] using h⟩
  | @step before after a rest out _ ih =>
    obtain ⟨schedule, hschedule⟩ := ih
    exact ⟨before.length :: schedule, by simp [weave, takeFrom_length_append, hschedule]⟩

end StepLatency
