import Mathlib
import StepLatency.Measurement.Store

/-!
# Entries of a registry

The entries stand in strictly increasing order of their names. So a name occurs once, and looking it
up finds its only entry.
-/

namespace StepLatency

/-- Where names are unique, looking one up finds its entry. -/
theorem find?_key_eq_some_iff {entries : List (String × Handle)} {name : String} {h : Handle}
    (hkeys : (entries.map (·.1)).Nodup) :
    (entries.find? (·.1 == name)).map (·.2) = some h ↔ (name, h) ∈ entries := by
  induction entries with
  | nil => simp
  | cons entry rest ih =>
      obtain ⟨key, h'⟩ := entry
      rw [List.map_cons, List.nodup_cons] at hkeys
      by_cases hkey : key = name
      · subst hkey
        have hrest : (key, h) ∉ rest := fun hmem => hkeys.1 (List.mem_map.2 ⟨(key, h), hmem, rfl⟩)
        simp [hrest, eq_comm]
      · have hne : name ≠ key := Ne.symm hkey
        simp [hkey, hne, ih hkeys.2]

namespace Store

theorem insertEntry_perm (name : String) (h : Handle) (entries : List (String × Handle)) :
    (insertEntry name h entries).Perm (entries ++ [(name, h)]) := by
  induction entries with
  | nil => exact .refl _
  | cons entry rest ih =>
      unfold insertEntry
      split
      · exact (List.perm_append_singleton (name, h) (entry :: rest)).symm
      · exact ih.cons entry

theorem mem_insertEntry {name : String} {h : Handle} {entries : List (String × Handle)}
    {entry : String × Handle} :
    entry ∈ insertEntry name h entries ↔ entry ∈ entries ∨ entry = (name, h) := by
  rw [(insertEntry_perm name h entries).mem_iff, List.mem_append, List.mem_singleton]

def SortedEntries (entries : List (String × Handle)) : Prop :=
  entries.Pairwise fun first second => first.1 < second.1

theorem SortedEntries.nodup {entries : List (String × Handle)} (hsorted : SortedEntries entries) :
    (entries.map (·.1)).Nodup := by
  rw [List.Nodup, List.pairwise_map]
  exact hsorted.imp fun hlt => String.ne_of_lt hlt

/-- A new name is put where it belongs. -/
theorem SortedEntries.insertEntry {name : String} {entries : List (String × Handle)}
    (hsorted : SortedEntries entries) (hnew : name ∉ entries.map (·.1)) (h : Handle) :
    SortedEntries (insertEntry name h entries) := by
  induction entries with
  | nil => exact List.pairwise_singleton _ _
  | cons entry rest ih =>
      obtain ⟨hfirst, hrest⟩ := List.pairwise_cons.1 hsorted
      rw [List.map_cons, List.mem_cons, not_or] at hnew
      unfold Store.insertEntry
      split
      · rename_i hlt
        refine List.pairwise_cons.2 ⟨fun other hmem => ?_, hsorted⟩
        rcases List.mem_cons.1 hmem with rfl | hmem
        · exact hlt
        · exact String.lt_trans hlt (hfirst other hmem)
      · rename_i hnot
        have hle : entry.1 ≤ name := String.not_lt.1 hnot
        have hlt : entry.1 < name :=
          String.not_le.1 fun hback => hnew.1 (String.le_antisymm hback hle)
        refine List.pairwise_cons.2 ⟨fun other hmem => ?_, ih hrest hnew.2⟩
        rcases mem_insertEntry.1 hmem with hold | rfl
        · exact hfirst other hold
        · exact hlt

end Store

end StepLatency
