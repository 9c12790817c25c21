import Mathlib

/-!
# Order of texts by their bytes

Texts are compared character by character, which is how their bytes in UTF-8 compare: of two
characters the larger one has a larger byte where the encodings differ first.
-/

namespace StepLatency

def utf8Bytes (text : String) : List UInt8 := text.toUTF8.data.toList

theorem utf8Bytes_eq_flatMap (text : String) :
    utf8Bytes text = text.toList.flatMap String.utf8EncodeChar := by
  rw [utf8Bytes, String.toUTF8, ← String.utf8Encode_toList, List.utf8Encode,
    List.data_toByteArray]

theorem utf8Bytes_append (first second : String) :
    utf8Bytes (first ++ second) = utf8Bytes first ++ utf8Bytes second := by
  simp [utf8Bytes_eq_flatMap]

theorem toList_loop_eq (bytes : ByteArray) (i : Nat) (taken : List UInt8) :
    ByteArray.toList.loop bytes i taken = taken.reverse ++ bytes.data.toList.drop i := by
  fun_induction ByteArray.toList.loop bytes i taken with
  | case1 i taken hi ih =>
      have hlist : i < bytes.data.toList.length := hi
      have hget : bytes.get! i = bytes.data.toList[i] := by
        rw [ByteArray.get!, Array.getElem!_eq_getD, Array.getD]
        simp [hi]
      rw [ih, List.drop_eq_getElem_cons hlist, List.reverse_cons, List.append_assoc, hget]
      rfl
  | case2 i taken hi =>
      have hlist : bytes.data.toList.length ≤ i := Nat.le_of_not_lt hi
      rw [List.drop_of_length_le hlist, List.append_nil]

theorem toList_toUTF8 (text : String) : text.toUTF8.toList = utf8Bytes text := by
  simp [ByteArray.toList, toList_loop_eq, utf8Bytes]

theorem utf8Bytes_injective : Function.Injective utf8Bytes := by
  intro first second h
  apply String.toByteArray_inj.1
  exact ByteArray.ext (Array.toList_inj.1 h)

section Bytes

variable {x y : Nat} {xs ys : List UInt8}

theorem ofNat_cons_lt_of_lt (hxy : x < y) (hy : y < 256) :
    UInt8.ofNat x :: xs < UInt8.ofNat y :: ys := by
  rw [List.cons_lt_cons_iff, UInt8.lt_iff_toNat_lt, UInt8.toNat_ofNat', UInt8.toNat_ofNat']
  left
  omega

theorem ofNat_cons_lt_of_le (hxy : x ≤ y) (hy : y < 256) (hrest : x = y → xs < ys) :
    UInt8.ofNat x :: xs < UInt8.ofNat y :: ys := by
  rcases Nat.lt_or_eq_of_le hxy with hlt | rfl
  · exact ofNat_cons_lt_of_lt hlt hy
  · exact List.cons_lt_cons_iff.2 (.inr ⟨rfl, hrest rfl⟩)

end Bytes

/-- The encodings of two characters compare as the characters, whatever follows them. -/
theorem utf8EncodeChar_append_lt {c d : Char} (hcd : c < d) (xs ys : List UInt8) :
    String.utf8EncodeChar c ++ xs < String.utf8EncodeChar d ++ ys := by
  have hlt : c.val.toNat < d.val.toNat := hcd
  have hd : d.val.toNat < 0x110000 := by
    rcases d.valid with h | ⟨-, h⟩
    · exact Nat.lt_trans h (by decide)
    · exact h
  generalize hm : c.val.toNat = m at hlt
  generalize hn : d.val.toNat = n at hlt hd
  simp only [String.utf8EncodeChar, hm, hn]
  -- A longer encoding begins with a larger byte; within one length the digits are compared in turn.
  split_ifs
  all_goals first
    | omega
    | exact ofNat_cons_lt_of_lt (by omega) (by omega)
    | exact ofNat_cons_lt_of_le (by omega) (by omega) fun _ =>
        ofNat_cons_lt_of_lt (by omega) (by omega)
    | exact ofNat_cons_lt_of_le (by omega) (by omega) fun _ =>
        ofNat_cons_lt_of_le (by omega) (by omega) fun _ =>
        ofNat_cons_lt_of_lt (by omega) (by omega)
    | exact ofNat_cons_lt_of_le (by omega) (by omega) fun _ =>
        ofNat_cons_lt_of_le (by omega) (by omega) fun _ =>
        ofNat_cons_lt_of_le (by omega) (by omega) fun _ =>
        ofNat_cons_lt_of_lt (by omega) (by omega)

/-- Texts are ordered as their bytes are. -/
theorem flatMap_utf8EncodeChar_lt {first second : List Char} (h : first < second) :
    first.flatMap String.utf8EncodeChar < second.flatMap String.utf8EncodeChar := by
  induction first generalizing second with
  | nil =>
      cases second with
      | nil => exact absurd h (List.not_lt_nil _)
      | cons d second =>
          obtain ⟨byte, bytes, hbytes⟩ :=
            @List.exists_cons_of_ne_nil _ (String.utf8EncodeChar d)
              String.utf8EncodeChar_ne_nil
          rw [List.flatMap_nil, List.flatMap_cons, hbytes]
          exact List.nil_lt_cons _ _
  | cons c first ih =>
      cases second with
      | nil => exact absurd h (List.not_lt_nil _)
      | cons d second =>
          rw [List.flatMap_cons, List.flatMap_cons]
          rcases List.cons_lt_cons_iff.1 h with hlt | ⟨rfl, hrest⟩
          · exact utf8EncodeChar_append_lt hlt _ _
          · exact List.append_left_lt (ih hrest)

/-- A smaller text has the smaller bytes. -/
theorem utf8Bytes_lt {first second : String} (h : first < second) :
    utf8Bytes first < utf8Bytes second := by
  rw [utf8Bytes_eq_flatMap, utf8Bytes_eq_flatMap]
  exact flatMap_utf8EncodeChar_lt (String.lt_iff_toList_lt.1 h)

end StepLatency
