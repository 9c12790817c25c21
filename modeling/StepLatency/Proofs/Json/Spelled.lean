import Mathlib
import StepLatency.Json.Value
import StepLatency.Proofs.Json.NumberText

/-!
# Texts of values

A value can be written with more or fewer blanks between its parts. The relation between values and
their texts leaves the blanks open, so that whatever holds of all texts of a value holds of the
compact one and of the indented one.
-/

namespace StepLatency.Json

def Blank (cs : List Char) : Prop := ∀ c ∈ cs, isBlank c = true

/-- Parts with a comma between each two and blanks around them. The flag says whether no part has
gone before. -/
inductive PartsText {α : Type} (P : α → List Char → Prop) : Bool → List α → List Char → Prop
  | close {blanks : List Char} (first : Bool) (hblanks : Blank blanks) : PartsText P first [] blanks
  | first {a : α} {rest : List α} {blanks text more : List Char} (hblanks : Blank blanks)
      (htext : P a text) (hrest : PartsText P false rest more) :
      PartsText P true (a :: rest) (blanks ++ (text ++ more))
  | next {a : α} {rest : List α} {before blanks text more : List Char} (hbefore : Blank before)
      (hblanks : Blank blanks) (htext : P a text) (hrest : PartsText P false rest more) :
      PartsText P false (a :: rest) (before ++ ',' :: (blanks ++ (text ++ more)))

inductive FieldText (P : Value → List Char → Prop) : String × Value → List Char → Prop
  | mk {name : String} {v : Value} {before blanks text : List Char} (hbefore : Blank before)
      (hblanks : Blank blanks) (htext : P v text) :
      FieldText P (name, v) (stringText name ++ (before ++ ':' :: (blanks ++ text)))

inductive Spells : Value → List Char → Prop
  | null : Spells .null "null".toList
  | bool (b : Bool) : Spells (.bool b) (if b then "true" else "false").toList
  | whole (n : Nat) : Spells (.whole n) (toString n).toList
  | real (x : Binary64) : Spells (.real x) x.toJson.toList
  | text (s : String) : Spells (.text s) (stringText s)
  | list {items : List Value} {text : List Char} (hitems : PartsText Spells true items text) :
      Spells (.list items) ('[' :: (text ++ [']']))
  | object {fields : List (String × Value)} {text : List Char}
      (hfields : PartsText (FieldText Spells) true fields text) :
      Spells (.object fields) ('\x7b' :: (text ++ ['\x7d']))

/-! ### Blanks -/

section Blanks

variable {cs ds rest : List Char} {c : Char}

theorem blank_nil : Blank [] := fun _ h => absurd h List.not_mem_nil

theorem Blank.cons (hc : isBlank c = true) (h : Blank cs) : Blank (c :: cs) := by
  intro d hd
  rcases List.mem_cons.1 hd with rfl | hmem
  · exact hc
  · exact h d hmem

theorem blank_lineBreak (level : Nat) : Blank (lineBreak level) := by
  refine Blank.cons (by decide) fun c hc => ?_
  rw [List.eq_of_mem_replicate hc]
  rfl

theorem skipBlanks_append (h : Blank cs) (rest : List Char) :
    skipBlanks (cs ++ rest) = skipBlanks rest :=
  List.dropWhile_append_of_pos h

theorem skipBlanks_cons (hc : isBlank c = false) : skipBlanks (c :: rest) = c :: rest := by
  rw [skipBlanks, List.dropWhile_cons, hc]
  rfl

theorem not_isBlank_of_isDigit (hc : c.isDigit = true) : isBlank c = false := by
  have h1 := ne_of_isDigit hc (d := ' ') (by decide)
  have h2 := ne_of_isDigit hc (d := '\n') (by decide)
  have h3 := ne_of_isDigit hc (d := '\t') (by decide)
  have h4 := ne_of_isDigit hc (d := '\r') (by decide)
  simp [isBlank, h1, h2, h3, h4]

theorem endsNumber_cons (hc : isBlank c = true ∨ c = ',' ∨ c = ']' ∨ c = '\x7d') :
    EndsNumber (c :: rest) := by
  intro d more heq
  obtain ⟨rfl, -⟩ := List.cons.inj heq
  simp only [isBlank, Bool.or_eq_true, beq_iff_eq] at hc
  rcases hc with (((rfl | rfl) | rfl) | rfl) | rfl | rfl | rfl <;> decide

theorem endsNumber_append (h : Blank cs) (hrest : EndsNumber rest) : EndsNumber (cs ++ rest) := by
  cases cs with
  | nil => exact hrest
  | cons c more => exact endsNumber_cons (.inl (h c List.mem_cons_self))

end Blanks

/-! ### Where a text begins and ends -/

def StartsValue (c : Char) : Prop :=
  c = 'n' ∨ c = 't' ∨ c = 'f' ∨ c = '"' ∨ c = '[' ∨ c = '\x7b' ∨ c = '-' ∨ c.isDigit = true

theorem StartsValue.notMark {c : Char} (h : StartsValue c) :
    isBlank c = false ∧ c ≠ ']' ∧ c ≠ '\x7d' ∧ c ≠ ',' := by
  rcases h with rfl | rfl | rfl | rfl | rfl | rfl | rfl | hdigit
  case inr.inr.inr.inr.inr.inr.inr =>
    exact ⟨not_isBlank_of_isDigit hdigit, ne_of_isDigit hdigit (by decide),
      ne_of_isDigit hdigit (by decide), ne_of_isDigit hdigit (by decide)⟩
  all_goals decide

theorem exists_cons_positionalText {digits : List Char} (hdigits : Digits digits)
    (layout : Binary64.Layout) (point : Int) :
    ∃ c more, (layout.positionalText digits point).toList = c :: more ∧ c.isDigit = true := by
  obtain ⟨c, rest, rfl, hc⟩ := hdigits.exists_cons
  unfold Binary64.Layout.positionalText
  split
  · exact ⟨'0', '.' :: (Binary64.zeros (-point).toNat ++ String.ofList (c :: rest)).toList, by simp,
      by decide⟩
  · obtain ⟨k, hk⟩ : ∃ k, point.toNat = k + 1 := ⟨point.toNat - 1, by omega⟩
    split
    · rw [hk, List.take_succ_cons]
      exact ⟨c, _, by simp; rfl, hc⟩
    · exact ⟨c, _, by simp; rfl, hc⟩

theorem exists_cons_magnitudeText (layout : Binary64.Layout) (x : Binary64) :
    ∃ c more, (layout.magnitudeText x).toList = c :: more ∧ c.isDigit = true := by
  unfold Binary64.Layout.magnitudeText
  split
  · split
    · exact ⟨'0', ['.', '0'], by simp, by decide⟩
    · exact ⟨'0', [], by simp, by decide⟩
  · have hdigits := digits_toDigits (Decimal.shortest layout.tie x).digits
    dsimp only
    rw [Decimal.toList_toString]
    split
    · exact exists_cons_positionalText hdigits _ _
    · obtain ⟨c, rest, hcons, hc⟩ := hdigits.exists_cons
      rw [hcons]
      unfold Binary64.scientificText
      exact ⟨c, _, by simp; rfl, hc⟩

theorem exists_cons_toJson (x : Binary64) :
    ∃ c more, x.toJson.toList = c :: more ∧ StartsValue c := by
  unfold Binary64.toJson
  split
  · rename_i hfinite
    rw [Binary64.Layout.text, if_pos hfinite, Binary64.sign]
    split
    · exact ⟨'-', (Binary64.jsonLayout.magnitudeText x).toList, by simp, by simp [StartsValue]⟩
    · obtain ⟨c, more, hcons, hc⟩ := exists_cons_magnitudeText Binary64.jsonLayout x
      exact ⟨c, more, by simp [hcons], by simp [StartsValue, hc]⟩
  · exact ⟨'n', ['u', 'l', 'l'], by simp, .inl rfl⟩

/-- No value begins with a blank, a comma or a closing bracket. -/
theorem Spells.exists_cons {v : Value} {text : List Char} (h : Spells v text) :
    ∃ c more, text = c :: more ∧ StartsValue c := by
  cases h with
  | null => exact ⟨_, _, rfl, .inl rfl⟩
  | bool b =>
      cases b
      · exact ⟨_, _, rfl, .inr (.inr (.inl rfl))⟩
      · exact ⟨_, _, rfl, .inr (.inl rfl)⟩
  | whole n =>
      obtain ⟨c, more, hcons, hc⟩ := (digits_toDigits n).exists_cons
      rw [Decimal.toList_toString]
      exact ⟨c, more, hcons, by simp [StartsValue, hc]⟩
  | real x => exact exists_cons_toJson x
  | text s => exact ⟨_, _, rfl, by simp [StartsValue]⟩
  | list hitems => exact ⟨_, _, rfl, by simp [StartsValue]⟩
  | object hfields => exact ⟨_, _, rfl, by simp [StartsValue]⟩

theorem PartsText.endsNumber {α : Type} {P : α → List Char → Prop} {parts : List α}
    {text rest : List Char} (h : PartsText P false parts text) (hrest : EndsNumber rest) :
    EndsNumber (text ++ rest) := by
  cases h with
  | close first hblanks => exact endsNumber_append hblanks hrest
  | next hbefore hblanks htext hrest =>
      rw [List.append_assoc]
      exact endsNumber_append hbefore (endsNumber_cons (.inr (.inl rfl)))

/-! ### The texts that are written -/

section Parts

variable {α : Type} {P : α → List Char → Prop} {blanks after : List Char}

theorem partsText_separated (hblanks : Blank blanks) (hafter : Blank after) {parts : List α}
    {texts : List (List Char)} (h : List.Forall₂ P parts texts) (hne : texts ≠ []) :
    PartsText P false parts (',' :: (blanks ++ (separated (',' :: blanks) texts ++ after))) ∧
      PartsText P true parts (blanks ++ (separated (',' :: blanks) texts ++ after)) := by
  induction h with
  | nil => exact absurd rfl hne
  | @cons part text parts texts htext hrest ih =>
      -- What follows the part is the next one, or what comes before the closing bracket.
      obtain ⟨more, hmore, hseparated⟩ : ∃ more, PartsText P false parts more ∧
          separated (',' :: blanks) (text :: texts) ++ after = text ++ more := by
        cases hrest with
        | nil => exact ⟨after, .close false hafter, by simp [separated]⟩
        | cons hnext hlater =>
            refine ⟨_, (ih (by simp)).1, ?_⟩
            simp [separated]
      rw [hseparated]
      exact ⟨.next blank_nil hblanks htext hmore, .first hblanks htext hmore⟩

theorem partsText_bracketed {parts : List α} {texts : List (List Char)}
    (h : List.Forall₂ P parts texts) (opening closing : Char) (level : Nat) :
    ∃ text, PartsText P true parts text ∧
      bracketed opening closing level texts = opening :: (text ++ [closing]) := by
  cases h with
  | nil => exact ⟨[], .close true blank_nil, rfl⟩
  | cons htext hrest =>
      refine ⟨_, (partsText_separated (blank_lineBreak (level + 1)) (blank_lineBreak level)
        (.cons htext hrest) (by simp)).2, ?_⟩
      simp [bracketed]

end Parts

mutual

/-- The indented text of a value is one of its texts. -/
theorem spells_pretty (level : Nat) : (v : Value) → Spells v (v.pretty level)
  | .null => .null
  | .bool b => .bool b
  | .whole n => .whole n
  | .real x => .real x
  | .text s => .text s
  | .list items => by
      obtain ⟨text, hparts, htext⟩ :=
        partsText_bracketed (spells_prettyItems level items) '[' ']' level
      rw [Value.pretty, htext]
      exact .list hparts
  | .object fields => by
      obtain ⟨text, hparts, htext⟩ :=
        partsText_bracketed (spells_prettyFields level fields) '\x7b' '\x7d' level
      rw [Value.pretty, htext]
      exact .object hparts

theorem spells_prettyItems (level : Nat) :
    (items : List Value) → List.Forall₂ Spells items (Value.prettyItems level items)
  | [] => .nil
  | v :: rest => .cons (spells_pretty (level + 1) v) (spells_prettyItems level rest)

theorem spells_prettyFields (level : Nat) : (fields : List (String × Value)) →
    List.Forall₂ (FieldText Spells) fields (Value.prettyFields level fields)
  | [] => .nil
  | (name, v) :: rest => by
      have hblank : Blank [' '] := blank_nil.cons (by decide)
      exact .cons (.mk blank_nil hblank (spells_pretty (level + 1) v))
        (spells_prettyFields level rest)

end

theorem partsText_compact {α : Type} {P : α → List Char → Prop} {parts : List α}
    {texts : List (List Char)} (h : List.Forall₂ P parts texts) :
    PartsText P true parts (separated [','] texts) := by
  cases h with
  | nil => exact .close true blank_nil
  | cons htext hrest =>
      simpa using (partsText_separated blank_nil blank_nil (.cons htext hrest) (by simp)).2

mutual

/-- The compact text of a value is one of its texts. -/
theorem spells_compact : (v : Value) → Spells v v.compact
  | .null => .null
  | .bool b => .bool b
  | .whole n => .whole n
  | .real x => .real x
  | .text s => .text s
  | .list items => by
      rw [Value.compact]
      exact .list (partsText_compact (spells_compactItems items))
  | .object fields => by
      rw [Value.compact]
      exact .object (partsText_compact (spells_compactFields fields))

theorem spells_compactItems :
    (items : List Value) → List.Forall₂ Spells items (Value.compactItems items)
  | [] => .nil
  | v :: rest => .cons (spells_compact v) (spells_compactItems rest)

theorem spells_compactFields : (fields : List (String × Value)) →
    List.Forall₂ (FieldText Spells) fields (Value.compactFields fields)
  | [] => .nil
  | (_, v) :: rest =>
      .cons (.mk blank_nil blank_nil (spells_compact v)) (spells_compactFields rest)

end

end StepLatency.Json
