import Mathlib
import StepLatency.Proofs.Decimal.Natural
import StepLatency.Proofs.Text.Trimmed
import StepLatency.Workload.Operation

/-!
# Declarations in text

A text declares an operation kind just if it has the form `NAME:STEPS`, where the last colon divides
and blanks around either part do not count. Every kind that can be declared is declared by the text
that it is written as.
-/

namespace StepLatency.OperationSpec

open Text (AllBlank Bare Trimmed)

/-- The name stands before the last colon and the number of steps after it, each with blanks around
it. The name is not empty, and the steps are one or more and fit a word. -/
structure DeclaredBy (spec : OperationSpec) (text : String) : Prop where
  parts : ∃ before after numeral, text.toList = before ++ ':' :: after ∧ ':' ∉ after ∧
    Trimmed before spec.name.toList ∧ Trimmed after numeral ∧ Decimal.Denotes numeral spec.steps
  name_ne : spec.name ≠ ""
  steps_pos : 1 ≤ spec.steps
  steps_lt : spec.steps < UInt64.size

/-! ### The last mark -/

section SplitLast

variable {mark : Char} {cs before after : List Char}

theorem not_mem_takeWhile_bne (mark : Char) (cs : List Char) :
    mark ∉ cs.takeWhile (· != mark) := by
  intro hmem
  have hne := List.mem_takeWhile_imp hmem
  simp at hne

/-- The last mark is the one with none after it. -/
theorem splitLast_eq_some_iff :
    splitLast mark cs = some (before, after) ↔ cs = before ++ mark :: after ∧ mark ∉ after := by
  constructor
  · intro h
    have hsplit := List.takeWhile_append_dropWhile (p := (· != mark)) (l := cs.reverse)
    unfold splitLast at h
    split at h
    · exact nomatch h
    · rename_i c rest hrest
      obtain ⟨rfl, rfl⟩ := Prod.mk.inj (Option.some.inj h)
      obtain rfl : c = mark := by
        have hhead := List.head?_dropWhile_not (· != mark) cs.reverse
        rw [hrest] at hhead
        simpa using hhead
      refine ⟨?_, fun hmem => not_mem_takeWhile_bne c cs.reverse (List.mem_reverse.1 hmem)⟩
      calc
        cs = (cs.reverse.takeWhile (· != c) ++ c :: rest).reverse := by
          rw [← hrest, hsplit, List.reverse_reverse]
        _ = rest.reverse ++ c :: (cs.reverse.takeWhile (· != c)).reverse := by simp
  · rintro ⟨rfl, hmark⟩
    exact splitLast_append hmark

end SplitLast

/-! ### Reading a declaration -/

section Parse

variable {text : String} {spec : OperationSpec}

/-- What is read from the two parts of a declaration. -/
theorem parse_eq_ok_iff_of_parts {before after : List Char}
    (htext : text.toList = before ++ ':' :: after) (hcolon : ':' ∉ after) :
    parse text = .ok spec ↔
      Text.trim before = spec.name.toList ∧ spec.name ≠ "" ∧
        Decimal.readNatural UInt64.size (Text.trim after) = .ok spec.steps ∧ 1 ≤ spec.steps := by
  have hsplit : splitLast ':' text.toList = some (before, after) :=
    splitLast_eq_some_iff.2 ⟨htext, hcolon⟩
  obtain ⟨name, steps⟩ := spec
  have hname : name ≠ "" ↔ name.toList ≠ [] := by
    rw [ne_eq, ne_eq, String.toList_eq_nil_iff]
  simp only [parse, hsplit, hname]
  by_cases hempty : Text.trim before = []
  · simp only [hempty, List.isEmpty_nil, if_true, reduceCtorEq, false_iff]
    rintro ⟨heq, hne, -⟩
    exact hne heq.symm
  rw [if_neg (by simpa using hempty)]
  cases hread : Decimal.readNatural UInt64.size (Text.trim after) with
  | error fault => simp
  | ok n =>
      by_cases hzero : n = 0
      · subst hzero
        simp only [if_true, reduceCtorEq, Except.ok.injEq, false_iff]
        rintro ⟨-, -, rfl, hpos⟩
        exact absurd hpos (by decide)
      · simp only [if_neg hzero, Except.ok.injEq, mk.injEq]
        constructor
        · rintro ⟨rfl, rfl⟩
          rw [String.toList_ofList]
          exact ⟨rfl, hempty, rfl, Nat.pos_of_ne_zero hzero⟩
        · rintro ⟨heq, -, rfl, -⟩
          rw [heq, String.ofList_toList]
          exact ⟨rfl, rfl⟩

/-- What is parsed is what the text declares. -/
theorem parse_eq_ok_iff : parse text = .ok spec ↔ spec.DeclaredBy text := by
  constructor
  · intro h
    cases hsplit : splitLast ':' text.toList with
    | none => simp [parse, hsplit] at h
    | some parts =>
        obtain ⟨before, after⟩ := parts
        obtain ⟨htext, hcolon⟩ := splitLast_eq_some_iff.1 hsplit
        obtain ⟨hname, hne, hread, hpos⟩ := (parse_eq_ok_iff_of_parts htext hcolon).1 h
        obtain ⟨hdenotes, hlt⟩ := Decimal.readNatural_eq_ok_iff.1 hread
        exact ⟨⟨before, after, _, htext, hcolon, Text.trim_eq_iff.1 hname, Text.trimmed_trim after,
          hdenotes⟩, hne, hpos, hlt⟩
  · rintro ⟨⟨before, after, numeral, htext, hcolon, hname, hafter, hdenotes⟩, hne, hpos, hlt⟩
    refine (parse_eq_ok_iff_of_parts htext hcolon).2 ⟨Text.trim_eq_iff.2 hname, hne, ?_, hpos⟩
    rw [Text.trim_eq_iff.2 hafter]
    exact Decimal.readNatural_eq_ok_iff.2 ⟨hdenotes, hlt⟩

/-- A kind is declared by the text that it is written as. -/
theorem declaredBy_text (hname : spec.name ≠ "") (hbare : Bare spec.name.toList)
    (hpos : 1 ≤ spec.steps) (hlt : spec.steps < UInt64.size) : spec.DeclaredBy spec.text where
  parts := by
    have hdigits : ∀ c ∈ (toString spec.steps).toList, c.isDigit = true := fun c hc =>
      Decimal.isDigit_of_mem_toDigits (Decimal.toList_toString spec.steps ▸ hc)
    have htext : spec.text.toList = spec.name.toList ++ ':' :: (toString spec.steps).toList := by
      simp [text, ToString.toString]
    exact ⟨_, _, _, htext, fun hmem => absurd (hdigits _ hmem) (by decide), hbare.trimmed,
      (Text.bare_of_digits hdigits).trimmed, Decimal.denotes_toString spec.steps⟩
  name_ne := hname
  steps_pos := hpos
  steps_lt := hlt

/-- Blanks around the name and around the number of steps do not count. -/
theorem toOption_parse_padded {before after left right left' right' : List Char}
    (hcolon : ':' ∉ after) (hleft : AllBlank left) (hright : AllBlank right)
    (hleft' : AllBlank left') (hright' : AllBlank right') :
    (parse (String.ofList
      ((left ++ before ++ right) ++ ':' :: (left' ++ after ++ right')))).toOption =
      (parse (String.ofList (before ++ ':' :: after))).toOption := by
  have hblank {cs : List Char} (h : AllBlank cs) : ':' ∉ cs :=
    fun hmem => absurd (h _ hmem) (by decide)
  have hcolon' : ':' ∉ left' ++ after ++ right' := by
    simp [hcolon, hblank hleft', hblank hright']
  have hok (e : Except OperationFault OperationSpec) (spec : OperationSpec) :
      e.toOption = some spec ↔ e = .ok spec := by
    cases e <;> simp [Except.toOption]
  ext spec
  rw [hok, hok, parse_eq_ok_iff_of_parts (String.toList_ofList ..) hcolon',
    parse_eq_ok_iff_of_parts (String.toList_ofList ..) hcolon, Text.trim_append hleft _ hright,
    Text.trim_append hleft' _ hright']

end Parse

/-- A text is read as a declaration just if it is one. The text that a kind is written as is read as
this kind, whatever its name holds, and so is every text that differs in blanks around the parts. -/
theorem parse_exact :
    (∀ text spec, parse text = .ok spec ↔ spec.DeclaredBy text) ∧
    (∀ text spec, parse text = .ok spec → parse spec.text = .ok spec) ∧
    (∀ spec : OperationSpec, spec.name ≠ "" → Bare spec.name.toList → 1 ≤ spec.steps →
      spec.steps < UInt64.size → parse spec.text = .ok spec) ∧
    ∀ before after left right left' right' : List Char, ':' ∉ after → AllBlank left →
      AllBlank right → AllBlank left' → AllBlank right' →
      (parse (String.ofList
        ((left ++ before ++ right) ++ ':' :: (left' ++ after ++ right')))).toOption =
        (parse (String.ofList (before ++ ':' :: after))).toOption := by
  have hprinted (spec : OperationSpec) (hname : spec.name ≠ "") (hbare : Bare spec.name.toList)
      (hpos : 1 ≤ spec.steps) (hlt : spec.steps < UInt64.size) : parse spec.text = .ok spec :=
    parse_eq_ok_iff.2 (declaredBy_text hname hbare hpos hlt)
  refine ⟨fun text spec => parse_eq_ok_iff, fun text spec hparse => ?_, hprinted,
    fun before after left right left' right' => toOption_parse_padded⟩
  obtain ⟨⟨before, after, numeral, -, -, hname, -, -⟩, hne, hpos, hlt⟩ := parse_eq_ok_iff.1 hparse
  exact hprinted spec hne hname.bare hpos hlt

/-- A name with a colon and a blank inside, between blanks, and zeros in front of the number. -/
theorem parse_exact_colonInName :
    (⟨"PAGE: SCAN", 7⟩ : OperationSpec).DeclaredBy "\u3000PAGE: SCAN\t:\u00a0+007 " ∧
      parse "PAGE: SCAN:7" = .ok ⟨"PAGE: SCAN", 7⟩ ∧
      (parse "\u3000PAGE: SCAN\t: 7\n").toOption = some ⟨"PAGE: SCAN", 7⟩ := by
  obtain ⟨hiff, -, hprinted, hpadded⟩ := parse_exact
  have hparse : parse "PAGE: SCAN:7" = .ok ⟨"PAGE: SCAN", 7⟩ :=
    hprinted ⟨"PAGE: SCAN", 7⟩ (by decide)
      (Text.bare_iff_trim_eq.2 (by decide +kernel)) (by decide) (by decide)
  refine ⟨(hiff _ _).1 (by decide +kernel), hparse, ?_⟩
  calc
    _ = (parse (String.ofList "PAGE: SCAN:7".toList)).toOption :=
      hpadded "PAGE: SCAN".toList ['7'] ['\u3000'] ['\t'] [' '] ['\n'] (by decide)
        (by decide +kernel) (by decide +kernel) (by decide +kernel) (by decide +kernel)
    _ = some ⟨"PAGE: SCAN", 7⟩ := by
      rw [String.ofList_toList, hparse]
      rfl

end StepLatency.OperationSpec
