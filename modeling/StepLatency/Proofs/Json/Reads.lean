import Mathlib
import StepLatency.Json.Record
import StepLatency.Proofs.Json.Spelled
import StepLatency.Proofs.Json.Strings

/-!
# Decoders that read what was written

A decoder reads a value if it gets the same result from all texts of the value, whatever follows
them. Lists are read if their items are, and records if the fields of their objects fill a draft.
Every list and every record takes one container of the room.
-/

namespace StepLatency.Json

variable {α β π ρ : Type}

/-- Wherever so many containers may still be opened, the decoder makes `a` of every text of the
value, and leaves what follows. -/
def Reads (d : Decoder α) (depth : Nat) (v : Value) (a : α) : Prop :=
  ∀ ⦃room : Nat⦄ ⦃blanks text rest : List Char⦄, depth ≤ room → Blank blanks → Spells v text →
    EndsNumber rest → d room (blanks ++ (text ++ rest)) = .ok (a, rest)

theorem Reads.mono {d : Decoder α} {depth depth' : Nat} {v : Value} {a : α}
    (h : Reads d depth v a) (hdepth : depth ≤ depth') : Reads d depth' v a := by
  intro room blanks text rest hroom
  exact h (Nat.le_trans hdepth hroom)

theorem Reads.map {d : Decoder α} {depth : Nat} {v : Value} {a : α} (h : Reads d depth v a)
    (f : α → β) : Reads (d.map f) depth v (f a) := by
  intro room blanks text rest hroom hblanks htext hrest
  rw [Decoder.map, h hroom hblanks htext hrest]
  rfl

/-! ### Scalars -/

section Scalars

variable {blanks rest : List Char} {room : Nat}

theorem skipBlanks_stringText (hblanks : Blank blanks) (s : String) (rest : List Char) :
    skipBlanks (blanks ++ (stringText s ++ rest)) =
      '"' :: (s.toList.flatMap escaped ++ '"' :: rest) := by
  rw [skipBlanks_append hblanks, stringText, List.append_assoc, List.cons_append,
    skipBlanks_cons (by decide)]
  rfl

theorem stringExpecting_stringText (expected s : String) (hblanks : Blank blanks) :
    Decoder.stringExpecting expected room (blanks ++ (stringText s ++ rest)) = .ok (s, rest) := by
  unfold Decoder.stringExpecting
  simp only [skipBlanks_stringText hblanks, scanString_flatMap_escaped]
  rw [liftFault, Except.map, String.ofList_toList]

theorem reads_string (s : String) : Reads Decoder.string 0 (.text s) s := by
  intro room blanks text rest _ hblanks htext _
  cases htext
  exact stringExpecting_stringText _ s hblanks

theorem reads_parsed {parse : String → Except Mismatch α} {s : String} {a : α}
    (h : parse s = .ok a) (expected : String) :
    Reads (Decoder.parsed expected parse) 0 (.text s) a := by
  intro room blanks text rest _ hblanks htext _
  cases htext
  rw [Decoder.parsed, stringExpecting_stringText expected s hblanks, ok_bind]
  simp only [h]

theorem startsNumber_of_isDigit {c : Char} (hc : c.isDigit = true) : startsNumber c = true := by
  rw [startsNumber, hc, Bool.or_true]

/-- A text that starts with a digit is handed to the scanner of numbers. -/
theorem skipBlanks_digit (hblanks : Blank blanks) {c : Char} (hc : c.isDigit = true)
    (rest : List Char) : skipBlanks (blanks ++ c :: rest) = c :: rest := by
  rw [skipBlanks_append hblanks, skipBlanks_cons (not_isBlank_of_isDigit hc)]

theorem exists_cons_toString (n : Nat) :
    ∃ c more, (toString n).toList = c :: more ∧ c.isDigit = true := by
  rw [Decimal.toList_toString]
  exact (digits_toDigits n).exists_cons

theorem reads_number {accept : Number → Except Mismatch α} {n : Nat} {a : α}
    (hn : n < UInt64.size) (h : accept (.natural n) = .ok a) (expected : String) :
    Reads (Decoder.number expected accept) 0 (.whole n) a := by
  intro room blanks text rest _ hblanks htext hrest
  cases htext
  obtain ⟨c, more, hcons, hc⟩ := exists_cons_toString n
  have hscan := scanNumber_toString hn hrest
  rw [hcons, List.cons_append] at hscan ⊢
  unfold Decoder.number
  simp only [skipBlanks_digit hblanks hc, startsNumber_of_isDigit hc, if_true, hscan]
  simp only [liftFault, ok_bind, h]

theorem reads_natural {n bound : Nat} (hn : n < bound) (hbound : bound ≤ UInt64.size)
    (expected : String) : Reads (Decoder.natural expected bound) 0 (.whole n) n :=
  reads_number (Nat.lt_of_lt_of_le hn hbound) (if_pos hn) expected

theorem reads_size {n : Nat} (hn : n < UInt64.size) : Reads Decoder.size 0 (.whole n) n :=
  reads_natural hn (Nat.le_refl _) _

end Scalars

/-! ### Lists -/

theorem PartsText.length_le {P : α → List Char → Prop} (hne : ∀ a text, P a text → text ≠ [])
    {first : Bool} {parts : List α} {text : List Char} (h : PartsText P first parts text) :
    parts.length ≤ text.length := by
  induction h with
  | close first hblanks => exact Nat.zero_le _
  | @first a _ _ text _ hblanks htext hrest ih =>
      have hpos : 0 < text.length := List.length_pos_of_ne_nil (hne a text htext)
      simp only [List.length_cons, List.length_append]
      omega
  | next hbefore hblanks htext hrest ih =>
      simp only [List.length_cons, List.length_append]
      omega

section Lists

variable {before blanks rest : List Char} {c : Char}

theorem nextItem_close (first : Bool) (hblanks : Blank blanks) (rest : List Char) :
    Decoder.nextItem first (blanks ++ ']' :: rest) = .ok none := by
  unfold Decoder.nextItem
  rw [skipBlanks_append hblanks, skipBlanks_cons (by decide)]
  rfl

theorem nextItem_first (hblanks : Blank blanks) (hc : StartsValue c) (rest : List Char) :
    Decoder.nextItem true (blanks ++ c :: rest) = .ok (some (c :: rest)) := by
  obtain ⟨hnotBlank, hbracket, -, hcomma⟩ := hc.notMark
  unfold Decoder.nextItem
  rw [skipBlanks_append hblanks, skipBlanks_cons hnotBlank]
  split
  · rename_i heq
    exact nomatch heq
  · rename_i heq
    exact absurd (List.cons.inj heq).1 hbracket
  · rename_i heq
    exact absurd (List.cons.inj heq).1 hcomma
  · rfl

/-- After a comma the next item is found, whatever blanks stand around the comma. -/
theorem nextItem_next (hbefore : Blank before) (hblanks : Blank blanks) (hc : StartsValue c)
    (rest : List Char) :
    Decoder.nextItem false (before ++ ',' :: (blanks ++ c :: rest)) = .ok (some (c :: rest)) := by
  obtain ⟨hnotBlank, hbracket, -, -⟩ := hc.notMark
  have hcomma : skipBlanks (before ++ ',' :: (blanks ++ c :: rest)) =
      ',' :: (blanks ++ c :: rest) := by
    rw [skipBlanks_append hbefore, skipBlanks_cons (by decide)]
  have hitem : skipBlanks (blanks ++ c :: rest) = c :: rest := by
    rw [skipBlanks_append hblanks, skipBlanks_cons hnotBlank]
  unfold Decoder.nextItem
  simp only [hcomma, hitem, Bool.false_eq_true, if_false]
  split
  · rename_i heq
    exact nomatch heq
  · rename_i heq
    exact absurd (List.cons.inj heq).1 hbracket
  · rfl

theorem closeList_append (hblanks : Blank blanks) (rest : List Char) :
    Decoder.closeList (blanks ++ ']' :: rest) = .ok rest := by
  unfold Decoder.closeList
  rw [skipBlanks_append hblanks, skipBlanks_cons (by decide)]
  rfl

end Lists

section Items

variable {d : Decoder α} {depth room : Nat}

/-- One item, from where it starts, and the items after it. -/
theorem itemsFrom_cons {clock cs text more rest closing : List Char} {tick : Char} {first : Bool}
    {v : Value} {a : α} {as : List α} (hroom : depth ≤ room) (ha : Reads d depth v a)
    (htext : Spells v text) (hmore : EndsNumber (more ++ rest))
    (hnext : Decoder.nextItem first cs = .ok (some (text ++ (more ++ rest))))
    (hlater : Decoder.itemsFrom d room clock false (more ++ rest) = .ok (as, closing)) :
    Decoder.itemsFrom d room (tick :: clock) first cs = .ok (a :: as, closing) := by
  have hread : d room (text ++ (more ++ rest)) = .ok (a, more ++ rest) :=
    ha hroom blank_nil htext hmore
  rw [Decoder.itemsFrom, hnext]
  simp only [liftFault, ok_bind, hread, hlater]
  rfl

/-- The items of a list are read up to the blanks before the closing bracket. -/
theorem itemsFrom_parts {first : Bool} {vs : List Value} {text : List Char}
    (hparts : PartsText Spells first vs text) {as : List α}
    (hreads : List.Forall₂ (Reads d depth) vs as) (hroom : depth ≤ room) {clock : List Char}
    (hclock : vs.length < clock.length) (rest : List Char) :
    ∃ closing, Blank closing ∧
      Decoder.itemsFrom d room clock first (text ++ ']' :: rest) =
        .ok (as, closing ++ ']' :: rest) := by
  have hbracket : EndsNumber (']' :: rest) := endsNumber_cons (.inr (.inr (.inl rfl)))
  induction hparts generalizing as clock with
  | close first hblanks =>
      obtain ⟨tick, clock, rfl⟩ := List.exists_cons_of_length_pos (Nat.zero_lt_of_lt hclock)
      cases hreads
      refine ⟨_, hblanks, ?_⟩
      rw [Decoder.itemsFrom, nextItem_close first hblanks]
      rfl
  | @first _ _ blanks text more hblanks htext hmore ih =>
      obtain ⟨tick, clock, rfl⟩ := List.exists_cons_of_length_pos (Nat.zero_lt_of_lt hclock)
      obtain _ | ⟨ha, hlater⟩ := hreads
      obtain ⟨closing, hclosing, hitems⟩ := ih hlater (Nat.lt_of_succ_lt_succ hclock)
      obtain ⟨c, tail, rfl, hc⟩ := htext.exists_cons
      refine ⟨closing, hclosing,
        itemsFrom_cons hroom ha htext (hmore.endsNumber hbracket) ?_ hitems⟩
      simpa using nextItem_first hblanks hc (tail ++ (more ++ ']' :: rest))
  | @next _ _ before blanks text more hbefore hblanks htext hmore ih =>
      obtain ⟨tick, clock, rfl⟩ := List.exists_cons_of_length_pos (Nat.zero_lt_of_lt hclock)
      obtain _ | ⟨ha, hlater⟩ := hreads
      obtain ⟨closing, hclosing, hitems⟩ := ih hlater (Nat.lt_of_succ_lt_succ hclock)
      obtain ⟨c, tail, rfl, hc⟩ := htext.exists_cons
      refine ⟨closing, hclosing,
        itemsFrom_cons hroom ha htext (hmore.endsNumber hbracket) ?_ hitems⟩
      simpa using nextItem_next hbefore hblanks hc (tail ++ (more ++ ']' :: rest))

/-- A list is read if its items are, each as what the decoder makes of it. -/
theorem reads_list {vs : List Value} {as : List α} (h : List.Forall₂ (Reads d depth) vs as) :
    Reads (Decoder.list d) (depth + 1) (.list vs) as := by
  intro room blanks text rest hroom hblanks htext _
  obtain ⟨room, rfl⟩ : ∃ k, room = k + 1 := ⟨room - 1, by omega⟩
  cases htext with
  | @list _ inner hparts =>
      have hopen : skipBlanks (blanks ++ ('[' :: (inner ++ [']']) ++ rest)) =
          '[' :: (inner ++ ']' :: rest) := by
        rw [skipBlanks_append hblanks, List.cons_append, skipBlanks_cons (by decide)]
        simp
      have hclock : vs.length < (inner ++ ']' :: rest).length := by
        have hle := hparts.length_le fun v text hspells => by
          obtain ⟨c, more, rfl, -⟩ := hspells.exists_cons
          simp
        rw [List.length_append, List.length_cons]
        omega
      obtain ⟨closing, hclosing, hitems⟩ :=
        itemsFrom_parts hparts h (Nat.le_of_succ_le_succ hroom) hclock rest
      unfold Decoder.list
      simp only [hopen, Decoder.enter, hitems, ok_bind, closeList_append hclosing, liftFault]
      rfl

end Items

/-! ### Records -/

section Objects

variable {before blanks rest : List Char}

theorem nextName_close (first : Bool) (hblanks : Blank blanks) (rest : List Char) :
    nextName first (blanks ++ '\x7d' :: rest) = .ok none := by
  unfold nextName
  rw [skipBlanks_append hblanks, skipBlanks_cons (by decide)]
  rfl

theorem nextName_first (hblanks : Blank blanks) (name : String) (rest : List Char) :
    nextName true (blanks ++ (stringText name ++ rest)) =
      .ok (some (name.toList.flatMap escaped ++ '"' :: rest)) := by
  unfold nextName
  rw [skipBlanks_stringText hblanks]
  rfl

theorem nextName_next (hbefore : Blank before) (hblanks : Blank blanks) (name : String)
    (rest : List Char) :
    nextName false (before ++ ',' :: (blanks ++ (stringText name ++ rest))) =
      .ok (some (name.toList.flatMap escaped ++ '"' :: rest)) := by
  have hcomma : skipBlanks (before ++ ',' :: (blanks ++ (stringText name ++ rest))) =
      ',' :: (blanks ++ (stringText name ++ rest)) := by
    rw [skipBlanks_append hbefore, skipBlanks_cons (by decide)]
  unfold nextName
  simp only [hcomma, skipBlanks_stringText hblanks, Bool.false_eq_true, if_false]

theorem scanColon_append (hblanks : Blank blanks) (rest : List Char) :
    scanColon (blanks ++ ':' :: rest) = .ok rest := by
  unfold scanColon
  rw [skipBlanks_append hblanks, skipBlanks_cons (by decide)]
  rfl

theorem closeObject_append (hblanks : Blank blanks) (rest : List Char) :
    closeObject (blanks ++ '\x7d' :: rest) = .ok rest := by
  unfold closeObject
  rw [skipBlanks_append hblanks, skipBlanks_cons (by decide)]
  rfl

end Objects

/-- The fields of an object, one after the other, take a draft to another: the schema knows each,
none has been read before, and its decoder reads the value. -/
inductive Collects (schema : Schema π ρ) (depth : Nat) : π → List (String × Value) → π → Prop
  | nil (p : π) : Collects schema depth p [] p
  | cons {p p' q : π} {name : String} {v : Value} {field : Field π}
      {fields : List (String × Value)} (hfind : schema.fields.find? (·.name == name) = some field)
      (hnew : field.isRead p = false) (hread : Reads (field.read p) depth v p')
      (hlater : Collects schema depth p' fields q) : Collects schema depth p ((name, v) :: fields) q

section Records

variable {schema : Schema π ρ} {depth room : Nat}

/-- A field that keeps its value in a place of its own in the draft. -/
theorem Collects.field {p q : π} {name : String} {v : Value} {a : α} {d : Decoder α}
    {get : π → Option α} {set : π → α → π} {fields : List (String × Value)}
    (hfind : schema.fields.find? (·.name == name) = some (.of name d get set))
    (hnew : get p = none) (hread : Reads d depth v a)
    (hlater : Collects schema depth (set p a) fields q) :
    Collects schema depth p ((name, v) :: fields) q := by
  have hfresh : (Field.of name d get set).isRead p = false := by
    change (get p).isSome = false
    rw [hnew]
    rfl
  exact .cons hfind hfresh (hread.map (set p)) hlater

theorem readField_fieldText {p p' : π} {name : String} {v : Value} {field : Field π}
    (hfind : schema.fields.find? (·.name == name) = some field) (hnew : field.isRead p = false)
    (hread : Reads (field.read p) depth v p') (hroom : depth ≤ room)
    {before blanks text rest : List Char} (hbefore : Blank before) (hblanks : Blank blanks)
    (htext : Spells v text) (hrest : EndsNumber rest) :
    schema.readField room p name (before ++ ':' :: (blanks ++ (text ++ rest))) =
      .ok (p', rest) := by
  unfold Schema.readField
  simp only [hfind, hnew, Bool.false_eq_true, if_false]
  rw [scanColon_append hbefore, liftFault, ok_bind]
  exact hread hroom hblanks htext hrest

/-- One field, from behind the quote that opens its name, and the fields after it. -/
theorem fieldsFrom_cons {clock cs before blanks text more closing : List Char} {tick : Char}
    {first : Bool} {p p' q : π} {name : String} {v : Value} {field : Field π}
    (hfind : schema.fields.find? (·.name == name) = some field) (hnew : field.isRead p = false)
    (hread : Reads (field.read p) depth v p') (hroom : depth ≤ room) (hbefore : Blank before)
    (hblanks : Blank blanks) (htext : Spells v text) (hmore : EndsNumber more)
    (hnext : nextName first cs = .ok (some (name.toList.flatMap escaped ++
      '"' :: (before ++ ':' :: (blanks ++ (text ++ more))))))
    (hlater : schema.fieldsFrom room clock false p' more = .ok (q, closing)) :
    schema.fieldsFrom room (tick :: clock) first p cs = .ok (q, closing) := by
  rw [Schema.fieldsFrom, hnext]
  simp only [liftFault, ok_bind, scanString_flatMap_escaped, String.ofList_toList]
  rw [readField_fieldText hfind hnew hread hroom hbefore hblanks htext hmore, ok_bind]
  exact hlater

/-- The fields of an object fill the draft, up to the blanks before the closing brace. -/
theorem fieldsFrom_parts {first : Bool} {fields : List (String × Value)} {text : List Char}
    (hparts : PartsText (FieldText Spells) first fields text) {p q : π}
    (hcollects : Collects schema depth p fields q) (hroom : depth ≤ room) {clock : List Char}
    (hclock : fields.length < clock.length) (rest : List Char) :
    ∃ closing, Blank closing ∧
      schema.fieldsFrom room clock first p (text ++ '\x7d' :: rest) =
        .ok (q, closing ++ '\x7d' :: rest) := by
  have hbrace : EndsNumber ('\x7d' :: rest) := endsNumber_cons (.inr (.inr (.inr rfl)))
  induction hparts generalizing p clock with
  | close first hblanks =>
      obtain ⟨tick, clock, rfl⟩ := List.exists_cons_of_length_pos (Nat.zero_lt_of_lt hclock)
      cases hcollects
      refine ⟨_, hblanks, ?_⟩
      rw [Schema.fieldsFrom, nextName_close first hblanks]
      rfl
  | @first _ _ outer _ more houter hfield hmore ih =>
      obtain ⟨tick, clock, rfl⟩ := List.exists_cons_of_length_pos (Nat.zero_lt_of_lt hclock)
      obtain ⟨hbefore, hblanks, htext⟩ := hfield
      obtain _ | ⟨hfind, hnew, hread, hlater⟩ := hcollects
      obtain ⟨closing, hclosing, hfields⟩ := ih hlater (Nat.lt_of_succ_lt_succ hclock)
      refine ⟨closing, hclosing, fieldsFrom_cons hfind hnew hread hroom hbefore hblanks htext
        (hmore.endsNumber hbrace) ?_ hfields⟩
      simpa using nextName_first houter _ _
  | @next _ _ before outer _ more hcomma houter hfield hmore ih =>
      obtain ⟨tick, clock, rfl⟩ := List.exists_cons_of_length_pos (Nat.zero_lt_of_lt hclock)
      obtain ⟨hbefore, hblanks, htext⟩ := hfield
      obtain _ | ⟨hfind, hnew, hread, hlater⟩ := hcollects
      obtain ⟨closing, hclosing, hfields⟩ := ih hlater (Nat.lt_of_succ_lt_succ hclock)
      refine ⟨closing, hclosing, fieldsFrom_cons hfind hnew hread hroom hbefore hblanks htext
        (hmore.endsNumber hbrace) ?_ hfields⟩
      simpa using nextName_next hcomma houter _ _

/-- A record is read from an object whose fields fill a draft that can be finished. -/
theorem reads_record {fields : List (String × Value)} {q : π} {r : ρ}
    (hcollects : Collects schema depth schema.blank fields q) (hfinish : schema.finish q = .ok r) :
    Reads schema.decoder (depth + 1) (.object fields) r := by
  intro room blanks text rest hroom hblanks htext _
  obtain ⟨room, rfl⟩ : ∃ k, room = k + 1 := ⟨room - 1, by omega⟩
  cases htext with
  | @object _ inner hparts =>
      have hopen : skipBlanks (blanks ++ ('\x7b' :: (inner ++ ['\x7d']) ++ rest)) =
          '\x7b' :: (inner ++ '\x7d' :: rest) := by
        rw [skipBlanks_append hblanks, List.cons_append, skipBlanks_cons (by decide)]
        simp
      have hclock : fields.length < (inner ++ '\x7d' :: rest).length := by
        have hle := hparts.length_le fun field text hfield => by
          cases hfield
          simp [stringText]
        rw [List.length_append, List.length_cons]
        omega
      obtain ⟨closing, hclosing, hfields⟩ :=
        fieldsFrom_parts hparts hcollects (Nat.le_of_succ_le_succ hroom) hclock rest
      unfold Schema.decoder
      simp only [hopen, Decoder.enter, hfields, ok_bind, Schema.finished, hfinish,
        closeObject_append hclosing, liftFault]
      rfl

end Records

/-! ### Whole texts -/

/-- A whole text of a value is decoded, with blanks after it. -/
theorem decode_of_reads {d : Decoder α} {depth : Nat} {v : Value} {a : α} (h : Reads d depth v a)
    (hdepth : depth ≤ Decoder.maxDepth) {text after : List Char} (htext : Spells v text)
    (hafter : Blank after) : Decoder.decode d (String.ofList (text ++ after)) = .ok a := by
  have hnil : EndsNumber [] := fun _ _ heq => nomatch heq
  have hends : EndsNumber after := by simpa using endsNumber_append hafter hnil
  have hread : d Decoder.maxDepth (text ++ after) = .ok (a, after) :=
    h hdepth blank_nil htext hends
  have hskip : skipBlanks after = [] := List.dropWhile_eq_nil_iff.2 hafter
  rw [Decoder.decode, String.toList_ofList, hread, ok_bind]
  simp only [hskip]
  rfl

end StepLatency.Json
