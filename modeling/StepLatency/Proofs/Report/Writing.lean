import Mathlib
import StepLatency.Report.Writer

/-!
# What a writer takes

A writer takes bytes as long as there is room. How they are divided into parts makes no difference,
if the parts are offered in order and none is offered after one that is refused. Nor does it matter
how many bytes are taken at once.
-/

namespace StepLatency.Writer

/-! ### Bytes that are taken -/

section Accepted

variable (byteRoom lineRoom : Option Nat)

theorem accepted_nil : accepted byteRoom lineRoom [] = [] := by
  rcases byteRoom with _ | _ | n <;> rcases lineRoom with _ | _ | k <;> rfl

theorem accepted_cons (byte : UInt8) (rest : List UInt8) :
    accepted byteRoom lineRoom (byte :: rest) =
      if byteRoom = some 0 ∨ lineRoom = some 0 then []
      else byte :: accepted (byteRoom.map (· - 1))
        (if byte = newline then lineRoom.map (· - 1) else lineRoom) rest := by
  have hall (bytes : List UInt8) : accepted none none bytes = bytes := by
    cases bytes <;> rfl
  rcases byteRoom with _ | _ | n <;> rcases lineRoom with _ | _ | k <;> simp [accepted, hall]

theorem accepted_isPrefix (bytes : List UInt8) : accepted byteRoom lineRoom bytes <+: bytes := by
  induction bytes generalizing byteRoom lineRoom with
  | nil => rw [accepted_nil]
  | cons byte rest ih =>
      rw [accepted_cons]
      split
      · exact List.nil_prefix
      · exact (List.prefix_cons_inj byte).2 (ih _ _)

variable {byteRoom lineRoom} {first : List UInt8}

/-- Once all of the first part is taken, the rest is up to the room that is left. -/
theorem accepted_append_of_eq (h : accepted byteRoom lineRoom first = first)
    (second : List UInt8) :
    accepted byteRoom lineRoom (first ++ second) =
      first ++ accepted (byteRoom.map (· - first.length))
        (lineRoom.map (· - first.count newline)) second := by
  induction first generalizing byteRoom lineRoom with
  | nil => simp
  | cons byte rest ih =>
      by_cases hroom : byteRoom = some 0 ∨ lineRoom = some 0
      · rw [accepted_cons, if_pos hroom] at h
        exact nomatch h
      rw [accepted_cons, if_neg hroom] at h
      have hbytes : (byteRoom.map (· - 1)).map (· - rest.length) =
          byteRoom.map (· - (byte :: rest).length) := by
        rw [Option.map_map]
        congr 1
        funext n
        simp only [Function.comp, List.length_cons]
        omega
      have hlines : (if byte = newline then lineRoom.map (· - 1) else lineRoom).map
          (· - rest.count newline) = lineRoom.map (· - (byte :: rest).count newline) := by
        rw [List.count_cons]
        by_cases hbyte : byte = newline
        · simp only [hbyte, if_true, beq_self_eq_true, Option.map_map]
          congr 1
          funext n
          simp only [Function.comp]
          omega
        · simp [hbyte]
      rw [List.cons_append, accepted_cons, if_neg hroom, ih (List.cons.inj h).2, hbytes, hlines,
        List.cons_append]

/-- Nothing follows a part that is not taken as a whole. -/
theorem accepted_append_of_ne (h : accepted byteRoom lineRoom first ≠ first)
    (second : List UInt8) :
    accepted byteRoom lineRoom (first ++ second) = accepted byteRoom lineRoom first := by
  induction first generalizing byteRoom lineRoom with
  | nil => exact absurd (accepted_nil _ _) h
  | cons byte rest ih =>
      rw [List.cons_append, accepted_cons, accepted_cons]
      by_cases hroom : byteRoom = some 0 ∨ lineRoom = some 0
      · rw [if_pos hroom, if_pos hroom]
      · rw [accepted_cons, if_neg hroom] at h
        rw [if_neg hroom, if_neg hroom, ih fun heq => h (congrArg (byte :: ·) heq)]

end Accepted

/-! ### Writing -/

section Write

variable {w : Writer} {bytes : List UInt8}

theorem written_afterRefusal (w : Writer) : w.afterRefusal.written = w.written := by
  unfold afterRefusal
  split
  · split <;> rfl
  · rfl

theorem length_accepted_eq_iff :
    (accepted w.byteRoom w.lineRoom bytes).length = bytes.length ↔
      accepted w.byteRoom w.lineRoom bytes = bytes :=
  ⟨(accepted_isPrefix _ _ _).eq_of_length, congrArg List.length⟩

theorem write_of_eq (h : accepted w.byteRoom w.lineRoom bytes = bytes) :
    w.write bytes = (.ok (), w.take bytes) := by
  rw [write, if_pos (length_accepted_eq_iff.2 h), h]

theorem write_of_ne (h : accepted w.byteRoom w.lineRoom bytes ≠ bytes) :
    w.write bytes =
      (.error w.refusal, (w.take (accepted w.byteRoom w.lineRoom bytes)).afterRefusal) := by
  rw [write, if_neg (mt length_accepted_eq_iff.1 h)]

theorem written_of_write_eq_ok {w' : Writer} (h : w.write bytes = (.ok (), w')) :
    w'.written = w.written ++ bytes.toArray := by
  by_cases hall : accepted w.byteRoom w.lineRoom bytes = bytes
  · rw [write_of_eq hall] at h
    obtain rfl : w.take bytes = w' := congrArg Prod.snd h
    rfl
  · rw [write_of_ne hall] at h
    cases congrArg Prod.fst h

theorem written_flush (w : Writer) : w.flush.2.written = w.written := by
  unfold flush
  split <;> rfl

theorem take_append (w : Writer) (first second : List UInt8) :
    w.take (first ++ second) = (w.take first).take second := by
  have hmap (room : Option Nat) (a b : Nat) :
      room.map (· - (a + b)) = (room.map (· - a)).map (· - b) := by
    rw [Option.map_map]
    congr 1
    funext n
    exact Nat.sub_add_eq n a b
  simp only [take, List.length_append, List.count_append, hmap, ← List.append_toArray,
    Array.append_assoc]

/-- To write two parts at once is to write the second after the first, unless that fails. -/
theorem write_append (w : Writer) (first second : List UInt8) :
    w.write (first ++ second) =
      match w.write first with
      | (.ok (), w) => w.write second
      | (.error e, w) => (.error e, w) := by
  by_cases hfirst : accepted w.byteRoom w.lineRoom first = first
  · have happend := accepted_append_of_eq hfirst second
    rw [write_of_eq hfirst]
    by_cases hsecond : accepted (w.take first).byteRoom (w.take first).lineRoom second = second
    · have hall : accepted w.byteRoom w.lineRoom (first ++ second) = first ++ second :=
        happend.trans (congrArg (first ++ ·) hsecond)
      rw [write_of_eq hall, take_append]
      exact (write_of_eq hsecond).symm
    · have hcut : accepted w.byteRoom w.lineRoom (first ++ second) ≠ first ++ second := by
        rw [happend]
        exact fun heq => hsecond (List.append_cancel_left heq)
      rw [write_of_ne hcut, happend, take_append]
      exact (write_of_ne hsecond).symm
  · have happend := accepted_append_of_ne hfirst second
    have hcut : accepted w.byteRoom w.lineRoom (first ++ second) ≠ first ++ second := by
      intro heq
      have hprefix := (accepted_isPrefix w.byteRoom w.lineRoom first).length_le
      rw [← happend, heq, List.length_append] at hprefix
      obtain rfl : second = [] := List.eq_nil_of_length_eq_zero (by omega)
      exact hfirst (by simpa using heq)
    rw [write_of_ne hcut, write_of_ne hfirst, happend]

theorem write_nil (w : Writer) : w.write [] = (.ok (), w) := by
  rw [write_of_eq (accepted_nil _ _)]
  simp [take]

end Write

/-! ### Calls of a device -/

section Call

variable {w : Writer} {bytes : List UInt8}

/-- One call of the device behind a writer. It takes the first byte, and of the others as many as it
has room for and will take at once. Without room for the first byte it fails, or takes none. -/
def call (w : Writer) (extra : Nat) (bytes : List UInt8) : Except SinkError Nat × Writer :=
  match (accepted w.byteRoom w.lineRoom bytes).take (extra + 1) with
  | [] => (if w.refusal = .tookNothing then .ok 0 else .error w.refusal, w.afterRefusal)
  | taken => (.ok taken.length, w.take taken)

def callAll (w : Writer) (extra : List UInt8 → Nat) (bytes : List UInt8) :
    Except SinkError Unit × Writer :=
  if bytes = [] then (.ok (), w)
  else
    match w.call (extra bytes) bytes with
    | (.ok (n + 1), w) => w.callAll extra (bytes.drop (n + 1))
    | (.ok 0, w) => (.error .tookNothing, w)
    | (.error e, w) => (.error e, w)
termination_by bytes.length
decreasing_by
  have hpos := List.length_pos_of_ne_nil ‹bytes ≠ []›
  rw [List.length_drop]
  omega

/-- A part of what is taken would be taken alone. -/
theorem accepted_take_accepted (w : Writer) (bytes : List UInt8) (n : Nat) :
    accepted w.byteRoom w.lineRoom ((accepted w.byteRoom w.lineRoom bytes).take n) =
      (accepted w.byteRoom w.lineRoom bytes).take n := by
  -- If less of this part were taken, then nothing after it, so no more of all the bytes either.
  by_contra hne
  obtain ⟨rest, hrest⟩ :=
    (List.take_prefix n _).trans (accepted_isPrefix w.byteRoom w.lineRoom bytes)
  have hall := accepted_append_of_ne hne rest
  rw [hrest] at hall
  have hlength := (accepted_isPrefix w.byteRoom w.lineRoom
    ((accepted w.byteRoom w.lineRoom bytes).take n)).length_le
  rw [← hall] at hlength
  have htake : (accepted w.byteRoom w.lineRoom bytes).take n =
      accepted w.byteRoom w.lineRoom bytes :=
    (List.take_prefix n _).eq_of_length_le hlength
  exact hne (hall.symm.trans htake.symm)

/-- A call takes a part of the bytes that would be written alone, or the first byte is refused. -/
theorem call_cases (w : Writer) (extra : Nat) (hbytes : bytes ≠ []) :
    (∃ taken rest, taken ≠ [] ∧ bytes = taken ++ rest ∧ w.write taken = (.ok (), w.take taken) ∧
      w.call extra bytes = (.ok taken.length, w.take taken)) ∨
    w.write bytes = (.error w.refusal, w.afterRefusal) ∧
      w.call extra bytes =
        (if w.refusal = .tookNothing then .ok 0 else .error w.refusal, w.afterRefusal) := by
  cases htaken : (accepted w.byteRoom w.lineRoom bytes).take (extra + 1) with
  | nil =>
      have hnone : accepted w.byteRoom w.lineRoom bytes = [] := by
        rcases List.take_eq_nil_iff.1 htaken with hzero | hnone
        · exact absurd hzero (Nat.succ_ne_zero extra)
        · exact hnone
      refine .inr ⟨?_, by rw [call, htaken]⟩
      rw [write_of_ne (by rw [hnone]; exact hbytes.symm), hnone]
      simp [take]
  | cons byte more =>
      have hprefix : byte :: more <+: bytes :=
        htaken ▸ (List.take_prefix _ _).trans (accepted_isPrefix _ _ bytes)
      obtain ⟨rest, hrest⟩ := hprefix
      have haccepted : accepted w.byteRoom w.lineRoom (byte :: more) = byte :: more :=
        htaken ▸ accepted_take_accepted w bytes _
      refine .inl ⟨byte :: more, rest, List.cons_ne_nil _ _, hrest.symm, write_of_eq haccepted, ?_⟩
      rw [call, htaken]

/-- However many bytes the device takes in one call, all calls together write what there is room
for. -/
theorem callAll_eq_write (w : Writer) (extra : List UInt8 → Nat) (bytes : List UInt8) :
    w.callAll extra bytes = w.write bytes := by
  -- A call takes one byte at least, so what is left for the next calls is shorter.
  induction hlength : bytes.length using Nat.strong_induction_on generalizing w bytes with
  | _ n ih =>
  rw [callAll]
  split
  · rename_i hnil
    rw [hnil, write_nil]
  rename_i hbytes
  rcases w.call_cases (extra bytes) hbytes with
    ⟨taken, rest, htaken, rfl, hwrite, hcall⟩ | ⟨hwrite, hcall⟩
  · cases taken with
    | nil => exact absurd rfl htaken
    | cons byte more =>
        have hrest : rest.length < n := by
          rw [← hlength, List.length_append, List.length_cons]
          omega
        rw [write_append, hwrite, hcall]
        simp only [List.length_cons]
        rw [← List.length_cons, List.drop_left, ih _ hrest _ _ rfl]
  · rw [hwrite, hcall]
    by_cases hnothing : w.refusal = .tookNothing
    · simp [hnothing]
    · simp [hnothing]

/-- Offers parts in order, each until it is taken, up to the first that is not taken as a whole. -/
def writeParts (w : Writer) (extra : List UInt8 → Nat) :
    List (List UInt8) → Except SinkError Unit × Writer
  | [] => (.ok (), w)
  | part :: rest =>
    match w.callAll extra part with
    | (.ok (), w) => w.writeParts extra rest
    | (.error e, w) => (.error e, w)

theorem writeParts_eq_write (w : Writer) (extra : List UInt8 → Nat) (parts : List (List UInt8)) :
    w.writeParts extra parts = w.write parts.flatten := by
  induction parts generalizing w with
  | nil => exact w.write_nil.symm
  | cons part rest ih =>
      rw [writeParts, callAll_eq_write, List.flatten_cons, write_append]
      simp only [ih]

end Call

/-! ### A limited number of bytes -/

/-- The writer has room for so many bytes. What it refuses the next one with, and whether it takes
more after that, is left open. -/
structure Limited (w : Writer) (room : Nat) : Prop where
  byteRoom : w.byteRoom = some room
  lineRoom : w.lineRoom = none

/-- Of the bytes offered those have arrived that there is room for, and the answer is the error of
the writer just if there are more. -/
structure Receives (w : Writer) (room : Nat) (bytes : List UInt8)
    (result : Except SinkError Unit × Writer) : Prop where
  written : result.2.written.toList = w.written.toList ++ bytes.take room
  answer : result.1 = if bytes.length ≤ room then .ok () else .error w.refusal

theorem accepted_some_none (room : Nat) (bytes : List UInt8) :
    accepted (some room) none bytes = bytes.take room := by
  induction bytes generalizing room with
  | nil => rw [accepted_nil, List.take_nil]
  | cons byte rest ih =>
      cases room with
      | zero => rfl
      | succ room =>
          have hline : (if byte = newline then (none : Option Nat).map (· - 1) else none) = none :=
            ite_self none
          rw [accepted_cons, if_neg (by simp), hline, List.take_succ_cons, ← ih]
          rfl

/-- A writer gets what it has room for. -/
theorem Limited.write {w : Writer} {room : Nat} (hw : w.Limited room) (bytes : List UInt8) :
    w.Receives room bytes (w.write bytes) := by
  have haccepted : accepted w.byteRoom w.lineRoom bytes = bytes.take room := by
    rw [hw.byteRoom, hw.lineRoom, accepted_some_none]
  by_cases hroom : bytes.length ≤ room
  · have hall := List.take_of_length_le hroom
    rw [write_of_eq (haccepted.trans hall)]
    exact ⟨by simp [Writer.take, hall], (if_pos hroom).symm⟩
  · have hcut : accepted w.byteRoom w.lineRoom bytes ≠ bytes := by
      intro heq
      exact hroom (List.take_eq_self_iff bytes |>.1 (haccepted.symm.trans heq))
    rw [write_of_ne hcut]
    exact ⟨by simp [written_afterRefusal, Writer.take, haccepted], (if_neg hroom).symm⟩

/-! ### Failures one after the other -/

section Failures

variable {w : Writer} {bytes : List UInt8} {cause : SinkError}

/-- A writer that refuses the byte at a position, and goes on as another writer. -/
def refusingAt (position : Nat) (cause : SinkError) (w : Writer) : Writer :=
  { w with
    toWriteLimits := ⟨some position, none, cause, true⟩
    later := w.toWriteLimits :: w.later }

/-- A writer that takes some bytes, fails when it is flushed, and goes on as another writer. -/
def flushingBadlyAfter (bytes : List UInt8) (cause : SinkError) (w : Writer) : Writer :=
  { w with
    byteRoom := w.byteRoom.map (· + bytes.length)
    flushFaults := cause :: w.flushFaults }

/-- The bytes before the position arrive, and then the other writer takes over. -/
theorem write_refusingAt {position : Nat} (h : position < bytes.length) :
    (w.refusingAt position cause).write bytes =
      (.error cause, { w with written := w.written ++ (bytes.take position).toArray }) := by
  have hcut : bytes.take position ≠ bytes := fun heq =>
    Nat.not_le.2 h (List.take_eq_self_iff bytes |>.1 heq)
  have haccepted : accepted (some position) none bytes = bytes.take position :=
    accepted_some_none position bytes
  rw [write_of_ne (haccepted.trans_ne hcut)]
  change (Except.error cause, ((w.refusingAt position cause).take
    (accepted (some position) none bytes)).afterRefusal) = _
  rw [haccepted]
  rfl

/-- All bytes arrive, and the fault waits for the flush. -/
theorem write_flushingBadlyAfter (hlines : w.lineRoom = none) :
    (w.flushingBadlyAfter bytes cause).write bytes =
      (.ok (), { w with
        written := w.written ++ bytes.toArray
        flushFaults := cause :: w.flushFaults }) := by
  have haccepted : accepted (w.byteRoom.map (· + bytes.length)) w.lineRoom bytes = bytes := by
    rw [hlines]
    cases w.byteRoom with
    | none => cases bytes <;> rfl
    | some room => exact (accepted_some_none _ _).trans (List.take_of_length_le (by simp))
  have hroom : (w.byteRoom.map (· + bytes.length)).map (· - bytes.length) = w.byteRoom := by
    cases w.byteRoom <;> simp
  have hlineRoom : w.lineRoom.map (· - bytes.count newline) = w.lineRoom := by
    rw [hlines]
    rfl
  rw [write_of_eq haccepted]
  simp only [take, flushingBadlyAfter, hroom, hlineRoom]

end Failures

end StepLatency.Writer
