import Mathlib
import StepLatency.Proofs.Concurrency.Underway
import StepLatency.Proofs.Measurement.NoLostUpdate

/-!
# Samples in flight

A sample is added to its sum before it is counted, and between the two updates the sum is ahead. In
every state on the way the sums are those of what has been added, and whatever has not been counted
yet is a sample that some worker is halfway through.
-/

namespace StepLatency

/-- Something that calls record in two halves: an amount is added to a sum, then the event is
counted. -/
structure Quantity where
  amount? : Call → Option Nat
  added? : Update → Option Nat
  second : Update
  sum : Counter
  events : Counter

namespace Update

def latency? (step : Nat) : Update → Option Nat
  | .addLatency step' latency => if step' = step then some latency.toNat else none
  | _ => none

def delay? : Update → Option Nat
  | .addDelay delay => some delay.toNat
  | _ => none

end Update

namespace Quantity

def latencies (h : Handle) (step : Nat) : Quantity :=
  ⟨Call.validLatency? step, Update.latency? step, .countOperation step, .latencySum h step,
    .operations h step⟩

def delays (tracker : TrackerId) : Quantity :=
  ⟨Call.delay?, Update.delay?, .countDelay, .delaySum tracker, .pacingSamples tracker⟩

def amounts (q : Quantity) (out : List (Handle × Update)) : List Nat :=
  out.filterMap fun item => q.added? item.2

/-- Whether a worker has done the first half of some call and the second half comes next. -/
def midCall (q : Quantity) (s : Store) (h : Handle) (calls : List Call)
    (rest : List (Handle × Update)) : Bool :=
  calls.tails.any fun
    | call :: later =>
        (q.amount? call).isSome && rest = (h, q.second) :: later.flatMap (s.callUpdates h)
    | [] => false

def inFlight (q : Quantity) (s : Store) (h : Handle) (workers : List (List Call))
    (left : List (List (Handle × Update))) : Nat :=
  (workers.zip left).countP fun (calls, rest) => q.midCall s h calls rest

/-- What the two counters of a quantity show after the updates `out`, when `left` is what the
workers still have to do. -/
structure Shown (q : Quantity) (s : Store) (h : Handle) (workers : List (List Call))
    (out : List (Handle × Update)) (left : List (List (Handle × Update))) : Prop where
  sum : (q.sum.value (s.applyTagged out)).toNat = min (q.amounts out).sum maxCount
  counted : (q.events.value (s.applyTagged out)).toNat ≤ (q.amounts out).length
  begun : (q.amounts out).length ≤
    (q.events.value (s.applyTagged out)).toNat + q.inFlight s h workers left
  idle : q.inFlight s h workers left = 0 → q.events.value (s.applyTagged out) = 0 →
    q.sum.value (s.applyTagged out) = 0

end Quantity

/-! ### What a call comes down to -/

section Calls

variable {s : Store} {h : Handle} {a : Aggregator}

inductive Call.Splits (h : Handle) (stepCount : Nat) : Call → List (Handle × Update) → Prop
  | refused {latency : Int} {step : Nat} (hstep : stepCount ≤ step) :
      Splits h stepCount (.record latency step) []
  | negative {latency : Int} {step : Nat} (hstep : step < stepCount) (hneg : latency < 0) :
      Splits h stepCount (.record latency step) [(h, .countInvalid)]
  | valid {latency : Int} {step : Nat} (hstep : step < stepCount) (hpos : 0 ≤ latency) :
      Splits h stepCount (.record latency step)
        [(h, .addLatency step (UInt64.ofNat latency.toNat)), (h, .countOperation step)]
  | paced {delay : UInt64} :
      Splits h stepCount (.pace delay) [(h, .addDelay delay), (h, .countDelay)]

/-- A call is refused, counts an invalid sample, or is recorded in two halves. -/
theorem Store.splits (ha : s.aggregators[h]? = some a) (call : Call) :
    call.Splits h a.stepCount (s.callUpdates h call) := by
  rw [callUpdates, ha]
  cases call with
  | record latency step =>
      by_cases hstep : a.stepCount ≤ step
      · have hrefused : a.refuses (.record latency step) = true := by
          simpa [Aggregator.refuses] using hstep
        simp only [Aggregator.callUpdates_of_refuses hrefused]
        exact .refused hstep
      · have hlt : step < a.stepCount := Nat.lt_of_not_le hstep
        by_cases hneg : latency < 0
        · simpa [Aggregator.callUpdates, Aggregator.updates_of_lt hlt, Except.toOption,
            sampleUpdates, hneg] using Call.Splits.negative (h := h) hlt hneg
        · simpa [Aggregator.callUpdates, Aggregator.updates_of_lt hlt, Except.toOption,
            sampleUpdates, hneg] using Call.Splits.valid (h := h) hlt (Int.not_lt.1 hneg)
  | pace delay => exact .paced

theorem Store.fst_of_mem_callUpdates (ha : s.aggregators[h]? = some a) {call : Call}
    {item : Handle × Update} (hmem : item ∈ s.callUpdates h call) : item.1 = h := by
  rw [callUpdates, ha] at hmem
  obtain ⟨u, -, rfl⟩ := List.mem_map.1 hmem
  rfl

end Calls

namespace Quantity

/-- A quantity is recorded in two halves when every call that adds to the sum counts the event right
after it, and nothing else does either. -/
structure Halved (q : Quantity) (s : Store) (h : Handle) : Prop where
  paired : ∀ call list, Paired (fun item => (q.added? item.2).isSome) (h, q.second) list →
    Paired (fun item => (q.added? item.2).isSome) (h, q.second) (s.callUpdates h call ++ list)
  last : ∀ call mid, mid <:+ s.callUpdates h call → mid.head? = some (h, q.second) →
    mid = [(h, q.second)] ∧ (q.amount? call).isSome
  sum_added : ∀ u, q.sum.added s (h, u) = (q.added? u).getD 0
  events_added : ∀ u, q.events.added s (h, u) = if u = q.second then 1 else 0
  sum_shown : ∀ n, q.sum.shown n = min n maxCount
  events_shown : ∀ n, q.events.shown n = n % UInt64.size

variable {s : Store} {h : Handle} {a : Aggregator}

theorem suffix_pair_cases {α : Type} {mid : List α} {x y z : α} (hmid : mid <:+ [x, y])
    (hhead : mid.head? = some z) : mid = [x, y] ∧ x = z ∨ mid = [y] ∧ y = z := by
  rcases List.suffix_cons_iff.1 hmid with rfl | hmid
  · exact .inl ⟨rfl, Option.some.inj hhead⟩
  · rcases List.suffix_cons_iff.1 hmid with rfl | hmid
    · exact .inr ⟨rfl, Option.some.inj hhead⟩
    · simp [List.suffix_nil.1 hmid] at hhead

theorem halved_latencies (ha : s.aggregators[h]? = some a) (step : Nat) :
    (latencies h step).Halved s h where
  paired call list hlist := by
    have hsplit := s.splits ha call
    generalize s.callUpdates h call = updates at hsplit
    cases hsplit with
    | refused hstep => exact hlist
    | negative hstep hneg => exact hlist.cons_other rfl (by simp [latencies])
    | @valid latency step' hstep hpos =>
        by_cases hs : step' = step
        · subst hs
          exact hlist.cons_pair (by simp [latencies, Update.latency?]) rfl
        · refine .cons_other (.cons_other hlist rfl ?_) ?_ ?_
          · simp [latencies, hs]
          · simp [latencies, Update.latency?, hs]
          · simp [latencies]
    | paced =>
        exact .cons_other (.cons_other hlist rfl (by simp [latencies])) rfl (by simp [latencies])
  last call mid hmid hhead := by
    have hsplit := s.splits ha call
    generalize s.callUpdates h call = updates at hsplit hmid
    cases hsplit with
    | refused hstep => simp [List.suffix_nil.1 hmid] at hhead
    | negative hstep hneg =>
        rcases suffix_pair_cases (hmid.trans (List.suffix_cons (h, .countInvalid) _)) hhead with
          ⟨-, heq⟩ | ⟨-, heq⟩ <;> simp [latencies] at heq
    | @valid latency step' hstep hpos =>
        rcases suffix_pair_cases hmid hhead with ⟨-, heq⟩ | ⟨rfl, heq⟩
        · simp [latencies] at heq
        · have hs : step' = step := by simpa [latencies] using heq
          exact ⟨by rw [heq], by simp [latencies, Call.validLatency?, hs, hpos]⟩
    | paced =>
        rcases suffix_pair_cases hmid hhead with ⟨-, heq⟩ | ⟨-, heq⟩ <;> simp [latencies] at heq
  sum_added u := by
    cases u with
    | addLatency step' latency =>
        by_cases hs : step' = step <;> simp [latencies, Counter.added, Update.latency?, hs]
    | _ => simp [latencies, Counter.added, Update.latency?]
  events_added u := by cases u <;> simp [latencies, Counter.added]
  sum_shown n := rfl
  events_shown n := rfl

theorem halved_delays (ha : s.aggregators[h]? = some a) : (delays a.tracker).Halved s h where
  paired call list hlist := by
    have hsplit := s.splits ha call
    generalize s.callUpdates h call = updates at hsplit
    cases hsplit with
    | refused hstep => exact hlist
    | negative hstep hneg => exact hlist.cons_other rfl (by simp [delays])
    | valid hstep hpos =>
        exact .cons_other (.cons_other hlist rfl (by simp [delays])) rfl (by simp [delays])
    | paced => exact hlist.cons_pair rfl rfl
  last call mid hmid hhead := by
    have hsplit := s.splits ha call
    generalize s.callUpdates h call = updates at hsplit hmid
    cases hsplit with
    | refused hstep => simp [List.suffix_nil.1 hmid] at hhead
    | negative hstep hneg =>
        rcases suffix_pair_cases (hmid.trans (List.suffix_cons (h, .countInvalid) _)) hhead with
          ⟨-, heq⟩ | ⟨-, heq⟩ <;> simp [delays] at heq
    | valid hstep hpos =>
        rcases suffix_pair_cases hmid hhead with ⟨-, heq⟩ | ⟨-, heq⟩ <;> simp [delays] at heq
    | paced =>
        rcases suffix_pair_cases hmid hhead with ⟨-, heq⟩ | ⟨rfl, -⟩
        · simp [delays] at heq
        · exact ⟨rfl, rfl⟩
  sum_added u := by
    cases u <;> simp [delays, Counter.added, Update.delay?, Store.trackerOf_some ha]
  events_added u := by cases u <;> simp [delays, Counter.added, Store.trackerOf_some ha]
  sum_shown n := rfl
  events_shown n := rfl

/-! ### States on the way -/

section States

variable {q : Quantity} {workers : List (List Call)} {out : List (Handle × Update)}
  {left : List (List (Handle × Update))}

/-- A worker is in the middle of a call just when the second half comes next. -/
theorem Halved.midCall_eq (hq : q.Halved s h) {calls : List Call} {rest : List (Handle × Update)}
    (hrest : rest <:+ calls.flatMap (s.callUpdates h)) :
    q.midCall s h calls rest = decide (rest.head? = some (h, q.second)) := by
  rw [Bool.eq_iff_iff, decide_eq_true_iff, midCall, List.any_eq_true]
  constructor
  · rintro ⟨tail, -, htail⟩
    cases tail with
    | nil => exact nomatch htail
    | cons call later =>
        rw [Bool.and_eq_true, decide_eq_true_iff] at htail
        rw [htail.2, List.head?_cons]
  · -- Only the end of a call begins with the second half.
    intro hhead
    rcases suffix_flatMap_cases hrest with rfl | ⟨call, later, mid, hcalls, hne, hmid, rfl⟩
    · exact nomatch hhead
    · rw [List.head?_append_of_ne_nil mid hne] at hhead
      obtain ⟨rfl, hamount⟩ := hq.last call mid hmid hhead
      exact ⟨call :: later, (List.mem_tails _ _).2 hcalls, by simp [hamount]⟩

theorem Halved.inFlight_eq (hq : q.Halved s h)
    (hout : Underway (workers.map fun calls => calls.flatMap (s.callUpdates h)) out left) :
    q.inFlight s h workers left = halfway (h, q.second) left := by
  have hsuffix := List.forall₂_map_left_iff.1 hout.forall₂_isSuffix
  clear hout
  unfold inFlight halfway
  induction hsuffix with
  | nil => rfl
  | cons hrest _ ih =>
      rw [List.zip_cons_cons, List.countP_cons, List.countP_cons, ih]
      simp only [hq.midCall_eq hrest]

/-- Every amount that has been added is counted by now or belongs to a call in flight. -/
theorem Halved.length_amounts (hq : q.Halved s h)
    (hout : Underway (workers.map fun calls => calls.flatMap (s.callUpdates h)) out left) :
    (q.amounts out).length = out.count (h, q.second) + q.inFlight s h workers left := by
  rw [amounts, List.length_filterMap_eq_countP, hq.inFlight_eq hout]
  refine hout.countP_eq fun list hlist => ?_
  obtain ⟨calls, -, rfl⟩ := List.mem_map.1 hlist
  exact Paired.flatMap hq.paired calls

theorem Halved.sum_added_sum (hq : q.Halved s h) (hout : ∀ item ∈ out, item.1 = h) :
    (out.map (q.sum.added s)).sum = (q.amounts out).sum := by
  rw [amounts, sum_filterMap]
  refine congrArg List.sum (List.map_congr_left fun item hmem => ?_)
  obtain ⟨h', u⟩ := item
  obtain rfl : h' = h := hout _ hmem
  exact hq.sum_added u

theorem Halved.sum_added_events (hq : q.Halved s h) (hout : ∀ item ∈ out, item.1 = h) :
    (out.map (q.events.added s)).sum = out.count (h, q.second) := by
  rw [List.count, countP_eq_sum_map]
  refine congrArg List.sum (List.map_congr_left fun item hmem => ?_)
  obtain ⟨h', u⟩ := item
  obtain rfl : h' = h := hout _ hmem
  simp [hq.events_added u]

end States

end Quantity

/-! ### Numbers of events stay below the size of a word -/

namespace Counter

def countsEvents : Counter → Bool
  | .latencySum _ _ | .delaySum _ => false
  | .operations _ _ | .invalidSamples _ | .pacingSamples _ => true

/-- A sum never goes back; a number of events does not either while it fits in a word. -/
theorem shown_le_shown (c : Counter) {m n : Nat} (hmn : m ≤ n)
    (hn : c.countsEvents = true → n < UInt64.size) : c.shown m ≤ c.shown n := by
  have hevents (hn : n < UInt64.size) : m % UInt64.size ≤ n % UInt64.size := by
    rw [Nat.mod_eq_of_lt hn]
    exact (Nat.mod_le m _).trans hmn
  cases c with
  | latencySum h step => exact min_le_min_right maxCount hmn
  | delaySum tracker => exact min_le_min_right maxCount hmn
  | operations h step => exact hevents (hn rfl)
  | invalidSamples h => exact hevents (hn rfl)
  | pacingSamples tracker => exact hevents (hn rfl)

variable {s : Store} {h : Handle} {a : Aggregator} {c : Counter}

theorem added_le_one (hc : c.countsEvents = true) (item : Handle × Update) :
    c.added s item ≤ 1 := by
  obtain ⟨h', u⟩ := item
  cases c with
  | latencySum h step => exact nomatch hc
  | delaySum tracker => exact nomatch hc
  | operations h step =>
      cases u <;> simp only [added, Update.addedOperations] <;> split_ifs <;> simp
  | invalidSamples h =>
      cases u <;> simp only [added, Update.addedInvalid] <;> split_ifs <;> simp
  | pacingSamples tracker =>
      cases u <;> simp only [added, Update.addedPacing] <;> split_ifs <;> simp

/-- A call counts one event at most. -/
theorem sum_added_callUpdates_le_one (ha : s.aggregators[h]? = some a) (hc : c.countsEvents = true)
    (call : Call) : ((s.callUpdates h call).map (c.added s)).sum ≤ 1 := by
  have hlatency (step : Nat) (latency : UInt64) : c.added s (h, .addLatency step latency) = 0 := by
    cases c <;> simp_all [added, countsEvents]
  have hdelay (delay : UInt64) : c.added s (h, .addDelay delay) = 0 := by
    cases c <;> simp_all [added, countsEvents]
  have hsplit := s.splits ha call
  generalize s.callUpdates h call = updates at hsplit
  cases hsplit with
  | refused hstep => simp
  | negative hstep hneg => simpa using added_le_one hc _
  | valid hstep hpos => simpa [hlatency] using added_le_one hc _
  | paced => simpa [hdelay] using added_le_one hc _

end Counter

section Run

variable {s : Store} {h : Handle} {a : Aggregator} {workers : List (List Call)}
  {out later : List (Handle × Update)}

theorem Store.callsAdd_le_length (ha : s.aggregators[h]? = some a) {c : Counter}
    (hc : c.countsEvents = true) (calls : List Call) : s.callsAdd h c calls ≤ calls.length := by
  rw [callsAdd_eq_sum fun call _ => rfl]
  calc
    _ ≤ (calls.map fun call => ((s.callUpdates h call).map (c.added s)).sum).length • 1 := by
        refine List.sum_le_card_nsmul _ 1 fun n hn => ?_
        obtain ⟨call, -, rfl⟩ := List.mem_map.1 hn
        exact Counter.sum_added_callUpdates_le_one ha hc call
    _ = calls.length := by simp

theorem Store.sum_added_le_callsAdd
    (hout : Interleaving (workers.map fun calls => calls.flatMap (s.callUpdates h)) (out ++ later))
    (c : Counter) : (out.map (c.added s)).sum ≤ s.callsAdd h c workers.flatten := by
  have hall : ((out ++ later).map (c.added s)).sum = s.callsAdd h c workers.flatten := by
    rw [hout.sum_map_eq, callsAdd, List.flatten_eq_flatMap (L := workers), List.flatMap_assoc]
    rfl
  rw [← hall, List.map_append, List.sum_append]
  exact Nat.le_add_right _ _

theorem Store.sum_added_lt_size (ha : s.aggregators[h]? = some a)
    (hfew : workers.flatten.length < UInt64.size)
    (hout : Interleaving (workers.map fun calls => calls.flatMap (s.callUpdates h)) (out ++ later))
    {c : Counter} (hc : c.countsEvents = true) : (out.map (c.added s)).sum < UInt64.size := by
  calc
    (out.map (c.added s)).sum ≤ s.callsAdd h c workers.flatten := sum_added_le_callsAdd hout c
    _ ≤ workers.flatten.length := callsAdd_le_length ha hc _
    _ < UInt64.size := hfew

theorem Store.fst_of_mem_interleaving (ha : s.aggregators[h]? = some a)
    (hout : Interleaving (workers.map fun calls => calls.flatMap (s.callUpdates h)) (out ++ later))
    {item : Handle × Update} (hmem : item ∈ out) : item.1 = h := by
  have hall := hout.perm.mem_iff.1 (List.mem_append_left later hmem)
  obtain ⟨updates, hupdates, hitem⟩ := List.mem_flatten.1 hall
  obtain ⟨calls, -, rfl⟩ := List.mem_map.1 hupdates
  obtain ⟨call, -, hitem⟩ := List.mem_flatMap.1 hitem
  exact fst_of_mem_callUpdates ha hitem

/-- The step of the run: more updates never set a counter back. -/
theorem Store.value_mono (hunused : s.Unused h a) (hfew : workers.flatten.length < UInt64.size)
    (hout : Interleaving (workers.map fun calls => calls.flatMap (s.callUpdates h)) (out ++ later))
    {c : Counter} (hbehind : c.Behind s h) (hpresent : c.Present s)
    {earlier : List (Handle × Update)} (hearlier : earlier <+: out) :
    (c.value (s.applyTagged earlier)).toNat ≤ (c.value (s.applyTagged out)).toNat := by
  rw [hunused.toNat_value c hbehind hpresent, hunused.toNat_value c hbehind hpresent]
  obtain ⟨more, rfl⟩ := hearlier
  refine c.shown_le_shown ?_ fun hc => sum_added_lt_size hunused.aggregator hfew hout hc
  rw [List.map_append, List.sum_append]
  exact Nat.le_add_right _ _

/-- What the counters of a quantity show in a state on the way. -/
theorem Quantity.Halved.shown {q : Quantity} {left : List (List (Handle × Update))}
    (hq : q.Halved s h) (hunused : s.Unused h a) (hfew : workers.flatten.length < UInt64.size)
    (hout : Interleaving (workers.map fun calls => calls.flatMap (s.callUpdates h)) (out ++ later))
    (hleft : Underway (workers.map fun calls => calls.flatMap (s.callUpdates h)) out left)
    (hsum : q.sum.Behind s h ∧ q.sum.Present s) (hevents : q.events.Behind s h ∧ q.events.Present s)
    (hcounts : q.events.countsEvents = true) : q.Shown s h workers out left := by
  have hhandle : ∀ item ∈ out, item.1 = h := fun item hmem =>
    Store.fst_of_mem_interleaving hunused.aggregator hout hmem
  have hlength := hq.length_amounts hleft
  have hcount : (q.events.value (s.applyTagged out)).toNat = out.count (h, q.second) := by
    rw [hunused.toNat_value _ hevents.1 hevents.2, hq.events_shown, Nat.mod_eq_of_lt,
      hq.sum_added_events hhandle]
    exact Store.sum_added_lt_size hunused.aggregator hfew hout hcounts
  have hvalue : (q.sum.value (s.applyTagged out)).toNat = min (q.amounts out).sum maxCount := by
    rw [hunused.toNat_value _ hsum.1 hsum.2, hq.sum_shown, hq.sum_added_sum hhandle]
  refine ⟨hvalue, by omega, by omega, fun hidle hzero => UInt64.toNat_inj.1 ?_⟩
  have hnone : (q.amounts out).length = 0 := by
    rw [hzero, UInt64.toNat_zero] at hcount
    rw [hlength, ← hcount, hidle]
  rw [hvalue, List.eq_nil_of_length_eq_zero hnone]
  rfl

end Run

/-- Stop the workers of a fresh aggregator anywhere, halfway through any number of samples. At every
step and on the tracker the sum is that of the amounts added so far, no more events have been
counted than amounts added, those that are missing are in flight, and no counter has ever gone
back. -/
theorem Store.states_of_interleaving (s : Store) (name : String) {n : Nat} (hn : 0 < n) :
    ∃ h s', s.create name n = (.ok h, s') ∧
      ∀ (workers : List (List Call)) (out later : List (Handle × Update)),
        workers.flatten.length < UInt64.size →
        Interleaving (workers.map fun calls => calls.flatMap (s'.callUpdates h)) (out ++ later) →
        (∃ left, Underway (workers.map fun calls => calls.flatMap (s'.callUpdates h)) out left ∧
          Interleaving left later) ∧
        (∀ left, Underway (workers.map fun calls => calls.flatMap (s'.callUpdates h)) out left →
          (∀ step < n, (Quantity.latencies h step).Shown s' h workers out left) ∧
          (Quantity.delays (s'.trackerOf (some h))).Shown s' h workers out left) ∧
        ∀ c : Counter, c.Behind s' h → c.Present s' → ∀ earlier, earlier <+: out →
          (c.value (s'.applyTagged earlier)).toNat ≤ (c.value (s'.applyTagged out)).toNat := by
  obtain ⟨h, s', a, hcreate, hunused, -, rfl⟩ := s.exists_create_eq_ok name hn
  refine ⟨h, s', hcreate, fun workers out later hfew hout => ⟨hout.exists_underway, ?_, ?_⟩⟩
  · refine fun left hleft => ⟨fun step hstep => ?_, ?_⟩
    · have hpresent := totals?_isSome hunused.aggregator hstep
      exact (Quantity.halved_latencies hunused.aggregator step).shown hunused hfew hout hleft
        ⟨rfl, hpresent⟩ ⟨rfl, hpresent⟩ rfl
    · have htracker : s'.trackerOf (some h) = a.tracker := trackerOf_some hunused.aggregator
      rw [htracker]
      exact (Quantity.halved_delays hunused.aggregator).shown hunused hfew hout hleft
        ⟨htracker.symm, hunused.tracker⟩ ⟨htracker.symm, hunused.tracker⟩ rfl
  · exact fun c hbehind hpresent earlier hearlier =>
      value_mono hunused hfew hout hbehind hpresent hearlier

/-- One of two workers has added its latency and not counted it when the other one has counted its
own sample already. -/
theorem Store.states_of_two_workers :
    ∃ h s' left, Store.empty.create "SCAN" 2 = (.ok h, s') ∧
      Underway ([[Call.record 5 0, .pace 3], [.record 7 0, .record (-1) 1]].map
          fun calls => calls.flatMap (s'.callUpdates h))
        [(h, .addLatency 0 5), (h, .addLatency 0 7), (h, .countOperation 0)] left ∧
      (Quantity.latencies h 0).Shown s' h [[.record 5 0, .pace 3], [.record 7 0, .record (-1) 1]]
        [(h, .addLatency 0 5), (h, .addLatency 0 7), (h, .countOperation 0)] left := by
  obtain ⟨h, s', hcreate, hstates⟩ := Store.empty.states_of_interleaving "SCAN" (n := 2) (by decide)
  have hout : Interleaving ([[Call.record 5 0, .pace 3], [.record 7 0, .record (-1) 1]].map
        fun calls => calls.flatMap (s'.callUpdates h))
      ([(h, .addLatency 0 5), (h, .addLatency 0 7), (h, .countOperation 0)] ++
        [(h, .countOperation 0), (h, .addDelay 3), (h, .countDelay), (h, .countInvalid)]) := by
    cases hcreate
    exact interleaving_weave [0, 1, 1] _
  obtain ⟨⟨left, hleft, -⟩, hshown, -⟩ := hstates _ _ _ (by decide) hout
  exact ⟨h, s', left, hcreate, hleft, (hshown left hleft).1 0 (by decide)⟩

end StepLatency
