import Mathlib
import StepLatency.Proofs.Session.Measured

/-!
# Shared trackers

Aggregators share trackers as they are made: a registered one with the registry, one that is made to
share with its source, and one that is created by itself with nobody before it. A tracker holds the
delays of those intervals that were recorded through one of its sharers since its last reset. Nothing
else moves it, and pacing moves nothing but the tracker.
-/

namespace StepLatency

/-- Who shares a tracker with whom, and the delays that count, as far as requests and replies tell.
A tracker is owned by the first one to use it: the registry, or the aggregator it was made for. -/
structure Sharing where
  owners : List (Option Handle)
  delays : Option Handle → List UInt64

namespace Sharing

def nobody : Sharing := ⟨[], fun _ => []⟩

def ownerOf (p : Sharing) : Option Handle → Option Handle
  | none => none
  | some h => p.owners[h]?.join

/-- The delays on the tracker of a target since its last reset. -/
def delaysOf (p : Sharing) (target : Option Handle) : List UInt64 := p.delays (p.ownerOf target)

def delaySum (p : Sharing) (target : Option Handle) : Nat :=
  ((p.delaysOf target).map (·.toNat)).sum

def join (p : Sharing) (owner : Option Handle) : Sharing :=
  { p with owners := p.owners ++ [owner] }

def setDelays (p : Sharing) (target : Option Handle) (delays : List UInt64) : Sharing :=
  { p with delays := Function.update p.delays (p.ownerOf target) delays }

def next (p : Sharing) : Request → Reply → Sharing
  | .register _ _, .handle h => if h = p.owners.length then p.join none else p
  | .create _ _, .handle h => p.join (some h)
  | .share _ _ source, .handle _ => p.join (p.ownerOf source)
  | .pace target delay, .done => p.setDelays target (delay :: p.delaysOf target)
  | .reset target, .done => p.setDelays target []
  | _, _ => p

def after (p : Sharing) (s : Store) : List Request → Sharing
  | [] => p
  | request :: rest => (p.next request (s.answer request).1).after (s.answer request).2 rest

end Sharing

def shared (requests : List Request) : Sharing := Sharing.nobody.after .empty requests

/-! ### Targets and owners -/

theorem Sharing.length_join (p : Sharing) (owner : Option Handle) :
    (p.join owner).owners.length = p.owners.length + 1 :=
  List.length_append

theorem Sharing.ownerOf_join (p : Sharing) (owner target : Option Handle) :
    (p.join owner).ownerOf target =
      if target = some p.owners.length then owner else p.ownerOf target := by
  cases target with
  | none => rfl
  | some h =>
      have hconcat : (p.owners ++ [owner])[h]? =
          if h = p.owners.length then some owner else p.owners[h]? := by
        grind
      simp only [ownerOf, join, hconcat, Option.some.injEq]
      by_cases heq : h = p.owners.length <;> simp [heq]

namespace Store

variable {s t : Store}

theorem trackerOf_push {a : Aggregator} (haggregators : t.aggregators = s.aggregators.push a)
    (target : Option Handle) :
    t.trackerOf target =
      if target = some s.aggregators.size then a.tracker else s.trackerOf target := by
  cases target with
  | none => rfl
  | some h =>
      simp only [trackerOf, haggregators, Array.getElem?_push, Option.some.injEq]
      by_cases heq : h = s.aggregators.size <;> simp [heq]

theorem trackerOf_of_aggregators (haggregators : t.aggregators = s.aggregators)
    (target : Option Handle) : t.trackerOf target = s.trackerOf target := by
  cases target with
  | none => rfl
  | some h => rw [trackerOf, trackerOf, haggregators]

theorem trackerOf_applyTagged (s : Store) (us : List (Handle × Update)) (target : Option Handle) :
    (s.applyTagged us).trackerOf target = s.trackerOf target :=
  applyTagged_preserves (motive := fun t => t.trackerOf target = s.trackerOf target)
    (fun t h u ht => (t.trackerOf_apply h u target).trans ht) rfl us

theorem size_aggregators_applyTagged (s : Store) (us : List (Handle × Update)) :
    (s.applyTagged us).aggregators.size = s.aggregators.size :=
  applyTagged_preserves (motive := fun t => t.aggregators.size = s.aggregators.size)
    (fun t h u ht => (t.size_aggregators_apply h u).trans ht) rfl us

/-- Updates that are no pacing leave the trackers alone. -/
theorem trackers_applyTagged {us : List (Handle × Update)}
    (hus : ∀ item ∈ us, ∀ p, item.2.onPacing p = p) : (s.applyTagged us).trackers = s.trackers := by
  induction us generalizing s with
  | nil => rfl
  | cons first rest ih =>
      obtain ⟨h, u⟩ := first
      have hone : (s.apply h u).trackers = s.trackers := by
        have hsame : u.onPacing = id := funext fun p => hus (h, u) List.mem_cons_self p
        apply Array.ext_getElem?
        intro tracker
        simp [apply, Array.getElem?_modify, hsame]
      calc
        ((s.apply h u).applyTagged rest).trackers = (s.apply h u).trackers :=
          ih fun item hmem => hus item (List.mem_cons_of_mem _ hmem)
        _ = s.trackers := hone

theorem trackers_applyTagged_sample (s : Store) (h : Handle) (latency : Int) (step : Nat) :
    (s.applyTagged ((sampleUpdates latency step).map (h, ·))).trackers = s.trackers := by
  refine trackers_applyTagged fun item hmem p => ?_
  obtain ⟨u, hu, rfl⟩ := List.mem_map.1 hmem
  unfold sampleUpdates at hu
  split at hu
  · obtain rfl := List.mem_singleton.1 hu
    rfl
  · rcases List.mem_pair.1 hu with rfl | rfl <;> rfl

end Store

/-! ### What a store holds of it -/

structure Store.ShowsDelays (s : Store) (tracker : TrackerId) (delays : List UInt64) : Prop where
  delaySum : (Counter.delaySum tracker).Shows s (delays.map (·.toNat)).sum
  samples : (Counter.pacingSamples tracker).Shows s delays.length

namespace Store.ShowsDelays

variable {s t : Store} {tracker : TrackerId} {delays : List UInt64}

theorem of_agrees (hs : s.ShowsDelays tracker delays)
    (heq : t.trackers[tracker]? = s.trackers[tracker]?) : t.ShowsDelays tracker delays where
  delaySum := hs.delaySum.of_agrees heq
  samples := hs.samples.of_agrees heq

theorem empty (htracker : tracker < s.trackers.size) (hempty : s.pacing tracker = .empty) :
    s.ShowsDelays tracker [] where
  delaySum := ⟨htracker, by rw [Counter.value, hempty]; rfl⟩
  samples := ⟨htracker, by rw [Counter.value, hempty]; rfl⟩

theorem pace (hs : s.ShowsDelays tracker delays) (delay : UInt64) :
    (s.pace tracker delay).ShowsDelays tracker (delay :: delays) where
  delaySum := hs.delaySum.delaySum_pace delay
  samples := hs.samples.pacingSamples_pace delay

theorem resetPacing (htracker : tracker < s.trackers.size) :
    (s.resetPacing tracker).ShowsDelays tracker [] where
  delaySum := Counter.Shows.delaySum_resetPacing htracker
  samples := Counter.Shows.pacingSamples_resetPacing htracker

end Store.ShowsDelays

/-- Targets share a tracker in the store just when they share an owner, every tracker has somebody
who uses it, and it shows the delays that count. -/
structure Sharing.HeldBy (p : Sharing) (s : Store) : Prop where
  wellFormed : s.WellFormed
  length : p.owners.length = s.aggregators.size
  trackerOf_lt : ∀ target, s.trackerOf target < s.trackers.size
  trackerOf_eq_iff : ∀ first second,
    s.trackerOf first = s.trackerOf second ↔ p.ownerOf first = p.ownerOf second
  used : ∀ tracker < s.trackers.size, tracker = Store.registryTracker ∨
    ∃ (h : Handle) (a : Aggregator), s.aggregators[h]? = some a ∧ a.tracker = tracker
  owner_lt : ∀ target h, p.ownerOf target = some h → h < p.owners.length
  unowned : ∀ h, p.owners.length ≤ h → p.delays (some h) = []
  shown : ∀ target, s.ShowsDelays (s.trackerOf target) (p.delaysOf target)

namespace Sharing.HeldBy

variable {p : Sharing} {s t : Store} {a : Aggregator}

theorem nobody_empty : nobody.HeldBy .empty where
  wellFormed := Store.empty_wellFormed
  length := rfl
  trackerOf_lt target := by cases target <;> exact Nat.zero_lt_one
  trackerOf_eq_iff first second := by
    cases first <;> cases second <;> simp [Store.trackerOf, Store.empty, ownerOf, nobody]
  used tracker htracker := .inl (Nat.lt_one_iff.1 htracker)
  owner_lt target h howner := by cases target <;> simp [ownerOf, nobody] at howner
  unowned _ _ := rfl
  shown target := by cases target <;> exact .empty Nat.zero_lt_one rfl

theorem used_of_grows (hp : p.HeldBy s) (hgrows : s.Grows t) {tracker : TrackerId}
    (hlt : tracker < s.trackers.size) : tracker = Store.registryTracker ∨
      ∃ (h : Handle) (a : Aggregator), t.aggregators[h]? = some a ∧ a.tracker = tracker := by
  rcases hp.used tracker hlt with hregistry | ⟨h, a, ha, rfl⟩
  · exact .inl hregistry
  · obtain ⟨b, hb, -, -, hsame⟩ := hgrows.aggregators h a ha
    exact .inr ⟨h, b, hb, hsame⟩

/-- Where trackers stay as they are and everyone keeps theirs, nothing changes. -/
theorem of_trackers (hp : p.HeldBy s) (hwell : t.WellFormed) (hgrows : s.Grows t)
    (htrackers : t.trackers = s.trackers) (hsize : t.aggregators.size = s.aggregators.size)
    (htarget : ∀ target, t.trackerOf target = s.trackerOf target) : p.HeldBy t where
  wellFormed := hwell
  length := hp.length.trans hsize.symm
  trackerOf_lt target := by
    rw [htarget, htrackers]
    exact hp.trackerOf_lt target
  trackerOf_eq_iff first second := by
    rw [htarget, htarget]
    exact hp.trackerOf_eq_iff first second
  used tracker hlt := hp.used_of_grows hgrows (htrackers ▸ hlt)
  owner_lt := hp.owner_lt
  unowned := hp.unowned
  shown target := by
    rw [htarget]
    exact (hp.shown target).of_agrees (congrArg (·[s.trackerOf target]?) htrackers)

/-- A new aggregator on the tracker of another one is one more sharer. -/
theorem joined (hp : p.HeldBy s) {source : Option Handle} (hwell : t.WellFormed)
    (hgrows : s.Grows t) (htrackers : t.trackers = s.trackers)
    (haggregators : t.aggregators = s.aggregators.push a)
    (hsource : a.tracker = s.trackerOf source) : (p.join (p.ownerOf source)).HeldBy t := by
  -- Whatever is asked about the new aggregator is asked about its source.
  let model (target : Option Handle) : Option Handle :=
    if target = some s.aggregators.size then source else target
  have htracker (target : Option Handle) : t.trackerOf target = s.trackerOf (model target) := by
    rw [Store.trackerOf_push haggregators, hsource, apply_ite s.trackerOf]
  have howner (target : Option Handle) :
      (p.join (p.ownerOf source)).ownerOf target = p.ownerOf (model target) := by
    rw [ownerOf_join, hp.length, apply_ite p.ownerOf]
  have hdelays (target : Option Handle) :
      (p.join (p.ownerOf source)).delaysOf target = p.delaysOf (model target) := by
    rw [delaysOf, howner]
    rfl
  constructor
  · exact hwell
  · rw [length_join, hp.length, haggregators, Array.size_push]
  · intro target
    rw [htracker, htrackers]
    exact hp.trackerOf_lt _
  · intro first second
    rw [htracker, htracker, howner, howner]
    exact hp.trackerOf_eq_iff _ _
  · intro tracker hlt
    exact hp.used_of_grows hgrows (htrackers ▸ hlt)
  · intro target h hsome
    rw [howner] at hsome
    rw [length_join]
    exact Nat.lt_succ_of_lt (hp.owner_lt _ h hsome)
  · intro h hle
    rw [length_join] at hle
    exact hp.unowned h (Nat.le_of_succ_le hle)
  · intro target
    rw [htracker, hdelays]
    exact (hp.shown _).of_agrees (congrArg (·[s.trackerOf (model target)]?) htrackers)

/-- A new aggregator on a new tracker shares with nobody. -/
theorem created (hp : p.HeldBy s) (hwell : t.WellFormed) (hgrows : s.Grows t)
    (htrackers : t.trackers = s.trackers ++ #[.empty])
    (haggregators : t.aggregators = s.aggregators.push a) (hnew : a.tracker = s.trackers.size) :
    (p.join (some s.aggregators.size)).HeldBy t := by
  have htracker (target : Option Handle) : t.trackerOf target =
      if target = some s.aggregators.size then s.trackers.size else s.trackerOf target := by
    rw [Store.trackerOf_push haggregators, hnew]
  have howner (target : Option Handle) : (p.join (some s.aggregators.size)).ownerOf target =
      if target = some s.aggregators.size then some s.aggregators.size else p.ownerOf target := by
    rw [ownerOf_join, hp.length]
  have hsize : t.trackers.size = s.trackers.size + 1 := by
    rw [htrackers, Array.size_append]
    rfl
  -- The old targets reach neither the new tracker nor the new owner.
  have htrackerNe (target : Option Handle) : s.trackers.size ≠ s.trackerOf target :=
    (Nat.ne_of_lt (hp.trackerOf_lt target)).symm
  have hownerNe (target : Option Handle) : some s.aggregators.size ≠ p.ownerOf target := by
    intro heq
    exact Nat.lt_irrefl _ (hp.length ▸ hp.owner_lt target _ heq.symm)
  have hkept (target : Option Handle) :
      t.trackers[s.trackerOf target]? = s.trackers[s.trackerOf target]? := by
    rw [htrackers, Array.getElem?_append_left (hp.trackerOf_lt target)]
  have hfresh : t.pacing s.trackers.size = .empty := by
    simp [Store.pacing, htrackers, Array.getD_eq_getD_getElem?]
  have hnone : p.delays (some s.aggregators.size) = [] :=
    hp.unowned _ (Nat.le_of_eq hp.length)
  constructor
  · exact hwell
  · rw [length_join, hp.length, haggregators, Array.size_push]
  · intro target
    rw [htracker, hsize]
    split
    · exact Nat.lt_succ_self _
    · exact Nat.lt_succ_of_lt (hp.trackerOf_lt target)
  · intro first second
    rw [htracker, htracker, howner, howner]
    by_cases hfirst : first = some s.aggregators.size
    · by_cases hsecond : second = some s.aggregators.size
      · simp [hfirst, hsecond]
      · simp [hfirst, hsecond, htrackerNe, hownerNe]
    · by_cases hsecond : second = some s.aggregators.size
      · simp [hfirst, hsecond, (htrackerNe first).symm, (hownerNe first).symm]
      · simp [hfirst, hsecond, hp.trackerOf_eq_iff]
  · intro tracker hlt
    rcases Nat.lt_succ_iff_lt_or_eq.1 (hsize ▸ hlt) with hold | rfl
    · exact hp.used_of_grows hgrows hold
    · refine .inr ⟨s.aggregators.size, a, ?_, hnew⟩
      rw [haggregators, Array.getElem?_push_size]
  · intro target h hsome
    rw [howner] at hsome
    rw [length_join, hp.length]
    split at hsome
    · exact Option.some.inj hsome ▸ Nat.lt_succ_self _
    · exact Nat.lt_succ_of_lt (hp.length ▸ hp.owner_lt target h hsome)
  · intro h hle
    rw [length_join] at hle
    exact hp.unowned h (Nat.le_of_succ_le hle)
  · intro target
    rw [htracker, delaysOf, howner]
    split
    · rw [join, hnone]
      exact .empty (hsize ▸ Nat.lt_succ_self _) hfresh
    · exact (hp.shown target).of_agrees (hkept target)

/-- A call on one tracker moves the delays of those who share it, and of nobody else. -/
theorem moved (hp : p.HeldBy s) {target : Option Handle} {f : Pacing → Pacing}
    {delays : List UInt64} (hwell : t.WellFormed)
    (ht : t = { s with trackers := s.trackers.modify (s.trackerOf target) f })
    (hdelays : t.ShowsDelays (s.trackerOf target) delays) :
    (p.setDelays target delays).HeldBy t := by
  have htracker (other : Option Handle) : t.trackerOf other = s.trackerOf other :=
    Store.trackerOf_of_aggregators (by rw [ht]) other
  have hsize : t.trackers.size = s.trackers.size := by rw [ht, Array.size_modify]
  have hupdated (other : Option Handle) : (p.setDelays target delays).delaysOf other =
      if s.trackerOf other = s.trackerOf target then delays else p.delaysOf other := by
    simp only [hp.trackerOf_eq_iff]
    exact Function.update_apply _ _ _ _
  have hother {other : Option Handle} (hne : s.trackerOf other ≠ s.trackerOf target) :
      t.trackers[s.trackerOf other]? = s.trackers[s.trackerOf other]? := by
    rw [ht, Array.getElem?_modify, if_neg hne.symm]
  constructor
  · exact hwell
  · rw [ht]
    exact hp.length
  · intro other
    rw [htracker, hsize]
    exact hp.trackerOf_lt other
  · intro first second
    rw [htracker, htracker]
    exact hp.trackerOf_eq_iff first second
  · intro tracker hlt
    rw [ht]
    exact hp.used tracker (hsize ▸ hlt)
  · exact hp.owner_lt
  · intro h hle
    have hne : some h ≠ p.ownerOf target := fun heq =>
      Nat.not_lt.2 hle (hp.owner_lt target h heq.symm)
    exact (Function.update_of_ne hne _ _).trans (hp.unowned h hle)
  · intro other
    rw [htracker, hupdated]
    by_cases heq : s.trackerOf other = s.trackerOf target
    · rw [if_pos heq, heq]
      exact hdelays
    · rw [if_neg heq]
      exact (hp.shown other).of_agrees (hother heq)

/-! ### One request -/

theorem recorded (hp : p.HeldBy s) (h : Handle) (latency : Int) (step : Nat) :
    p.HeldBy (s.applyTagged ((sampleUpdates latency step).map (h, ·))) := by
  have hgrows := s.grows_applyTagged ((sampleUpdates latency step).map (h, ·))
  exact hp.of_trackers (hp.wellFormed.of_grows hgrows (s.entries_applyTagged _)) hgrows
    (s.trackers_applyTagged_sample h latency step) (s.size_aggregators_applyTagged _)
    (s.trackerOf_applyTagged _)

theorem paced (hp : p.HeldBy s) (target : Option Handle) (delay : UInt64) :
    (p.setDelays target (delay :: p.delaysOf target)).HeldBy
      (s.pace (s.trackerOf target) delay) :=
  hp.moved (hp.wellFormed.of_grows (s.grows_pace _ _) rfl) rfl
    ((hp.shown target).pace delay)

theorem reset (hp : p.HeldBy s) (target : Option Handle) :
    (p.setDelays target []).HeldBy (s.resetPacing (s.trackerOf target)) :=
  hp.moved (hp.wellFormed.of_grows (s.grows_resetPacing _) rfl) rfl
    (.resetPacing (hp.trackerOf_lt target))

/-- One request is followed by what its effect shares and counts. -/
theorem next (hp : p.HeldBy s) {request : Request} {reply : Reply}
    (heffect : s.Effect request reply t) : (p.next request reply).HeldBy t := by
  have hwell := heffect.wellFormed hp.wellFormed
  have hgrows := heffect.grows
  induction heffect with
  | registered hnew hn =>
      have hjoined := hp.joined hwell hgrows rfl rfl (show _ = s.trackerOf none from rfl)
      rwa [Sharing.next, if_pos hp.length.symm]
  | known hlookup ha =>
      have hne := Nat.ne_of_lt (Array.getElem?_eq_some_iff.1 ha).1
      rw [Sharing.next, hp.length, if_neg hne]
      exact hp
  | created hn => exact hp.created hwell hgrows rfl rfl rfl
  | shared hn => exact hp.joined hwell hgrows Array.append_empty rfl rfl
  | recorded ha hstep => exact hp.recorded _ _ _
  | @byName name h latency step reply t hlookup heffect ih =>
      have hsame : p.next (.recordByName name latency step) reply =
          p.next (.record h latency step) reply := by
        cases reply <;> rfl
      rw [hsame]
      exact ih hwell hgrows
  | paced target delay => exact hp.paced target delay
  | reset target => exact hp.reset target
  | mismatch | noSteps | found | notFound | notCreated | notShared | outOfRange | unissued
  | unknownName | summarized | exported => exact hp

/-! ### Sessions -/

theorem after (hp : p.HeldBy s) (requests : List Request) :
    (p.after s requests).HeldBy (s.answerAll requests).2 := by
  induction requests generalizing p s with
  | nil => exact hp
  | cons request rest ih => exact ih (hp.next (hp.wellFormed.effect request))

end Sharing.HeldBy

theorem shared_heldBy (requests : List Request) :
    (shared requests).HeldBy (Store.session requests) :=
  Sharing.HeldBy.nobody_empty.after requests

/-! ### Who sees what -/

namespace Store

variable {s t : Store} {h : Handle}

theorem exists_of_summary? {summary : Summary} (hsummary : s.summary? h = some summary) :
    ∃ a, s.aggregators[h]? = some a ∧ summary = a.summary (s.pacing (s.trackerOf (some h))) := by
  obtain ⟨a, ha, rfl⟩ := Option.map_eq_some_iff.1 hsummary
  exact ⟨a, ha, by rw [trackerOf_some ha]⟩

theorem summary?_of_agrees (haggregators : t.aggregators = s.aggregators)
    (htracker : t.trackers[s.trackerOf (some h)]? = s.trackers[s.trackerOf (some h)]?) :
    t.summary? h = s.summary? h := by
  rw [summary?, summary?, haggregators]
  cases ha : s.aggregators[h]? with
  | none => rfl
  | some a =>
      rw [trackerOf_some ha] at htracker
      rw [Option.map_some, Option.map_some, Counter.Shows.pacing_of_agrees htracker]

theorem summary?_modify_of_ne {tracker : TrackerId} (hne : s.trackerOf (some h) ≠ tracker)
    (f : Pacing → Pacing) :
    { s with trackers := s.trackers.modify tracker f }.summary? h = s.summary? h := by
  refine summary?_of_agrees (s := s) rfl ?_
  rw [Array.getElem?_modify, if_neg hne.symm]

theorem trackers_record (s : Store) (h : Handle) (latency : Int) (step : Nat) :
    (s.answer (.record h latency step)).2.trackers = s.trackers := by
  have heffect := s.effect_record h latency step
  generalize (s.answer (.record h latency step)).2 = t at heffect ⊢
  generalize (s.answer (.record h latency step)).1 = reply at heffect
  cases heffect with
  | recorded ha hstep => exact s.trackers_applyTagged_sample h latency step
  | outOfRange ha hstep => rfl
  | unissued ha => rfl

theorem trackers_recordByName (s : Store) (name : String) (latency : Int) (step : Nat) :
    (s.answer (.recordByName name latency step)).2.trackers = s.trackers := by
  cases hlookup : s.lookup name with
  | none => simp [answer, recordByName, hlookup, Reply.ofResult]
  | some h =>
      rw [answer_recordByName hlookup]
      exact s.trackers_record h latency step

end Store

namespace Sharing.HeldBy

variable {p : Sharing} {s : Store} {target : Option Handle}

theorem toNat_samples (hp : p.HeldBy s) (hfew : (p.delaysOf target).length < UInt64.size) :
    (s.pacing (s.trackerOf target)).samples.toNat = (p.delaysOf target).length :=
  (hp.shown target).samples.value.trans (Nat.mod_eq_of_lt hfew)

theorem average_eq_none_iff (hp : p.HeldBy s)
    (hfew : (p.delaysOf target).length < UInt64.size) :
    (s.pacing (s.trackerOf target)).average = none ↔ p.delaysOf target = [] := by
  rw [Pacing.average_eq_none_iff, ← UInt64.toNat_inj, hp.toNat_samples hfew, UInt64.toNat_zero,
    List.length_eq_zero_iff]

end Sharing.HeldBy

/-- After every session, two targets have one tracker just when they were made to share it, and
every tracker is that of some target. It holds the delays that were recorded through its sharers
since its last reset, and all of them report it alike: no mean just when there was no delay. Pacing
and resets leave the reports of all others alone and change no counter of an aggregator, and samples
change no tracker. -/
theorem Store.pacing_shared (requests : List Request) :
    let s := session requests
    let p := shared requests
    (∀ first second, s.trackerOf first = s.trackerOf second ↔
      p.ownerOf first = p.ownerOf second) ∧
    (∀ tracker < s.trackers.size, ∃ target, s.trackerOf target = tracker) ∧
    (∀ target, (p.delaysOf target).length < UInt64.size →
      (s.pacing (s.trackerOf target)).delaySum.toNat = min (p.delaySum target) maxCount ∧
      (s.pacing (s.trackerOf target)).samples.toNat = (p.delaysOf target).length ∧
      ∀ h summary, p.ownerOf (some h) = p.ownerOf target → s.summary? h = some summary →
        summary.pacingSamples = (s.pacing (s.trackerOf target)).samples ∧
        summary.averagePacing = (s.pacing (s.trackerOf target)).average ∧
        (summary.averagePacing = none ↔ p.delaysOf target = [])) ∧
    (∀ target delay h, p.ownerOf (some h) ≠ p.ownerOf target →
      (s.answer (.pace target delay)).2.summary? h = s.summary? h ∧
      (s.answer (.reset target)).2.summary? h = s.summary? h) ∧
    (∀ target delay, (s.answer (.pace target delay)).2.aggregators = s.aggregators ∧
      (s.answer (.reset target)).2.aggregators = s.aggregators) ∧
    ∀ latency step, (∀ h, (s.answer (.record h latency step)).2.trackers = s.trackers) ∧
      ∀ name, (s.answer (.recordByName name latency step)).2.trackers = s.trackers := by
  intro s p
  have hp : p.HeldBy s := shared_heldBy requests
  refine ⟨hp.trackerOf_eq_iff, ?_, ?_, ?_, fun _ _ => ⟨rfl, rfl⟩,
    fun latency step => ⟨fun h => s.trackers_record h latency step,
      fun name => s.trackers_recordByName name latency step⟩⟩
  · intro tracker hlt
    rcases hp.used tracker hlt with rfl | ⟨h, a, ha, rfl⟩
    · exact ⟨none, rfl⟩
    · exact ⟨some h, trackerOf_some ha⟩
  · intro target hfew
    refine ⟨(hp.shown target).delaySum.value, hp.toNat_samples hfew, fun h summary howner hsummary => ?_⟩
    obtain ⟨a, -, rfl⟩ := exists_of_summary? hsummary
    rw [(hp.trackerOf_eq_iff _ _).2 howner]
    exact ⟨rfl, rfl, hp.average_eq_none_iff hfew⟩
  · intro target delay h hother
    have hne : s.trackerOf (some h) ≠ s.trackerOf target :=
      fun heq => hother ((hp.trackerOf_eq_iff _ _).1 heq)
    exact ⟨summary?_modify_of_ne hne _, summary?_modify_of_ne hne _⟩

/-- Two trackers: the registry's, which is reset, and one that two aggregators share. -/
theorem Store.pacing_shared_twoTrackers :
    let s := session [.register "SCAN" 1, .create "READ" 1, .pace (some 0) 5, .share "COPY" 2 (some 1),
      .pace (some 2) 7, .reset (some 0), .record 2 3 1, .pace (some 1) 9]
    (s.pacing (s.trackerOf (some 1))).delaySum.toNat = 16 ∧
      (s.pacing (s.trackerOf (some 2))).samples.toNat = 2 ∧
      (∃ summary, s.summary? 0 = some summary ∧ summary.averagePacing = none) ∧
      (s.answer (.pace none 4)).2.summary? 2 = s.summary? 2 := by
  intro s
  obtain ⟨-, -, hholds, hother, -, -⟩ := Store.pacing_shared [.register "SCAN" 1, .create "READ" 1,
    .pace (some 0) 5, .share "COPY" 2 (some 1), .pace (some 2) 7, .reset (some 0), .record 2 3 1,
    .pace (some 1) 9]
  obtain ⟨hsum, -, -⟩ := hholds (some 1) (by decide +kernel)
  obtain ⟨-, hsamples, -⟩ := hholds (some 2) (by decide +kernel)
  obtain ⟨-, -, hreports⟩ := hholds none (by decide +kernel)
  obtain ⟨summary, hsummary⟩ : ∃ summary, s.summary? 0 = some summary :=
    Option.isSome_iff_exists.1 (by decide +kernel)
  obtain ⟨-, -, hnone⟩ := hreports 0 summary (by decide +kernel) hsummary
  refine ⟨hsum.trans (by decide +kernel), hsamples.trans (by decide +kernel),
    ⟨summary, hsummary, hnone.2 (by decide +kernel)⟩, (hother none 4 2 (by decide +kernel)).1⟩

end StepLatency
