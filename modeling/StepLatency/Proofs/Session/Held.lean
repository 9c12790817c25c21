import Mathlib
import StepLatency.Proofs.Session.Measured

/-!
# What a store holds

After every request the counters of a store show what was measured so far. A request that is refused
measures nothing; a registration brings a kind that nothing was measured of; a sample moves the
counters of its own kind; and pacing leaves the kinds alone.
-/

namespace StepLatency

/-- A store holds what was measured: its kinds are those that were registered, samples are of kinds
alone, and the counters of every kind and of the registry's tracker show the totals. -/
structure Measured.HeldBy (m : Measured) (s : Store) : Prop where
  wellFormed : s.WellFormed
  kinds : ∀ name n, (name, n) ∈ m.kinds ↔
    ∃ h a, (name, h) ∈ s.entries ∧ s.aggregators[h]? = some a ∧ a.stepCount = n
  samples : ∀ x ∈ m.samples, x.name ∈ s.entries.map (·.1)
  shown : ∀ name h a, (name, h) ∈ s.entries → s.aggregators[h]? = some a →
    m.ShownBy s name h a.stepCount
  delaySum : (Counter.delaySum Store.registryTracker).Shows s m.delaySum
  pacingSamples : (Counter.pacingSamples Store.registryTracker).Shows s m.delays.length

theorem Measured.nothing_heldBy : nothing.HeldBy .empty where
  wellFormed := Store.empty_wellFormed
  kinds name n := by simp [nothing, Store.empty]
  samples x hx := absurd hx List.not_mem_nil
  shown name h a hmem := absurd hmem List.not_mem_nil
  delaySum := ⟨Nat.zero_lt_one, rfl⟩
  pacingSamples := ⟨Nat.zero_lt_one, rfl⟩

/-! ### Names of handles -/

namespace Store

variable {s : Store} {name : String} {h : Handle}

/-- A handle is registered under the name of its entry. -/
theorem WellFormed.nameOf_eq_some_iff (hs : s.WellFormed) :
    s.nameOf h = some name ↔ (name, h) ∈ s.entries := by
  rw [nameOf, Option.map_eq_some_iff]
  constructor
  · rintro ⟨⟨key, h'⟩, hfind, rfl⟩
    have hh : h' = h := by simpa using List.find?_some hfind
    exact hh ▸ List.mem_of_find?_eq_some hfind
  · intro hmem
    have hsome : (s.entries.find? (·.2 == h)).isSome :=
      List.find?_isSome.2 ⟨(name, h), hmem, by simp⟩
    obtain ⟨⟨key, h'⟩, hfind⟩ := Option.isSome_iff_exists.1 hsome
    have hh : h' = h := by simpa using List.find?_some hfind
    subst hh
    exact ⟨_, hfind, hs.not_aliased (List.mem_of_find?_eq_some hfind) hmem⟩

/-- Of the handles in the registry, only that of a name is registered under it. -/
theorem WellFormed.nameOf_eq_iff (hs : s.WellFormed) (hmem : (name, h) ∈ s.entries) {h' : Handle} :
    s.nameOf h' = some name ↔ h' = h := by
  rw [hs.nameOf_eq_some_iff]
  constructor
  · intro hother
    have hlookup := hs.lookup_eq_some_iff.2 hmem
    exact Option.some.inj ((hs.lookup_eq_some_iff.2 hother).symm.trans hlookup)
  · rintro rfl
    exact hmem

theorem WellFormed.nameOf_of_none (hs : s.WellFormed) (ha : s.aggregators[h]? = none) :
    s.nameOf h = none := by
  rw [Option.eq_none_iff_forall_ne_some]
  intro name hname
  obtain ⟨a, hsome, -⟩ := hs.kinds name h (hs.nameOf_eq_some_iff.1 hname)
  rw [ha] at hsome
  exact nomatch hsome

end Store

namespace Measured.HeldBy

variable {m : Measured} {s t : Store} {name : String} {h : Handle} {a : Aggregator} {n : Nat}

/-- Kinds stay the same as long as no entry is added. -/
theorem kinds_of_grows (hm : m.HeldBy s) (hgrows : s.Grows t) (hentries : t.entries = s.entries)
    (name : String) (n : Nat) :
    (name, n) ∈ m.kinds ↔
      ∃ h a, (name, h) ∈ t.entries ∧ t.aggregators[h]? = some a ∧ a.stepCount = n := by
  rw [hm.kinds, hentries]
  constructor
  · rintro ⟨h, a, hmem, ha, hcount⟩
    obtain ⟨b, hb, -, hcount', -⟩ := hgrows.aggregators h a ha
    exact ⟨h, b, hmem, hb, hcount'.trans hcount⟩
  · rintro ⟨h, b, hmem, hb, hcount⟩
    obtain ⟨a, ha, -⟩ := hm.wellFormed.kinds name h hmem
    obtain ⟨c, hc, -, hcount', -⟩ := hgrows.aggregators h a ha
    obtain rfl : b = c := Option.some.inj (hb.symm.trans hc)
    exact ⟨h, a, hmem, ha, hcount'.symm.trans hcount⟩

/-- As long as the aggregators stay, only the pacing is to be shown. -/
theorem of_aggregators (hm : m.HeldBy s) (ht : t.WellFormed) (hgrows : s.Grows t)
    (hentries : t.entries = s.entries)
    (haggregators : ∀ (h : Handle) a, s.aggregators[h]? = some a → t.aggregators[h]? = some a)
    (delays : List UInt64)
    (hdelays : (Counter.delaySum Store.registryTracker).Shows t (delays.map (·.toNat)).sum)
    (hpacing : (Counter.pacingSamples Store.registryTracker).Shows t delays.length) :
    ({ m with delays := delays } : Measured).HeldBy t where
  wellFormed := ht
  kinds := hm.kinds_of_grows hgrows hentries
  samples := hentries ▸ hm.samples
  shown name h b hmem hb := by
    rw [hentries] at hmem
    obtain ⟨a, ha, -⟩ := hm.wellFormed.kinds name h hmem
    have hkept := haggregators h a ha
    obtain rfl : b = a := Option.some.inj (hb.symm.trans hkept)
    have hshown := (hm.shown name h b hmem ha).of_agrees (hkept.trans ha.symm)
    exact ⟨hshown.latencySum, hshown.operations, hshown.invalidSamples⟩
  delaySum := hdelays
  pacingSamples := hpacing

/-! ### One request -/

/-- A kind that is registered again is still the same. -/
theorem known (hm : m.HeldBy s) (hlookup : s.lookup name = some h)
    (ha : s.aggregators[h]? = some a) :
    ({ m with kinds := (name, a.stepCount) :: m.kinds } : Measured).HeldBy s where
  wellFormed := hm.wellFormed
  kinds other n := by
    have hmem := hm.wellFormed.lookup_eq_some_iff.1 hlookup
    rw [List.mem_cons, hm.kinds]
    constructor
    · rintro (heq | hkind)
      · obtain ⟨rfl, rfl⟩ := Prod.mk.inj heq
        exact ⟨h, a, hmem, ha, rfl⟩
      · exact hkind
    · exact .inr
  samples := hm.samples
  shown name h b hmem hb := by
    have hshown := hm.shown name h b hmem hb
    exact ⟨hshown.latencySum, hshown.operations, hshown.invalidSamples⟩
  delaySum := hm.delaySum
  pacingSamples := hm.pacingSamples

/-- A new kind starts from nothing, and the others keep what they show. -/
theorem registered (hm : m.HeldBy s) (hnew : s.lookup name = none) (hn : 0 < n) :
    ({ m with kinds := (name, n) :: m.kinds } : Measured).HeldBy (s.registered name n) where
  wellFormed := hm.wellFormed.registered hnew hn
  kinds other k := by
    rw [List.mem_cons, hm.kinds]
    constructor
    · rintro (heq | ⟨h, a, hmem, ha, hcount⟩)
      · obtain ⟨rfl, rfl⟩ := Prod.mk.inj heq
        exact ⟨_, _, Store.mem_insertEntry.2 (.inr rfl), Array.getElem?_push_size,
          Aggregator.stepCount_fresh _ _ _⟩
      · exact ⟨h, a, Store.mem_insertEntry.2 (.inl hmem), Store.getElem?_push_of_some ha _, hcount⟩
    · rintro ⟨h, b, hmem, hb, hcount⟩
      rcases Store.mem_insertEntry.1 hmem with hold | hlast
      · obtain ⟨a, ha, -⟩ := hm.wellFormed.kinds other h hold
        obtain rfl : b = a := Option.some.inj (hb.symm.trans (Store.getElem?_push_of_some ha _))
        exact .inr ⟨h, b, hold, ha, hcount⟩
      · obtain ⟨rfl, rfl⟩ := Prod.mk.inj hlast
        have hfresh : some b = some (Aggregator.fresh other n Store.registryTracker) :=
          hb.symm.trans Array.getElem?_push_size
        have hsteps : n = k := by
          rw [← hcount, Option.some.inj hfresh, Aggregator.stepCount_fresh]
        exact .inl (by rw [hsteps])
  samples x hx := by
    obtain ⟨entry, hmem, hname⟩ := List.mem_map.1 (hm.samples x hx)
    exact List.mem_map.2 ⟨entry, Store.mem_insertEntry.2 (.inl hmem), hname⟩
  shown other h b hmem hb := by
    rcases Store.mem_insertEntry.1 hmem with hold | hlast
    · obtain ⟨a, ha, -⟩ := hm.wellFormed.kinds other h hold
      have hkept := Store.getElem?_push_of_some ha (.fresh name n Store.registryTracker)
      obtain rfl : b = a := Option.some.inj (hb.symm.trans hkept)
      have hshown := (hm.shown other h b hold ha).of_agrees (t := s.registered name n)
        (hkept.trans ha.symm)
      exact ⟨hshown.latencySum, hshown.operations, hshown.invalidSamples⟩
    · obtain ⟨rfl, rfl⟩ := Prod.mk.inj hlast
      have hfresh : some b = some (Aggregator.fresh other n Store.registryTracker) :=
        hb.symm.trans Array.getElem?_push_size
      obtain rfl := Option.some.inj hfresh
      rw [Aggregator.stepCount_fresh]
      refine ShownBy.fresh hb fun x hx heq => ?_
      exact hm.wellFormed.lookup_eq_none_iff.1 hnew (heq ▸ hm.samples x hx)
  delaySum := hm.delaySum.of_agrees rfl
  pacingSamples := hm.pacingSamples.of_agrees rfl

theorem kept (hm : m.HeldBy s) (a : Aggregator) (fresh : Array Pacing) :
    m.HeldBy (s.kept a fresh) := by
  have hgrows := s.grows_kept a fresh
  have htracker : (s.kept a fresh).trackers[Store.registryTracker]? =
      s.trackers[Store.registryTracker]? :=
    Array.getElem?_append_left hm.wellFormed.tracker
  exact hm.of_aggregators (hm.wellFormed.of_grows hgrows rfl) hgrows rfl
    (fun h b hb => Store.getElem?_push_of_some hb a) m.delays
    (hm.delaySum.of_agrees htracker) (hm.pacingSamples.of_agrees htracker)

/-- A sample counts for its kind, or for none if its aggregator is outside the registry. -/
theorem recorded (hm : m.HeldBy s) (h' : Handle) (latency : Int) (step : Nat) :
    (m.add (s.nameOf h') latency step).HeldBy
      (s.applyTagged ((sampleUpdates latency step).map (h', ·))) where
  wellFormed := hm.wellFormed.of_grows (s.grows_applyTagged _) (Store.entries_applyTagged s _)
  kinds := hm.kinds_of_grows (s.grows_applyTagged _) (Store.entries_applyTagged s _)
  samples x hx := by
    rw [Store.entries_applyTagged]
    rcases List.mem_append.1 hx with hnew | hold
    · obtain ⟨name, hname, rfl⟩ := List.mem_map.1 hnew
      have hmem := hm.wellFormed.nameOf_eq_some_iff.1 (Option.mem_toList.1 hname)
      exact List.mem_map.2 ⟨_, hmem, rfl⟩
    · exact hm.samples x hold
  shown name h b hmem hb := by
    rw [Store.entries_applyTagged] at hmem
    obtain ⟨a, ha, -⟩ := hm.wellFormed.kinds name h hmem
    obtain ⟨c, hc, -, hcount, -⟩ :=
      Store.exists_aggregator_applyTagged ha ((sampleUpdates latency step).map (h', ·))
    obtain rfl : b = c := Option.some.inj (hb.symm.trans hc)
    rw [hcount]
    exact (hm.shown name h a hmem ha).sample (hm.wellFormed.nameOf_eq_iff hmem) latency step
  delaySum := by
    have hshows := hm.delaySum.applyTagged ((sampleUpdates latency step).map (h', ·))
    rwa [Counter.sum_map_added, Counter.addedOn_sample_delaySum] at hshows
  pacingSamples := by
    have hshows := hm.pacingSamples.applyTagged ((sampleUpdates latency step).map (h', ·))
    rwa [Counter.sum_map_added, Counter.addedOn_sample_pacingSamples] at hshows

theorem paced (hm : m.HeldBy s) (target : Option Handle) (delay : UInt64) :
    (m.next s (.pace target delay) .done).HeldBy (s.pace (s.trackerOf target) delay) := by
  have hgrows := s.grows_pace (s.trackerOf target) delay
  have hwell := hm.wellFormed.of_grows hgrows rfl
  by_cases htracker : s.trackerOf target = Store.registryTracker
  · rw [Measured.next, if_pos htracker]
    rw [htracker] at hgrows hwell ⊢
    exact hm.of_aggregators hwell hgrows rfl (fun _ _ ha => ha) (delay :: m.delays)
      (hm.delaySum.delaySum_pace delay) (hm.pacingSamples.pacingSamples_pace delay)
  · rw [Measured.next, if_neg htracker]
    have hother : (s.pace (s.trackerOf target) delay).trackers[Store.registryTracker]? =
        s.trackers[Store.registryTracker]? := by
      rw [Store.pace, Array.getElem?_modify, if_neg htracker]
    exact hm.of_aggregators hwell hgrows rfl (fun _ _ ha => ha) m.delays
      (hm.delaySum.of_agrees hother) (hm.pacingSamples.of_agrees hother)

theorem reset (hm : m.HeldBy s) (target : Option Handle) :
    (m.next s (.reset target) .done).HeldBy (s.resetPacing (s.trackerOf target)) := by
  have hgrows := s.grows_resetPacing (s.trackerOf target)
  have hwell := hm.wellFormed.of_grows hgrows rfl
  by_cases htracker : s.trackerOf target = Store.registryTracker
  · rw [Measured.next, if_pos htracker]
    rw [htracker] at hgrows hwell ⊢
    exact hm.of_aggregators hwell hgrows rfl (fun _ _ ha => ha) []
      (Counter.Shows.delaySum_resetPacing hm.wellFormed.tracker)
      (Counter.Shows.pacingSamples_resetPacing hm.wellFormed.tracker)
  · rw [Measured.next, if_neg htracker]
    have hother : (s.resetPacing (s.trackerOf target)).trackers[Store.registryTracker]? =
        s.trackers[Store.registryTracker]? := by
      rw [Store.resetPacing, Array.getElem?_modify, if_neg htracker]
    exact hm.of_aggregators hwell hgrows rfl (fun _ _ ha => ha) m.delays
      (hm.delaySum.of_agrees hother) (hm.pacingSamples.of_agrees hother)

/-- By name or by handle, the same is measured. -/
theorem next_recordByName (hm : m.HeldBy s) (hlookup : s.lookup name = some h) (latency : Int)
    (step : Nat) (reply : Reply) :
    m.next s (.recordByName name latency step) reply = m.next s (.record h latency step) reply := by
  have hname : s.nameOf h = some name :=
    hm.wellFormed.nameOf_eq_some_iff.2 (hm.wellFormed.lookup_eq_some_iff.1 hlookup)
  cases reply <;> simp [next, hname]

/-- One request is followed by what its effect measures. -/
theorem next (hm : m.HeldBy s) {request : Request} {reply : Reply}
    (heffect : s.Effect request reply t) : (m.next s request reply).HeldBy t := by
  induction heffect with
  | registered hnew hn => exact hm.registered hnew hn
  | known hlookup ha => exact hm.known hlookup ha
  | created hn => exact hm.kept _ _
  | shared hn => exact hm.kept _ _
  | recorded ha hstep => exact hm.recorded _ _ _
  | unissued ha =>
      rw [Measured.next, hm.wellFormed.nameOf_of_none ha]
      exact hm
  | byName hlookup heffect ih =>
      rw [hm.next_recordByName hlookup]
      exact ih
  | paced target delay => exact hm.paced target delay
  | reset target => exact hm.reset target
  | mismatch | noSteps | found | notFound | notCreated | notShared | outOfRange | unknownName
  | summarized | exported => exact hm

/-! ### Sessions -/

theorem after (hm : m.HeldBy s) (requests : List Request) :
    (m.after s requests).HeldBy (s.answerAll requests).2 := by
  induction requests generalizing m s with
  | nil => exact hm
  | cons request rest ih => exact ih (hm.next (hm.wellFormed.effect request))

end Measured.HeldBy

/-- After every session, the store holds what was measured. -/
theorem measured_heldBy (requests : List Request) :
    (measured requests).HeldBy (Store.session requests) :=
  Measured.nothing_heldBy.after requests

end StepLatency
