import Mathlib
import StepLatency.Proofs.Session.Effect

/-!
# What a session never takes back

A store only grows: entries, aggregators and trackers stay, and an aggregator keeps its name, its
number of steps and its tracker. So a handle that was handed out for a name leads to the aggregator
of this name for ever, and a sample may be recorded through it or by the name.
-/

namespace StepLatency

namespace Store

/-- The second store has all of the first, up to the values of counters. -/
structure Grows (s t : Store) : Prop where
  trackers : s.trackers.size ≤ t.trackers.size
  entries : s.entries ⊆ t.entries
  aggregators : ∀ (h : Handle) (a : Aggregator), s.aggregators[h]? = some a →
    ∃ b, t.aggregators[h]? = some b ∧ b.operation = a.operation ∧ b.stepCount = a.stepCount ∧
      b.tracker = a.tracker

section Grows

variable {s t u : Store}

theorem Grows.refl (s : Store) : s.Grows s where
  trackers := Nat.le_refl _
  entries _ hmem := hmem
  aggregators _ a ha := ⟨a, ha, rfl, rfl, rfl⟩

theorem Grows.trans (hst : s.Grows t) (htu : t.Grows u) : s.Grows u where
  trackers := Nat.le_trans hst.trackers htu.trackers
  entries _ hmem := htu.entries (hst.entries hmem)
  aggregators h a ha := by
    obtain ⟨b, hb, hoperation, hcount, htracker⟩ := hst.aggregators h a ha
    obtain ⟨c, hc, hoperation', hcount', htracker'⟩ := htu.aggregators h b hb
    exact ⟨c, hc, hoperation'.trans hoperation, hcount'.trans hcount, htracker'.trans htracker⟩

theorem getElem?_push_of_some {xs : Array Aggregator} {h : Handle} {a : Aggregator}
    (ha : xs[h]? = some a) (b : Aggregator) : (xs.push b)[h]? = some a := by
  have hlt : h < xs.size := (Array.getElem?_eq_some_iff.1 ha).1
  rw [Array.getElem?_push, if_neg (Nat.ne_of_lt hlt), ha]

theorem grows_registered (s : Store) (name : String) (n : Nat) :
    s.Grows (s.registered name n) where
  trackers := Nat.le_refl _
  entries _ hmem := mem_insertEntry.2 (.inl hmem)
  aggregators _ a ha := ⟨a, getElem?_push_of_some ha _, rfl, rfl, rfl⟩

theorem grows_kept (s : Store) (a : Aggregator) (fresh : Array Pacing) :
    s.Grows (s.kept a fresh) where
  trackers := by simp [kept]
  entries _ hmem := hmem
  aggregators _ b hb := ⟨b, getElem?_push_of_some hb a, rfl, rfl, rfl⟩

theorem size_trackers_applyTagged (s : Store) (us : List (Handle × Update)) :
    (s.applyTagged us).trackers.size = s.trackers.size :=
  applyTagged_preserves (motive := fun t => t.trackers.size = s.trackers.size)
    (fun t h u ht => (t.size_trackers_apply h u).trans ht) rfl us

theorem grows_applyTagged (s : Store) (us : List (Handle × Update)) :
    s.Grows (s.applyTagged us) where
  trackers := Nat.le_of_eq (size_trackers_applyTagged s us).symm
  entries _ hmem := (entries_applyTagged s us).symm ▸ hmem
  aggregators _ _ ha := exists_aggregator_applyTagged ha us

theorem grows_pace (s : Store) (tracker : TrackerId) (delay : UInt64) :
    s.Grows (s.pace tracker delay) where
  trackers := by simp [pace]
  entries _ hmem := hmem
  aggregators _ a ha := ⟨a, ha, rfl, rfl, rfl⟩

theorem grows_resetPacing (s : Store) (tracker : TrackerId) :
    s.Grows (s.resetPacing tracker) where
  trackers := by simp [resetPacing]
  entries _ hmem := hmem
  aggregators _ a ha := ⟨a, ha, rfl, rfl, rfl⟩

end Grows

/-! ### One request -/

section Step

variable {s t : Store} {request : Request} {reply : Reply}

theorem Effect.grows (heffect : s.Effect request reply t) : s.Grows t := by
  induction heffect with
  | registered hnew hn => exact s.grows_registered _ _
  | created hn => exact s.grows_kept _ _
  | shared hn => exact s.grows_kept _ _
  | recorded ha hstep => exact s.grows_applyTagged _
  | byName hlookup heffect ih => exact ih
  | paced target delay => exact s.grows_pace _ _
  | reset target => exact s.grows_resetPacing _
  | known | mismatch | noSteps | found | notFound | notCreated | notShared | outOfRange
  | unissued | unknownName | summarized | exported => exact .refl s

/-- Only a registration of a new name adds an entry. -/
theorem Effect.entries_eq (heffect : s.Effect request reply t) :
    t.entries = s.entries ∨
      ∃ name n, request = .register name n ∧ s.lookup name = none ∧ 0 < n ∧
        t = s.registered name n := by
  induction heffect with
  | registered hnew hn => exact .inr ⟨_, _, rfl, hnew, hn, rfl⟩
  | recorded ha hstep => exact .inl (entries_applyTagged s _)
  | @byName name h latency step reply t hlookup heffect ih =>
      rcases ih with hsame | ⟨_, _, hrequest, -⟩
      · exact .inl hsame
      · exact Request.noConfusion hrequest
  | created | shared | paced | reset | known | mismatch | noSteps | found | notFound
  | notCreated | notShared | outOfRange | unissued | unknownName | summarized | exported =>
      exact .inl rfl

theorem WellFormed.of_grows (hs : s.WellFormed) (hgrows : s.Grows t)
    (hentries : t.entries = s.entries) : t.WellFormed where
  tracker := Nat.lt_of_lt_of_le hs.tracker hgrows.trackers
  sorted := hentries ▸ hs.sorted
  kinds name h hmem := by
    obtain ⟨a, ha, hoperation, hpos, htracker⟩ := hs.kinds name h (hentries ▸ hmem)
    obtain ⟨b, hb, hoperation', hcount, htracker'⟩ := hgrows.aggregators h a ha
    exact ⟨b, hb, hoperation'.trans hoperation, hcount ▸ hpos, htracker'.trans htracker⟩

theorem WellFormed.registered (hs : s.WellFormed) {name : String} {n : Nat}
    (hnew : s.lookup name = none) (hn : 0 < n) : (s.registered name n).WellFormed where
  tracker := hs.tracker
  sorted := hs.sorted.insertEntry (hs.lookup_eq_none_iff.1 hnew) _
  kinds other h hmem := by
    rcases mem_insertEntry.1 hmem with hold | hlast
    · obtain ⟨a, ha, hkind⟩ := hs.kinds other h hold
      exact ⟨a, getElem?_push_of_some ha _, hkind⟩
    · obtain ⟨rfl, rfl⟩ := Prod.mk.inj hlast
      refine ⟨.fresh other n registryTracker, Array.getElem?_push_size, rfl, ?_, rfl⟩
      rw [Aggregator.stepCount_fresh]
      exact hn

theorem Effect.wellFormed (hs : s.WellFormed) (heffect : s.Effect request reply t) :
    t.WellFormed := by
  rcases heffect.entries_eq with hsame | ⟨name, n, -, hnew, hn, rfl⟩
  · exact hs.of_grows heffect.grows hsame
  · exact hs.registered hnew hn

theorem WellFormed.answer (hs : s.WellFormed) (request : Request) :
    (s.answer request).2.WellFormed :=
  (hs.effect request).wellFormed hs

end Step

/-! ### Sessions -/

section Run

variable {s : Store}

theorem answerAll_cons (s : Store) (request : Request) (rest : List Request) :
    s.answerAll (request :: rest) =
      ((s.answer request).1 :: ((s.answer request).2.answerAll rest).1,
        ((s.answer request).2.answerAll rest).2) :=
  rfl

theorem answerAll_append (s : Store) (before after : List Request) :
    s.answerAll (before ++ after) =
      ((s.answerAll before).1 ++ ((s.answerAll before).2.answerAll after).1,
        ((s.answerAll before).2.answerAll after).2) := by
  induction before generalizing s with
  | nil => rfl
  | cons request rest ih =>
      rw [List.cons_append, answerAll_cons, answerAll_cons, ih]
      rfl

theorem WellFormed.answerAll (hs : s.WellFormed) (requests : List Request) :
    (s.answerAll requests).2.WellFormed ∧ s.Grows (s.answerAll requests).2 := by
  induction requests generalizing s with
  | nil => exact ⟨hs, .refl s⟩
  | cons request rest ih =>
      obtain ⟨hwell, hgrows⟩ := ih (hs.answer request)
      exact ⟨hwell, (hs.effect request).grows.trans hgrows⟩

end Run

def session (requests : List Request) : Store := (empty.answerAll requests).2

theorem session_append (before after : List Request) :
    session (before ++ after) = ((session before).answerAll after).2 := by
  rw [session, answerAll_append]
  rfl

theorem session_concat (before : List Request) (request : Request) :
    session (before ++ [request]) = ((session before).answer request).2 :=
  session_append before [request]

theorem session_cons (before after : List Request) (request : Request) :
    session (before ++ request :: after) = (((session before).answer request).2.answerAll after).2 :=
  session_append before (request :: after)

theorem session_wellFormed (requests : List Request) : (session requests).WellFormed :=
  (empty_wellFormed.answerAll requests).1

theorem session_grows (before after : List Request) :
    (session before).Grows (session (before ++ after)) := by
  rw [session_append]
  exact ((session_wellFormed before).answerAll after).2

/-! ### Handles -/

/-- A session has handed out a handle for a name, by registering or looking up the name. -/
def Handed (requests : List Request) (name : String) (h : Handle) : Prop :=
  ∃ before request after, requests = before ++ request :: after ∧
    (request = .lookup name ∨ ∃ n, request = .register name n) ∧
    ((session before).answer request).1 = .handle h

section Handles

variable {s : Store} {name : String} {h : Handle} {n : Nat}

theorem WellFormed.lookup_mono (hs : s.WellFormed) {t : Store} (ht : t.WellFormed)
    (hgrows : s.Grows t) (hlookup : s.lookup name = some h) : t.lookup name = some h :=
  ht.lookup_eq_some_iff.2 (hgrows.entries (hs.lookup_eq_some_iff.1 hlookup))

theorem WellFormed.lookup_registered (hs : s.WellFormed) (hnew : s.lookup name = none)
    (hn : 0 < n) : (s.registered name n).lookup name = some s.aggregators.size :=
  (hs.registered hnew hn).lookup_eq_some_iff.2 (mem_insertEntry.2 (.inr rfl))

/-- The aggregator that a registration hands out has the name and the number of steps. -/
theorem WellFormed.registers (hs : s.WellFormed)
    (hreply : (s.answer (.register name n)).1 = .handle h) :
    (s.answer (.register name n)).2.lookup name = some h ∧
      ∃ a, (s.answer (.register name n)).2.aggregators[h]? = some a ∧ a.stepCount = n := by
  have heffect := hs.effect (.register name n)
  rw [hreply] at heffect
  generalize (s.answer (.register name n)).2 = t at heffect ⊢
  cases heffect with
  | registered hnew hn =>
      exact ⟨hs.lookup_registered hnew hn, _, Array.getElem?_push_size,
        Aggregator.stepCount_fresh _ _ _⟩
  | known hlookup ha => exact ⟨hlookup, _, ha, rfl⟩

theorem WellFormed.looks_up (hs : s.WellFormed)
    (hreply : (s.answer (.lookup name)).1 = .handle h) :
    (s.answer (.lookup name)).2.lookup name = some h := by
  have heffect := hs.effect (.lookup name)
  rw [hreply] at heffect
  generalize (s.answer (.lookup name)).2 = t at heffect ⊢
  cases heffect with
  | found hlookup => exact hlookup

/-- A handle that was handed out for a name, however long ago, is the one of this name. -/
theorem Handed.lookup_eq {requests : List Request} (hhanded : Handed requests name h) :
    (session requests).lookup name = some h := by
  obtain ⟨before, request, after, rfl, hrequest, hreply⟩ := hhanded
  have hsplit : before ++ request :: after = (before ++ [request]) ++ after := by simp
  have hnext : (session (before ++ [request])).lookup name = some h := by
    rw [session_concat]
    rcases hrequest with rfl | ⟨n, rfl⟩
    · exact (session_wellFormed before).looks_up hreply
    · exact ((session_wellFormed before).registers hreply).1
  rw [hsplit]
  exact (session_wellFormed _).lookup_mono (session_wellFormed _) (session_grows _ after) hnext

/-- Every name of a registry is due to a registration that made its aggregator. -/
theorem exists_registration {requests : List Request}
    (hlookup : (session requests).lookup name = some h) :
    ∃ before n after, requests = before ++ .register name n :: after ∧
      (session before).lookup name = none ∧ 0 < n ∧
      ((session before).answer (.register name n)).1 = .handle h := by
  -- From the last request backwards: the name was known before it, or this one registers it.
  induction requests using List.reverseRecOn with
  | nil => exact absurd hlookup (by simp [session, Store.answerAll, lookup, empty])
  | append_singleton requests request ih =>
      have hs := session_wellFormed requests
      have hentry := (session_wellFormed _).lookup_eq_some_iff.1 hlookup
      rw [session_concat] at hentry
      have hold (hmem : (name, h) ∈ (session requests).entries) :
          ∃ before n after, requests ++ [request] = before ++ .register name n :: after ∧
            (session before).lookup name = none ∧ 0 < n ∧
            ((session before).answer (.register name n)).1 = .handle h := by
        obtain ⟨before, n, after, rfl, hfirst⟩ := ih (hs.lookup_eq_some_iff.2 hmem)
        exact ⟨before, n, after ++ [request], by simp, hfirst⟩
      rcases (hs.effect request).entries_eq with hsame | ⟨other, n, rfl, hnew, hn, hafter⟩
      · exact hold (hsame ▸ hentry)
      · rw [hafter] at hentry
        rcases mem_insertEntry.1 hentry with hmem | hlast
        · exact hold hmem
        · obtain ⟨rfl, rfl⟩ := Prod.mk.inj hlast
          refine ⟨requests, n, [], rfl, hnew, hn, ?_⟩
          simp [answer, register, hnew, Aggregator.create_of_pos hn, Reply.ofResult, keep]

end Handles

/-- The second session is the first one with samples recorded by name instead of by a handle that
was handed out for the name, or the other way round, after the requests that went before. -/
inductive Rephrased : List Request → List Request → List Request → Prop
  | nil (before : List Request) : Rephrased before [] []
  | same {before first second : List Request} (request : Request)
      (hrest : Rephrased (before ++ [request]) first second) :
      Rephrased before (request :: first) (request :: second)
  | byHandle {before first second : List Request} {name : String} {h : Handle} (latency : Int)
      (step : Nat) (hhanded : Handed before name h)
      (hrest : Rephrased (before ++ [.recordByName name latency step]) first second) :
      Rephrased before (.recordByName name latency step :: first) (.record h latency step :: second)
  | byName {before first second : List Request} {name : String} {h : Handle} (latency : Int)
      (step : Nat) (hhanded : Handed before name h)
      (hrest : Rephrased (before ++ [.record h latency step]) first second) :
      Rephrased before (.record h latency step :: first) (.recordByName name latency step :: second)

theorem Handed.answer_recordByName {requests : List Request} {name : String} {h : Handle}
    (hhanded : Handed requests name h) (latency : Int) (step : Nat) :
    (session requests).answer (.recordByName name latency step) =
      (session requests).answer (.record h latency step) :=
  Store.answer_recordByName hhanded.lookup_eq latency step

/-- Sessions that differ in how samples are addressed get the same replies and the same store. -/
theorem Rephrased.answerAll_eq {before first second : List Request}
    (hrephrased : Rephrased before first second) :
    (session before).answerAll first = (session before).answerAll second := by
  induction hrephrased with
  | nil before => rfl
  | same request hrest ih =>
      rw [session_concat] at ih
      rw [answerAll_cons, answerAll_cons, ih]
  | byHandle latency step hhanded hrest ih =>
      rw [session_concat] at ih
      rw [answerAll_cons, answerAll_cons, ih, hhanded.answer_recordByName]
  | byName latency step hhanded hrest ih =>
      rw [session_concat] at ih
      rw [answerAll_cons, answerAll_cons, ih, hhanded.answer_recordByName]

/-! ### The registry over all sessions -/

section Registry

variable {s : Store} {name : String} {h : Handle}

theorem answer_register_known (hlookup : s.lookup name = some h)
    {a : Aggregator} (ha : s.aggregators[h]? = some a) (m : Nat) :
    s.answer (.register name m) =
      (if m = a.stepCount then .handle h
        else .refused (.stepCountMismatch name a.stepCount m), s) := by
  by_cases hm : m = a.stepCount
  · simp [answer, register, hlookup, ha, hm, Reply.ofResult]
  · have hne : a.stepCount ≠ m := Ne.symm hm
    simp [answer, register, hlookup, ha, hm, hne, Reply.ofResult]

/-- A registration that succeeds settles the answers to later ones, whatever comes between. -/
theorem answers_after_register {before : List Request} {n : Nat}
    (hreply : ((session before).answer (.register name n)).1 = .handle h)
    (after : List Request) :
    let s := session (before ++ .register name n :: after)
    s.lookup name = some h ∧ s.answer (.lookup name) = (.handle h, s) ∧
      ∀ m, s.answer (.register name m) =
        (if m = n then .handle h else .refused (.stepCountMismatch name n m), s) := by
  intro s
  have hlookup : s.lookup name = some h :=
    Handed.lookup_eq ⟨before, .register name n, after, rfl, .inr ⟨n, rfl⟩, hreply⟩
  obtain ⟨-, a, ha, hcount⟩ := (session_wellFormed before).registers hreply
  have hgrows : ((session before).answer (.register name n)).2.Grows s := by
    rw [show s = _ from session_cons before after (.register name n)]
    exact (((session_wellFormed before).answer _).answerAll after).2
  obtain ⟨b, hb, -, hcount', -⟩ := hgrows.aggregators h a ha
  refine ⟨hlookup, ?_, fun m => ?_⟩
  · simp only [answer, hlookup]
  · rw [answer_register_known hlookup hb, hcount', hcount]

theorem WellFormed.not_aliased (hs : s.WellFormed) {other : String}
    (hmem : (name, h) ∈ s.entries) (hother : (other, h) ∈ s.entries) : name = other :=
  hs.name_inj (hs.lookup_eq_some_iff.2 hmem) (hs.lookup_eq_some_iff.2 hother)

end Registry

/-- After every session, each entry of the registry leads to an aggregator of its name, on the
tracker of the registry, with as many sums and counts as the registration declared that made it.
No two names share an aggregator. A registration that succeeds fixes the handle and the number of
steps of its name for ever. So samples may be recorded by name or through any handle that was handed
out for the name: the answers are the same, and all later ones too. -/
theorem registry_persists (requests : List Request) :
    (∀ name h, (name, h) ∈ (session requests).entries →
      (session requests).lookup name = some h ∧
      ∃ a before n after, (session requests).aggregators[h]? = some a ∧ a.operation = name ∧
        a.tracker = registryTracker ∧ 1 ≤ n ∧ (a.steps.map (·.latencySum)).size = n ∧
        (a.steps.map (·.operations)).size = n ∧
        requests = before ++ .register name n :: after ∧ (session before).lookup name = none ∧
        ((session before).answer (.register name n)).1 = .handle h) ∧
    (∀ name other h, (name, h) ∈ (session requests).entries →
      (other, h) ∈ (session requests).entries → name = other) ∧
    (∀ name n h after, ((session requests).answer (.register name n)).1 = .handle h →
      let s := session (requests ++ .register name n :: after)
      s.lookup name = some h ∧ s.answer (.lookup name) = (.handle h, s) ∧
        ∀ m, s.answer (.register name m) =
          (if m = n then .handle h else .refused (.stepCountMismatch name n m), s)) ∧
    (∀ name h latency step, Handed requests name h →
      (session requests).answer (.recordByName name latency step) =
        (session requests).answer (.record h latency step)) ∧
    (∀ later, Rephrased [] requests later →
      empty.answerAll requests = empty.answerAll later) := by
  have hs := session_wellFormed requests
  refine ⟨fun name h hmem => ?_, fun name other h => hs.not_aliased,
    fun name n h after hreply => answers_after_register hreply after,
    fun name h latency step hhanded => hhanded.answer_recordByName latency step,
    fun later hrephrased => hrephrased.answerAll_eq⟩
  have hlookup := hs.lookup_eq_some_iff.2 hmem
  obtain ⟨before, n, after, rfl, hnew, hn, hreply⟩ := exists_registration hlookup
  obtain ⟨-, a, ha, hcount⟩ := (session_wellFormed before).registers hreply
  have hgrows := ((session_wellFormed before).answer (.register name n)).answerAll after
  rw [← session_cons] at hgrows
  obtain ⟨b, hb, hoperation, -, htracker⟩ := hs.kinds name h hmem
  obtain ⟨c, hc, -, hcount', -⟩ := hgrows.2.aggregators h a ha
  obtain rfl : b = c := Option.some.inj (hb.symm.trans hc)
  have hsize : b.steps.size = n := hcount'.trans hcount
  exact ⟨hlookup, b, before, n, after, hb, hoperation, htracker, hn,
    by rw [Array.size_map, hsize], by rw [Array.size_map, hsize], rfl, hnew, hreply⟩

/-- A kind of two steps, registered once more with three, with a sample through an old handle. -/
theorem registry_persists_reading :
    ((session [.register "SCAN" 1, .register "READ" 2, .record 1 7 0, .lookup "SCAN"]).answer
        (.register "READ" 3)).1 = .refused (.stepCountMismatch "READ" 2 3) ∧
      empty.answerAll [.register "READ" 2, .register "READ" 3, .recordByName "READ" 5 1] =
        empty.answerAll [.register "READ" 2, .register "READ" 3, .record 0 5 1] := by
  obtain ⟨-, -, hfixed, -⟩ := registry_persists [.register "SCAN" 1]
  obtain ⟨-, -, hregister⟩ :=
    hfixed "READ" 2 1 [.record 1 7 0, .lookup "SCAN"] (by decide +kernel)
  obtain ⟨-, -, -, -, hrephrased⟩ :=
    registry_persists [.register "READ" 2, .register "READ" 3, .recordByName "READ" 5 1]
  refine ⟨congrArg Prod.fst (hregister 3), hrephrased _ ?_⟩
  refine .same _ (.same _ (.byHandle 5 1 ?_ (.nil _)))
  exact ⟨[], .register "READ" 2, [.register "READ" 3], rfl, .inr ⟨2, rfl⟩, by decide +kernel⟩

end Store

end StepLatency
