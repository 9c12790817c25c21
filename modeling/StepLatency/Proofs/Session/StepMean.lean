import Mathlib
import StepLatency.Proofs.Measurement.NoLostUpdate
import StepLatency.Proofs.Session.Measured

/-!
# Means of steps

The mean of a step is the quotient of its two counters. The sum sticks at the largest word while the
number of samples goes on, so the mean may fall short of the true one, but it never exceeds it, nor
the largest sample; as long as the sum does not stick it is the true mean, cut to a whole number.
-/

namespace StepLatency

/-! ### Quotients of capped sums -/

section Quotients

variable {latencies : List Nat} {bound cap : Nat}

theorem capped_mean_le_mean (latencies : List Nat) (cap : Nat) :
    min latencies.sum cap / latencies.length ≤ latencies.sum / latencies.length :=
  Nat.div_le_div_right (Nat.min_le_left _ _)

/-- Wherever the sum sticks, the mean stays below every bound on the samples. -/
theorem capped_mean_le (hbound : ∀ latency ∈ latencies, latency ≤ bound) :
    min latencies.sum cap / latencies.length ≤ bound := by
  refine Nat.div_le_of_le_mul ?_
  calc
    min latencies.sum cap ≤ latencies.sum := Nat.min_le_left _ _
    _ ≤ latencies.length • bound := List.sum_le_card_nsmul latencies bound hbound
    _ = latencies.length * bound := rfl

theorem le_mean (hne : latencies ≠ []) (hbound : ∀ latency ∈ latencies, bound ≤ latency) :
    bound ≤ latencies.sum / latencies.length := by
  rw [Nat.le_div_iff_mul_le (List.length_pos_of_ne_nil hne), Nat.mul_comm]
  exact List.card_nsmul_le_sum latencies bound hbound

end Quotients

structure ReportedMean (latencies : List Nat) (average : UInt64) : Prop where
  value : average.toNat = min latencies.sum maxCount / latencies.length
  le_mean : average.toNat ≤ latencies.sum / latencies.length
  le_largest : ∃ largest, latencies.max? = some largest ∧ average.toNat ≤ largest
  signed : average.toNat < 0x8000000000000000
  exact : latencies.sum ≤ maxCount → average.toNat = latencies.sum / latencies.length ∧
    ∃ smallest, latencies.min? = some smallest ∧ smallest ≤ average.toNat

/-- A capped sum that is cut to a word is the mean that is reported. -/
theorem ReportedMean.of_value {latencies : List Nat} {average : UInt64} (hne : latencies ≠ [])
    (hsigned : ∀ latency ∈ latencies, latency < 0x8000000000000000)
    (hvalue : average.toNat = min latencies.sum maxCount / latencies.length) :
    ReportedMean latencies average where
  value := hvalue
  le_mean := hvalue ▸ capped_mean_le_mean latencies maxCount
  le_largest := by
    obtain ⟨largest, hlargest⟩ := Option.isSome_iff_exists.1 (List.isSome_max?_of_ne_nil hne)
    exact ⟨largest, hlargest, hvalue ▸ capped_mean_le (List.max?_eq_some_iff.1 hlargest).2⟩
  signed := by
    have hle : average.toNat ≤ 0x7fffffffffffffff :=
      hvalue ▸ capped_mean_le fun latency hmem => Nat.le_of_lt_succ (hsigned latency hmem)
    exact Nat.lt_succ_of_le hle
  exact hsum := by
    rw [Nat.min_eq_left hsum] at hvalue
    obtain ⟨smallest, hsmallest⟩ := Option.isSome_iff_exists.1 (List.isSome_min?_of_ne_nil hne)
    exact ⟨hvalue, smallest, hsmallest,
      hvalue ▸ StepLatency.le_mean hne (List.min?_eq_some_iff.1 hsmallest).2⟩

/-! ### Calls one after the other -/

def Call.request (h : Handle) : Call → Request
  | .record latency step => .record h latency step
  | .pace delay => .pace (some h) delay

theorem Aggregator.callUpdates_congr {a b : Aggregator} (hcount : b.stepCount = a.stepCount)
    (call : Call) : b.callUpdates call = a.callUpdates call := by
  cases call with
  | record latency step =>
      by_cases hstep : step < a.stepCount
      · simp [callUpdates, updates_of_lt hstep, updates_of_lt (hcount ▸ hstep)]
      · have hle : a.stepCount ≤ step := Nat.le_of_not_lt hstep
        rw [callUpdates_of_refuses (a := a) (by simpa [refuses] using hle),
          callUpdates_of_refuses (a := b) (by simpa [refuses, hcount] using hle)]
  | pace delay => rfl

namespace Store

variable {s : Store} {h : Handle} {a : Aggregator}

/-- The store after calls on one aggregator, each of which is done before the next begins. -/
def afterCalls (s : Store) (h : Handle) (calls : List Call) : Store :=
  (s.answerAll (calls.map (·.request h))).2

/-- A pacing interval is two updates on the tracker of an aggregator. -/
theorem pace_eq_applyTagged (s : Store) (h : Handle) (delay : UInt64) :
    s.pace (s.trackerOf (some h)) delay = s.applyTagged ((Update.pacing delay).map (h, ·)) := by
  have htracker : (s.apply h (.addDelay delay)).trackerOf (some h) = s.trackerOf (some h) :=
    s.trackerOf_apply h _ _
  have hpacing : ((s.apply h (.addDelay delay)).apply h .countDelay).trackers =
      s.trackers.modify (s.trackerOf (some h)) (·.record delay) := by
    apply Array.ext_getElem?
    intro tracker
    simp only [apply] at htracker ⊢
    rw [htracker, getElem?_modify_eq_map, getElem?_modify_eq_map, getElem?_modify_eq_map,
      Option.map_map]
    congr 1
    funext p
    by_cases heq : s.trackerOf (some h) = tracker
    · simp [heq, Update.onPacing, Pacing.record]
    · simp [heq]
  have haggregators : ((s.apply h (.addDelay delay)).apply h .countDelay).aggregators =
      s.aggregators := by
    apply Array.ext_getElem?
    intro h'
    simp [getElem?_aggregators_apply, Update.onAggregator]
  calc
    s.pace (s.trackerOf (some h)) delay =
      ⟨s.trackers.modify (s.trackerOf (some h)) (·.record delay), s.aggregators, s.entries⟩ := rfl
    _ = (s.apply h (.addDelay delay)).apply h .countDelay := by
      rw [← hpacing, ← haggregators]
      rfl

/-- A call that is done at once comes down to its updates. -/
theorem answer_call (ha : s.aggregators[h]? = some a) (call : Call) :
    (s.answer (call.request h)).2 = s.applyTagged (s.callUpdates h call) := by
  cases call with
  | record latency step =>
      rw [callUpdates, ha, Call.request]
      have heffect := s.effect_record h latency step
      generalize (s.answer (.record h latency step)).2 = t at heffect ⊢
      generalize (s.answer (.record h latency step)).1 = reply at heffect
      cases heffect with
      | recorded hb hstep =>
          obtain rfl := Option.some.inj (ha.symm.trans hb)
          simp [Aggregator.callUpdates, Aggregator.updates_of_lt hstep, Except.toOption]
      | outOfRange hb hstep =>
          obtain rfl := Option.some.inj (ha.symm.trans hb)
          have hnone : a.callUpdates (.record latency step) = [] :=
            Aggregator.callUpdates_of_refuses (by simpa [Aggregator.refuses] using hstep)
          simp only [hnone]
          rfl
      | unissued hnone => simp [ha] at hnone
  | pace delay =>
      rw [callUpdates, ha]
      exact s.pace_eq_applyTagged h delay

theorem callUpdates_applyTagged (ha : s.aggregators[h]? = some a) (us : List (Handle × Update))
    (call : Call) : (s.applyTagged us).callUpdates h call = s.callUpdates h call := by
  obtain ⟨b, hb, -, hcount, -⟩ := exists_aggregator_applyTagged ha us
  simp only [callUpdates, ha, hb, Aggregator.callUpdates_congr hcount]

/-- The step and the run: calls one after the other come down to the updates of all of them. -/
theorem afterCalls_eq (ha : s.aggregators[h]? = some a) (calls : List Call) :
    s.afterCalls h calls = s.applyTagged (calls.flatMap (s.callUpdates h)) := by
  induction calls generalizing s a with
  | nil => rfl
  | cons call rest ih =>
      obtain ⟨b, hb, -⟩ := exists_aggregator_applyTagged ha (s.callUpdates h call)
      have hsame : (s.applyTagged (s.callUpdates h call)).callUpdates h = s.callUpdates h :=
        funext (callUpdates_applyTagged ha _)
      calc
        s.afterCalls h (call :: rest) = (s.answer (call.request h)).2.afterCalls h rest := rfl
        _ = (s.applyTagged (s.callUpdates h call)).afterCalls h rest := by rw [answer_call ha]
        _ = (s.applyTagged (s.callUpdates h call)).applyTagged
              (rest.flatMap (s.callUpdates h)) := by
            rw [ih hb, hsame]
        _ = s.applyTagged ((call :: rest).flatMap (s.callUpdates h)) := by
            rw [List.flatMap_cons, applyTagged_append]

end Store

/-! ### The statistics of a step -/

def StepStats.ofLatencies (step : Nat) (latencies : List Nat) : StepStats :=
  .ofTotals step ⟨UInt64.ofNat (min latencies.sum maxCount), UInt64.ofNat latencies.length⟩

namespace StepStats

variable {step : Nat} {latencies : List Nat}

theorem toNat_operations_ofLatencies (hfew : latencies.length < UInt64.size) :
    (ofLatencies step latencies).operations.toNat = latencies.length :=
  UInt64.toNat_ofNat_of_lt hfew

theorem toNat_latencySum_ofLatencies :
    (ofLatencies step latencies).latencySum.toNat = min latencies.sum maxCount := by
  have hword : min latencies.sum maxCount < UInt64.size := by
    unfold maxCount UInt64.size
    omega
  exact UInt64.toNat_ofNat_of_lt hword

theorem exists_average_ofLatencies (hne : latencies ≠ []) (hfew : latencies.length < UInt64.size)
    (hsigned : ∀ latency ∈ latencies, latency < 0x8000000000000000) :
    ∃ average, (ofLatencies step latencies).average = some average ∧
      ReportedMean latencies average := by
  have hcount : (ofLatencies step latencies).operations.toNat = latencies.length :=
    toNat_operations_ofLatencies hfew
  have hsome : (ofLatencies step latencies).operations ≠ 0 := by
    intro hzero
    rw [hzero, UInt64.toNat_zero] at hcount
    exact hne (List.eq_nil_of_length_eq_zero hcount.symm)
  refine ⟨(ofLatencies step latencies).latencySum / (ofLatencies step latencies).operations,
    if_neg hsome, .of_value hne hsigned ?_⟩
  rw [UInt64.toNat_div, toNat_latencySum_ofLatencies, hcount]

end StepStats

namespace Store

variable {s : Store} {h : Handle} {name : String} {n : Nat} {tracker : TrackerId}
  {calls : List Call} {step : Nat}

theorem shows_afterCalls {a : Aggregator} (ha : s.aggregators[h]? = some a) {c : Counter}
    (hc : c.Shows s 0) (calls : List Call) :
    c.Shows (s.afterCalls h calls) (s.callsAdd h c calls) := by
  have hshows := hc.applyTagged (calls.flatMap (s.callUpdates h))
  rw [Nat.zero_add] at hshows
  rwa [afterCalls_eq ha]

/-- After calls a step shows the valid latencies among them and nothing else. -/
theorem stepStats_afterCalls (ha : s.aggregators[h]? = some (.fresh name n tracker))
    (hrange : ∀ call ∈ calls, call.InRange) (hfew : calls.length < UInt64.size)
    (hstep : step < n) :
    (s.afterCalls h calls).stepStats h step =
      .ofLatencies step (calls.filterMap (Call.validLatency? step)) := by
  have hdeclared : step < (Aggregator.fresh name n tracker).stepCount :=
    Nat.lt_of_lt_of_eq hstep (Aggregator.stepCount_fresh name n tracker).symm
  have hstart : Measured.nothing.ShownBy s name h n :=
    .fresh ha fun x hx => absurd hx List.not_mem_nil
  -- Both counters start from nothing, so they show what the calls add.
  have hlatencySum := shows_afterCalls ha (hstart.latencySum step hstep) calls
  have hoperations := shows_afterCalls ha (hstart.operations step hstep) calls
  rw [callsAdd_latencySum ha hrange hdeclared] at hlatencySum
  rw [callsAdd_operations ha hdeclared] at hoperations
  generalize hlatencies : calls.filterMap (Call.validLatency? step) = latencies at *
  have hlength : latencies.length < UInt64.size := by
    rw [← hlatencies]
    exact Nat.lt_of_le_of_lt (List.length_filterMap_le _ _) hfew
  have hsum : (((s.afterCalls h calls).totals? h step).getD .empty).latencySum =
      UInt64.ofNat (min latencies.sum maxCount) := hlatencySum.value_eq
  have hcount : (((s.afterCalls h calls).totals? h step).getD .empty).operations =
      UInt64.ofNat latencies.length := by
    refine hoperations.value_eq.trans ?_
    rw [Counter.shown, Nat.mod_eq_of_lt hlength]
  rw [stepStats, StepStats.ofLatencies]
  cases htotals : ((s.afterCalls h calls).totals? h step).getD .empty
  rw [htotals] at hsum hcount
  exact congrArg _ (congrArg₂ StepTotals.mk hsum hcount)

theorem summary?_afterCalls (ha : s.aggregators[h]? = some (.fresh name n tracker))
    (hrange : ∀ call ∈ calls, call.InRange) (hfew : calls.length < UInt64.size) :
    ∃ summary, (s.afterCalls h calls).summary? h = some summary ∧ summary.operation = name ∧
      summary.steps = (List.range n).map fun step =>
        .ofLatencies step (calls.filterMap (Call.validLatency? step)) := by
  obtain ⟨b, hb, hname, hcount, -⟩ :=
    exists_aggregator_applyTagged ha (calls.flatMap (s.callUpdates h))
  rw [← afterCalls_eq ha] at hb
  refine ⟨_, summary?_eq_some hb, hname, ?_⟩
  rw [hcount, Aggregator.stepCount_fresh]
  exact List.map_congr_left fun step hstep =>
    stepStats_afterCalls ha hrange hfew (List.mem_range.1 hstep)

end Store

/-! ### What is reported of a step -/

structure StepReport (operation : String) (step : Nat) (latencies : List Nat) (stats : StepStats)
    (row : Row) : Prop where
  position : stats.step = step
  operations : stats.operations.toNat = latencies.length
  latencySum : stats.latencySum.toNat = min latencies.sum maxCount
  group : row.group = operation
  label : row.label = s!"step:{step}, operations: {latencies.length}, Average Latency(us)"
  unsampled : latencies = [] → stats.average = none ∧ row.value = .whole 0
  sampled : latencies ≠ [] → ∃ average, stats.average = some average ∧ row.value = .whole average ∧
    ReportedMean latencies average

theorem stepReport_ofLatencies {summary : Summary} {step : Nat} {latencies : List Nat}
    (hfew : latencies.length < UInt64.size)
    (hsigned : ∀ latency ∈ latencies, latency < 0x8000000000000000) :
    StepReport summary.operation step latencies (.ofLatencies step latencies)
      (summary.stepRow (.ofLatencies step latencies)) where
  position := rfl
  operations := StepStats.toNat_operations_ofLatencies hfew
  latencySum := StepStats.toNat_latencySum_ofLatencies
  group := rfl
  label := by
    rw [Summary.stepRow, stepLabel, StepStats.toNat_operations_ofLatencies hfew]
    rfl
  unsampled hnil := by
    subst hnil
    exact ⟨rfl, rfl⟩
  sampled hne := by
    obtain ⟨average, haverage, hmean⟩ : ∃ average,
        (StepStats.ofLatencies step latencies).average = some average ∧
          ReportedMean latencies average :=
      StepStats.exists_average_ofLatencies hne hfew hsigned
    refine ⟨average, haverage, ?_, hmean⟩
    rw [Summary.stepRow, haverage, Option.getD_some]

theorem Aggregator.eq_fresh_of_create {operation : String} {stepCount : Nat} {tracker : TrackerId}
    {a : Aggregator} (hcreate : create operation stepCount tracker = .ok a) :
    a = fresh operation stepCount tracker := by
  rcases Nat.eq_zero_or_pos stepCount with rfl | hpos
  · exact nomatch hcreate
  · rw [create_of_pos hpos] at hcreate
    exact (Except.ok.inj hcreate).symm

theorem Call.validLatency_lt {call : Call} (hrange : call.InRange) {step latency : Nat}
    (hvalid : call.validLatency? step = some latency) : latency < 0x8000000000000000 := by
  cases call with
  | record signed step' =>
      have hbound : signed < 0x8000000000000000 := hrange.2
      rw [validLatency?, Option.ite_none_right_eq_some] at hvalid
      obtain ⟨-, heq⟩ := hvalid
      obtain rfl := Option.some.inj heq
      omega
  | pace delay => cases hvalid

/-- Whatever is called on an aggregator as it was created, the mean of a step with valid samples is
their capped sum divided by their number, cut to a whole number. It exceeds neither the true mean nor
the largest sample, so it is a signed word; and where the sum does not stick it is the true mean, so
it is not below the smallest sample. The row of the step carries the mean and the number. A step
without valid samples has no mean, and its row shows zero. Nothing else that is called counts. -/
theorem Store.step_means {s : Store} {h : Handle} {a : Aggregator} {name : String} {n : Nat}
    {tracker : TrackerId} (hcreate : Aggregator.create name n tracker = .ok a)
    (ha : s.aggregators[h]? = some a) (calls : List Call)
    (hrange : ∀ call ∈ calls, call.InRange) (hfew : calls.length < UInt64.size) :
    ∃ summary, (s.afterCalls h calls).summary? h = some summary ∧ summary.steps.length = n ∧
      (∀ {σ ε : Type} (sink : Sink σ ε) (state : σ),
        (s.afterCalls h calls).exportTo (some h) sink state = sink.writeAll
          (summary.pacingRows ++ summary.negativeRows ++ summary.steps.map summary.stepRow)
          state) ∧
      ∀ step < n, ∃ stats, summary.steps[step]? = some stats ∧
        StepReport name step (calls.filterMap (Call.validLatency? step)) stats
          (summary.stepRow stats) ∧
        ∃ alone, alone.steps[step]? = some stats ∧
          (s.afterCalls h (calls.filter fun call => (call.validLatency? step).isSome)).summary? h =
            some alone := by
  obtain rfl := Aggregator.eq_fresh_of_create hcreate
  obtain ⟨summary, hsummary, hname, hsteps⟩ := summary?_afterCalls ha hrange hfew
  refine ⟨summary, hsummary, by simp [hsteps], ?_, ?_⟩
  · intro σ ε sink state
    rw [exportTo_eq_writeAll, rowsOf, summariesOf, hsummary, Option.toList_some,
      List.flatMap_singleton, Summary.rows]
  · intro step hstep
    have hlength : (calls.filterMap (Call.validLatency? step)).length < UInt64.size :=
      Nat.lt_of_le_of_lt (List.length_filterMap_le _ _) hfew
    have hsigned : ∀ latency ∈ calls.filterMap (Call.validLatency? step),
        latency < 0x8000000000000000 := by
      intro latency hmem
      obtain ⟨call, hcall, hvalid⟩ := List.mem_filterMap.1 hmem
      exact Call.validLatency_lt (hrange call hcall) hvalid
    refine ⟨_, by simp [hsteps, hstep], hname ▸ stepReport_ofLatencies hlength hsigned, ?_⟩
    -- The valid samples of the step are valid among themselves, and nothing else is.
    have hrangeValid : ∀ call ∈ calls.filter fun call => (call.validLatency? step).isSome,
        call.InRange := fun call hmem => hrange call (List.mem_filter.1 hmem).1
    obtain ⟨alone, halone, -, hstepsAlone⟩ := summary?_afterCalls ha hrangeValid
      (Nat.lt_of_le_of_lt (List.length_filter_le _ _) hfew)
    have hvalid : (calls.filter fun call => (call.validLatency? step).isSome).filterMap
        (Call.validLatency? step) = calls.filterMap (Call.validLatency? step) := by
      rw [List.filterMap_filter]
      refine List.filterMap_congr fun call _ => ?_
      cases call.validLatency? step <;> rfl
    exact ⟨alone, by simp [hstepsAlone, hstep, hvalid], halone⟩

/-- Three of the largest samples make the sum stick, and a third of the largest word is the mean. -/
theorem Store.step_means_stuck :
    let calls : List Call := [.record 0x7fffffffffffffff 0, .record (-1) 0,
      .record 0x7fffffffffffffff 0, .record 5 1, .record 9 2, .record 0x7fffffffffffffff 0]
    ∃ summary stats, ((session [.create "SCAN" 2]).afterCalls 0 calls).summary? 0 = some summary ∧
      summary.steps[0]? = some stats ∧ stats.average = some 6148914691236517205 ∧
      (summary.stepRow stats).label = "step:0, operations: 3, Average Latency(us)" := by
  intro calls
  obtain ⟨summary, hsummary, -, -, hstats⟩ :=
    Store.step_means (s := session [.create "SCAN" 2]) (h := 0) (a := .fresh "SCAN" 2 1) (n := 2)
      rfl (by decide +kernel) calls (by decide) (by decide)
  obtain ⟨stats, hget, hreport, -⟩ := hstats 0 (by decide)
  obtain ⟨average, haverage, -, hmean⟩ := hreport.sampled (by decide)
  have hvalue : average = 6148914691236517205 :=
    UInt64.toNat_inj.1 (hmean.value.trans (by decide))
  exact ⟨summary, stats, hsummary, hget, hvalue ▸ haverage, hreport.label.trans (by decide +kernel)⟩

end StepLatency
