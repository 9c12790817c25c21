import Mathlib
import StepLatency.Proofs.Session.Persistent

/-!
# Refused requests

A request is refused for one reason only, and the reason can be read off the store. It leaves the
store as it was, so that a session without the requests that are refused in it has the same other
replies and comes to the same store.
-/

namespace StepLatency

def Reply.isRefused : Reply → Bool
  | .refused _ => true
  | .handle _ | .unknown | .done | .summaries _ | .rows _ => false

theorem Reply.isRefused_iff {reply : Reply} :
    reply.isRefused = true ↔ ∃ cause, reply = .refused cause := by
  cases reply <;> simp [isRefused]

namespace Store

def stepsOf (s : Store) (name : String) : Option Nat :=
  (s.lookup name).bind fun h => s.aggregators[h]?.map (·.stepCount)

/-! ### When a request is refused -/

section Refusals

variable {s : Store} {name : String} {n : Nat} {cause : MeasurementError}

/-- Registering is refused without steps, or with other steps than the name has. -/
theorem WellFormed.register_refused_iff (hs : s.WellFormed) :
    (s.answer (.register name n)).1 = .refused cause ↔
      (s.lookup name = none ∧ n = 0 ∧ cause = .invalidStepCount name) ∨
        ∃ known, s.stepsOf name = some known ∧ known ≠ n ∧
          cause = .stepCountMismatch name known n := by
  have heffect := hs.effect (.register name n)
  generalize (s.answer (.register name n)).2 = t at heffect
  generalize (s.answer (.register name n)).1 = reply at heffect ⊢
  cases heffect with
  | registered hnew hn => simp [stepsOf, hnew, Nat.ne_of_gt hn]
  | known hlookup ha => simp [stepsOf, hlookup, ha]
  | mismatch hlookup ha hn => simp [stepsOf, hlookup, ha, hn, @eq_comm _ cause]
  | noSteps hnew => simp [stepsOf, hnew, eq_comm]

theorem create_refused_iff :
    (s.answer (.create name n)).1 = .refused cause ↔ n = 0 ∧ cause = .invalidStepCount name := by
  have heffect := s.effect_create name n
  generalize (s.answer (.create name n)).2 = t at heffect
  generalize (s.answer (.create name n)).1 = reply at heffect ⊢
  cases heffect with
  | created hn => simp [Nat.ne_of_gt hn]
  | notCreated => simp [eq_comm]

theorem share_refused_iff {source : Option Handle} :
    (s.answer (.share name n source)).1 = .refused cause ↔
      n = 0 ∧ cause = .invalidStepCount name := by
  have heffect := s.effect_share name n source
  generalize (s.answer (.share name n source)).2 = t at heffect
  generalize (s.answer (.share name n source)).1 = reply at heffect ⊢
  cases heffect with
  | shared hn => simp [Nat.ne_of_gt hn]
  | notShared => simp [eq_comm]

/-- The sign of the latency does not matter. -/
theorem record_refused_iff {h : Handle} {a : Aggregator} (ha : s.aggregators[h]? = some a)
    {latency : Int} {step : Nat} :
    (s.answer (.record h latency step)).1 = .refused cause ↔
      a.stepCount ≤ step ∧ cause = .stepOutOfRange a.operation step a.stepCount := by
  have heffect := s.effect_record h latency step
  generalize (s.answer (.record h latency step)).2 = t at heffect
  generalize (s.answer (.record h latency step)).1 = reply at heffect ⊢
  cases heffect with
  | recorded hb hstep =>
      obtain rfl := Option.some.inj (ha.symm.trans hb)
      simp [Nat.not_le.2 hstep]
  | outOfRange hb hstep =>
      obtain rfl := Option.some.inj (ha.symm.trans hb)
      simp [hstep, eq_comm]
  | unissued hnone => simp [ha] at hnone

theorem WellFormed.recordByName_refused_iff (hs : s.WellFormed) {latency : Int} {step : Nat} :
    (s.answer (.recordByName name latency step)).1 = .refused cause ↔
      (s.lookup name = none ∧ cause = .unknownOperation name) ∨
        ∃ known, s.stepsOf name = some known ∧ known ≤ step ∧
          cause = .stepOutOfRange name step known := by
  cases hlookup : s.lookup name with
  | none => simp [Store.answer, recordByName, hlookup, Reply.ofResult, stepsOf, @eq_comm _ cause]
  | some h =>
      obtain ⟨a, ha, hname, -⟩ := hs.exists_aggregator hlookup
      rw [answer_recordByName hlookup, record_refused_iff ha]
      simp [stepsOf, hlookup, ha, hname]

end Refusals

/-! ### Sessions without the refused requests -/

/-- The requests that are not refused when their turn comes. -/
def accepted (s : Store) : List Request → List Request
  | [] => []
  | request :: rest =>
    let later := (s.answer request).2.accepted rest
    if (s.answer request).1.isRefused then later else request :: later

/-- Every other request finds the store that it would have found, by induction on the requests. -/
theorem answerAll_accepted (s : Store) (requests : List Request) :
    s.answerAll (s.accepted requests) =
      ((s.answerAll requests).1.filter fun reply => !reply.isRefused,
        (s.answerAll requests).2) := by
  induction requests generalizing s with
  | nil => rfl
  | cons request rest ih =>
      have hrest := ih (s.answer request).2
      rw [answerAll_cons, accepted, List.filter_cons]
      by_cases hrefused : (s.answer request).1.isRefused
      · obtain ⟨cause, hcause⟩ := Reply.isRefused_iff.1 hrefused
        rw [answer_of_refused hcause] at hrest ⊢
        simpa [hrefused] using hrest
      · simp [hrefused, answerAll_cons, hrest]

/-- In every store that a session comes to, a registration is refused just when the name is new and
no step is declared, or the name is known with another number of steps; a sample just when its name
is not known or its step was not declared, whatever its sign. A request that is refused changes
nothing. So a session without all the requests that are refused in it has the same other replies,
and comes to the same store. -/
theorem refusals_exact (requests : List Request) :
    let s := session requests
    (∀ name n cause, (s.answer (.register name n)).1 = .refused cause ↔
      (s.lookup name = none ∧ n = 0 ∧ cause = .invalidStepCount name) ∨
        ∃ known, s.stepsOf name = some known ∧ known ≠ n ∧
          cause = .stepCountMismatch name known n) ∧
    (∀ name n cause, (s.answer (.create name n)).1 = .refused cause ↔
      n = 0 ∧ cause = .invalidStepCount name) ∧
    (∀ name n source cause, (s.answer (.share name n source)).1 = .refused cause ↔
      n = 0 ∧ cause = .invalidStepCount name) ∧
    (∀ name latency step cause, (s.answer (.recordByName name latency step)).1 = .refused cause ↔
      (s.lookup name = none ∧ cause = .unknownOperation name) ∨
        ∃ known, s.stepsOf name = some known ∧ known ≤ step ∧
          cause = .stepOutOfRange name step known) ∧
    (∀ h a latency step cause, s.aggregators[h]? = some a →
      ((s.answer (.record h latency step)).1 = .refused cause ↔
        a.stepCount ≤ step ∧ cause = .stepOutOfRange a.operation step a.stepCount)) ∧
    (∀ request cause, (s.answer request).1 = .refused cause → (s.answer request).2 = s) ∧
    (empty.answerAll (empty.accepted requests)).1 =
      (empty.answerAll requests).1.filter (fun reply => !reply.isRefused) ∧
    session (empty.accepted requests) = s := by
  have hs := session_wellFormed requests
  obtain ⟨hreplies, hstore⟩ := Prod.mk.inj (empty.answerAll_accepted requests)
  exact ⟨fun _ _ _ => hs.register_refused_iff, fun _ _ _ => create_refused_iff,
    fun _ _ _ _ => share_refused_iff, fun _ _ _ _ => hs.recordByName_refused_iff,
    fun _ _ _ _ _ ha => record_refused_iff ha, fun _ _ => answer_of_refused,
    hreplies, hstore⟩

/-- Of six requests four are refused, and a negative sample of a step that is not there is too. -/
theorem refusals_exact_twoOfSix :
    let requests : List Request := [.register "SCAN" 2, .register "SCAN" 0, .record 0 5 2,
      .recordByName "READ" 5 0, .recordByName "SCAN" (-1) 1, .register "READ" 0]
    ((session requests).answer (.record 0 (-1) 7)).1 = .refused (.stepOutOfRange "SCAN" 7 2) ∧
      ((session requests).answer (.record 0 (-1) 7)).2 = session requests ∧
      session [.register "SCAN" 2, .recordByName "SCAN" (-1) 1] = session requests := by
  intro requests
  obtain ⟨-, -, -, -, hrecord, hunchanged, -, herased⟩ := refusals_exact requests
  have hrefused := (hrecord 0 ⟨"SCAN", #[.empty, .empty], 1, 0⟩ (-1) 7 _ (by decide +kernel)).2
    ⟨by decide, rfl⟩
  have haccepted : empty.accepted requests =
      [.register "SCAN" 2, .recordByName "SCAN" (-1) 1] := by
    decide +kernel
  rw [haccepted] at herased
  exact ⟨hrefused, hunchanged _ _ hrefused, herased⟩

end Store

end StepLatency
