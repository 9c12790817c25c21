import Mathlib
import StepLatency.Proofs.Text.ByteOrder
import StepLatency.Proofs.Workload.Printed
import StepLatency.Proofs.Workload.Restored

/-!
# Declared kinds

What a run registers is decided by its declarations alone. If those of one name agree, there is one
kind for every name, in the order of the first declarations, and the report of the run has one
summary for each. Otherwise the registration stops at the first declaration that conflicts with
those before it.
-/

namespace StepLatency

/-! ### Conflicts -/

namespace OperationSpec

/-- The declaration that a later one conflicts with: the first of its name, if it has another number
of steps. -/
def conflict? (before : List OperationSpec) (spec : OperationSpec) : Option OperationSpec :=
  (before.find? (·.name == spec.name)).filter (·.steps != spec.steps)

/-- The first of several declarations that conflicts with those before it, and the one it conflicts
with. -/
def FirstConflict (specs : List OperationSpec) (known spec : OperationSpec) : Prop :=
  ∃ before after, specs = before ++ spec :: after ∧ conflict? before spec = some known ∧
    ∀ earlier other between, before = earlier ++ other :: between →
      conflict? earlier other = none

variable {specs before : List OperationSpec} {known spec : OperationSpec}

theorem conflict?_eq_some_iff :
    conflict? before spec = some known ↔
      before.find? (·.name == spec.name) = some known ∧ known.steps ≠ spec.steps := by
  simp [conflict?]

theorem conflict?_eq_none_iff :
    conflict? before spec = none ↔
      ∀ known, before.find? (·.name == spec.name) = some known → known.steps = spec.steps := by
  simp [conflict?]

theorem of_find?_eq_some (h : before.find? (·.name == spec.name) = some known) :
    known ∈ before ∧ known.name = spec.name :=
  ⟨List.mem_of_find?_eq_some h, by simpa using List.find?_some h⟩

/-- One more declaration agrees with others that agree just if it does not conflict with the first
of its name. -/
theorem agree_concat_iff :
    Agree (before ++ [spec]) ↔ Agree before ∧ conflict? before spec = none := by
  rw [conflict?_eq_none_iff]
  constructor
  · refine fun h => ⟨h.of_append_left, fun known hknown => ?_⟩
    obtain ⟨hmem, hname⟩ := of_find?_eq_some hknown
    exact h known (List.mem_append_left _ hmem) spec (by simp) hname
  · rintro ⟨hagree, hfirst⟩
    -- Only the first of the name is compared with the new one; the others agree with the first.
    have hlast : ∀ other ∈ before, other.name = spec.name → other.steps = spec.steps := by
      intro other hother hname
      have hfound : (before.find? (·.name == spec.name)).isSome :=
        List.find?_isSome.2 ⟨other, hother, beq_iff_eq.2 hname⟩
      obtain ⟨known, hknown⟩ := Option.isSome_iff_exists.1 hfound
      obtain ⟨hmem, hsame⟩ := of_find?_eq_some hknown
      exact (hagree other hother known hmem (hname.trans hsame.symm)).trans (hfirst known hknown)
    intro first hmem second hmem' hname
    rcases List.mem_append.1 hmem with hbefore | hspec <;>
      rcases List.mem_append.1 hmem' with hbefore' | hspec'
    · exact hagree first hbefore second hbefore' hname
    · obtain rfl := List.mem_singleton.1 hspec'
      exact hlast first hbefore hname
    · obtain rfl := List.mem_singleton.1 hspec
      exact (hlast second hbefore' hname.symm).symm
    · rw [List.mem_singleton.1 hspec, List.mem_singleton.1 hspec']

/-- Declarations agree just if none conflicts with those before it. -/
theorem agree_iff_conflict?_eq_none :
    Agree specs ↔
      ∀ before spec after, specs = before ++ spec :: after → conflict? before spec = none := by
  constructor
  · rintro h before spec after rfl
    rw [List.append_cons] at h
    exact (agree_concat_iff.1 h.of_append_left).2
  · intro h
    induction specs using List.reverseRecOn with
    | nil => exact fun first hmem => absurd hmem List.not_mem_nil
    | append_singleton specs last ih =>
        refine agree_concat_iff.2 ⟨ih fun before spec after hspecs => ?_, h specs last [] rfl⟩
        exact h before spec (after ++ [last]) (by simp [hspecs])

theorem exists_firstConflict (h : ¬ Agree specs) : ∃ known spec, FirstConflict specs known spec := by
  induction specs using List.reverseRecOn with
  | nil => exact absurd (fun first hmem => absurd hmem List.not_mem_nil) h
  | append_singleton specs last ih =>
      -- The last one conflicts if no earlier one does.
      by_cases hagree : Agree specs
      · have hlast : conflict? specs last ≠ none := fun hnone =>
          h (agree_concat_iff.2 ⟨hagree, hnone⟩)
        obtain ⟨known, hknown⟩ := Option.ne_none_iff_exists'.1 hlast
        exact ⟨known, last, specs, [], rfl, hknown, agree_iff_conflict?_eq_none.1 hagree⟩
      · obtain ⟨known, spec, before, after, rfl, hconflict⟩ := ih hagree
        exact ⟨known, spec, before, after ++ [last], by simp, hconflict⟩

/-- Where declarations agree, to drop repeated ones is to drop repeated names. -/
theorem Agree.map_name_eraseDups (h : Agree specs) :
    specs.eraseDups.map (·.name) = (specs.map (·.name)).eraseDups := by
  induction specs using List.reverseRecOn with
  | nil => rfl
  | append_singleton specs last ih =>
      have hmem : last.name ∈ specs.map (·.name) → last ∈ specs :=
        Registration.mem_of_name_mem fun known hknown =>
          h known (List.mem_append_left _ hknown) last (by simp)
      rw [List.map_append, List.map_singleton]
      by_cases hlast : last ∈ specs
      · rw [eraseDups_concat_of_mem hlast, ih h.of_append_left,
          eraseDups_concat_of_mem (List.mem_map_of_mem hlast)]
      · rw [eraseDups_concat_of_not_mem hlast, List.map_append, List.map_singleton,
          ih h.of_append_left, eraseDups_concat_of_not_mem (mt hmem hlast)]

end OperationSpec

open OperationSpec

/-! ### Registering declarations -/

namespace Registration

variable {r : Registration} {specs : List OperationSpec} {known spec : OperationSpec}

theorem Holds.add_of_conflict (hr : r.Holds specs) (hknown : known ∈ specs)
    (hname : known.name = spec.name) (hsteps : known.steps ≠ spec.steps) :
    r.add spec =
      (.error ⟨spec.name, .stepCountMismatch spec.name known.steps spec.steps⟩, r) := by
  obtain ⟨h, hget⟩ := List.getElem?_of_mem hknown
  have hlookup : r.store.lookup spec.name = some h := hr.lookup_eq_some_iff.2 ⟨known, hget, hname⟩
  simp [add, Store.register, hlookup, hr.getElem?_aggregators, hget, hsteps]

/-- The registration stops at the first conflict. -/
theorem addAll_of_firstConflict (hsteps : ∀ spec ∈ specs, 0 < spec.steps)
    (h : FirstConflict specs known spec) :
    (empty.addAll specs).1 =
      .error ⟨spec.name, .stepCountMismatch spec.name known.steps spec.steps⟩ := by
  obtain ⟨before, after, rfl, hconflict, hbefore⟩ := h
  obtain ⟨r, haddAll, hr⟩ := exists_addAll_eq_ok
    (fun other hmem => hsteps other (List.mem_append_left _ hmem))
    (agree_iff_conflict?_eq_none.2 hbefore)
  obtain ⟨hfind, hne⟩ := conflict?_eq_some_iff.1 hconflict
  obtain ⟨hknown, hname⟩ := of_find?_eq_some hfind
  have hadd := hr.add_of_conflict (List.mem_eraseDups.2 hknown) hname hne
  rw [addAll_append_of_ok haddAll, addAll, hadd]

/-- A registration fails with the first conflict, and only with that. -/
theorem addAll_eq_error_iff (hsteps : ∀ spec ∈ specs, 0 < spec.steps) (fault : RegistrationFault) :
    (empty.addAll specs).1 = .error fault ↔
      ∃ known spec, FirstConflict specs known spec ∧
        fault = ⟨spec.name, .stepCountMismatch spec.name known.steps spec.steps⟩ := by
  constructor
  · intro herror
    by_cases hagree : Agree specs
    · obtain ⟨r, haddAll, -⟩ := exists_addAll_eq_ok hsteps hagree
      rw [haddAll] at herror
      exact nomatch herror
    · obtain ⟨known, spec, hfirst⟩ := exists_firstConflict hagree
      have hconflict := addAll_of_firstConflict hsteps hfirst
      exact ⟨known, spec, hfirst, Except.error.inj (herror.symm.trans hconflict)⟩
  · rintro ⟨known, spec, hfirst, rfl⟩
    exact addAll_of_firstConflict hsteps hfirst

theorem addAll_eq_ok_iff (hsteps : ∀ spec ∈ specs, 0 < spec.steps) :
    (empty.addAll specs).1 = .ok () ↔ Agree specs := by
  constructor
  · intro hok
    by_contra hagree
    obtain ⟨known, spec, hfirst⟩ := exists_firstConflict hagree
    rw [addAll_of_firstConflict hsteps hfirst] at hok
    exact nomatch hok
  · intro hagree
    obtain ⟨r, haddAll, -⟩ := exists_addAll_eq_ok hsteps hagree
    rw [haddAll]

/-- A declaration is without effect where it stands among those before. -/
theorem addAll_repeated {before after : List OperationSpec}
    (hsteps : ∀ spec ∈ before, 0 < spec.steps) (hmem : spec ∈ before) :
    empty.addAll (before ++ spec :: after) = empty.addAll (before ++ after) := by
  rcases hbefore : empty.addAll before with ⟨fault | _, r⟩
  · rw [addAll_append_of_error hbefore, addAll_append_of_error hbefore]
  · obtain ⟨r', haddAll, hr⟩ := exists_addAll_eq_ok hsteps
      ((addAll_eq_ok_iff hsteps).1 (congrArg Prod.fst hbefore))
    obtain rfl : r = r' := congrArg Prod.snd (hbefore.symm.trans haddAll)
    rw [addAll_append_of_ok hbefore, addAll_append_of_ok hbefore, addAll,
      hr.add_of_mem (List.mem_eraseDups.2 hmem)]

/-- A registration with one kind for every declared name, in the order of first declaration. -/
structure OnePerName (r : Registration) (specs : List OperationSpec) : Prop where
  kinds : r.specs = specs.eraseDups
  names : r.specs.map (·.name) = (specs.map (·.name)).eraseDups
  distinct : (r.specs.map (·.name)).Nodup
  handles : r.kinds.Nodup
  length : r.kinds.length = r.specs.length
  entries : r.store.entries.Perm ((r.specs.map (·.name)).zip r.kinds)

theorem kindEntries_eq_zip (kinds : List OperationSpec) :
    kindEntries kinds = (kinds.map (·.name)).zip (List.range kinds.length) := by
  rw [kindEntries, List.mapIdx_eq_zipIdx_map, List.zipIdx_eq_zip_range', ← List.range_eq_range',
    List.zip_map_left]
  rfl

theorem Holds.onePerName (hr : r.Holds specs.eraseDups) (hagree : Agree specs) :
    r.OnePerName specs where
  kinds := hr.specs_eq
  names := hr.specs_eq ▸ hagree.map_name_eraseDups
  distinct := hr.specs_eq ▸ hr.names
  handles := hr.handles ▸ List.nodup_range
  length := by rw [hr.handles, List.length_range, hr.specs_eq]
  entries := by
    rw [hr.specs_eq, hr.handles, ← kindEntries_eq_zip]
    exact hr.entries

end Registration

/-! ### Runs -/

/-- The summaries stand in the order of the entries, whatever has been recorded on them. -/
theorem Store.WellFormed.operations_summaries {s : Store} (hs : s.WellFormed)
    (us : List (Handle × Update)) :
    (s.applyTagged us).summaries.map (·.operation) = s.entries.map (·.1) := by
  have hentry : ∀ entry ∈ s.entries,
      ((s.applyTagged us).summary? entry.2).map (·.operation) = some entry.1 := by
    rintro ⟨name, h⟩ hmem
    obtain ⟨a, ha, hname, -⟩ := hs.kinds name h hmem
    obtain ⟨b, hb, hoperation, -⟩ := exists_aggregator_applyTagged ha us
    rw [summary?_eq_some hb, Option.map_some, hoperation, hname]
  rw [summaries, entries_applyTagged, List.map_filterMap, List.filterMap_congr hentry,
    List.filterMap_eq_map']

namespace Config

variable {γ σ ε : Type} {c : Config} {g : Generator γ} {o : Occasion} {sink : Sink σ ε} {state : σ}

theorem onePerName_of_register (hsteps : ∀ spec ∈ c.operations, 0 < spec.steps)
    {r : Registration} (hregister : c.register = (.ok (), r)) : r.OnePerName c.operations := by
  have hagree : Agree c.operations :=
    (Registration.addAll_eq_ok_iff hsteps).1 (congrArg Prod.fst hregister)
  obtain ⟨r', hregister', hr'⟩ := exists_register_holds hsteps hagree
  obtain rfl : r = r' := congrArg Prod.snd (hregister.symm.trans hregister')
  exact hr'.onePerName hagree

/-- A report has one summary for each declared name, in the order of the bytes of the names. -/
theorem operations_of_run (hsteps : ∀ spec ∈ c.operations, 0 < spec.steps) {report : RunReport}
    (hrun : (c.run g o sink state).result = .ok report) :
    (report.summaries.map (·.operation)).Perm (c.operations.map (·.name)).eraseDups ∧
      report.summaries.Pairwise fun first second =>
        utf8Bytes first.operation < utf8Bytes second.operation := by
  obtain ⟨r, results, store, hregister, hexecute, rfl⟩ := exists_execute_of_run hrun
  obtain ⟨us, rfl⟩ := exists_applyTagged_of_execute hexecute
  have hwell : r.store.WellFormed := by
    rw [store_register hregister]
    exact Store.session_wellFormed _
  have hnames := hwell.operations_summaries us
  have hr := onePerName_of_register hsteps hregister
  have hlength : (r.specs.map (·.name)).length ≤ r.kinds.length := by
    rw [List.length_map, hr.length]
  constructor
  · change ((r.store.applyTagged us).summaries.map (·.operation)).Perm _
    rw [hnames, ← hr.names, ← List.map_fst_zip hlength]
    exact hr.entries.map _
  · change (r.store.applyTagged us).summaries.Pairwise _
    have hsorted : ((r.store.applyTagged us).summaries.map (·.operation)).Pairwise (· < ·) := by
      rw [hnames]
      exact List.pairwise_map.2 hwell.sorted
    exact (List.pairwise_map.1 hsorted).imp utf8Bytes_lt

theorem register_repeated {before after : List OperationSpec} {spec : OperationSpec}
    (hsteps : ∀ spec ∈ c.operations, 0 < spec.steps) (hspecs : c.operations = before ++ after)
    (hmem : spec ∈ before) :
    { c with operations := before ++ spec :: after }.register = c.register := by
  have hbefore : ∀ other ∈ before, 0 < other.steps := fun other hother =>
    hsteps other (hspecs ▸ List.mem_append_left _ hother)
  rw [register, register, hspecs, Registration.addAll_repeated hbefore hmem]

/-! The workers see no more of the declarations than the kinds that were registered. -/

section Operations

variable (c : Config) (specs : List OperationSpec) (g : Generator γ) (r : Registration)

theorem performSteps_operations (a : Aggregator) (worker : Nat) (latency : Nat → Nat)
    (n step : Nat) (s : γ) :
    { c with operations := specs }.performSteps g a worker latency n step s =
      c.performSteps g a worker latency n step s := by
  induction n generalizing step s with
  | zero => rfl
  | succ n ih =>
      simp only [performSteps, ih]
      rfl

theorem performOperations_operations (t : Timings) (worker n operation : Nat) (s : γ) :
    { c with operations := specs }.performOperations g r t worker n operation s =
      c.performOperations g r t worker n operation s := by
  induction n generalizing operation s with
  | zero => rfl
  | succ n ih => simp only [performOperations, performOperation, performSteps_operations, ih]

theorem execute_operations (o : Occasion) :
    { c with operations := specs }.execute g o r = c.execute g o r := by
  have hworker (worker : Nat) : { c with operations := specs }.runWorker g r o.timings worker =
      c.runWorker g r o.timings worker :=
    performOperations_operations c specs g r o.timings worker _ _ _
  have hworkers : { c with operations := specs }.runWorkers g r o.timings =
      c.runWorkers g r o.timings :=
    List.map_congr_left fun worker _ => hworker worker
  rw [execute, execute, hworkers]

end Operations

theorem run_eq_of_register_eq {specs : List OperationSpec}
    (hregister : { c with operations := specs }.register = c.register) :
    { c with operations := specs }.run g o sink state = c.run g o sink state := by
  rw [run, run, hregister]
  simp only [execute_operations]
  rfl

end Config

/-- The declarations of a run, none of which is without steps, are registered just if those of one
name have one number of steps. The workers then get one kind for every name, in the order of the
first declarations; the entries of the registry are these kinds under their names, and a report has
one summary for each, in the order of the bytes of the names. To declare again what was declared
before changes nothing in the run. A registration that fails names the first declaration that
conflicts with the first of its name, and the two numbers of steps. -/
theorem Config.registers_names_once (c : Config) (hsteps : ∀ spec ∈ c.operations, 0 < spec.steps) :
    (c.register.1 = .ok () ↔ c.Consistent) ∧
    (∀ r, c.register = (.ok (), r) → r.OnePerName c.operations) ∧
    (∀ {γ σ ε : Type} (g : Generator γ) (o : Occasion) (sink : Sink σ ε) (state : σ)
      (report : RunReport), (c.run g o sink state).result = .ok report →
      (report.summaries.map (·.operation)).Perm (c.operations.map (·.name)).eraseDups ∧
      report.summaries.Pairwise fun first second =>
        utf8Bytes first.operation < utf8Bytes second.operation) ∧
    (∀ before spec after, c.operations = before ++ after → spec ∈ before →
      { c with operations := before ++ spec :: after }.register = c.register ∧
      ∀ {γ σ ε : Type} (g : Generator γ) (o : Occasion) (sink : Sink σ ε) (state : σ),
        { c with operations := before ++ spec :: after }.run g o sink state =
          c.run g o sink state) ∧
    ∀ fault,
      (c.register.1 = .error fault ↔ ∃ known spec, FirstConflict c.operations known spec ∧
        fault = ⟨spec.name, .stepCountMismatch spec.name known.steps spec.steps⟩) ∧
      (c.register.1 = .error fault →
        ∀ {γ σ ε : Type} (g : Generator γ) (o : Occasion) (sink : Sink σ ε) (state : σ),
          (c.run g o sink state).result = .error (.registration fault)) := by
  refine ⟨Registration.addAll_eq_ok_iff hsteps, fun r => onePerName_of_register hsteps,
    fun g o sink state report => operations_of_run hsteps, ?_,
    fun fault => ⟨Registration.addAll_eq_error_iff hsteps fault, ?_⟩⟩
  · intro before spec after hspecs hmem
    have hregister := register_repeated hsteps hspecs hmem
    exact ⟨hregister, fun g o sink state => run_eq_of_register_eq hregister⟩
  · intro herror γ σ ε g o sink state
    exact (run_of_register_error (Prod.ext herror rfl) sink state).1

/-- One kind is declared twice, and in the other list once more with another number of steps. -/
theorem Config.registers_names_once_twoKinds :
    (∃ r, twoKinds.register = (.ok (), r) ∧ r.specs = [⟨"SCAN", 2⟩, ⟨"READ", 1⟩] ∧
      (unevenReport.summaries.map (·.operation)).Perm ["SCAN", "READ"]) ∧
    { twoKinds with operations := [⟨"SCAN", 2⟩, ⟨"READ", 1⟩, ⟨"SCAN", 3⟩, ⟨"READ", 4⟩] }.register.1 =
      .error ⟨"SCAN", .stepCountMismatch "SCAN" 2 3⟩ := by
  constructor
  · obtain ⟨hok, hone, hreport, -⟩ := twoKinds.registers_names_once (by decide)
    have hregister : twoKinds.register = (.ok (), twoKinds.register.2) :=
      Prod.ext (hok.2 (by decide)) rfl
    have hsummaries := hreport firstChoices unevenPacing MemorySink.sink .empty unevenReport
      run_unevenPacing
    exact ⟨_, hregister, (hone _ hregister).kinds, hsummaries.1⟩
  · have hbefore : { twoKinds with operations := [⟨"SCAN", 2⟩, ⟨"READ", 1⟩] }.Consistent := by decide
    obtain ⟨-, -, -, -, hfault⟩ := Config.registers_names_once
      { twoKinds with operations := [⟨"SCAN", 2⟩, ⟨"READ", 1⟩, ⟨"SCAN", 3⟩, ⟨"READ", 4⟩] } (by decide)
    exact (hfault _).1.2 ⟨⟨"SCAN", 2⟩, ⟨"SCAN", 3⟩,
      ⟨[⟨"SCAN", 2⟩, ⟨"READ", 1⟩], [⟨"READ", 4⟩], rfl, by decide,
        agree_iff_conflict?_eq_none.1 hbefore⟩, rfl⟩

end StepLatency
