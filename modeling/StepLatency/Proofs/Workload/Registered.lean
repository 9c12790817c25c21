import Mathlib
import StepLatency.Proofs.Measurement.Entries
import StepLatency.Proofs.Measurement.Reading
import StepLatency.Proofs.Workload.Validated
import StepLatency.Workload.Run

/-!
# Registered kinds

A registration that succeeds has one fresh aggregator for every kind, in the order of the first
declarations, and all of them share the tracker of the registry. The registry lists every kind once,
and no two kinds have the same name.
-/

namespace StepLatency

/-- The entries of kinds in a registry, before they are put in order. -/
def kindEntries (kinds : List OperationSpec) : List (String × Handle) :=
  kinds.mapIdx fun h spec => (spec.name, h)

/-- A registration of so many kinds, none of which has recorded anything. -/
structure Registration.Holds (r : Registration) (kinds : List OperationSpec) : Prop where
  trackers : r.store.trackers = #[.empty]
  aggregators : r.store.aggregators.toList =
    kinds.map fun spec => .fresh spec.name spec.steps Store.registryTracker
  handles : r.kinds = List.range kinds.length
  entries : r.store.entries.Perm (kindEntries kinds)
  names : (kinds.map (·.name)).Nodup
  steps : ∀ spec ∈ kinds, 0 < spec.steps

theorem map_fst_kindEntries (kinds : List OperationSpec) :
    (kindEntries kinds).map (·.1) = kinds.map (·.name) := by
  apply List.ext_getElem?
  intro h
  simp only [kindEntries, List.getElem?_map, List.getElem?_mapIdx, Option.map_map]
  rfl

theorem mem_kindEntries_iff {kinds : List OperationSpec} {name : String} {h : Handle} :
    (name, h) ∈ kindEntries kinds ↔ ∃ spec, kinds[h]? = some spec ∧ spec.name = name := by
  rw [kindEntries, List.mem_mapIdx]
  constructor
  · rintro ⟨i, hi, hentry⟩
    obtain ⟨hname, rfl⟩ := Prod.mk.inj hentry
    exact ⟨kinds[i], List.getElem?_eq_getElem hi, hname⟩
  · rintro ⟨spec, hspec, hname⟩
    obtain ⟨hi, rfl⟩ := List.getElem?_eq_some_iff.1 hspec
    exact ⟨h, hi, Prod.ext hname rfl⟩

/-! ### Declarations -/

def OperationSpec.Agree (specs : List OperationSpec) : Prop :=
  ∀ first ∈ specs, ∀ second ∈ specs, first.name = second.name → first.steps = second.steps

theorem OperationSpec.Agree.of_append_left {specs later : List OperationSpec}
    (h : Agree (specs ++ later)) : Agree specs := fun first hfirst second hsecond =>
  h first (List.mem_append_left _ hfirst) second (List.mem_append_left _ hsecond)

section EraseDups

variable {α : Type} [BEq α] [LawfulBEq α] {items : List α} {item : α}

theorem eraseDups_concat_of_mem (h : item ∈ items) :
    (items ++ [item]).eraseDups = items.eraseDups := by
  simp [List.eraseDups_append, List.cons_removeAll, h]

theorem eraseDups_concat_of_not_mem (h : item ∉ items) :
    (items ++ [item]).eraseDups = items.eraseDups ++ [item] := by
  simp [List.eraseDups_append, List.cons_removeAll, List.eraseDups_cons, h]

end EraseDups

namespace Registration

theorem empty_holds : Registration.empty.Holds [] where
  trackers := rfl
  aggregators := rfl
  handles := rfl
  entries := .refl _
  names := List.nodup_nil
  steps _ hmem := absurd hmem List.not_mem_nil

namespace Holds

variable {r : Registration} {kinds : List OperationSpec} {spec : OperationSpec}

theorem getElem?_aggregators (hr : r.Holds kinds) (h : Handle) :
    r.store.aggregators[h]? =
      kinds[h]?.map fun spec => .fresh spec.name spec.steps Store.registryTracker := by
  rw [← Array.getElem?_toList, hr.aggregators, List.getElem?_map]

theorem size_aggregators (hr : r.Holds kinds) : r.store.aggregators.size = kinds.length := by
  rw [← Array.length_toList, hr.aggregators, List.length_map]

theorem lookup_eq_some_iff (hr : r.Holds kinds) {name : String} {h : Handle} :
    r.store.lookup name = some h ↔ ∃ spec, kinds[h]? = some spec ∧ spec.name = name := by
  have hkeys : (r.store.entries.map (·.1)).Nodup := by
    rw [(hr.entries.map _).nodup_iff, map_fst_kindEntries]
    exact hr.names
  rw [Store.lookup, find?_key_eq_some_iff hkeys, hr.entries.mem_iff, mem_kindEntries_iff]

/-! ### One declaration -/

/-- A declaration that is known adds nothing. -/
theorem add_of_mem (hr : r.Holds kinds) (hmem : spec ∈ kinds) : r.add spec = (.ok (), r) := by
  obtain ⟨h, hh, rfl⟩ := List.getElem_of_mem hmem
  have hget : kinds[h]? = some kinds[h] := List.getElem?_eq_getElem hh
  have hlookup : r.store.lookup kinds[h].name = some h :=
    hr.lookup_eq_some_iff.2 ⟨kinds[h], hget, rfl⟩
  have hhandle : h ∈ r.kinds := by
    rw [hr.handles]
    exact List.mem_range.2 hh
  simp [add, Store.register, hlookup, hr.getElem?_aggregators, hget, Aggregator.fresh,
    Aggregator.stepCount, hhandle]

/-- A declaration of a new name adds its kind. -/
theorem add_of_new (hr : r.Holds kinds) (hname : spec.name ∉ kinds.map (·.name))
    (hsteps : 0 < spec.steps) : ∃ r', r.add spec = (.ok (), r') ∧ r'.Holds (kinds ++ [spec]) := by
  have hlookup : r.store.lookup spec.name = none := by
    rw [Option.eq_none_iff_forall_ne_some]
    intro h hsome
    obtain ⟨other, hother, heq⟩ := hr.lookup_eq_some_iff.1 hsome
    exact hname (List.mem_map.2 ⟨other, List.mem_of_getElem? hother, heq⟩)
  have hnew : kinds.length ∉ r.kinds := by
    rw [hr.handles]
    exact List.not_mem_range_self
  let a := Aggregator.fresh spec.name spec.steps Store.registryTracker
  let store : Store := ⟨r.store.trackers, r.store.aggregators.push a,
    Store.insertEntry spec.name kinds.length r.store.entries⟩
  refine ⟨⟨store, r.kinds ++ [kinds.length]⟩, ?_, ?_⟩
  · rw [add, Store.register, hlookup]
    simp [Aggregator.create_of_pos hsteps, Store.keep, hr.size_aggregators, hnew,
      store, a]
  · constructor
    · exact hr.trackers
    · simp [store, a, hr.aggregators]
    · simp [hr.handles, List.range_succ]
    · refine (Store.insertEntry_perm _ _ _).trans ?_
      simpa [kindEntries, List.mapIdx_append] using hr.entries.append_right _
    · rw [List.map_append, List.nodup_append]
      refine ⟨hr.names, by simp, ?_⟩
      rintro name hold _ hnew rfl
      rw [List.map_singleton, List.mem_singleton] at hnew
      exact hname (hnew ▸ hold)
    · intro other hother
      rcases List.mem_append.1 hother with hold | hlast
      · exact hr.steps other hold
      · rw [List.mem_singleton.1 hlast]
        exact hsteps

end Holds

/-! ### All declarations -/

section AddAll

variable {r r' : Registration} {first second : List OperationSpec}

theorem addAll_append_of_ok (h : r.addAll first = (.ok (), r')) :
    r.addAll (first ++ second) = r'.addAll second := by
  induction first generalizing r with
  | nil =>
      obtain rfl : r = r' := congrArg Prod.snd h
      rfl
  | cons spec rest ih =>
      rw [addAll] at h
      rw [List.cons_append, addAll]
      rcases hadd : r.add spec with ⟨_ | _, next⟩
      · rw [hadd] at h
        exact nomatch congrArg Prod.fst h
      · rw [hadd] at h
        exact ih h

theorem addAll_append_of_error {fault : RegistrationFault} (h : r.addAll first = (.error fault, r')) :
    r.addAll (first ++ second) = (.error fault, r') := by
  induction first generalizing r with
  | nil => exact nomatch congrArg Prod.fst h
  | cons spec rest ih =>
      rw [addAll] at h
      rw [List.cons_append, addAll]
      rcases hadd : r.add spec with ⟨_ | _, next⟩
      · rw [hadd] at h
        exact h
      · rw [hadd] at h
        exact ih h

end AddAll

/-- Where declarations agree, one of a name that is known is known itself. -/
theorem mem_of_name_mem {kinds : List OperationSpec} {spec : OperationSpec}
    (hagree : ∀ known ∈ kinds, known.name = spec.name → known.steps = spec.steps)
    (hname : spec.name ∈ kinds.map (·.name)) : spec ∈ kinds := by
  obtain ⟨known, hknown, heq⟩ := List.mem_map.1 hname
  have hsteps := hagree known hknown heq
  have hsame : known = spec := by
    cases known
    cases spec
    rw [OperationSpec.mk.injEq]
    exact ⟨heq, hsteps⟩
  exact hsame ▸ hknown

/-- One more declaration that agrees with those before it adds itself, if it is not among them. -/
theorem Holds.exists_add {r : Registration} {specs : List OperationSpec} {spec : OperationSpec}
    (hr : r.Holds specs.eraseDups) (hsteps : 0 < spec.steps)
    (hagree : ∀ known ∈ specs, known.name = spec.name → known.steps = spec.steps) :
    ∃ r', r.add spec = (.ok (), r') ∧ r'.Holds (specs ++ [spec]).eraseDups := by
  by_cases hmem : spec ∈ specs
  · refine ⟨r, hr.add_of_mem (List.mem_eraseDups.2 hmem), ?_⟩
    rwa [eraseDups_concat_of_mem hmem]
  · have hname : spec.name ∉ specs.eraseDups.map (·.name) := fun hname =>
      hmem (List.mem_eraseDups.1 (mem_of_name_mem
        (fun known hknown => hagree known (List.mem_eraseDups.1 hknown)) hname))
    rw [eraseDups_concat_of_not_mem hmem]
    exact hr.add_of_new hname hsteps

/-- Declarations that agree are all registered, each once, in the order of their first
occurrences. -/
theorem exists_addAll_eq_ok {specs : List OperationSpec} (hsteps : ∀ spec ∈ specs, 0 < spec.steps)
    (hagree : OperationSpec.Agree specs) :
    ∃ r, empty.addAll specs = (.ok (), r) ∧ r.Holds specs.eraseDups := by
  induction specs using List.reverseRecOn with
  | nil => exact ⟨empty, rfl, empty_holds⟩
  | append_singleton specs spec ih =>
      obtain ⟨r, haddAll, hr⟩ := ih (fun other hmem => hsteps other (List.mem_append_left _ hmem))
        hagree.of_append_left
      obtain ⟨r', hadd, hr'⟩ := hr.exists_add (hsteps spec (by simp)) fun known hknown =>
        hagree known (List.mem_append_left _ hknown) spec (by simp)
      refine ⟨r', ?_, hr'⟩
      rw [addAll_append_of_ok haddAll, addAll, hadd]
      rfl

theorem Holds.resetPacing {r : Registration} {kinds : List OperationSpec} (hr : r.Holds kinds) :
    { r with store := r.store.resetPacing Store.registryTracker }.Holds kinds :=
  { hr with trackers := by simp [Store.resetPacing, hr.trackers, Store.registryTracker] }

end Registration

namespace Config

variable {c : Config}

theorem exists_register_holds (hsteps : ∀ spec ∈ c.operations, 0 < spec.steps)
    (hconsistent : c.Consistent) :
    ∃ r, c.register = (.ok (), r) ∧ r.Holds c.operations.eraseDups := by
  obtain ⟨r, haddAll, hr⟩ := Registration.exists_addAll_eq_ok hsteps hconsistent
  refine ⟨_, ?_, hr.resetPacing⟩
  rw [register, haddAll]

/-- A consistent configuration that was validated registers what it declares. -/
theorem exists_register_eq_ok (hvalid : c.Valid) (hconsistent : c.Consistent) :
    ∃ r kinds, c.register = (.ok (), r) ∧ r.Holds kinds ∧
      ∀ spec, spec ∈ kinds ↔ spec ∈ c.operations := by
  obtain ⟨r, hregister, hr⟩ :=
    exists_register_holds (fun spec hspec => (hvalid.steps spec hspec).1) hconsistent
  exact ⟨r, _, hregister, hr, fun _ => List.mem_eraseDups⟩

end Config

/-! ### What a registration offers to the workers -/

namespace Registration.Holds

variable {r : Registration} {kinds : List OperationSpec} {spec : OperationSpec} {h : Handle}

/-- The workers get the kinds that were registered. -/
theorem specs_eq (hr : r.Holds kinds) : r.specs = kinds := by
  rw [specs, hr.handles]
  apply List.ext_getElem?
  intro h
  have hspec : ∀ h ∈ List.range kinds.length,
      (r.store.aggregators[h]?.map fun a => (⟨a.operation, a.stepCount⟩ : OperationSpec)) =
        some (kinds.getD h default) := by
    intro h hmem
    have hh : h < kinds.length := List.mem_range.1 hmem
    have hget : kinds[h]? = some kinds[h] := List.getElem?_eq_getElem hh
    simp [hr.getElem?_aggregators, hget, Aggregator.fresh, Aggregator.stepCount]
  rw [List.filterMap_congr hspec]
  by_cases hh : h < kinds.length
  · simp [hh]
  · simp [hh]

theorem stepCounts_eq (hr : r.Holds kinds) : r.stepCounts = kinds.map (·.steps) := by
  rw [stepCounts, hr.specs_eq]

theorem trackerOf_eq (hr : r.Holds kinds) (target : Option Handle) :
    r.store.trackerOf target = Store.registryTracker := by
  cases target with
  | none => rfl
  | some h =>
      rw [Store.trackerOf, hr.getElem?_aggregators]
      cases kinds[h]? <;> rfl

/-- Nothing has been recorded on a kind before the workers start. -/
theorem unused (hr : r.Holds kinds) (hspec : kinds[h]? = some spec) :
    r.store.Unused h (.fresh spec.name spec.steps Store.registryTracker) := by
  constructor
  · rw [hr.getElem?_aggregators, hspec, Option.map_some]
  · simp [Aggregator.fresh, Aggregator.stepCount]
  · rfl
  · simp [Aggregator.fresh, hr.trackers, Store.registryTracker]
  · simp [Aggregator.fresh, Store.pacing, hr.trackers, Store.registryTracker]

end Registration.Holds

end StepLatency
