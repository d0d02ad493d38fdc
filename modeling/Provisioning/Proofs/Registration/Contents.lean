import Mathlib.Data.Finset.Card
import Mathlib.Data.List.Dedup
import Provisioning.Proofs.Registration.CallOrder
import Provisioning.Proofs.Script.Seal

/-!
# The contents of a store

What a store holds is decided by the calls that it has accepted.  In one step a store comes into
being, changes its seal, or takes up an accepted call; a call for a segment that has an entry is
accepted only if it asks for the same.  So the entry of a segment is what the first accepted call
for the segment asked for, and the calls that follow leave it as it is.
-/

namespace Provisioning

set_option autoImplicit false

/-- What the call asks for. -/
def RegisterCall.source (call : RegisterCall) : SourceSubnet :=
  ⟨call.segment, call.requested.role, call.requested.status⟩

namespace RegistrationStore

variable {s s' : RegistrationStore} {d d' : Deployment} {call : RegisterCall}
  {source other : SourceSubnet} {taken new : List SourceSubnet}
  {before after : Option RegistrationStore}

/-! ## Entries -/

/-- A segment has one entry at most. -/
theorem eq_of_mem_sources (mem : source ∈ s.sources) (mem' : other ∈ s.sources)
    (same : source.subnetId = other.subnetId) : source = other := by
  obtain ⟨segment, role, status⟩ := source
  obtain ⟨segment', role', status'⟩ := other
  cases same
  have registration : (⟨role, status⟩ : Registration) = ⟨role', status'⟩ :=
    SortedMap.eq_of_mem_entries (mem_sources.mp mem) (mem_sources.mp mem')
  cases registration
  rfl

/-- An accepted call adds what it asks for and keeps all entries. -/
theorem mem_sources_of_make (accepted : s.make d call = .ok (s', d')) :
    source ∈ s'.sources ↔ source ∈ s.sources ∨ source = call.source :=
  mem_sources_of_register accepted

theorem size_entries (s : RegistrationStore) : s.entries.size = s.sources.length := by
  rw [sources, List.length_map, SortedMap.size]

/-! ## Steps -/

/-- In a step a store is not there yet, comes into being, changes in nothing but its seal, or
accepts a call.  The list is what the accepted calls ask for. -/
inductive Step : Option RegistrationStore → List SourceSubnet → Option RegistrationStore → Prop
  | absent : Step none [] none
  | create (instanceId : ResourceId) (frontDoor : List String) :
      Step none [] (some (create instanceId frontDoor))
  | reseal {s s' : RegistrationStore} (same : s'.reopen = s.reopen) : Step (some s) [] (some s')
  | register {s s' : RegistrationStore} {d d' : Deployment} {call : RegisterCall}
      (accepted : s.make d call = .ok (s', d')) : Step (some s) [call.source] (some s')

/-- A store that is there stays, with all of its entries. -/
theorem Step.kept (step : Step (some s) new after) :
    ∃ s', after = some s' ∧ ∀ source ∈ s.sources, source ∈ s'.sources := by
  cases step with
  | reseal same => exact ⟨_, rfl, fun source mem => sources_eq_of_reopen_eq same ▸ mem⟩
  | register accepted =>
    exact ⟨_, rfl, fun source mem => (mem_sources_of_make accepted).mpr (.inl mem)⟩

/-- A step that may change a seal and nothing else. -/
theorem Step.of_map_reopen (same : after.map reopen = before.map reopen) :
    Step before [] after := by
  cases before with
  | none =>
    rw [Option.map_eq_none_iff.mp same]
    exact .absent
  | some s =>
    obtain ⟨s', rfl, resealed⟩ := Option.map_eq_some_iff.mp same
    exact .reseal resealed

/-! ## What has been accepted -/

/-- The entries are, segment by segment, what was taken first. -/
structure Records (taken : List SourceSubnet) (s : RegistrationStore) : Prop where
  mem_sources_iff : ∀ source, source ∈ s.sources ↔
    taken.find? (·.subnetId = source.subnetId) = some source
  isRegistrable : ∀ source ∈ taken, source.IsRegistrable

/-- Nothing is taken for a store that is not there. -/
def RecordedIn (taken : List SourceSubnet) : Option RegistrationStore → Prop
  | none => taken = []
  | some s => s.Records taken

theorem records_create (instanceId : ResourceId) (frontDoor : List String) :
    (create instanceId frontDoor).Records [] where
  mem_sources_iff _ := iff_of_false List.not_mem_nil (Option.some_ne_none _).symm
  isRegistrable _ mem := absurd mem List.not_mem_nil

namespace Records

theorem reseal (records : s.Records taken) (same : s'.reopen = s.reopen) : s'.Records taken :=
  ⟨sources_eq_of_reopen_eq same ▸ records.mem_sources_iff, records.isRegistrable⟩

/-- A call that is accepted decides the entry of its segment if it is the first one. -/
theorem register (records : s.Records taken) (accepted : s.make d call = .ok (s', d')) :
    s'.Records (taken ++ [call.source]) := by
  refine ⟨fun source => ?_, fun source mem => ?_⟩
  · rw [mem_sources_of_make accepted, List.find?_append]
    cases first : taken.find? (·.subnetId = source.subnetId) with
    | none =>
      have isNew : source ∉ s.sources := by
        rw [records.mem_sources_iff, first]
        exact (Option.some_ne_none _).symm
      rw [Option.none_or, or_iff_right isNew]
      constructor
      · rintro rfl
        exact List.find?_cons_of_pos (decide_eq_true rfl)
      · intro found
        exact (List.mem_singleton.mp (List.mem_of_find?_eq_some found))
    | some earlier =>
      have segment : earlier.subnetId = source.subnetId := by simpa using List.find?_some first
      have isEntry : earlier ∈ s.sources := by
        rw [records.mem_sources_iff, segment, first]
      rw [Option.some_or, Option.some_inj]
      constructor
      · intro mem
        exact eq_of_mem_sources ((mem_sources_of_make accepted).mpr (.inl isEntry))
          ((mem_sources_of_make accepted).mpr mem) segment
      · rintro rfl
        exact .inl isEntry
  · rcases List.mem_append.mp mem with old | new
    · exact records.isRegistrable source old
    · obtain ⟨registrable, valid, _⟩ := register_eq_ok_iff.mp accepted
      cases List.mem_singleton.mp new
      exact ⟨valid, registrable⟩

theorem mem_of_mem_sources (records : s.Records taken) (mem : source ∈ s.sources) :
    source ∈ taken :=
  List.mem_of_find?_eq_some ((records.mem_sources_iff source).mp mem)

/-- A segment has an entry when something was taken for it. -/
theorem mem_segments_iff (records : s.Records taken) (segment : String) :
    segment ∈ s.sources.map (·.subnetId) ↔ segment ∈ taken.map (·.subnetId) := by
  rw [List.mem_map, List.mem_map]
  constructor
  · rintro ⟨source, mem, rfl⟩
    exact ⟨source, records.mem_of_mem_sources mem, rfl⟩
  · rintro ⟨source, mem, rfl⟩
    obtain ⟨first, found⟩ : ∃ first, taken.find? (·.subnetId = source.subnetId) = some first :=
      Option.isSome_iff_exists.mp (List.find?_isSome.mpr ⟨source, mem, decide_eq_true rfl⟩)
    have same : first.subnetId = source.subnetId := by simpa using List.find?_some found
    exact ⟨first, (records.mem_sources_iff first).mpr (same ▸ found), same⟩

/-- There are as many entries as segments for which something was taken. -/
theorem size_eq_card (records : s.Records taken) :
    s.entries.size = (taken.map (·.subnetId)).toFinset.card := by
  have distinct : (s.sources.map (·.subnetId)).Nodup := by
    refine (List.pairwise_map.mpr s.pairwise_sources).imp ?_
    rintro first second less rfl
    exact Std.lt_irrefl less
  have segments : (s.sources.map (·.subnetId)).toFinset = (taken.map (·.subnetId)).toFinset := by
    ext segment
    rw [List.mem_toFinset, List.mem_toFinset, records.mem_segments_iff]
  rw [size_entries, ← segments, List.toFinset_card_of_nodup distinct, List.length_map]

end Records

/-- **A step keeps the record**, with what it takes behind what was taken before. -/
theorem RecordedIn.step (recorded : RecordedIn taken before) (step : Step before new after) :
    RecordedIn (taken ++ new) after := by
  cases step with
  | absent => exact (List.append_nil taken).trans recorded
  | create instanceId frontDoor =>
    cases recorded
    exact records_create instanceId frontDoor
  | reseal same =>
    rw [List.append_nil]
    exact Records.reseal recorded same
  | register accepted => exact Records.register recorded accepted

end RegistrationStore

end Provisioning
