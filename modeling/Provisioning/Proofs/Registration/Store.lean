import Provisioning.Proofs.Registration.SourceSubnet
import Provisioning.Proofs.Result
import Provisioning.Proofs.SortedMap
import Provisioning.Registration.Store

/-!
# What a store can hold

A store changes only when a call to register succeeds, and that it does only for a
segment id and a role that registration may give.  So in every state that a store
can reach its registrations can be written as text and read back.
-/

namespace Provisioning

set_option autoImplicit false

namespace RegistrationStore

/-! ## Registering -/

section Register

variable {s s' : RegistrationStore} {d d' : Deployment} {segment : String}
  {requested : Registration} {dependent : ResourceId}

theorem checkOpen_eq_ok_iff : s.checkOpen segment = .ok () ↔ s.isSealed = false := by
  rw [checkOpen, Result.refuse_eq_ok_iff, Bool.not_eq_true]

theorem checkAgreement_eq_ok_iff :
    s.checkAgreement segment requested = .ok () ↔
      ∀ existing, s.entries.get? segment = some existing → existing = requested := by
  rw [checkAgreement]
  match s.entries.get? segment with
  | none => simp
  | some existing => simp

/-- A call to register succeeds when nothing speaks against it, and then it adds the
segment and the dependency. -/
theorem register_eq_ok_iff :
    s.register d segment requested dependent = .ok (s', d') ↔
      requested.role.isRegistrable = true ∧ isSubnetId segment = true ∧ s.isSealed = false ∧
      (∀ existing, s.entries.get? segment = some existing → existing = requested) ∧
      d.addDependency dependent s.instanceId = .ok d' ∧
      s' = { s with entries := s.entries.insert segment requested } := by
  rw [register, Result.refuse_bind_eq_ok_iff, Result.check_bind_eq_ok_iff,
    Result.check_bind_eq_ok_iff, Result.check_bind_eq_ok_iff, Result.bind_eq_ok_iff,
    checkSubnetId_eq_ok_iff, checkOpen_eq_ok_iff, checkAgreement_eq_ok_iff, Bool.not_eq_true',
    Bool.not_eq_false]
  constructor
  · rintro ⟨registrable, valid, isOpen, agrees, d'', added, same⟩
    cases same
    exact ⟨registrable, valid, isOpen, agrees, added, rfl⟩
  · rintro ⟨registrable, valid, isOpen, agrees, added, rfl⟩
    exact ⟨registrable, valid, isOpen, agrees, d', added, rfl⟩

end Register

/-! ## Reachable states -/

/-- A store can be brought into a state by registering, sealing and opening again. -/
inductive Reachable : RegistrationStore → Prop
  | create (instanceId : ResourceId) (frontDoor : List String) :
      Reachable (create instanceId frontDoor)
  | register {s s' : RegistrationStore} {d d' : Deployment} {segment : String}
      {requested : Registration} {dependent : ResourceId} (before : Reachable s)
      (accepted : s.register d segment requested dependent = .ok (s', d')) : Reachable s'
  | close {s : RegistrationStore} (before : Reachable s) : Reachable s.close
  | reopen {s : RegistrationStore} (before : Reachable s) : Reachable s.reopen

@[simp] theorem sources_close (s : RegistrationStore) : s.close.sources = s.sources := rfl

/-- The registrations are listed in the order of their ids. -/
theorem pairwise_sources (s : RegistrationStore) :
    s.sources.Pairwise (·.subnetId < ·.subnetId) :=
  List.pairwise_map.mpr s.entries.sorted

/-- An entry of a store is one of its registrations. -/
theorem mem_sources {s : RegistrationStore} {source : SourceSubnet} :
    source ∈ s.sources ↔ (source.subnetId, ⟨source.role, source.status⟩) ∈ s.entries.entries := by
  rw [sources, List.mem_map]
  constructor
  · rintro ⟨⟨segment, registration⟩, mem, rfl⟩
    exact mem
  · intro mem
    exact ⟨_, mem, rfl⟩

/-- An accepted call adds its registration and keeps all others. -/
theorem mem_sources_of_register {s s' : RegistrationStore} {d d' : Deployment} {segment : String}
    {requested : Registration} {dependent : ResourceId} {source : SourceSubnet}
    (accepted : s.register d segment requested dependent = .ok (s', d')) :
    source ∈ s'.sources ↔
      source ∈ s.sources ∨ source = ⟨segment, requested.role, requested.status⟩ := by
  obtain ⟨_, _, _, agrees, _, rfl⟩ := register_eq_ok_iff.mp accepted
  have isNew : (source.subnetId, (⟨source.role, source.status⟩ : Registration)) =
      (segment, requested) ↔ source = ⟨segment, requested.role, requested.status⟩ := by
    constructor
    · intro same
      cases same
      rfl
    · rintro rfl
      rfl
  rw [mem_sources, mem_sources, SortedMap.mem_entries_insert, isNew]
  constructor
  · rintro (same | ⟨old, _⟩)
    · exact .inr same
    · exact .inl old
  · rintro (old | same)
    · by_cases again : source.subnetId = segment
      · refine .inl (isNew.mp ?_)
        rw [again] at old ⊢
        rw [agrees _ (SortedMap.get?_eq_some_iff.mpr old)]
      · exact .inr ⟨old, again⟩
    · exact .inl same

/-- **Everything in a store could be registered.** -/
theorem Reachable.isRegistrable {s : RegistrationStore} (reachable : s.Reachable) :
    ∀ source ∈ s.sources, source.IsRegistrable := by
  induction reachable with
  | create instanceId frontDoor =>
    intro source mem
    cases mem
  | register before accepted ih =>
    obtain ⟨registrable, valid, _, _, _, rfl⟩ := register_eq_ok_iff.mp accepted
    intro source mem
    rcases SortedMap.eq_or_mem_of_mem_insertEntry (mem_sources.mp mem) with same | old
    · obtain ⟨isSegment, isRequested⟩ := Prod.mk.inj same
      have isRole : source.role = _ := congrArg Registration.role isRequested
      exact ⟨isSegment ▸ valid, isRole ▸ registrable⟩
    · exact ih source (mem_sources.mpr old)
  | close before ih => exact ih
  | reopen before ih => exact ih

end RegistrationStore

end Provisioning
