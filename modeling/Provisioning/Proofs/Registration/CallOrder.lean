import Provisioning.Proofs.Deployment.Graph
import Provisioning.Proofs.Registration.Store

/-!
# Calls to register in any order

A call reads what is registered for its own segment and who depends on the instance,
and it writes nothing else.  So two calls that are both accepted may change places,
and then so may the calls of any list.  Two calls that want different registrations
for one segment cannot both be accepted, whoever comes first.
-/

namespace Provisioning

set_option autoImplicit false

/-- A call that registers a segment. -/
structure RegisterCall where
  segment : String
  requested : Registration
  dependent : ResourceId
  deriving DecidableEq

/-- Nothing but another registration can speak against the call, as long as the store and
the deployment are open. -/
structure RegisterCall.Acceptable (call : RegisterCall) (d : Deployment)
    (instanceId : ResourceId) : Prop where
  isRegistrable : call.requested.role.isRegistrable = true
  isSubnetId : isSubnetId call.segment = true
  declares : d.declares call.dependent = true
  differ : call.dependent ≠ instanceId

namespace RegistrationStore

variable {s s' s'' : RegistrationStore} {d d' d'' : Deployment} {p q : RegisterCall}
  {calls calls' : List RegisterCall}

/-- Makes a call. -/
def make (s : RegistrationStore) (d : Deployment) (call : RegisterCall) :
    Result (RegistrationStore × Deployment) :=
  s.register d call.segment call.requested call.dependent

/-- Makes calls one after another, up to the first that fails. -/
def makeAll (s : RegistrationStore) (d : Deployment) (calls : List RegisterCall) :
    Result (RegistrationStore × Deployment) :=
  calls.foldlM (fun (s, d) call => s.make d call) (s, d)

/-- Calls are all accepted when the first is, and the others are after it. -/
theorem makeAll_cons_eq_ok_iff :
    s.makeAll d (p :: calls) = .ok (s'', d'') ↔
      ∃ s' d', s.make d p = .ok (s', d') ∧ s'.makeAll d' calls = .ok (s'', d'') := by
  rw [makeAll, List.foldlM_cons, Result.bind_eq_ok_iff]
  constructor
  · rintro ⟨⟨s', d'⟩, head, tail⟩
    exact ⟨s', d', head, tail⟩
  · rintro ⟨s', d', head, tail⟩
    exact ⟨(s', d'), head, tail⟩

/-! ## Changing places -/

/-- Two calls that are accepted one after the other are accepted the other way round, and
leave the same behind. -/
theorem make_comm (first : s.make d p = .ok (s', d')) (second : s'.make d' q = .ok (s'', d'')) :
    ∃ between d₁, s.make d q = .ok (between, d₁) ∧ between.make d₁ p = .ok (s'', d'') := by
  obtain ⟨registrable, valid, isOpen, agrees, added, rfl⟩ := register_eq_ok_iff.mp first
  obtain ⟨registrable', valid', _, agrees', added', rfl⟩ := register_eq_ok_iff.mp second
  have agree : p.segment = q.segment → p.requested = q.requested := by
    intro same
    refine agrees' _ ?_
    rw [← same]
    exact SortedMap.get?_insert_self _ _ _
  obtain ⟨d₁, early, late⟩ := Deployment.addDependency_comm added added'
  refine ⟨_, d₁, register_eq_ok_iff.mpr ⟨registrable', valid', isOpen, ?_, early, rfl⟩,
    register_eq_ok_iff.mpr ⟨registrable, valid, isOpen, ?_, late, ?_⟩⟩
  · intro existing found
    by_cases same : q.segment = p.segment
    · rw [same] at found
      rw [agrees existing found, agree same.symm]
    · exact agrees' existing ((SortedMap.get?_insert_of_ne same).trans found)
  · intro existing found
    by_cases same : p.segment = q.segment
    · rw [same, SortedMap.get?_insert_self] at found
      rw [← Option.some.inj found, agree same]
    · rw [SortedMap.get?_insert_of_ne same] at found
      exact agrees existing found
  · rw [SortedMap.insert_comm agree]

/-- **Calls that are all accepted in one order are all accepted in every order**, and leave
the same store and the same deployment behind. -/
theorem makeAll_perm (perm : calls.Perm calls') (made : s.makeAll d calls = .ok (s'', d'')) :
    s.makeAll d calls' = .ok (s'', d'') := by
  induction perm generalizing s d with
  | nil => exact made
  | cons p perm ih =>
    obtain ⟨s', d', head, tail⟩ := makeAll_cons_eq_ok_iff.mp made
    exact makeAll_cons_eq_ok_iff.mpr ⟨s', d', head, ih tail⟩
  | swap p q rest =>
    obtain ⟨s₁, d₁, first, tail⟩ := makeAll_cons_eq_ok_iff.mp made
    obtain ⟨s₂, d₂, second, rest⟩ := makeAll_cons_eq_ok_iff.mp tail
    obtain ⟨between, d₃, early, late⟩ := make_comm first second
    exact makeAll_cons_eq_ok_iff.mpr
      ⟨between, d₃, early, makeAll_cons_eq_ok_iff.mpr ⟨s₂, d₂, late, rest⟩⟩
  | trans _ _ ih ih' => exact ih' (ih made)

/-! ## Calls that disagree -/

/-- A call that is acceptable by itself is accepted, or another registration stands against
it. -/
theorem make_of_acceptable (acceptable : p.Acceptable d s.instanceId) (isOpen : s.isSealed = false)
    (unfinalized : d.isFinalized = false) (declared : d.declares s.instanceId = true) :
    (∃ disagreement, s.make d p = .error (.conflict disagreement)) ∨
      ∃ s' d', s.make d p = .ok (s', d') := by
  have added := Deployment.addDependency_eq_ok_iff.mpr
    ⟨unfinalized, acceptable.declares, declared, acceptable.differ, rfl⟩
  by_cases agrees : ∀ existing, s.entries.get? p.segment = some existing → existing = p.requested
  · exact .inr ⟨_, _, register_eq_ok_iff.mpr
      ⟨acceptable.isRegistrable, acceptable.isSubnetId, isOpen, agrees, added, rfl⟩⟩
  · push Not at agrees
    obtain ⟨existing, found, differ⟩ := agrees
    refine .inl ⟨{ segment := p.segment, existing, requested := p.requested }, ?_⟩
    have opened : s.checkOpen p.segment = .ok () := checkOpen_eq_ok_iff.mpr isOpen
    have disagrees : s.checkAgreement p.segment p.requested =
        .error (.conflict { segment := p.segment, existing, requested := p.requested }) := by
      rw [checkAgreement, found]
      exact if_neg differ
    rw [make, register, if_neg (by simp [acceptable.isRegistrable])]
    change (checkSubnetId p.segment >>= _) = _
    rw [checkSubnetId_eq_ok_iff.mpr acceptable.isSubnetId, Result.ok_bind, opened, Result.ok_bind,
      disagrees]
    rfl

/-- An accepted call gives its segment the registration it asked for, and changes no other
segment. -/
theorem get?_of_make (made : s.make d p = .ok (s', d')) :
    s'.entries.get? p.segment = some p.requested ∧
      ∀ segment registration, s.entries.get? segment = some registration →
        s'.entries.get? segment = some registration := by
  obtain ⟨_, _, _, agrees, _, rfl⟩ := register_eq_ok_iff.mp made
  refine ⟨SortedMap.get?_insert_self _ _ _, fun segment registration found => ?_⟩
  by_cases same : segment = p.segment
  · subst same
    rw [SortedMap.get?_insert_self, agrees registration found]
  · rw [SortedMap.get?_insert_of_ne same, found]

end RegistrationStore

end Provisioning
