import Provisioning.Proofs.Deployment.Steps
import Provisioning.Proofs.Registration.CallOrder

/-!
# Calls that are refused

A call to register works on two things that are shared, a store and the deployment of its
instance.  There are nine reasons to refuse it, and four of them are found in the deployment,
when the store has already agreed.  A call that is refused has changed neither of the two,
and a call for which there is no reason is accepted.
-/

namespace Provisioning

set_option autoImplicit false

/-! ## Reasons -/

/-- A reason to refuse a call, with the error that tells it. -/
inductive RegisterCall.RefusedFor (call : RegisterCall) (s : RegistrationStore) (d : Deployment) :
    Error → Prop
  | administrator (isAdministrator : call.requested.role = .administrator) :
      RefusedFor call s d (.administratorSegment call.segment)
  | noSegment (isEmpty : call.segment = "") : RefusedFor call s d (.config .emptySubnetId)
  | unsafeSegment (notId : isSubnetId call.segment = false) :
      RefusedFor call s d (.config (.unsafeSubnetId call.segment))
  | sealed (isSealed : s.isSealed = true) :
      RefusedFor call s d (.state (.registrationsRendered call.segment))
  | conflict {existing : Registration} (found : s.entries.get? call.segment = some existing)
      (differ : existing ≠ call.requested) :
      RefusedFor call s d
        (.conflict { segment := call.segment, existing, requested := call.requested })
  | finalized (isFinalized : d.isFinalized = true) :
      RefusedFor call s d (.state .deploymentFinalized)
  | unknownDependent (undeclared : d.declares call.dependent = false) :
      RefusedFor call s d (.graph (.unknownResource call.dependent))
  | unknownInstance (undeclared : d.declares s.instanceId = false) :
      RefusedFor call s d (.graph (.unknownResource s.instanceId))
  | ownDependent (same : call.dependent = s.instanceId) :
      RefusedFor call s d (.graph (.selfDependency call.dependent))

namespace RegistrationStore

variable {s s' : RegistrationStore} {d d' : Deployment} {call : RegisterCall} {e : Error}

/-- What is looked at before the deployment is. -/
def vet (s : RegistrationStore) (call : RegisterCall) : Result Unit := do
  if !call.requested.role.isRegistrable then throw (.administratorSegment call.segment)
  checkSubnetId call.segment
  s.checkOpen call.segment
  s.checkAgreement call.segment call.requested

/-- The store with the registration that a call wants. -/
def enter (s : RegistrationStore) (call : RegisterCall) : RegistrationStore :=
  { s with entries := s.entries.insert call.segment call.requested }

/-- A call is made when it passes and the deployment takes its dependency. -/
theorem make_eq (s : RegistrationStore) (d : Deployment) (call : RegisterCall) :
    s.make d call = s.vet call >>= fun _ =>
      (d.addDependency call.dependent s.instanceId).map fun d' => (s.enter call, d') := by
  rw [make, register, vet]
  split
  next => rfl
  next =>
    simp only [bind_assoc]
    refine bind_congr fun _ => bind_congr fun _ => bind_congr fun _ => ?_
    cases d.addDependency call.dependent s.instanceId with
    | error e => rfl
    | ok d' => rfl

theorem agrees_of_vet (vetted : s.vet call = .ok ()) :
    ∀ existing, s.entries.get? call.segment = some existing → existing = call.requested := by
  rw [vet, Result.refuse_bind_eq_ok_iff, Result.check_bind_eq_ok_iff,
    Result.check_bind_eq_ok_iff] at vetted
  obtain ⟨_, _, _, agrees⟩ := vetted
  exact checkAgreement_eq_ok_iff.mp agrees

theorem refusedFor_of_vet (failed : s.vet call = .error e) : call.RefusedFor s d e := by
  rw [vet, Result.refuse_bind_eq_error_iff, Result.check_bind_eq_error_iff,
    Result.check_bind_eq_error_iff] at failed
  rcases failed with ⟨isAdministrator, rfl⟩ | ⟨_, badId | ⟨_, isClosed | ⟨_, disagrees⟩⟩⟩
  · rw [Bool.not_eq_true', ← Bool.not_eq_true, ClientRole.isRegistrable_iff, not_not]
      at isAdministrator
    exact .administrator isAdministrator
  · rw [checkSubnetId] at badId
    split at badId
    next isEmpty =>
      cases badId
      exact .noSegment isEmpty
    next =>
      obtain ⟨notId, rfl⟩ := Result.require_eq_error_iff.mp badId
      exact .unsafeSegment (Bool.not_eq_true _ ▸ notId)
  · rw [checkOpen] at isClosed
    obtain ⟨isSealed, rfl⟩ := Result.refuse_eq_error_iff.mp isClosed
    exact .sealed isSealed
  · rw [checkAgreement] at disagrees
    split at disagrees
    next => cases disagrees
    next existing found =>
      obtain ⟨differ, rfl⟩ := Result.require_eq_error_iff.mp disagrees
      exact .conflict found differ

theorem refusedFor_of_addDependency
    (failed : d.addDependency call.dependent s.instanceId = .error e) : call.RefusedFor s d e := by
  rw [Deployment.addDependency, Result.check_bind_eq_error_iff, Result.check_bind_eq_error_iff,
    Result.check_bind_eq_error_iff, Result.refuse_bind_eq_error_iff, Deployment.checkOpen,
    Deployment.checkDeclared, Deployment.checkDeclared, Result.refuse_eq_error_iff,
    Result.require_eq_error_iff, Result.require_eq_error_iff] at failed
  rcases failed with ⟨isFinalized, rfl⟩ | ⟨_, ⟨undeclared, rfl⟩ | ⟨_, ⟨undeclared, rfl⟩ |
    ⟨_, ⟨same, rfl⟩ | ⟨_, ⟨⟩⟩⟩⟩⟩
  · exact .finalized isFinalized
  · exact .unknownDependent (Bool.not_eq_true _ ▸ undeclared)
  · exact .unknownInstance (Bool.not_eq_true _ ▸ undeclared)
  · exact .ownDependent same

/-- A call that fails fails for a reason. -/
theorem refusedFor_of_make (failed : s.make d call = .error e) : call.RefusedFor s d e := by
  rw [make_eq, Result.check_bind_eq_error_iff, Result.map_eq_error_iff] at failed
  rcases failed with notVetted | ⟨_, notAdded⟩
  · exact refusedFor_of_vet notVetted
  · exact refusedFor_of_addDependency notAdded

/-- There is no reason to refuse a call that is accepted. -/
theorem not_refusedFor_of_make (made : s.make d call = .ok (s', d')) :
    ¬ call.RefusedFor s d e := by
  obtain ⟨registrable, isId, isOpen, agrees, added, _⟩ := register_eq_ok_iff.mp made
  obtain ⟨unfinalized, hasDependent, hasInstance, differ, _⟩ :=
    Deployment.addDependency_eq_ok_iff.mp added
  intro refused
  cases refused with
  | administrator isAdministrator =>
    rw [isAdministrator] at registrable
    cases registrable
  | noSegment isEmpty =>
    rw [isEmpty, isSubnetId_empty] at isId
    cases isId
  | unsafeSegment notId =>
    rw [notId] at isId
    cases isId
  | sealed isSealed =>
    rw [isSealed] at isOpen
    cases isOpen
  | conflict found disagree => exact disagree (agrees _ found)
  | finalized isFinalized =>
    rw [isFinalized] at unfinalized
    cases unfinalized
  | unknownDependent undeclared =>
    rw [undeclared] at hasDependent
    cases hasDependent
  | unknownInstance undeclared =>
    rw [undeclared] at hasInstance
    cases hasInstance
  | ownDependent same => exact differ same

end RegistrationStore

/-! ## A call in steps -/

/-- A store and the deployment of its instance, with what was reported so far. -/
structure Ledger where
  store : RegistrationStore
  deployment : Deployment
  reported : List Event
  deriving DecidableEq

namespace RegisterCall

open InPlace (on_bind_of_ok on_bind_of_error on_lift on_get on_modify on_onPart)

/-- Orders the dependent after the instance. -/
def orderDependent (call : RegisterCall) : InPlace Ledger Unit := do
  let instanceId := (← get).store.instanceId
  (Deployment.orderSteps call.dependent instanceId).onPart (·.deployment)
    fun l deployment => { l with deployment }

/-- Enters the segment, unless it is there. -/
def enterSegment (call : RegisterCall) : InPlace Ledger Unit :=
  modify fun l =>
    if (l.store.entries.get? call.segment).isNone then { l with store := l.store.enter call } else l

/-- Warns when the segment is one of the front door. -/
def warn (call : RegisterCall) : InPlace Ledger Unit :=
  modify fun l =>
    if l.store.frontDoor.contains call.segment then
      { l with reported := l.reported ++ [.frontDoorOverlap call.segment] }
    else l

/-- Makes the call, step by step. -/
def steps (call : RegisterCall) : InPlace Ledger Unit := do
  (← get).store.vet call
  call.orderDependent
  call.enterSegment
  call.warn

/-- The segment that is there already is there with what is wanted, so the store is the same
whether the segment is entered again or not. -/
theorem enterSegment_on {call : RegisterCall} {l : Ledger}
    (agrees : ∀ existing, l.store.entries.get? call.segment = some existing →
      existing = call.requested) :
    call.enterSegment.on l = (.ok (), { l with store := l.store.enter call }) := by
  rw [enterSegment, on_modify]
  cases found : l.store.entries.get? call.segment with
  | none => rfl
  | some existing =>
    have same : l.store.enter call = l.store := by
      rw [RegistrationStore.enter, SortedMap.insert_of_get? (agrees existing found ▸ found)]
    rw [same]
    rfl

theorem orderDependent_on (call : RegisterCall) (l : Ledger) :
    call.orderDependent.on l =
      InPlace.settled ((l.deployment.addDependency call.dependent l.store.instanceId).map
        fun deployment => ((), { l with deployment })) l := by
  rw [orderDependent, on_bind_of_ok (on_get l), on_onPart, Deployment.orderSteps_on]
  cases l.deployment.addDependency call.dependent l.store.instanceId with
  | error e => rfl
  | ok d' => rfl

theorem warn_on (call : RegisterCall) (l : Ledger) :
    call.warn.on l =
      (.ok (), { l with reported := l.reported ++ l.store.warnings call.segment }) := by
  rw [warn, on_modify, RegistrationStore.warnings]
  split
  next => rfl
  next => rw [List.append_nil]

/-- In steps, a call comes to the same: the store and the deployment change together or not
at all. -/
theorem steps_on (call : RegisterCall) (l : Ledger) :
    call.steps.on l =
      InPlace.settled ((l.store.make l.deployment call).map fun (store, deployment) =>
        ((), { store, deployment, reported := l.reported ++ store.warnings call.segment })) l := by
  rw [steps, on_bind_of_ok (on_get l), RegistrationStore.make_eq]
  rcases vetted : l.store.vet call with e | ⟨⟩
  · rw [on_bind_of_error (on_lift _ l)]
    rfl
  · rw [on_bind_of_ok (on_lift _ l)]
    rcases added : l.deployment.addDependency call.dependent l.store.instanceId with e | d'
    · have notOrdered : call.orderDependent.on l = (.error e, l) := by
        rw [orderDependent_on, added]
        rfl
      rw [on_bind_of_error notOrdered]
      rfl
    · have ordered : call.orderDependent.on l = (.ok (), { l with deployment := d' }) := by
        rw [orderDependent_on, added]
        rfl
      have entered : call.enterSegment.on { l with deployment := d' } = _ :=
        enterSegment_on (RegistrationStore.agrees_of_vet vetted)
      rw [on_bind_of_ok ordered, on_bind_of_ok entered, warn_on]
      rfl

end RegisterCall

end Provisioning
