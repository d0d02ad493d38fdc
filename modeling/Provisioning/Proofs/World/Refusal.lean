import Provisioning.Proofs.Registration.Refusal
import Provisioning.Proofs.World.CallOrder

/-!
# Registering all or nothing

A call to register reaches a store and the deployment in whatever state they are, open or
sealed, finalized or not.  It is refused exactly when there is a reason to, and then the
world is the same as before and nothing is reported.  Otherwise the registration and the
dependency are there, and nothing else is new.
-/

namespace Provisioning

set_option autoImplicit false

namespace World

variable {w w' : World} {id : StoreId} {s : RegistrationStore} {call : RegisterCall}
  {answer : Answer}

/-- **A call to register is atomic.**  When it is refused, there is a reason for that, and
neither the store nor the deployment nor anything else has changed, not even when it is
carried out in steps; nothing is reported.  It is refused whenever there is a reason.  When
it is accepted, the store has its registrations and the one that was wanted, the deployment
has its dependencies and that of the dependent on the instance, nothing else has changed, and
there is one warning for a segment of the front door and none for another. -/
theorem register_atomic (held : w.environment.store? id = some s)
    (applied : w.apply (call.on id) = (answer, w')) :
    (∀ e, answer.result = .error e →
      call.RefusedFor s w.deployment e ∧ w' = w ∧ answer.events = [] ∧
        ∀ reported, call.steps.on ⟨s, w.deployment, reported⟩ =
          (.error e, ⟨s, w.deployment, reported⟩)) ∧
    (∀ e, call.RefusedFor s w.deployment e → ∃ e', answer.result = .error e') ∧
    ∀ reply, answer.result = .ok reply → ∃ s' d',
      w' = ({ w with deployment := d' } : World).setStore id s' ∧
      (∀ source, source ∈ s'.sources ↔ source ∈ s.sources ∨
        source = ⟨call.segment, call.requested.role, call.requested.status⟩) ∧
      s' = { s with entries := s'.entries } ∧
      (∀ dependent dependency, d'.DependsOn dependent dependency ↔
        (dependent = call.dependent ∧ dependency = s.instanceId) ∨
          w.deployment.DependsOn dependent dependency) ∧
      d' = { w.deployment with edges := d'.edges } ∧
      answer.events =
        (if call.segment ∈ s.frontDoor then [.frontDoorOverlap call.segment] else []) ∧
      ∀ reported, call.steps.on ⟨s, w.deployment, reported⟩ =
        (.ok (), ⟨s', d', reported ++ answer.events⟩) := by
  rcases made : s.make w.deployment call with e | ⟨s', d'⟩
  · rw [apply_on_of_error held made] at applied
    cases applied
    refine ⟨?_, fun _ _ => ⟨e, rfl⟩, fun _ => nofun⟩
    rintro _ ⟨⟩
    refine ⟨RegistrationStore.refusedFor_of_make made, rfl, rfl, fun reported => ?_⟩
    rw [RegisterCall.steps_on, made]
    rfl
  · rw [apply_on_of_ok held made] at applied
    cases applied
    refine ⟨fun _ => nofun, fun e refused =>
      absurd refused (RegistrationStore.not_refusedFor_of_make made), fun _ _ => ?_⟩
    have inSteps : ∀ reported, call.steps.on ⟨s, w.deployment, reported⟩ =
        (.ok (), ⟨s', d', reported ++ s'.warnings call.segment⟩) := by
      intro reported
      rw [RegisterCall.steps_on, made]
      rfl
    have isSource : ∀ source, source ∈ s'.sources ↔ source ∈ s.sources ∨
        source = ⟨call.segment, call.requested.role, call.requested.status⟩ :=
      fun _ => RegistrationStore.mem_sources_of_register made
    obtain ⟨_, _, _, _, added, rfl⟩ := RegistrationStore.register_eq_ok_iff.mp made
    refine ⟨_, d', rfl, isSource, rfl,
      fun _ _ => Deployment.dependsOn_addDependency added, ?_, ?_, inSteps⟩
    · obtain ⟨_, _, _, _, rfl⟩ := Deployment.addDependency_eq_ok_iff.mp added
      rfl
    · simp only [RegistrationStore.acceptance, RegistrationStore.warnings, List.contains_iff_mem]

/-- The repository registers a segment and wants to wait for itself. -/
def ownCall (segment : String) : RegisterCall :=
  ⟨segment, ⟨.client, .registered⟩, ⟨"Repository"⟩⟩

theorem register_atomic_fleet :
    openFarm.environment.store? ⟨0⟩ = some (.create ⟨"Repository"⟩ ["subnet-a"]) ∧
    (∃ d', (openFarm.apply ((fleetCall "subnet-a").on ⟨0⟩)).2.deployment = d' ∧
      d'.DependsOn ⟨"Fleet"⟩ ⟨"Repository"⟩) ∧
    (openFarm.apply ((fleetCall "subnet-a").on ⟨0⟩)).1.events = [.frontDoorOverlap "subnet-a"] ∧
    (openFarm.apply ((ownCall "subnet-a").on ⟨0⟩)).2 = openFarm ∧
    (openFarm.apply ((ownCall "subnet-a").on ⟨0⟩)).1.events = [] := by
  have held : openFarm.environment.store? ⟨0⟩ =
      some (.create ⟨"Repository"⟩ ["subnet-a"]) := rfl
  have accepted : (openFarm.apply ((fleetCall "subnet-a").on ⟨0⟩)).1.result = .ok .done := by
    decide +kernel
  have refused : (openFarm.apply ((ownCall "subnet-a").on ⟨0⟩)).1.result =
      .error (.graph (.selfDependency ⟨"Repository"⟩)) := by
    decide +kernel
  obtain ⟨_, _, onOk⟩ := register_atomic held
    (show openFarm.apply ((fleetCall "subnet-a").on ⟨0⟩) = (_, _) from rfl)
  obtain ⟨s', d', isWorld, _, _, depends, _, events, _⟩ := onOk _ accepted
  obtain ⟨onError, _⟩ := register_atomic held
    (show openFarm.apply ((ownCall "subnet-a").on ⟨0⟩) = (_, _) from rfl)
  obtain ⟨_, unchanged, silent, _⟩ := onError _ refused
  exact ⟨held, ⟨d', congrArg World.deployment isWorld, (depends _ _).mpr (.inl ⟨rfl, rfl⟩)⟩,
    events, unchanged, silent⟩

end World

end Provisioning
