import Provisioning.Proofs.Deployment.Steps
import Provisioning.Proofs.World.Growth
import Provisioning.Proofs.World.Promises

/-!
# The graph in every state of a run

Whatever is done in a world, the declared resources have well-formed paths and the
dependencies join two distinct ones of them.  The graph only grows, and a call on it that
fails leaves it as it was.  Once the deployment is finalized the graph is what it is: no
run changes it, and every further call on it is refused.
-/

namespace Provisioning

set_option autoImplicit false

/-- A path names a resource when it is not empty and has no empty component.  The empty
path is one empty component. -/
theorem ResourceId.isValidPath_iff {path : String} :
    isValidPath path = true ↔ path ≠ "" ∧ [] ∉ components path := by
  have isValid : isValidPath path = true ↔ [] ∉ components path := by
    rw [isValidPath, List.all_eq_true]
    constructor
    · intro some mem
      cases some [] mem
    · intro none component mem
      cases component with
      | nil => exact absurd mem none
      | cons c rest => rfl
  rw [isValid, iff_and_self]
  rintro none rfl
  exact none (by decide)

/-! ## One change of a deployment -/

namespace Deployment

variable {d d' d'' : Deployment}

/-- Every declared resource has a well-formed path. -/
def WellNamed (d : Deployment) : Prop :=
  ∀ id, d.declares id = true → ResourceId.isValidPath id.path = true

/-- Nothing that is in the first graph is missing in the second. -/
structure IsWithin (d d' : Deployment) : Prop where
  declares : ∀ {id}, d.declares id = true → d'.declares id = true
  dependsOn : ∀ {dependent dependency}, d.DependsOn dependent dependency →
    d'.DependsOn dependent dependency

theorem IsWithin.refl (d : Deployment) : d.IsWithin d :=
  ⟨id, id⟩

theorem IsWithin.trans (first : d.IsWithin d') (second : d'.IsWithin d'') : d.IsWithin d'' :=
  ⟨second.declares ∘ first.declares, second.dependsOn ∘ first.dependsOn⟩

theorem WellNamed.becomes (named : d.WellNamed) (becomes : d.Becomes d') : d'.WellNamed := by
  intro id declared
  cases becomes with
  | same => exact named id declared
  | addResource added =>
    rcases (declares_addResource added).mp declared with rfl | old
    · obtain ⟨valid, _, _, rfl, _⟩ := addResource_eq_ok_iff.mp added
      exact valid
    · exact named id old
  | addDependency added =>
    rw [declares_of_addDependency added] at declared
    exact named id declared
  | finalize finalized =>
    obtain ⟨_, rfl⟩ := of_finalize finalized
    exact named id declared

theorem Becomes.isWithin (becomes : d.Becomes d') : d.IsWithin d' := by
  cases becomes with
  | same => exact .refl d
  | addResource added =>
    refine ⟨fun old => (declares_addResource added).mpr (.inr old), fun depends => ?_⟩
    obtain ⟨_, _, _, _, rfl⟩ := addResource_eq_ok_iff.mp added
    exact depends
  | addDependency added =>
    exact ⟨fun old => (declares_of_addDependency added _).trans old,
      fun depends => (dependsOn_addDependency added).mpr (.inr depends)⟩
  | finalize finalized =>
    obtain ⟨_, rfl⟩ := of_finalize finalized
    exact ⟨id, id⟩

/-- Every change begins with the question whether the deployment is open. -/
theorem Becomes.eq_of_isFinalized (becomes : d.Becomes d') (isFinalized : d.isFinalized = true) :
    d' = d := by
  have closed : ¬ d.isFinalized = false := fun isOpen => by
    rw [isFinalized] at isOpen
    cases isOpen
  cases becomes with
  | same => rfl
  | addResource added =>
    obtain ⟨_, isOpen, _⟩ := addResource_eq_ok_iff.mp added
    exact absurd isOpen closed
  | addDependency added =>
    obtain ⟨isOpen, _⟩ := addDependency_eq_ok_iff.mp added
    exact absurd isOpen closed
  | finalize finalized =>
    obtain ⟨isOpen, _⟩ := Result.check_bind_eq_ok_iff.mp finalized
    exact absurd (checkOpen_eq_ok_iff.mp isOpen) closed

end Deployment

/-! ## Calls on the graph -/

/-- A call that adds to the graph or finalizes the deployment. -/
inductive GraphCall where
  | addResource (path : String)
  | addDependency (dependent dependency : ResourceId)
  | finalize
  deriving DecidableEq

namespace GraphCall

/-- The call as an operation in a world. -/
def operation : GraphCall → Operation
  | addResource path => .addResource path
  | addDependency dependent dependency => .addDependency dependent dependency
  | finalize => .finalize

/-- The call, carried out in steps on the deployment. -/
def steps : GraphCall → InPlace Deployment Reply
  | addResource path => do return .resource (← Deployment.declareSteps path)
  | addDependency dependent dependency => do
    Deployment.orderSteps dependent dependency
    return .done
  | finalize => do return .order (← Deployment.finalizeSteps)

/-- The call declares a resource with a path that cannot name one. -/
def IsMalformed : GraphCall → Prop
  | addResource path => path = "" ∨ [] ∈ ResourceId.components path
  | addDependency _ _ => False
  | finalize => False

end GraphCall

namespace World

variable {w w' : World}

/-- When the change of an operation is all that can fail, an operation that fails leaves
everything as it was. -/
theorem settle_eq_of_error {α : Type} {change : Result α} {accept : α → Answer × World} {e : Error}
    (accepts : ∀ a, (accept a).1.result ≠ .error e)
    (failed : (w.settle change accept).1.result = .error e) : (w.settle change accept).2 = w := by
  cases change with
  | ok a => exact absurd failed (accepts a)
  | error e' => rfl

/-- A call that fails leaves everything as it was. -/
theorem apply_operation_of_error (w : World) (call : GraphCall) {e : Error}
    (failed : (w.apply call.operation).1.result = .error e) :
    (w.apply call.operation).2 = w := by
  cases call with
  | addResource path => exact settle_eq_of_error (fun _ => nofun) failed
  | addDependency dependent dependency => exact settle_eq_of_error (fun _ => nofun) failed
  | finalize => exact settle_eq_of_error (fun _ => nofun) failed

/-- In steps, a call is answered the same and leaves the same deployment. -/
theorem steps_on (w : World) (call : GraphCall) :
    call.steps.on w.deployment =
      ((w.apply call.operation).1.result, (w.apply call.operation).2.deployment) := by
  cases call with
  | addResource path =>
    refine (InPlace.on_return_of_settled (Deployment.declareSteps_on _ path)).trans ?_
    rw [GraphCall.operation, apply]
    cases w.deployment.addResource path with
    | error e => rfl
    | ok added => rfl
  | addDependency dependent dependency =>
    refine (InPlace.on_return_of_settled (Deployment.orderSteps_on _ dependent dependency)).trans ?_
    rw [GraphCall.operation, apply]
    cases w.deployment.addDependency dependent dependency with
    | error e => rfl
    | ok added => rfl
  | finalize =>
    refine (InPlace.on_return_of_settled (Deployment.finalizeSteps_on _)).trans ?_
    rw [GraphCall.operation, apply]
    cases w.deployment.finalize with
    | error e => rfl
    | ok finalized => rfl

/-- A finalized deployment refuses every call, and first of all a malformed path. -/
theorem apply_operation_of_isFinalized (isFinalized : w.deployment.isFinalized = true)
    (call : GraphCall) :
    (call.IsMalformed → ∃ fault,
      w.apply call.operation = ({ result := .error (.config fault) }, w)) ∧
    (¬ call.IsMalformed →
      w.apply call.operation = ({ result := .error (.state .deploymentFinalized) }, w)) := by
  have closed : w.deployment.checkOpen = .error (.state .deploymentFinalized) := by
    rw [Deployment.checkOpen, if_pos isFinalized]
  cases call with
  | addResource path =>
    constructor
    · intro malformed
      have invalid : ResourceId.isValidPath path = false := by
        rw [← Bool.not_eq_true, ResourceId.isValidPath_iff]
        rintro ⟨some, none⟩
        exact malformed.elim some none
      refine ⟨.invalidResourcePath path, ?_⟩
      rw [GraphCall.operation, apply, Deployment.addResource, invalid]
      rfl
    · intro wellFormed
      have valid : ResourceId.isValidPath path = true :=
        ResourceId.isValidPath_iff.mpr (not_or.mp wellFormed)
      rw [GraphCall.operation, apply, Deployment.addResource, valid, closed]
      rfl
  | addDependency dependent dependency =>
    refine ⟨False.elim, fun _ => ?_⟩
    rw [GraphCall.operation, apply, Deployment.addDependency, closed]
    rfl
  | finalize =>
    refine ⟨False.elim, fun _ => ?_⟩
    rw [GraphCall.operation, apply, Deployment.finalize, closed]
    rfl

/-- After finalizing with success the deployment is finalized and otherwise as it was. -/
theorem deployment_apply_finalize {reply : Reply}
    (success : (w.apply .finalize).1.result = .ok reply) :
    (w.apply .finalize).2.deployment = { w.deployment with isFinalized := true } := by
  rw [apply] at success ⊢
  rcases finalized : w.deployment.finalize with e | ⟨order, d⟩
  · rw [finalized] at success
    cases success
  · obtain ⟨_, rfl⟩ := Deployment.of_finalize finalized
    rfl

/-! ## Runs -/

theorem wellNamed_run (named : w.deployment.WellNamed) (operations : List Operation) :
    (w.run operations).2.deployment.WellNamed := by
  induction operations generalizing w with
  | nil => exact named
  | cons operation rest ih => exact ih (named.becomes (becomes_apply w operation))

theorem isWithin_run (w : World) (operations : List Operation) :
    w.deployment.IsWithin (w.run operations).2.deployment := by
  induction operations generalizing w with
  | nil => exact .refl _
  | cons operation rest ih => exact (becomes_apply w operation).isWithin.trans (ih _)

/-- No run changes a deployment that is finalized. -/
theorem deployment_run_of_isFinalized (isFinalized : w.deployment.isFinalized = true)
    (operations : List Operation) : (w.run operations).2.deployment = w.deployment := by
  induction operations generalizing w with
  | nil => rfl
  | cons operation rest ih =>
    have same := (becomes_apply w operation).eq_of_isFinalized isFinalized
    rw [run_cons, ih (same ▸ isFinalized), same]

/-- In a world that was just created no resource is declared. -/
theorem wellNamed_of_create {stack region : String} (created : create stack region = .ok w) :
    w.deployment.WellNamed := by
  obtain ⟨d, isNew, rfl⟩ := Result.map_eq_ok_iff.mp created
  rw [Deployment.create] at isNew
  split at isNew
  next => cases isNew
  next =>
    cases isNew
    intro id declared
    cases declared

/-- **The graph is sound in every state of a run, it only grows, and finalizing freezes it.**
At any time every declared resource has a path that is not empty and has no empty component,
and every dependency joins two distinct declared resources.  A call on the graph that fails
changes nothing, not even when it is carried out in steps.  Whatever is done later, no resource
and no dependency is removed.  After finalizing with success the deployment never changes
again: every further call on the graph is refused, for a malformed path as a matter of
configuration and otherwise because it comes too late. -/
theorem graph_sound_and_frozen {stack region : String} {operations : List Operation}
    {answers : List Answer} (created : create stack region = .ok w)
    (ran : w.run operations = (answers, w')) :
    (∀ id, w'.deployment.declares id = true →
      id.path ≠ "" ∧ [] ∉ ResourceId.components id.path) ∧
    (∀ dependent dependency, w'.deployment.DependsOn dependent dependency →
      w'.deployment.declares dependent = true ∧ w'.deployment.declares dependency = true ∧
        dependent ≠ dependency) ∧
    (∀ (call : GraphCall) (e : Error), (w'.apply call.operation).1.result = .error e →
      (w'.apply call.operation).2 = w' ∧
        call.steps.on w'.deployment = (.error e, w'.deployment)) ∧
    (∀ later, w'.deployment.IsWithin (w'.run later).2.deployment) ∧
    ∀ reply, (w'.apply .finalize).1.result = .ok reply →
      ∀ later final, ((w'.apply .finalize).2.run later).2 = final →
        final.deployment = { w'.deployment with isFinalized := true } ∧
        ∀ call : GraphCall,
          (call.IsMalformed → ∃ fault,
            final.apply call.operation = ({ result := .error (.config fault) }, final)) ∧
          (¬ call.IsMalformed →
            final.apply call.operation =
              ({ result := .error (.state .deploymentFinalized) }, final)) := by
  have named := wellNamed_run (wellNamed_of_create created) operations
  have joined := wellJoined_run (wellJoined_of_create created) operations
  rw [ran] at named joined
  refine ⟨fun id declared => ResourceId.isValidPath_iff.mp (named id declared),
    fun dependent dependency depends => ?_, fun call e failed => ?_, isWithin_run w', ?_⟩
  · refine ⟨joined.declares_dependent depends, joined.declares_dependency depends, ?_⟩
    rintro rfl
    exact joined.irrefl dependent depends
  · have unchanged := apply_operation_of_error w' call failed
    exact ⟨unchanged, by rw [steps_on, failed, unchanged]⟩
  · rintro reply success later final rfl
    have isFinal := deployment_apply_finalize success
    have frozen := deployment_run_of_isFinalized (congrArg Deployment.isFinalized isFinal) later
    refine ⟨frozen.trans isFinal, apply_operation_of_isFinalized ?_⟩
    rw [frozen, isFinal]

/-- A fleet that waits for a repository. -/
def fleetWaits : List Operation := [
  .addResource "Repository",
  .addResource "Fleet",
  .addDependency ⟨"Fleet"⟩ ⟨"Repository"⟩]

/-- After finalizing, an archive comes too late, and so does a dependency back; the path of a
component without a name is still called malformed. -/
theorem graph_sound_and_frozen_fleet :
    create "Farm" "us-west-2" = .ok emptyFarm ∧
    ∃ reply final, ((emptyFarm.run fleetWaits).2.apply .finalize).1.result = .ok reply ∧
      (((emptyFarm.run fleetWaits).2.apply .finalize).2.run [.addResource "Archive"]).2 = final ∧
      final.deployment = { (emptyFarm.run fleetWaits).2.deployment with isFinalized := true } ∧
      (∃ fault, final.apply (.addResource "Archive/") =
        ({ result := .error (.config fault) }, final)) ∧
      final.apply (.addDependency ⟨"Repository"⟩ ⟨"Fleet"⟩) =
        ({ result := .error (.state .deploymentFinalized) }, final) := by
  have created : create "Farm" "us-west-2" = .ok emptyFarm := rfl
  have success : ((emptyFarm.run fleetWaits).2.apply .finalize).1.result =
      .ok (.order [⟨"Repository"⟩, ⟨"Fleet"⟩]) := by
    decide +kernel
  obtain ⟨_, _, _, _, frozen⟩ := graph_sound_and_frozen created
    (show emptyFarm.run fleetWaits = ((emptyFarm.run fleetWaits).1, _) from rfl)
  obtain ⟨isFinal, refused⟩ := frozen _ success [.addResource "Archive"] _ rfl
  have malformed : (GraphCall.addResource "Archive/").IsMalformed := .inr (by decide +kernel)
  exact ⟨created, _, _, success, rfl, isFinal, (refused (.addResource "Archive/")).1 malformed,
    (refused (.addDependency ⟨"Repository"⟩ ⟨"Fleet"⟩)).2 id⟩

end World

end Provisioning
