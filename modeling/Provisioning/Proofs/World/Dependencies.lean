import Provisioning.Proofs.Deployment.Finalize
import Provisioning.Proofs.Registration.Identity
import Provisioning.Proofs.Registration.Store
import Provisioning.Proofs.World.Basic

/-!
# Which dependencies a run adds

Three operations ask for a dependency: callers order two resources by themselves, a call
to register orders its dependent after the instance of the store, and an execution
dependency orders an instance after a resource.  What is asked for is added when the
operation succeeds.  Nothing else touches the dependencies, and none is ever removed.
-/

namespace Provisioning

set_option autoImplicit false

/-! ## What is asked for and what is added -/

/-- The dependency that an operation asks for in a world. -/
def Operation.dependency? (w : World) : Operation → Option (ResourceId × ResourceId)
  | .addDependency dependent dependency => some (dependent, dependency)
  | .register store _ _ dependent =>
    (w.environment.store? store).map fun s => (dependent, s.instanceId)
  | .onInstance id (.addExecutionDependency resource) =>
    (w.findInstance? id).map fun i => (i.id, resource)
  | _ => none

namespace World

/-- The dependency that an operation adds, if it asks for one and succeeds. -/
def addedBy (w : World) (operation : Operation) : List (ResourceId × ResourceId) :=
  if (w.apply operation).1.result.toBool then (operation.dependency? w).toList else []

/-- The dependencies that a run adds, one after another. -/
def added (w : World) : List Operation → List (ResourceId × ResourceId)
  | [] => []
  | operation :: rest => w.addedBy operation ++ added (w.apply operation).2 rest

end World

/-! ## One operation -/

/-- In the outcome of an operation the graph has the dependencies that it had, and the one
that was asked for if the operation succeeded. -/
def Adds (w : World) (asked : Option (ResourceId × ResourceId)) (outcome : Answer × World) : Prop :=
  ∀ dependent dependency, outcome.2.deployment.DependsOn dependent dependency ↔
    w.deployment.DependsOn dependent dependency ∨
      (outcome.1.result.toBool = true ∧ asked = some (dependent, dependency))

namespace Adds

variable {w w' : World} {asked : Option (ResourceId × ResourceId)}

/-- An operation that leaves the dependencies alone and asks for none. -/
theorem of_same (answer : Answer) (edges : w'.deployment.edges = w.deployment.edges) :
    Adds w none (answer, w') := by
  intro dependent dependency
  have same : w'.deployment.DependsOn dependent dependency ↔
      w.deployment.DependsOn dependent dependency := by
    rw [Deployment.DependsOn, Deployment.dependsOn, Deployment.dependencySet, edges]
    rfl
  rw [same]
  refine (or_iff_left ?_).symm
  rintro ⟨_, ⟨⟩⟩

/-- An operation that declares a resource. -/
theorem of_addResource {path : String} {id : ResourceId} (answer : Answer)
    (declared : w.deployment.addResource path = .ok (id, w'.deployment)) :
    Adds w none (answer, w') := by
  obtain ⟨_, _, _, _, isGrown⟩ := Deployment.addResource_eq_ok_iff.mp declared
  exact of_same _ (by rw [isGrown])

/-- An operation that tries a change.  What was asked for is not added when it fails. -/
theorem of_settle {α : Type} {change : Result α} {accept : α → Answer × World}
    (onOk : ∀ a, change = .ok a → Adds w asked (accept a)) :
    Adds w asked (w.settle change accept) := by
  refine World.settle_elim (fun e _ dependent dependency => (or_iff_left ?_).symm) onOk
  rintro ⟨⟨⟩, _⟩

/-- An operation that adds the dependency that it asks for. -/
theorem of_addDependency {dependent dependency : ResourceId} {d' : Deployment} {reply : Reply}
    {events : List Event} (grown : w.deployment.addDependency dependent dependency = .ok d')
    (deployment : w'.deployment = d') :
    Adds w (some (dependent, dependency)) ({ result := .ok reply, events }, w') := by
  subst deployment
  intro first second
  rw [Deployment.dependsOn_addDependency grown, or_comm, Option.some.injEq, Prod.mk.injEq]
  refine or_congr_right ?_
  constructor
  · rintro ⟨rfl, rfl⟩
    exact ⟨rfl, rfl, rfl⟩
  · rintro ⟨_, rfl, rfl⟩
    exact ⟨rfl, rfl⟩

theorem register (w : World) (store : StoreId) (segment : String) (requested : Registration)
    (dependent : ResourceId) :
    Adds w ((Operation.register store segment requested dependent).dependency? w)
      (w.register store segment requested dependent) := by
  rw [World.register, Operation.dependency?]
  cases w.environment.store? store with
  | none => exact of_same _ rfl
  | some s =>
    refine of_settle fun _ accepted => ?_
    obtain ⟨_, _, _, _, grown, _⟩ := RegistrationStore.register_eq_ok_iff.mp accepted
    exact of_addDependency grown rfl

theorem renderInstance (w : World) (id : InstanceId) (i : ProvisioningInstance) :
    Adds w none (w.renderInstance id i) := by
  rw [World.renderInstance]
  rcases (i.render w.deployment w.environment).result with e | ⟨artifacts, j⟩
  · exact of_same _ rfl
  · exact of_same _ rfl

theorem operateInstance {id : InstanceId} {i : ProvisioningInstance}
    (found : w.findInstance? id = some i) (change : InstanceOperation) :
    Adds w ((Operation.onInstance id change).dependency? w) (w.operateInstance id i change) := by
  cases change with
  | addSetup items => exact of_settle fun _ _ => of_same _ rfl
  | addLogStream name path => exact of_settle fun _ _ => of_same _ rfl
  | grant statement => exact of_settle fun _ _ => of_same _ rfl
  | addExecutionDependency resource =>
    rw [Operation.dependency?, found]
    exact of_settle fun _ grown => of_addDependency grown rfl
  | render => exact renderInstance w id i

theorem renderSequence (w : World) (id : SequenceId) (g : GuardedSequence) :
    Adds w none (w.renderSequence id g) := by
  rw [World.renderSequence]
  rcases g.sequence.render w.environment with ⟨e | rendered, env'⟩
  · exact of_same _ rfl
  · exact of_same _ rfl

theorem operateSequence (w : World) (id : SequenceId) (g : GuardedSequence)
    (change : SequenceOperation) : Adds w none (w.operateSequence id g change) := by
  cases change with
  | addItems items => exact of_settle fun _ _ => of_same _ rfl
  | addOnExit commands => exact of_settle fun _ _ => of_same _ rfl
  | applyGuard guard => exact of_settle fun _ _ => of_same _ rfl
  | render => exact renderSequence w id g

/-- **Every operation adds the dependency that it asks for, and no other**, if it succeeds. -/
theorem apply (w : World) (operation : Operation) :
    Adds w (operation.dependency? w) (w.apply operation) := by
  cases operation with
  | addResource path => exact of_settle fun _ declared => of_addResource _ declared
  | addDependency dependent dependency =>
    exact of_settle fun _ grown => of_addDependency grown rfl
  | finalize =>
    refine of_settle fun _ finalized => ?_
    obtain ⟨isOpen, _⟩ := Result.check_bind_eq_ok_iff.mp finalized
    obtain ⟨_, isFinal⟩ := (Deployment.finalize_eq_ok_iff
      (Deployment.checkOpen_eq_ok_iff.mp isOpen)).mp finalized
    refine of_same _ ?_
    rw [isFinal]
  | declareInstance path options =>
    refine of_settle fun _ declared => ?_
    obtain ⟨_, _, _, _, added, _⟩ := ProvisioningInstance.declare_eq_ok_iff.mp declared
    exact of_addResource _ added
  | declareRegistration path options =>
    refine of_settle fun _ declared => ?_
    obtain ⟨_, _, _, _, _, added⟩ := IdentityRegistration.exists_of_declare declared
    exact of_addResource _ added
  | addStore instanceId frontDoor => exact of_same _ rfl
  | addSequence => exact of_same _ rfl
  | addCaller text => exact of_same _ rfl
  | setCaller caller text => exact of_same _ rfl
  | evaluate command => exact of_same _ rfl
  | release command => exact of_same _ rfl
  | register store segment requested dependent =>
    exact register w store segment requested dependent
  | onInstance id change =>
    rw [World.apply]
    cases found : w.findInstance? id with
    | some i => exact operateInstance found change
    | none =>
      have nothing : (Operation.onInstance id change).dependency? w = none := by
        cases change <;> simp [Operation.dependency?, found]
      rw [nothing]
      exact of_same _ rfl
  | onSequence id change =>
    rw [World.apply]
    cases w.findSequence? id with
    | none => exact of_same _ rfl
    | some g => exact operateSequence w id g change

end Adds

namespace World

theorem dependsOn_apply_iff (w : World) (operation : Operation) (dependent dependency : ResourceId) :
    (w.apply operation).2.deployment.DependsOn dependent dependency ↔
      w.deployment.DependsOn dependent dependency ∨
        (dependent, dependency) ∈ w.addedBy operation := by
  rw [Adds.apply w operation dependent dependency, addedBy]
  refine or_congr_right ?_
  split
  next succeeded =>
    rw [Option.mem_toList]
    exact and_iff_right succeeded
  next failed => exact iff_of_false (fun added => failed added.1) List.not_mem_nil

/-! ## Runs -/

/-- **After a run the graph has the dependencies that it had before, and those that the run
added**. -/
theorem dependsOn_run_iff (w : World) (operations : List Operation)
    (dependent dependency : ResourceId) :
    (w.run operations).2.deployment.DependsOn dependent dependency ↔
      w.deployment.DependsOn dependent dependency ∨
        (dependent, dependency) ∈ w.added operations := by
  induction operations generalizing w with
  | nil => exact (or_iff_left List.not_mem_nil).symm
  | cons operation rest ih =>
    rw [run_cons, ih, dependsOn_apply_iff, added, List.mem_append, or_assoc]

end World

end Provisioning
