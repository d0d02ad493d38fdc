import Provisioning.Proofs.World.Dependencies
import Provisioning.Proofs.World.Registrations
import Provisioning.Proofs.World.Setup

/-!
# What is frozen once an instance is rendered

A rendered instance takes nothing more and is not rendered again: whatever it is asked
fails and leaves the world as it was, and no run changes the instance.  One operation does
not ask the instance.  An execution dependency is added by the deployment alone, which
takes it until it is finalized.  So the dependencies of the artifacts are those at the
time of the render, and the graph may have more of them later.
-/

namespace Provisioning

set_option autoImplicit false

section Frozen

variable {w w' : World} {id hostId : InstanceId} {i : ProvisioningInstance}

/-! ## One operation on a rendered instance -/

theorem ProvisioningInstance.checkOpen_of_isRendered (isRendered : i.isRendered = true)
    (d : Deployment) : i.checkOpen d = .error (.state (.instanceRendered i.id)) := by
  rw [checkOpen, if_pos isRendered]
  rfl

namespace World

/-- Everything but an execution dependency is refused by a rendered instance. -/
theorem operateInstance_of_isRendered (isRendered : i.isRendered = true)
    {change : InstanceOperation} (guarded : ∀ resource, change ≠ .addExecutionDependency resource) :
    w.operateInstance id i change =
      ({ result := .error (.state (.instanceRendered i.id)) }, w) := by
  have refused := ProvisioningInstance.checkOpen_of_isRendered isRendered w.deployment
  cases change with
  | addSetup items =>
    rw [operateInstance, ProvisioningInstance.addSetup, refused]
    rfl
  | addLogStream name path =>
    rw [operateInstance, ProvisioningInstance.addLogStream, refused]
    rfl
  | grant statement =>
    rw [operateInstance, ProvisioningInstance.grant, refused]
    rfl
  | addExecutionDependency resource => exact absurd rfl (guarded resource)
  | render =>
    rw [operateInstance, renderInstance, ProvisioningInstance.render, refused]

/-- An execution dependency is taken when the deployment is open and has both resources. -/
theorem addExecutionDependency_eq_done_iff (found : w.findInstance? id = some i)
    (resource : ResourceId) :
    (w.apply (.onInstance id (.addExecutionDependency resource))).1.result = .ok .done ↔
      w.deployment.isFinalized = false ∧ w.deployment.declares i.id = true ∧
        w.deployment.declares resource = true ∧ i.id ≠ resource := by
  have outcome : w.apply (.onInstance id (.addExecutionDependency resource)) =
      w.settle (w.deployment.addDependency i.id resource) fun deployment =>
        { w with deployment }.done := by
    rw [apply, found]
    rfl
  rw [outcome]
  rcases grown : w.deployment.addDependency i.id resource with e | d'
  · constructor
    · rintro ⟨⟩
    · rintro ⟨isOpen, dependent, dependency, differ⟩
      have accepted := Deployment.addDependency_eq_ok_iff.mpr
        ⟨isOpen, dependent, dependency, differ, rfl⟩
      rw [accepted] at grown
      cases grown
  · obtain ⟨isOpen, dependent, dependency, differ, _⟩ := Deployment.addDependency_eq_ok_iff.mp grown
    exact iff_of_true rfl ⟨isOpen, dependent, dependency, differ⟩

/-! ## Runs -/

/-- No operation changes a rendered instance. -/
theorem findInstance?_apply_of_isRendered (found : w.findInstance? id = some i)
    (isRendered : i.isRendered = true) (operation : Operation) :
    (w.apply operation).2.findInstance? id = some i := by
  obtain ⟨i', there, same | ⟨change, _, becomes⟩⟩ := Evolves.apply found operation
  · exact same ▸ there
  · obtain ⟨notRendered, _⟩ := ProvisioningInstance.checkOpen_eq_ok_iff.mp becomes.checkOpen_eq
    rw [isRendered] at notRendered
    cases notRendered

/-- No run changes a rendered instance. -/
theorem findInstance?_run_of_isRendered (found : w.findInstance? id = some i)
    (isRendered : i.isRendered = true) (operations : List Operation) :
    (w.run operations).2.findInstance? id = some i := by
  induction operations generalizing w with
  | nil => exact found
  | cons operation rest ih =>
    exact ih (findInstance?_apply_of_isRendered found isRendered operation)

/-- After a render that succeeded the instance is rendered, and the artifacts have its
dependencies. -/
theorem exists_of_rendered {artifacts : RenderedInstance}
    (success : (w.apply (.onInstance id .render)).1.result = .ok (.rendered artifacts)) :
    ∃ i, (w.apply (.onInstance id .render)).2.findInstance? id = some i ∧ i.isRendered = true ∧
      artifacts.instanceId = i.id ∧
      artifacts.dependencies =
        (w.apply (.onInstance id .render)).2.deployment.dependenciesOf i.id := by
  cases found : w.findInstance? id with
  | none =>
    rw [apply, found] at success
    cases success
  | some i =>
    rw [apply_render found, renderInstance] at success ⊢
    rcases i.render_cases w.deployment w.environment with
      ⟨_, _, isOutcome⟩ | ⟨_, texts, env', _, isOutcome⟩ | ⟨_, _, env', _, isOutcome⟩
    · rw [isOutcome] at success
      cases success
    · rw [isOutcome] at success ⊢
      cases success
      have there : ({ w with environment := env' }.setInstance id
          (i.sealedBy w.deployment)).findInstance? id = some (i.sealedBy w.deployment) :=
        findInstance?_setInstance_self (w := { w with environment := env' }) found
      exact ⟨_, there, rfl, rfl, rfl⟩
    · rw [isOutcome] at success
      cases success

/-- **A rendered instance is frozen, but its dependencies are not.**  After a render that
succeeded no run changes the instance, and at any time later everything that is asked of it
fails and changes nothing, except for an execution dependency, which is taken as long as the
deployment takes it.  The graph then has the dependencies of the artifacts, and those that
were added since. -/
theorem rendered_instance_frozen {artifacts : RenderedInstance} {operations : List Operation}
    {answers : List Answer}
    (success : (w.apply (.onInstance hostId .render)).1.result = .ok (.rendered artifacts))
    (ran : (w.apply (.onInstance hostId .render)).2.run operations = (answers, w')) :
    ∃ i, (w.apply (.onInstance hostId .render)).2.findInstance? hostId = some i ∧
      w'.findInstance? hostId = some i ∧ artifacts.instanceId = i.id ∧
      (∀ change : InstanceOperation, (∀ resource, change ≠ .addExecutionDependency resource) →
        w'.apply (.onInstance hostId change) =
          ({ result := .error (.state (.instanceRendered i.id)) }, w')) ∧
      (∀ resource,
        (w'.apply (.onInstance hostId (.addExecutionDependency resource))).1.result = .ok .done ↔
          w'.deployment.isFinalized = false ∧ w'.deployment.declares i.id = true ∧
            w'.deployment.declares resource = true ∧ i.id ≠ resource) ∧
      ∀ resource, resource ∈ w'.deployment.dependenciesOf i.id ↔
        resource ∈ artifacts.dependencies ∨
          (i.id, resource) ∈ (w.apply (.onInstance hostId .render)).2.added operations := by
  obtain ⟨i, found, isRendered, isId, isDependencies⟩ := exists_of_rendered success
  have there := findInstance?_run_of_isRendered found isRendered operations
  have depends := dependsOn_run_iff (w.apply (.onInstance hostId .render)).2 operations i.id
  rw [ran] at there depends
  refine ⟨i, found, there, isId, fun change guarded => ?_,
    addExecutionDependency_eq_done_iff there, fun resource => ?_⟩
  · rw [apply, there]
    exact operateInstance_of_isRendered isRendered guarded
  · rw [Deployment.mem_dependenciesOf_iff, depends, isDependencies,
      Deployment.mem_dependenciesOf_iff]

end World

end Frozen

/-! ## An instance that waits for a fleet too late -/

/-- A farm with a fleet and an instance. -/
def hostFarm : World :=
  (farm.apply (.declareInstance "Repository" (.ofName "repository" ["subnet-1"]))).2

/-- The instance is rendered. -/
def renderHost : Operation :=
  .onInstance ⟨0⟩ .render

/-- The instance is to wait for the fleet. -/
def awaitFleet : Operation :=
  .onInstance ⟨0⟩ (.addExecutionDependency ⟨"Fleet"⟩)

/-- The instance that waits for the fleet after it is rendered, and the farm afterwards. -/
def lateRun : List Answer × World :=
  (hostFarm.apply renderHost).2.run [awaitFleet]

/-- The render of the instance succeeds. -/
theorem exists_rendered_host :
    ∃ artifacts, (hostFarm.apply renderHost).1.result = .ok (.rendered artifacts) := by
  have accepted : (hostFarm.apply renderHost).1.result.toBool = true := by decide +kernel
  have found : (hostFarm.findInstance? ⟨0⟩).isSome = true := by decide +kernel
  obtain ⟨i, found⟩ := Option.isSome_iff_exists.mp found
  rw [renderHost, World.apply_render found] at accepted ⊢
  exact World.exists_rendered_of_toBool accepted

/-- After the render more setup is refused, and the fleet is a dependency nevertheless. -/
theorem World.rendered_instance_frozen_fleet :
    ∃ artifacts i, (hostFarm.apply renderHost).1.result = .ok (.rendered artifacts) ∧
      (hostFarm.apply renderHost).2.run [awaitFleet] = (lateRun.1, lateRun.2) ∧
      lateRun.2.findInstance? ⟨0⟩ = some i ∧
      lateRun.2.apply (.onInstance ⟨0⟩ (.addSetup [.line "touch /ready"])) =
        ({ result := .error (.state (.instanceRendered i.id)) }, lateRun.2) ∧
      ⟨"Fleet"⟩ ∈ lateRun.2.deployment.dependenciesOf i.id := by
  obtain ⟨artifacts, success⟩ := exists_rendered_host
  have ran : (hostFarm.apply renderHost).2.run [awaitFleet] = (lateRun.1, lateRun.2) := rfl
  obtain ⟨i, _, there, _, refused, _, depends⟩ := World.rendered_instance_frozen success ran
  have isHost : (lateRun.2.findInstance? ⟨0⟩).map (·.id) = some ⟨"Repository"⟩ := by
    decide +kernel
  have isId : i.id = ⟨"Repository"⟩ := by
    rw [there] at isHost
    exact Option.some.inj isHost
  have added : (i.id, ⟨"Fleet"⟩) ∈ (hostFarm.apply renderHost).2.added [awaitFleet] := by
    rw [isId]
    decide +kernel
  exact ⟨artifacts, i, success, ran, there, refused _ nofun, (depends _).mpr (.inr added)⟩

/-- **Not everything is refused after a render**: right after it the instance takes an
execution dependency. -/
theorem World.not_frozen_after_render :
    ¬ ∀ (w w' : World) (hostId : InstanceId) (answer : Answer) (artifacts : RenderedInstance)
        (change : InstanceOperation),
      w.apply (.onInstance hostId .render) = (answer, w') →
        answer.result = .ok (.rendered artifacts) →
          ∃ fault, w'.apply (.onInstance hostId change) =
            ({ result := .error (.state fault) }, w') := by
  intro always
  obtain ⟨artifacts, success⟩ := exists_rendered_host
  obtain ⟨fault, refused⟩ := always hostFarm _ ⟨0⟩ _ artifacts
    (.addExecutionDependency ⟨"Fleet"⟩) rfl success
  have taken : ((hostFarm.apply renderHost).2.apply awaitFleet).1.result = .ok .done := by
    decide +kernel
  have failed : ((hostFarm.apply renderHost).2.apply awaitFleet).1.result =
      .error (.state fault) := congrArg (·.1.result) refused
  rw [taken] at failed
  cases failed

end Provisioning
