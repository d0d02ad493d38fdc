import Provisioning.Proofs.World.Dependencies

/-!
# What becomes of a deployment

A deployment stays as it is, gains a resource or a dependency, or is finalized.  So its
dependencies always join declared resources, and it never moves: its stack and its region
are those that it was created with.
-/

namespace Provisioning

set_option autoImplicit false

/-! ## One operation -/

/-- In an operation a deployment stays as it is, gains a resource or a dependency, or is
finalized. -/
inductive Deployment.Becomes (d : Deployment) : Deployment → Prop
  | same : Becomes d d
  | addResource {path : String} {id : ResourceId} {d' : Deployment}
      (added : d.addResource path = .ok (id, d')) : Becomes d d'
  | addDependency {dependent dependency : ResourceId} {d' : Deployment}
      (added : d.addDependency dependent dependency = .ok d') : Becomes d d'
  | finalize {order : List ResourceId} {d' : Deployment}
      (finalized : d.finalize = .ok (order, d')) : Becomes d d'

/-- Whatever becomes of a deployment, its dependencies join declared resources. -/
theorem Deployment.WellJoined.becomes {d d' : Deployment} (joined : d.WellJoined)
    (becomes : d.Becomes d') : d'.WellJoined := by
  cases becomes with
  | same => exact joined
  | addResource added => exact joined.addResource added
  | addDependency added => exact joined.addDependency added
  | finalize finalized =>
    obtain ⟨_, rfl⟩ := of_finalize finalized
    exact ⟨joined.declares_dependent, joined.declares_dependency, joined.irrefl⟩

/-- Whatever becomes of a deployment, it stays in its place. -/
theorem Deployment.Becomes.place_eq {d d' : Deployment} (becomes : d.Becomes d') :
    d'.stack = d.stack ∧ d'.region = d.region := by
  cases becomes with
  | same => exact ⟨rfl, rfl⟩
  | addResource added =>
    obtain ⟨_, _, _, _, rfl⟩ := addResource_eq_ok_iff.mp added
    exact ⟨rfl, rfl⟩
  | addDependency added =>
    obtain ⟨_, _, _, _, rfl⟩ := addDependency_eq_ok_iff.mp added
    exact ⟨rfl, rfl⟩
  | finalize finalized =>
    obtain ⟨_, rfl⟩ := of_finalize finalized
    exact ⟨rfl, rfl⟩

namespace World

variable {w : World}

/-- An operation that tries a change. -/
theorem becomes_settle {α : Type} {change : Result α} {accept : α → Answer × World}
    (onOk : ∀ a, change = .ok a → w.deployment.Becomes (accept a).2.deployment) :
    w.deployment.Becomes (w.settle change accept).2.deployment :=
  settle_elim (P := fun outcome => w.deployment.Becomes outcome.2.deployment)
    (fun _ _ => .same) onOk

theorem becomes_operateInstance (w : World) (id : InstanceId) (i : ProvisioningInstance)
    (change : InstanceOperation) :
    w.deployment.Becomes (w.operateInstance id i change).2.deployment := by
  cases change with
  | addSetup items => exact becomes_settle fun _ _ => .same
  | addLogStream name path => exact becomes_settle fun _ _ => .same
  | grant statement => exact becomes_settle fun _ _ => .same
  | addExecutionDependency resource => exact becomes_settle fun _ added => .addDependency added
  | render =>
    rw [operateInstance, renderInstance]
    rcases (i.render w.deployment w.environment).result with e | ⟨artifacts, j⟩
    · exact .same
    · exact .same

theorem becomes_operateSequence (w : World) (id : SequenceId) (g : GuardedSequence)
    (change : SequenceOperation) :
    w.deployment.Becomes (w.operateSequence id g change).2.deployment := by
  cases change with
  | addItems items => exact becomes_settle fun _ _ => .same
  | addOnExit commands => exact becomes_settle fun _ _ => .same
  | applyGuard guard => exact becomes_settle fun _ _ => .same
  | render =>
    rw [operateSequence, renderSequence]
    rcases g.sequence.render w.environment with ⟨e | rendered, env'⟩
    · exact .same
    · exact .same

/-- **An operation does at most one thing to the deployment.** -/
theorem becomes_apply (w : World) (operation : Operation) :
    w.deployment.Becomes (w.apply operation).2.deployment := by
  cases operation with
  | addResource path => exact becomes_settle fun _ added => .addResource added
  | addDependency dependent dependency => exact becomes_settle fun _ added => .addDependency added
  | finalize => exact becomes_settle fun _ finalized => .finalize finalized
  | declareInstance path options =>
    refine becomes_settle fun _ declared => ?_
    obtain ⟨_, _, _, _, added, _⟩ := ProvisioningInstance.declare_eq_ok_iff.mp declared
    exact .addResource added
  | declareRegistration path options =>
    refine becomes_settle fun _ declared => ?_
    obtain ⟨_, _, _, _, _, added⟩ := IdentityRegistration.exists_of_declare declared
    exact .addResource added
  | addStore instanceId frontDoor => exact .same
  | addSequence => exact .same
  | addCaller text => exact .same
  | setCaller caller text => exact .same
  | evaluate command => exact .same
  | release command => exact .same
  | register store segment requested dependent =>
    rw [apply, register]
    cases w.environment.store? store with
    | none => exact .same
    | some s =>
      refine becomes_settle fun _ accepted => ?_
      obtain ⟨_, _, _, _, added, _⟩ := RegistrationStore.register_eq_ok_iff.mp accepted
      exact .addDependency added
  | onInstance id change =>
    rw [apply]
    cases w.findInstance? id with
    | none => exact .same
    | some i => exact becomes_operateInstance w id i change
  | onSequence id change =>
    rw [apply]
    cases w.findSequence? id with
    | none => exact .same
    | some g => exact becomes_operateSequence w id g change

/-! ## Runs -/

theorem wellJoined_run (joined : w.deployment.WellJoined) (operations : List Operation) :
    (w.run operations).2.deployment.WellJoined := by
  induction operations generalizing w with
  | nil => exact joined
  | cons operation rest ih => exact ih (joined.becomes (becomes_apply w operation))

/-- No run moves a deployment. -/
theorem place_run (w : World) (operations : List Operation) :
    (w.run operations).2.deployment.stack = w.deployment.stack ∧
      (w.run operations).2.deployment.region = w.deployment.region := by
  induction operations generalizing w with
  | nil => exact ⟨rfl, rfl⟩
  | cons operation rest ih =>
    obtain ⟨stack, region⟩ := (becomes_apply w operation).place_eq
    obtain ⟨laterStack, laterRegion⟩ := ih (w.apply operation).2
    exact ⟨laterStack.trans stack, laterRegion.trans region⟩

/-- A world that was just created is in the place that was asked for, and there is nothing
in it. -/
theorem eq_of_create {stack region : String} (created : create stack region = .ok w) :
    w.deployment.stack = stack ∧ w.deployment.region = region ∧ w.instances = [] := by
  obtain ⟨d, isNew, rfl⟩ := Result.map_eq_ok_iff.mp created
  rw [Deployment.create] at isNew
  split at isNew
  next => cases isNew
  next =>
    cases isNew
    exact ⟨rfl, rfl, rfl⟩

/-- In a world that was just created no dependency joins anything. -/
theorem wellJoined_of_create {stack region : String} (created : create stack region = .ok w) :
    w.deployment.WellJoined := by
  obtain ⟨d, isNew, rfl⟩ := Result.map_eq_ok_iff.mp created
  exact (Deployment.Grown.create isNew).wellJoined

end World

end Provisioning
