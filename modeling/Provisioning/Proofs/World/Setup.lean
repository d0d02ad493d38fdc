import Provisioning.Proofs.Instance.Render
import Provisioning.Proofs.World.Basic

/-!
# What becomes of an instance and its setup

An instance stays where it is in its world, and nothing changes it but an operation on
itself that succeeds.  Its setup grows by what is added to it and by nothing else; not
even a render takes anything away from the setup.
-/

namespace Provisioning

set_option autoImplicit false

/-! ## Changes of an instance -/

/-- In a deployment, an operation turns an instance into another one.  An execution
dependency is a matter of the deployment alone. -/
inductive ProvisioningInstance.Becomes (i : ProvisioningInstance) (d : Deployment) :
    InstanceOperation → ProvisioningInstance → Prop
  | addSetup {items : List ScriptItem} {i' : ProvisioningInstance}
      (changed : i.addSetup d items = .ok i') : Becomes i d (.addSetup items) i'
  | addLogStream {name path : String} {i' : ProvisioningInstance}
      (changed : i.addLogStream d name path = .ok i') : Becomes i d (.addLogStream name path) i'
  | grant {statement : PolicyStatement} {i' : ProvisioningInstance}
      (changed : i.grant d statement = .ok i') : Becomes i d (.grant statement) i'
  | render (isOpen : i.checkOpen d = .ok ()) : Becomes i d .render (i.sealedBy d)

/-- Only an open instance changes. -/
theorem ProvisioningInstance.Becomes.checkOpen_eq {i i' : ProvisioningInstance} {d : Deployment}
    {operation : InstanceOperation} (becomes : i.Becomes d operation i') :
    i.checkOpen d = .ok () := by
  cases becomes with
  | addSetup changed => exact (addSetup_eq_ok_iff.mp changed).1
  | addLogStream changed => exact (addLogStream_eq_ok_iff.mp changed).1
  | grant changed => exact (grant_eq_ok_iff.mp changed).1
  | render isOpen => exact isOpen

/-- After an operation the instance is still there, as it was or as the operation made it. -/
def Evolves (w : World) (id : InstanceId) (i : ProvisioningInstance) (operation : Operation)
    (outcome : Answer × World) : Prop :=
  ∃ i', outcome.2.findInstance? id = some i' ∧
    (i' = i ∨ ∃ change, operation = .onInstance id change ∧ i.Becomes w.deployment change i')

namespace Evolves

variable {w w' : World} {id other : InstanceId} {i j j' : ProvisioningInstance}
  {operation : Operation}

/-- An operation that leaves the instances alone. -/
theorem of_same (found : w.findInstance? id = some i) (answer : Answer)
    (instances : w'.instances = w.instances) : Evolves w id i operation (answer, w') :=
  ⟨i, (congrArg (·[id.index]?) instances).trans found, .inl rfl⟩

/-- An operation that changes one instance. -/
theorem of_setInstance (found : w.findInstance? id = some i)
    (foundOther : w.findInstance? other = some j) (answer : Answer) {change : InstanceOperation}
    (becomes : j.Becomes w.deployment change j') :
    Evolves w id i (.onInstance other change) (answer, w.setInstance other j') := by
  by_cases same : other = id
  · subst same
    cases Option.some.inj (found.symm.trans foundOther)
    exact ⟨j', World.findInstance?_setInstance_self found, .inr ⟨change, rfl, becomes⟩⟩
  · refine ⟨i, ?_, .inl rfl⟩
    rw [World.findInstance?_setInstance_of_ne (Ne.symm same)]
    exact found

/-- An operation that tries a change. -/
theorem of_settle {α : Type} {change : Result α} {accept : α → Answer × World}
    (found : w.findInstance? id = some i)
    (onOk : ∀ a, change = .ok a → Evolves w id i operation (accept a)) :
    Evolves w id i operation (w.settle change accept) :=
  World.settle_elim (fun _ _ => of_same found _ rfl) onOk

/-- An operation that adds an instance behind the others. -/
theorem of_append (found : w.findInstance? id = some i) (answer : Answer)
    (added : ProvisioningInstance) (instances : w'.instances = w.instances ++ [added]) :
    Evolves w id i operation (answer, w') := by
  refine ⟨i, ?_, .inl rfl⟩
  obtain ⟨within, _⟩ := List.getElem?_eq_some_iff.mp found
  have still : (w.instances ++ [added])[id.index]? = some i :=
    (List.getElem?_append_left within).trans found
  exact (congrArg (·[id.index]?) instances).trans still

theorem renderInstance (found : w.findInstance? id = some i)
    (foundOther : w.findInstance? other = some j) :
    Evolves w id i (.onInstance other .render) (w.renderInstance other j) := by
  rw [World.renderInstance]
  rcases j.render_cases w.deployment w.environment with
    ⟨e, _, isOutcome⟩ | ⟨isOpen, texts, env', _, isOutcome⟩ | ⟨_, e, env', _, isOutcome⟩
  · rw [isOutcome]
    exact of_same found _ rfl
  · rw [isOutcome]
    exact of_setInstance (w := { w with environment := env' }) found foundOther _ (.render isOpen)
  · rw [isOutcome]
    exact of_same found _ rfl

theorem operateInstance (found : w.findInstance? id = some i)
    (foundOther : w.findInstance? other = some j) (change : InstanceOperation) :
    Evolves w id i (.onInstance other change) (w.operateInstance other j change) := by
  cases change with
  | addSetup items =>
    exact of_settle found fun _ changed => of_setInstance found foundOther _ (.addSetup changed)
  | addLogStream name path =>
    exact of_settle found fun _ changed => of_setInstance found foundOther _ (.addLogStream changed)
  | grant statement =>
    exact of_settle found fun _ changed => of_setInstance found foundOther _ (.grant changed)
  | addExecutionDependency resource => exact of_settle found fun _ _ => of_same found _ rfl
  | render => exact renderInstance found foundOther

theorem renderSequence (found : w.findInstance? id = some i) (sequenceId : SequenceId)
    (g : GuardedSequence) : Evolves w id i operation (w.renderSequence sequenceId g) := by
  rw [World.renderSequence]
  rcases g.sequence.render w.environment with ⟨e | rendered, env'⟩
  · exact of_same found _ rfl
  · exact of_same found _ rfl

theorem operateSequence (found : w.findInstance? id = some i) (sequenceId : SequenceId)
    (g : GuardedSequence) (change : SequenceOperation) :
    Evolves w id i operation (w.operateSequence sequenceId g change) := by
  cases change with
  | addItems items => exact of_settle found fun _ _ => of_same found _ rfl
  | addOnExit commands => exact of_settle found fun _ _ => of_same found _ rfl
  | applyGuard guard => exact of_settle found fun _ _ => of_same found _ rfl
  | render => exact renderSequence found sequenceId g

/-- **Every operation leaves an instance in its place**, as it was, or changed by an operation
on this instance. -/
theorem apply (found : w.findInstance? id = some i) (operation : Operation) :
    Evolves w id i operation (w.apply operation) := by
  cases operation with
  | addResource path => exact of_settle found fun _ _ => of_same found _ rfl
  | addDependency dependent dependency => exact of_settle found fun _ _ => of_same found _ rfl
  | finalize => exact of_settle found fun _ _ => of_same found _ rfl
  | declareInstance path options =>
    exact of_settle found fun change _ => of_append found _ change.1 rfl
  | declareRegistration path options =>
    exact of_settle found fun declared _ => of_append found _ declared.host rfl
  | addStore instanceId frontDoor => exact of_same found _ rfl
  | addSequence => exact of_same found _ rfl
  | addCaller text => exact of_same found _ rfl
  | setCaller caller text => exact of_same found _ rfl
  | evaluate command => exact of_same found _ rfl
  | release command => exact of_same found _ rfl
  | register store segment requested dependent =>
    rw [World.apply, World.register]
    cases w.environment.store? store with
    | none => exact of_same found _ rfl
    | some s => exact of_settle found fun _ _ => of_same found _ rfl
  | onInstance other change =>
    rw [World.apply]
    cases foundOther : w.findInstance? other with
    | none => exact of_same found _ rfl
    | some j => exact operateInstance found foundOther change
  | onSequence sequenceId change =>
    rw [World.apply]
    cases w.findSequence? sequenceId with
    | none => exact of_same found _ rfl
    | some g => exact operateSequence found sequenceId g change

end Evolves

/-! ## The setup -/

/-- What an operation adds to the setup of an instance. -/
def Operation.setupFor (id : InstanceId) : Operation → List ScriptItem
  | .onInstance other (.addSetup items) => if other = id then items else []
  | _ => []

/-- After an operation the instance is still there, and its setup holds what it held and
perhaps some more. -/
def Stays (id : InstanceId) (i : ProvisioningInstance) (more : List ScriptItem)
    (outcome : Answer × World) : Prop :=
  ∃ i', outcome.2.findInstance? id = some i' ∧ ∀ item ∈ i'.setup, item ∈ i.setup ∨ item ∈ more

/-- A change of an instance adds to its setup what the operation has for it. -/
theorem ProvisioningInstance.Becomes.mem_setup {i i' : ProvisioningInstance} {d : Deployment}
    {operation : InstanceOperation} (becomes : i.Becomes d operation i') (id : InstanceId) :
    ∀ item ∈ i'.setup,
      item ∈ i.setup ∨ item ∈ (Operation.onInstance id operation).setupFor id := by
  intro item mem
  cases becomes with
  | addSetup changed =>
    obtain ⟨_, rfl⟩ := addSetup_eq_ok_iff.mp changed
    rw [Operation.setupFor, if_pos rfl]
    exact List.mem_append.mp mem
  | addLogStream changed =>
    obtain ⟨_, rfl⟩ := addLogStream_eq_ok_iff.mp changed
    exact .inl mem
  | grant changed =>
    obtain ⟨_, rfl⟩ := grant_eq_ok_iff.mp changed
    exact .inl mem
  | render isOpen => exact .inl mem

/-- **Every operation leaves an instance its setup**, with what the operation adds to it. -/
theorem Stays.apply {w : World} {id : InstanceId} {i : ProvisioningInstance}
    (found : w.findInstance? id = some i) (operation : Operation) :
    Stays id i (operation.setupFor id) (w.apply operation) := by
  obtain ⟨i', there, same | ⟨change, rfl, becomes⟩⟩ := Evolves.apply found operation
  · exact ⟨i', there, fun item mem => .inl (same ▸ mem)⟩
  · exact ⟨i', there, becomes.mem_setup id⟩

end Provisioning
