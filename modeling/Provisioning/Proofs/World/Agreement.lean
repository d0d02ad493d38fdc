import Provisioning.Proofs.Instance.Render
import Provisioning.Proofs.Script.Journal
import Provisioning.Proofs.World.Basic

/-!
# Worlds that differ in their journals

What was asked of lazy commands in the past has no influence on what comes.  So worlds
that agree on everything else answer every operation alike, and agree afterwards.
-/

namespace Provisioning

set_option autoImplicit false

/-- Two worlds differ at most in their journals. -/
structure World.Agrees (w w' : World) : Prop where
  deployment : w'.deployment = w.deployment
  environment : w.environment.Agrees w'.environment
  instances : w'.instances = w.instances
  sequences : w'.sequences = w.sequences

/-- Two outcomes have the same answer and leave worlds that agree. -/
structure Alike (outcome outcome' : Answer × World) : Prop where
  answer : outcome'.1 = outcome.1
  world : outcome.2.Agrees outcome'.2

/-! ## Renders -/

namespace Environment.Agrees

variable {env env' : Environment}

/-- An instance renders alike in environments that agree. -/
theorem renderInstance (agrees : env.Agrees env') (i : ProvisioningInstance) (d : Deployment) :
    (i.render d env').result = (i.render d env).result ∧
      (i.render d env').events = (i.render d env).events ∧
      (i.render d env).environment.Agrees (i.render d env').environment := by
  cases isOpen : i.checkOpen d with
  | error e =>
    rw [ProvisioningInstance.render, ProvisioningInstance.render, isOpen]
    exact ⟨rfl, rfl, agrees⟩
  | ok passed =>
    obtain ⟨notRendered, notFinalized⟩ := ProvisioningInstance.checkOpen_eq_ok_iff.mp isOpen
    obtain ⟨sameTexts, next⟩ := agrees.evaluateAll i.setup
    rcases ran : ScriptItem.evaluateAll i.setup env with ⟨result, env₁⟩
    rcases ran' : ScriptItem.evaluateAll i.setup env' with ⟨result', env₁'⟩
    rw [ran, ran'] at sameTexts next
    cases sameTexts
    cases result with
    | error e =>
      rw [ProvisioningInstance.render_of_failure notRendered notFinalized ran,
        ProvisioningInstance.render_of_failure notRendered notFinalized ran']
      exact ⟨rfl, rfl, (next.releaseAll i.setup).releaseAll i.setup⟩
    | ok texts =>
      rw [ProvisioningInstance.render_of_texts notRendered notFinalized ran,
        ProvisioningInstance.render_of_texts notRendered notFinalized ran']
      exact ⟨rfl, rfl, next⟩

/-- A sequence renders alike in environments that agree. -/
theorem renderSequence (agrees : env.Agrees env') (s : CommandSequence) :
    (s.render env').1 = (s.render env).1 ∧ (s.render env).2.Agrees (s.render env').2 := by
  rw [CommandSequence.render, CommandSequence.render]
  cases s.checkOpen with
  | error e => exact ⟨rfl, agrees⟩
  | ok passed =>
    obtain ⟨sameTexts, next⟩ := agrees.evaluateAll s.commands
    rcases ran : ScriptItem.evaluateAll s.commands env with ⟨result, env₁⟩
    rcases ran' : ScriptItem.evaluateAll s.commands env' with ⟨result', env₁'⟩
    rw [ran, ran'] at sameTexts next
    cases sameTexts
    cases result with
    | error e => exact ⟨rfl, next.releaseAll s.commands⟩
    | ok texts => exact ⟨rfl, next⟩

end Environment.Agrees

/-! ## Operations -/

namespace World.Agrees

variable {w w' w'' : World}

theorem refl (w : World) : w.Agrees w :=
  ⟨rfl, .refl _, rfl, rfl⟩

theorem symm (agrees : w.Agrees w') : w'.Agrees w :=
  ⟨agrees.deployment.symm, agrees.environment.symm, agrees.instances.symm, agrees.sequences.symm⟩

theorem trans (first : w.Agrees w') (second : w'.Agrees w'') : w.Agrees w'' :=
  ⟨second.deployment.trans first.deployment, first.environment.trans second.environment,
    second.instances.trans first.instances, second.sequences.trans first.sequences⟩

theorem findInstance? (agrees : w.Agrees w') (id : InstanceId) :
    w'.findInstance? id = w.findInstance? id :=
  congrArg (·[id.index]?) agrees.instances

theorem findSequence? (agrees : w.Agrees w') (id : SequenceId) :
    w'.findSequence? id = w.findSequence? id :=
  congrArg (·[id.index]?) agrees.sequences

theorem setInstance (agrees : w.Agrees w') (id : InstanceId) (i : ProvisioningInstance) :
    (w.setInstance id i).Agrees (w'.setInstance id i) :=
  ⟨agrees.deployment, agrees.environment, congrArg (List.set · id.index i) agrees.instances,
    agrees.sequences⟩

theorem setSequence (agrees : w.Agrees w') (id : SequenceId) (s : GuardedSequence) :
    (w.setSequence id s).Agrees (w'.setSequence id s) :=
  ⟨agrees.deployment, agrees.environment, agrees.instances,
    congrArg (List.set · id.index s) agrees.sequences⟩

theorem withDeployment (agrees : w.Agrees w') (d : Deployment) :
    ({ w with deployment := d } : World).Agrees { w' with deployment := d } :=
  ⟨rfl, agrees.environment, agrees.instances, agrees.sequences⟩

theorem withEnvironment (agrees : w.Agrees w') {env env' : Environment} (same : env.Agrees env') :
    ({ w with environment := env } : World).Agrees { w' with environment := env' } :=
  ⟨agrees.deployment, same, agrees.instances, agrees.sequences⟩

theorem withInstances (agrees : w.Agrees w') (added : ProvisioningInstance) :
    ({ w with instances := w.instances ++ [added] } : World).Agrees
      { w' with instances := w'.instances ++ [added] } :=
  ⟨agrees.deployment, agrees.environment, congrArg (· ++ [added]) agrees.instances,
    agrees.sequences⟩

/-- Worlds that agree try a change alike. -/
theorem settle {α : Type} (agrees : w.Agrees w') {change change' : Result α}
    {accept accept' : α → Answer × World} (same : change' = change)
    (accepts : ∀ a, Alike (accept a) (accept' a)) :
    Alike (w.settle change accept) (w'.settle change' accept') := by
  subst same
  cases change' with
  | error e => exact ⟨rfl, agrees⟩
  | ok a => exact accepts a

theorem register (agrees : w.Agrees w') (id : StoreId) (segment : String)
    (requested : Registration) (dependent : ResourceId) :
    Alike (w.register id segment requested dependent)
      (w'.register id segment requested dependent) := by
  rw [World.register, World.register, agrees.environment.store?]
  cases w.environment.store? id with
  | none => exact ⟨rfl, agrees⟩
  | some s =>
    refine agrees.settle (by rw [agrees.deployment]) fun changed => ⟨rfl, ?_⟩
    exact (agrees.withDeployment changed.2).withEnvironment
      (agrees.environment.modifyStore id fun _ => changed.1)

theorem renderInstance (agrees : w.Agrees w') (id : InstanceId) (i : ProvisioningInstance) :
    Alike (w.renderInstance id i) (w'.renderInstance id i) := by
  obtain ⟨sameResult, sameEvents, next⟩ := agrees.environment.renderInstance i w.deployment
  rw [World.renderInstance, World.renderInstance, agrees.deployment, sameResult, sameEvents]
  have agrees := (agrees.withDeployment w.deployment).withEnvironment next
  cases (i.render w.deployment w.environment).result with
  | error e => exact ⟨rfl, agrees⟩
  | ok rendered => exact ⟨rfl, agrees.setInstance id rendered.2⟩

theorem operateInstance (agrees : w.Agrees w') (id : InstanceId) (i : ProvisioningInstance)
    (operation : InstanceOperation) :
    Alike (w.operateInstance id i operation) (w'.operateInstance id i operation) := by
  cases operation with
  | addSetup items =>
    exact agrees.settle (by rw [agrees.deployment]) fun j => ⟨rfl, agrees.setInstance id j⟩
  | addLogStream name path =>
    exact agrees.settle (by rw [agrees.deployment]) fun j => ⟨rfl, agrees.setInstance id j⟩
  | grant statement =>
    exact agrees.settle (by rw [agrees.deployment]) fun j => ⟨rfl, agrees.setInstance id j⟩
  | addExecutionDependency resource =>
    exact agrees.settle (by rw [agrees.deployment]) fun d => ⟨rfl, agrees.withDeployment d⟩
  | render => exact agrees.renderInstance id i

theorem renderSequence (agrees : w.Agrees w') (id : SequenceId) (s : GuardedSequence) :
    Alike (w.renderSequence id s) (w'.renderSequence id s) := by
  obtain ⟨sameResult, next⟩ := agrees.environment.renderSequence s.sequence
  rw [World.renderSequence, World.renderSequence]
  rcases ran : s.sequence.render w.environment with ⟨result, env⟩
  rcases ran' : s.sequence.render w'.environment with ⟨result', env'⟩
  rw [ran, ran'] at sameResult next
  cases sameResult
  cases result with
  | error e => exact ⟨rfl, agrees.withEnvironment next⟩
  | ok rendered =>
    exact ⟨rfl, (agrees.withEnvironment next).setSequence id { s with sequence := rendered.2 }⟩

theorem operateSequence (agrees : w.Agrees w') (id : SequenceId) (s : GuardedSequence)
    (operation : SequenceOperation) :
    Alike (w.operateSequence id s operation) (w'.operateSequence id s operation) := by
  cases operation with
  | addItems items => exact agrees.settle rfl fun _ => ⟨rfl, agrees.setSequence id _⟩
  | addOnExit commands => exact agrees.settle rfl fun _ => ⟨rfl, agrees.setSequence id _⟩
  | applyGuard guard => exact agrees.settle rfl fun _ => ⟨rfl, agrees.setSequence id _⟩
  | render => exact agrees.renderSequence id s

/-- **Worlds that agree answer every operation alike**, and agree afterwards. -/
theorem apply (agrees : w.Agrees w') (operation : Operation) :
    Alike (w.apply operation) (w'.apply operation) := by
  cases operation with
  | addResource path =>
    exact agrees.settle (by rw [agrees.deployment]) fun change =>
      ⟨rfl, agrees.withDeployment change.2⟩
  | addDependency dependent dependency =>
    exact agrees.settle (by rw [agrees.deployment]) fun d => ⟨rfl, agrees.withDeployment d⟩
  | finalize =>
    exact agrees.settle (by rw [agrees.deployment]) fun change =>
      ⟨rfl, agrees.withDeployment change.2⟩
  | declareInstance path options =>
    refine agrees.settle (by rw [agrees.deployment]) fun change => ⟨?_, ?_⟩
    · dsimp only
      rw [agrees.instances]
    · exact (agrees.withDeployment change.2).withInstances change.1
  | declareRegistration path options =>
    have sameStore := agrees.environment.nextStore
    refine agrees.settle (by rw [agrees.deployment, sameStore]) fun declared => ⟨?_, ?_⟩
    · dsimp only
      rw [agrees.instances, sameStore]
    · exact ((agrees.withDeployment declared.deployment).withEnvironment
        (agrees.environment.addStore declared.store)).withInstances declared.host
  | addStore instanceId frontDoor =>
    refine ⟨?_, agrees.withEnvironment (agrees.environment.addStore (.create instanceId frontDoor))⟩
    rw [World.apply, World.apply, agrees.environment.nextStore]
  | addSequence =>
    refine ⟨?_, agrees.deployment, agrees.environment, agrees.instances, ?_⟩
    · rw [World.apply, World.apply, agrees.sequences]
    · exact congrArg (· ++ _) agrees.sequences
  | addCaller text =>
    refine ⟨?_, agrees.withEnvironment (agrees.environment.addCaller text)⟩
    rw [World.apply, World.apply, agrees.environment.nextCaller]
  | setCaller id text =>
    exact ⟨rfl, agrees.withEnvironment (agrees.environment.setCaller id text)⟩
  | evaluate command =>
    obtain ⟨sameText, next⟩ := agrees.environment.evaluate command
    refine ⟨?_, agrees.withEnvironment next⟩
    rw [World.apply, World.apply]
    dsimp only
    rw [sameText]
  | release command => exact ⟨rfl, agrees.withEnvironment (agrees.environment.release command)⟩
  | register store segment requested dependent =>
    exact agrees.register store segment requested dependent
  | onInstance id operation =>
    rw [World.apply, World.apply, agrees.findInstance?]
    cases w.findInstance? id with
    | none => exact ⟨rfl, agrees⟩
    | some i => exact agrees.operateInstance id i operation
  | onSequence id operation =>
    rw [World.apply, World.apply, agrees.findSequence?]
    cases w.findSequence? id with
    | none => exact ⟨rfl, agrees⟩
    | some s => exact agrees.operateSequence id s operation

end World.Agrees

end Provisioning
