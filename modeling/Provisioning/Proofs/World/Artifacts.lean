import Provisioning.Proofs.Instance.Artifacts
import Provisioning.Proofs.Options
import Provisioning.Proofs.World.Promises

/-!
# What instances were granted, and what their renders make

An instance is granted something in two ways: by its declaration, if it applies
registrations, and by an operation that asks it to take a grant.  Until it is rendered, an
instance holds what it was granted, in the order of the first grants and nothing else.  So
the policy of a render can be told from the run that led to it.
-/

namespace Provisioning

set_option autoImplicit false

/-! ## Grants -/

/-- What the instance of a registration is granted when it is declared. -/
def RegistrationOptions.initialGrants (o : RegistrationOptions) : List PolicyStatement :=
  match o.scriptObject with
  | .ok object => o.statements object
  | .error _ => []

/-- What an operation on an instance is to grant to it. -/
def InstanceOperation.statements : InstanceOperation → List PolicyStatement
  | .grant statement => [statement]
  | _ => []

/-- What an operation that was answered has granted to an instance. -/
def Operation.granted (id : InstanceId) : Operation → Answer → List PolicyStatement
  | .onInstance host change, { result := .ok .done, .. } =>
    if host = id then change.statements else []
  | .declareRegistration _ options, { result := .ok (.declaredRegistration host _), .. } =>
    if host = id then options.initialGrants else []
  | _, _ => []

/-- What a run has granted to an instance, one grant after another. -/
def granted (id : InstanceId) (operations : List Operation) (answers : List Answer) :
    List PolicyStatement :=
  (operations.zip answers).flatMap fun called => called.1.granted id called.2

theorem granted_cons (id : InstanceId) (operation : Operation) (rest : List Operation)
    (answer : Answer) (answers : List Answer) :
    granted id (operation :: rest) (answer :: answers) =
      operation.granted id answer ++ granted id rest answers := by
  rw [granted, List.zip_cons_cons, List.flatMap_cons]
  rfl

/-- An operation that fails grants nothing. -/
theorem Operation.granted_error (id : InstanceId) (operation : Operation) (e : Error)
    (events : List Event) : operation.granted id { result := .error e, events } = [] := by
  unfold granted
  split
  next same => cases same
  next same => cases same
  next => rfl

/-! ## The role of an instance -/

namespace ProvisioningInstance.Becomes

variable {i i' : ProvisioningInstance} {d : Deployment} {change : InstanceOperation}

/-- An instance keeps its options. -/
theorem options_eq (becomes : i.Becomes d change i') : i'.options = i.options := by
  cases becomes with
  | addSetup changed =>
    obtain ⟨_, rfl⟩ := addSetup_eq_ok_iff.mp changed
    rfl
  | addLogStream changed =>
    obtain ⟨_, rfl⟩ := addLogStream_eq_ok_iff.mp changed
    rfl
  | grant changed =>
    obtain ⟨_, rfl⟩ := grant_eq_ok_iff.mp changed
    rfl
  | render isOpen => rfl

/-- Unless the change is a render, the role takes up what the operation grants. -/
theorem statements_role (becomes : i.Becomes d change i') (notRendered : i'.isRendered = false)
    {given : List PolicyStatement}
    (held : i.isRendered = false → i.role.statements = given.eraseDups) :
    i'.role.statements = (given ++ change.statements).eraseDups := by
  obtain ⟨wasOpen, _⟩ := checkOpen_eq_ok_iff.mp becomes.checkOpen_eq
  have before := held wasOpen
  have unchanged : i.role.statements = (given ++ []).eraseDups := by
    rwa [List.append_nil]
  cases becomes with
  | addSetup changed =>
    obtain ⟨_, rfl⟩ := addSetup_eq_ok_iff.mp changed
    exact unchanged
  | addLogStream changed =>
    obtain ⟨_, rfl⟩ := addLogStream_eq_ok_iff.mp changed
    exact unchanged
  | grant changed =>
    obtain ⟨_, rfl⟩ := grant_eq_ok_iff.mp changed
    exact InstanceRole.statements_grant before _
  | render isOpen => cases notRendered

end ProvisioningInstance.Becomes

/-! ## The invariant -/

/-- Every instance of a world is alone in its group and, until it is rendered, holds what
it was given.  What does not exist was given nothing. -/
structure Granting (w : World) (given : InstanceId → List PolicyStatement) : Prop where
  single : ∀ id i, w.findInstance? id = some i → i.options.capacity = .single
  held : ∀ id i, w.findInstance? id = some i → i.isRendered = false →
    i.role.statements = (given id).eraseDups
  absent : ∀ id, w.findInstance? id = none → given id = []

/-- The outcome of an operation keeps the invariant, with what the operation granted. -/
def Grants (given : InstanceId → List PolicyStatement) (operation : Operation)
    (outcome : Answer × World) : Prop :=
  Granting outcome.2 fun id => given id ++ operation.granted id outcome.1

namespace Granting

variable {w w' : World} {given : InstanceId → List PolicyStatement} {operation : Operation}
  {other : InstanceId} {j j' : ProvisioningInstance}

/-- An operation that leaves the instances alone and grants nothing. -/
theorem of_same (granting : Granting w given) (answer : Answer)
    (instances : w'.instances = w.instances)
    (nothing : ∀ id, operation.granted id answer = []) : Grants given operation (answer, w') := by
  have same : ∀ id, w'.findInstance? id = w.findInstance? id := fun id =>
    congrArg (·[id.index]?) instances
  refine ⟨fun id i found => ?_, fun id i found notRendered => ?_, fun id missing => ?_⟩
  · exact granting.single id i ((same id).symm.trans found)
  · rw [nothing, List.append_nil]
    exact granting.held id i ((same id).symm.trans found) notRendered
  · rw [nothing, List.append_nil]
    exact granting.absent id ((same id).symm.trans missing)

/-- An operation that tries a change. -/
theorem of_settle {α : Type} {change : Result α} {accept : α → Answer × World}
    (granting : Granting w given)
    (onOk : ∀ a, change = .ok a → Grants given operation (accept a)) :
    Grants given operation (w.settle change accept) :=
  World.settle_elim
    (fun e _ => granting.of_same _ rfl fun id => operation.granted_error id e []) onOk

/-- An operation after which one instance is new or changed, and was granted something. -/
theorem of_change (granting : Granting w given) {answer : Answer}
    (here : w'.findInstance? other = some j)
    (there : ∀ id ≠ other, w'.findInstance? id = w.findInstance? id)
    (single : j.options.capacity = .single)
    (held : j.isRendered = false →
      j.role.statements = (given other ++ operation.granted other answer).eraseDups)
    (elsewhere : ∀ id ≠ other, operation.granted id answer = []) :
    Grants given operation (answer, w') := by
  refine ⟨fun id i found => ?_, fun id i found notRendered => ?_, fun id missing => ?_⟩
  · by_cases same : id = other
    · subst same
      cases Option.some.inj (here.symm.trans found)
      exact single
    · exact granting.single id i ((there id same).symm.trans found)
  · by_cases same : id = other
    · subst same
      cases Option.some.inj (here.symm.trans found)
      exact held notRendered
    · rw [elsewhere id same, List.append_nil]
      exact granting.held id i ((there id same).symm.trans found) notRendered
  · by_cases same : id = other
    · subst same
      cases here.symm.trans missing
    · rw [elsewhere id same, List.append_nil]
      exact granting.absent id ((there id same).symm.trans missing)

/-- An operation that changes an instance. -/
theorem of_becomes (granting : Granting w given) (found : w.findInstance? other = some j)
    {change : InstanceOperation} (becomes : j.Becomes w.deployment change j')
    (events : List Event) :
    Grants given (.onInstance other change)
      ({ result := .ok .done, events }, w.setInstance other j') := by
  have granted : (Operation.onInstance other change).granted other { result := .ok .done, events } =
      change.statements := if_pos rfl
  refine granting.of_change (World.findInstance?_setInstance_self found)
    (fun id differ => World.findInstance?_setInstance_of_ne differ) ?_ (fun notRendered => ?_)
    (fun id differ => if_neg (Ne.symm differ))
  · rw [becomes.options_eq]
    exact granting.single other j found
  · rw [granted]
    exact becomes.statements_role notRendered (granting.held other j found)

/-- An operation that adds an instance behind the others and grants something to it. -/
theorem of_append (granting : Granting w given) (answer : Answer)
    (instances : w'.instances = w.instances ++ [j]) (single : j.options.capacity = .single)
    (held : j.role.statements = (operation.granted ⟨w.instances.length⟩ answer).eraseDups)
    (elsewhere : ∀ id ≠ ⟨w.instances.length⟩, operation.granted id answer = []) :
    Grants given operation (answer, w') := by
  have unknown : given ⟨w.instances.length⟩ = [] :=
    granting.absent _ (List.getElem?_eq_none (Nat.le_refl _))
  have last : w'.findInstance? ⟨w.instances.length⟩ = some j := by
    rw [World.findInstance?, instances]
    exact List.getElem?_concat_length
  refine granting.of_change last (fun id differ => ?_) single (fun _ => ?_) elsewhere
  · have notLast : id.index ≠ w.instances.length := fun same => differ (by rw [← same])
    rw [World.findInstance?, World.findInstance?, instances]
    rcases Nat.lt_or_gt_of_ne notLast with within | beyond
    · exact List.getElem?_append_left within
    · rw [List.getElem?_eq_none, List.getElem?_eq_none (Nat.le_of_lt beyond)]
      rw [List.length_append, List.length_singleton]
      exact beyond
  · rw [unknown]
    exact held

/-! ### Every operation -/

theorem operateInstance (granting : Granting w given) (found : w.findInstance? other = some j)
    (change : InstanceOperation) :
    Grants given (.onInstance other change) (w.operateInstance other j change) := by
  cases change with
  | addSetup items =>
    exact granting.of_settle fun _ changed => granting.of_becomes found (.addSetup changed) []
  | addLogStream name path =>
    exact granting.of_settle fun _ changed => granting.of_becomes found (.addLogStream changed) []
  | grant statement =>
    exact granting.of_settle fun _ changed => granting.of_becomes found (.grant changed) []
  | addExecutionDependency resource =>
    exact granting.of_settle fun _ _ => granting.of_same _ rfl fun _ => ite_self []
  | render =>
    rw [World.operateInstance, World.renderInstance]
    rcases j.render_cases w.deployment w.environment with
      ⟨e, _, isOutcome⟩ | ⟨isOpen, texts, env', _, isOutcome⟩ | ⟨_, e, env', _, isOutcome⟩
    · rw [isOutcome]
      exact granting.of_same _ rfl fun id => Operation.granted_error id _ e _
    · rw [isOutcome]
      exact granting.of_change
        (World.findInstance?_setInstance_self (w := { w with environment := env' }) found)
        (fun id differ => World.findInstance?_setInstance_of_ne differ)
        (granting.single other j found) (fun notRendered => by cases notRendered) fun _ _ => rfl
    · rw [isOutcome]
      exact granting.of_same _ rfl fun id => Operation.granted_error id _ e _

theorem operateSequence (granting : Granting w given) (id : SequenceId) (g : GuardedSequence)
    (change : SequenceOperation) :
    Grants given (.onSequence id change) (w.operateSequence id g change) := by
  cases change with
  | addItems items => exact granting.of_settle fun _ _ => granting.of_same _ rfl fun _ => rfl
  | addOnExit commands => exact granting.of_settle fun _ _ => granting.of_same _ rfl fun _ => rfl
  | applyGuard guard => exact granting.of_settle fun _ _ => granting.of_same _ rfl fun _ => rfl
  | render =>
    rw [World.operateSequence, World.renderSequence]
    rcases g.sequence.render w.environment with ⟨e | rendered, env'⟩
    · exact granting.of_same _ rfl fun _ => rfl
    · exact granting.of_same _ rfl fun _ => rfl

/-- **Every operation keeps the invariant.** -/
theorem apply (granting : Granting w given) (operation : Operation) :
    Grants given operation (w.apply operation) := by
  cases operation with
  | addResource path => exact granting.of_settle fun _ _ => granting.of_same _ rfl fun _ => rfl
  | addDependency dependent dependency =>
    exact granting.of_settle fun _ _ => granting.of_same _ rfl fun _ => rfl
  | finalize => exact granting.of_settle fun _ _ => granting.of_same _ rfl fun _ => rfl
  | declareInstance path options =>
    refine granting.of_settle fun _ declared => ?_
    obtain ⟨checked, _, _, _, _, isDeclared⟩ := ProvisioningInstance.declare_eq_ok_iff.mp declared
    refine granting.of_append _ rfl ?_ ?_ fun _ _ => rfl
    · rw [isDeclared]
      exact InstanceOptions.capacity_of_check checked
    · rw [isDeclared]
      rfl
  | declareRegistration path options =>
    refine granting.of_settle fun declared success => ?_
    obtain ⟨object, _, _, isObject, checked, _, isHost, _⟩ :=
      IdentityRegistration.eq_of_declare success
    refine granting.of_append _ rfl ?_ ?_ fun id differ => if_neg (Ne.symm differ)
    · rw [isHost]
      exact InstanceOptions.capacity_of_check checked
    · have initial : options.initialGrants = options.statements object := by
        rw [RegistrationOptions.initialGrants, isObject]
      have granted : (Operation.declareRegistration path options).granted ⟨w.instances.length⟩
          { result := .ok (.declaredRegistration ⟨w.instances.length⟩ w.environment.nextStore) } =
            options.initialGrants := if_pos rfl
      have noGrants : InstanceRole.empty.statements = [].eraseDups := rfl
      rw [granted, initial, isHost]
      exact InstanceRole.statements_grantAll noGrants _
  | addStore instanceId frontDoor => exact granting.of_same _ rfl fun _ => rfl
  | addSequence => exact granting.of_same _ rfl fun _ => rfl
  | addCaller text => exact granting.of_same _ rfl fun _ => rfl
  | setCaller caller text => exact granting.of_same _ rfl fun _ => rfl
  | evaluate command =>
    rw [World.apply]
    rcases command.evaluate w.environment with ⟨e | text, env'⟩
    · exact granting.of_same _ rfl fun _ => rfl
    · exact granting.of_same _ rfl fun _ => rfl
  | release command => exact granting.of_same _ rfl fun _ => rfl
  | register store segment requested dependent =>
    rw [World.apply, World.register]
    cases w.environment.store? store with
    | none => exact granting.of_same _ rfl fun _ => rfl
    | some s => exact granting.of_settle fun _ _ => granting.of_same _ rfl fun _ => rfl
  | onInstance id change =>
    rw [World.apply]
    cases found : w.findInstance? id with
    | none => exact granting.of_same _ rfl fun _ => rfl
    | some i => exact granting.operateInstance found change
  | onSequence id change =>
    rw [World.apply]
    cases w.findSequence? id with
    | none => exact granting.of_same _ rfl fun _ => rfl
    | some g => exact granting.operateSequence id g change

/-- **Every run keeps the invariant.** -/
theorem run (granting : Granting w given) (operations : List Operation) :
    Granting (w.run operations).2 fun id =>
      given id ++ granted id operations (w.run operations).1 := by
  induction operations generalizing w given with
  | nil =>
    have nothing : (fun id => given id ++ granted id [] (w.run []).1) = given :=
      funext fun id => List.append_nil (given id)
    rw [nothing]
    exact granting
  | cons operation rest ih =>
    have later := ih (granting.apply operation)
    simp only [List.append_assoc, ← granted_cons] at later
    exact later

/-- In a world without instances nothing is granted. -/
theorem of_create {stack region : String} (created : World.create stack region = .ok w) :
    Granting w fun _ => [] := by
  obtain ⟨_, _, noInstance⟩ := World.eq_of_create created
  have missing : ∀ id, w.findInstance? id = none := by
    intro id
    rw [World.findInstance?, noInstance]
    rfl
  refine ⟨fun id i found => ?_, fun id i found => ?_, fun _ _ => rfl⟩
  · cases (missing id).symm.trans found
  · cases (missing id).symm.trans found

end Granting

/-! ## Renders -/

/-- **The artifacts of a render agree with each other**, with the instance that is rendered
and with what becomes of it, with the place of the deployment, and with what the instance
was granted until then, each statement where it was granted first. -/
theorem World.artifacts_agree {w₀ w : World} {stack region : String} {id : InstanceId}
    {operations : List Operation} {answers : List Answer} {artifacts : RenderedInstance}
    (created : World.create stack region = .ok w₀) (ran : w₀.run operations = (answers, w))
    (success : (w.apply (.onInstance id .render)).1.result = .ok (.rendered artifacts)) :
    ∃ i after, w.findInstance? id = some i ∧
      (w.apply (.onInstance id .render)).2.findInstance? id = some after ∧
      artifacts.instanceId = i.id ∧
      artifacts.Coherent stack region (granted id operations answers).eraseDups i after := by
  have granting := (Granting.of_create created).run operations
  obtain ⟨stack_eq, region_eq⟩ := place_run w₀ operations
  obtain ⟨isStack, isRegion, _⟩ := eq_of_create created
  rw [ran] at granting stack_eq region_eq
  cases found : w.findInstance? id with
  | none =>
    rw [apply, found] at success
    cases success
  | some i =>
    rw [apply_render found, renderInstance] at success ⊢
    rcases i.render_cases w.deployment w.environment with
      ⟨e, _, isOutcome⟩ | ⟨isOpen, texts, env', _, isOutcome⟩ | ⟨_, e, env', _, isOutcome⟩
    · rw [isOutcome] at success
      cases success
    · rw [isOutcome] at success ⊢
      cases success
      obtain ⟨notRendered, _⟩ := ProvisioningInstance.checkOpen_eq_ok_iff.mp isOpen
      have coherent := ProvisioningInstance.coherent_artifacts (granting.single id i found)
        (granting.held id i found notRendered) w.deployment texts
      rw [stack_eq, region_eq, isStack, isRegion, List.nil_append] at coherent
      exact ⟨i, i.sealedBy w.deployment, rfl,
        findInstance?_setInstance_self (w := { w with environment := env' }) found,
        rfl, coherent⟩
    · rw [isOutcome] at success
      cases success

/-- The permission to copy what an instance is set up with. -/
def copySetup : PolicyStatement :=
  .allow ["s3:GetObject"] ["arn:aws:s3:::farm/setup"]

/-- An instance that ends itself is granted two things, one of them a second time, and the
other of them is something that its guard needs as well. -/
def grantHost : List Operation := [
  .declareInstance "Repository" (.ofName "repository" ["subnet-1"]),
  .onInstance ⟨0⟩ (.grant copySetup),
  .onInstance ⟨0⟩ (.grant lookupGrant),
  .onInstance ⟨0⟩ (.grant copySetup)]

theorem World.artifacts_agree_host :
    World.create "Farm" "us-west-2" = .ok emptyFarm ∧
    ∃ artifacts i after,
      ((emptyFarm.run grantHost).2.apply renderHost).1.result = .ok (.rendered artifacts) ∧
      i.id = ⟨"Repository"⟩ ∧ i.options.selfTerminate = true ∧
      artifacts.Coherent "Farm" "us-west-2" [copySetup, lookupGrant]
        i after := by
  have created : World.create "Farm" "us-west-2" = .ok emptyFarm := rfl
  have accepted : ((emptyFarm.run grantHost).2.apply renderHost).1.result.toBool = true := by
    decide +kernel
  have described : ((emptyFarm.run grantHost).2.findInstance? ⟨0⟩).map
      (fun i => (i.id, i.options.selfTerminate)) = some (⟨"Repository"⟩, true) := by
    decide +kernel
  have grants : (granted ⟨0⟩ grantHost (emptyFarm.run grantHost).1).eraseDups =
      [copySetup, lookupGrant] := by
    decide +kernel
  obtain ⟨j, isThere, isDescribed⟩ := Option.map_eq_some_iff.mp described
  obtain ⟨isId, terminates⟩ := Prod.mk.inj isDescribed
  rw [renderHost, World.apply_render isThere] at accepted
  obtain ⟨artifacts, success⟩ := World.exists_rendered_of_toBool accepted
  rw [← World.apply_render isThere] at success
  obtain ⟨i, after, found, _, _, coherent⟩ := World.artifacts_agree created
    (show emptyFarm.run grantHost = ((emptyFarm.run grantHost).1, _) from rfl) success
  cases Option.some.inj (isThere.symm.trans found)
  rw [grants] at coherent
  exact ⟨created, artifacts, j, after, success, isId, terminates, coherent⟩

end Provisioning
