import Provisioning.Proofs.Registration.Construction
import Provisioning.Proofs.World.Graph

/-!
# Constructors in a world

A world offers two constructors, one for a bare instance and one for an instance that
applies registrations.  Both are atomic: they fail because of their options or because of
the path, and before anything was changed.  So the path is as free as it was, and the
constructor can be called again with better options.
-/

namespace Provisioning

set_option autoImplicit false

/-- What a constructor is to make. -/
inductive Blueprint where
  | bare (options : InstanceOptions)
  | registration (options : RegistrationOptions)
  deriving DecidableEq

namespace Blueprint

/-- Checks the options. -/
def check : Blueprint → Result Unit
  | bare options => options.check
  | registration options => options.check

/-- The constructor as an operation in a world. -/
def operation (path : String) : Blueprint → Operation
  | bare options => .declareInstance path options
  | registration options => .declareRegistration path options

/-- The constructor in steps; it comes to the instance. -/
def steps (path : String) (storeId : StoreId) :
    Blueprint → InPlace Deployment ProvisioningInstance
  | bare options => ProvisioningInstance.construct path options
  | registration options => do
    let (host, _) ← IdentityRegistration.construct path options storeId
    pure host

/-- The instance and the deployment that the constructor yields. -/
def declare (d : Deployment) (path : String) (storeId : StoreId) :
    Blueprint → Result (ProvisioningInstance × Deployment)
  | bare options => ProvisioningInstance.declare d path options
  | registration options =>
    (IdentityRegistration.declare d path options storeId).map fun declared =>
      (declared.host, declared.deployment)

variable {b : Blueprint} {d : Deployment} {path : String} {storeId : StoreId} {e : Error}

theorem steps_on (b : Blueprint) (d : Deployment) (path : String) (storeId : StoreId) :
    (b.steps path storeId).on d = InPlace.settled (b.declare d path storeId) d := by
  cases b with
  | bare options => exact ProvisioningInstance.construct_on d path options
  | registration options =>
    have inSteps := IdentityRegistration.construct_on d path options storeId
    rw [declare]
    rcases declared : IdentityRegistration.declare d path options storeId with e | made
    · rw [declared] at inSteps
      exact InPlace.on_bind_of_error inSteps
    · rw [declared] at inSteps
      exact InPlace.on_bind_of_ok inSteps

theorem declare_of_check_error (failed : b.check = .error e) :
    b.declare d path storeId = .error e := by
  cases b with
  | bare options =>
    rw [declare, ProvisioningInstance.declare, show options.check = .error e from failed]
    rfl
  | registration options =>
    rw [declare, IdentityRegistration.declare, show options.check = .error e from failed]
    rfl

/-- With options that pass, all depends on the resource. -/
theorem exists_declare_of_check (passed : b.check = .ok ()) (d : Deployment) (path : String)
    (storeId : StoreId) :
    ∃ host : ResourceId → ProvisioningInstance, (∀ id, (host id).id = id) ∧
      b.declare d path storeId = (d.addResource path).map fun (id, d') => (host id, d') := by
  cases b with
  | bare options =>
    exact ⟨fun id => .fresh id options options.signal, fun _ => rfl,
      ProvisioningInstance.declare_of_check passed⟩
  | registration options =>
    obtain ⟨⟨object, isObject⟩, instancePassed⟩ := RegistrationOptions.scriptObject_of_check passed
    rw [← RegistrationOptions.check_effectiveInstanceOptions] at instancePassed
    refine ⟨fun id => IdentityRegistration.completed options storeId object
      (.fresh id options.effectiveInstanceOptions options.effectiveInstanceOptions.signal),
      fun _ => rfl, ?_⟩
    rw [declare, IdentityRegistration.declare_of_check passed isObject,
      ProvisioningInstance.declare_of_check instancePassed]
    rcases d.addResource path with e | ⟨id, d'⟩
    · rfl
    · rfl

/-- A constructor fails because of its options, or because of the resource. -/
theorem declare_eq_error_iff :
    b.declare d path storeId = .error e ↔
      b.check = .error e ∨ b.check = .ok () ∧ d.addResource path = .error e := by
  rcases checked : b.check with e' | ⟨⟩
  · rw [declare_of_check_error checked]
    constructor
    · rintro ⟨⟩
      exact .inl rfl
    · rintro (⟨⟨⟩⟩ | ⟨⟨⟩, _⟩)
      rfl
  · obtain ⟨host, _, declared⟩ := exists_declare_of_check checked d path storeId
    rw [declared, Result.map_eq_error_iff]
    constructor
    · exact fun failed => .inr ⟨rfl, failed⟩
    · rintro (⟨⟨⟩⟩ | ⟨_, failed⟩)
      exact failed

end Blueprint

namespace World

variable {w : World} {b : Blueprint} {path : String} {d : Deployment} {i : ProvisioningInstance}
  {e : Error}

/-- Calls a constructor. -/
def construct (w : World) (path : String) (b : Blueprint) : Answer × World :=
  w.apply (b.operation path)

theorem construct_of_error
    (failed : b.declare w.deployment path w.environment.nextStore = .error e) :
    w.construct path b = ({ result := .error e }, w) := by
  cases b with
  | bare options =>
    rw [construct, Blueprint.operation, apply,
      show ProvisioningInstance.declare _ _ _ = _ from failed]
    rfl
  | registration options =>
    rw [construct, Blueprint.operation, apply, Result.map_eq_error_iff.mp failed]
    rfl

theorem construct_of_ok
    (declared : b.declare w.deployment path w.environment.nextStore = .ok (i, d)) :
    (∃ reply, (w.construct path b).1.result = .ok reply) ∧
      (w.construct path b).2.deployment = d ∧
      (w.construct path b).2.instances = w.instances ++ [i] := by
  cases b with
  | bare options =>
    rw [construct, Blueprint.operation, apply,
      show ProvisioningInstance.declare _ _ _ = _ from declared]
    exact ⟨⟨_, rfl⟩, rfl, rfl⟩
  | registration options =>
    obtain ⟨made, isMade, same⟩ := Result.map_eq_ok_iff.mp declared
    cases same
    rw [construct, Blueprint.operation, apply, isMade]
    exact ⟨⟨_, rfl⟩, rfl, rfl⟩

/-- A constructor is answered with the error of its declaration. -/
theorem declare_of_construct_error (failed : (w.construct path b).1.result = .error e) :
    b.declare w.deployment path w.environment.nextStore = .error e := by
  rcases declared : b.declare w.deployment path w.environment.nextStore with e' | ⟨i, d⟩
  · rw [construct_of_error declared] at failed
    exact congrArg Except.error (Except.error.inj failed)
  · obtain ⟨⟨reply, success⟩, _⟩ := construct_of_ok declared
    rw [success] at failed
    cases failed

/-- With options that pass, a constructor succeeds when its resource can be added. -/
theorem exists_of_construct (passed : b.check = .ok ()) {id : ResourceId}
    (added : w.deployment.addResource path = .ok (id, d)) :
    ∃ host, host.id = id ∧
      b.declare w.deployment path w.environment.nextStore = .ok (host, d) := by
  obtain ⟨host, hasId, declared⟩ := Blueprint.exists_declare_of_check passed w.deployment path
    w.environment.nextStore
  rw [added] at declared
  exact ⟨host id, hasId id, declared⟩

/-- **Constructors are atomic.**  A constructor that fails leaves the world as it was, and in
steps it has left the deployment as it was; it fails because of its options or because of the
path, so once the resource was added no later step fails.  After a failure the same path
serves for a constructor with options that pass, as if it had never been tried.  Checked
options always give a completion signal, and a checked script source always gives an
object. -/
theorem constructors_atomic (w : World) (path : String) (b : Blueprint) :
    (∀ e, (w.construct path b).1.result = .error e →
      (w.construct path b).2 = w ∧
      (b.steps path w.environment.nextStore).on w.deployment = (.error e, w.deployment) ∧
      (b.check = .error e ∨ b.check = .ok () ∧ w.deployment.addResource path = .error e)) ∧
    (b.check = .ok () → ∀ id d, w.deployment.addResource path = .ok (id, d) →
      ∃ host, host.id = id ∧
        (b.steps path w.environment.nextStore).on w.deployment = (.ok host, d) ∧
        (w.construct path b).2.deployment = d ∧
        (w.construct path b).2.instances = w.instances ++ [host]) ∧
    (∀ e, (w.construct path b).1.result = .error e → ∀ better : Blueprint,
      better.check = .ok () → ∀ id d, w.deployment.addResource path = .ok (id, d) →
        ∃ host, host.id = id ∧
          ((w.construct path b).2.construct path better).2.deployment = d ∧
          ((w.construct path b).2.construct path better).2.instances = w.instances ++ [host]) ∧
    (∀ options : InstanceOptions, options.check = .ok () →
      ∃ signal, CompletionSignal.create options.executionTimeout = .ok signal) ∧
    (∀ options : RegistrationOptions, options.check = .ok () →
      ∀ uri, options.scriptSource = some uri →
        ∃ object, StoredObject.read uri = .ok object ∧
          uri = StoredObject.scheme ++ object.path) := by
  refine ⟨fun e failed => ?_, fun passed id d added => ?_,
    fun e failed better passed id d added => ?_,
    fun options passed => ⟨_, InstanceOptions.create_executionTimeout_of_check passed⟩,
    fun options passed uri isSource => ?_⟩
  · have notDeclared := declare_of_construct_error failed
    refine ⟨?_, ?_, Blueprint.declare_eq_error_iff.mp notDeclared⟩
    · rw [construct_of_error notDeclared]
    · rw [Blueprint.steps_on, notDeclared]
      rfl
  · obtain ⟨host, hasId, declared⟩ := exists_of_construct passed added
    obtain ⟨_, isDeployment, isAdded⟩ := construct_of_ok declared
    refine ⟨host, hasId, ?_, isDeployment, isAdded⟩
    rw [Blueprint.steps_on, declared]
    rfl
  · have unchanged := construct_of_error (declare_of_construct_error failed)
    obtain ⟨host, hasId, declared⟩ := exists_of_construct passed added
    obtain ⟨_, isDeployment, isAdded⟩ := construct_of_ok declared
    rw [unchanged]
    exact ⟨host, hasId, isDeployment, isAdded⟩
  · obtain ⟨⟨object, isObject⟩, _⟩ := RegistrationOptions.scriptObject_of_check passed
    rw [RegistrationOptions.scriptObject, isSource] at isObject
    obtain ⟨found, isRead, _⟩ := Result.map_eq_ok_iff.mp isObject
    exact ⟨found, isRead, (StoredObject.eq_of_read isRead).1⟩

/-- A registration whose configure command comes from an object. -/
def stagedRepository (source : String) : Blueprint :=
  .registration {
    RegistrationOptions.create "us-west-2" LazyCommand.fleetCommand.credentials ["subnet-a"]
      (.ofName "repository" ["subnet-b"]) with scriptSource := some source }

/-- A source without a key is refused; with a key the repository gets the path that it was to
have. -/
theorem constructors_atomic_repository :
    (∃ e, (emptyFarm.construct "Repository" (stagedRepository "s3://scripts")).1.result =
      .error e) ∧
    (emptyFarm.construct "Repository" (stagedRepository "s3://scripts")).2 = emptyFarm ∧
    ∃ host, host.id = ⟨"Repository"⟩ ∧
      ((emptyFarm.construct "Repository" (stagedRepository "s3://scripts")).2.construct "Repository"
        (stagedRepository "s3://scripts/configure")).2.instances = [host] := by
  obtain ⟨unchanged, _, again, _⟩ :=
    constructors_atomic emptyFarm "Repository" (stagedRepository "s3://scripts")
  have failed :
      (emptyFarm.construct "Repository" (stagedRepository "s3://scripts")).1.result =
        .error (.config (.notObjectUri "s3://scripts")) := by
    decide +kernel
  have added : emptyFarm.deployment.addResource "Repository" =
      .ok (⟨"Repository"⟩, _) := rfl
  obtain ⟨host, hasId, _, isAdded⟩ := again _ failed (stagedRepository "s3://scripts/configure")
    (by decide +kernel) _ _ added
  exact ⟨⟨_, failed⟩, (unchanged _ failed).1, host, hasId, isAdded⟩

end World

end Provisioning
