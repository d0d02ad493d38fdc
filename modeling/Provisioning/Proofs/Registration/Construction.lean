import Provisioning.Proofs.Deployment.Steps
import Provisioning.Proofs.Options
import Provisioning.Proofs.Registration.Identity

/-!
# Constructors in steps

A constructor declares the resource of an instance in a deployment that others share, and
goes on from there: it grants, prepares the setup and makes a store.  Each of these steps
can fail by itself.  None of them does, since the options were checked before the resource
was declared; so a constructor that fails has not touched the deployment.
-/

namespace Provisioning

set_option autoImplicit false

/-! ## What checked options are good for -/

/-- The signal that the controller waits for. -/
def InstanceOptions.signal (o : InstanceOptions) : CompletionSignal where
  count := 1
  timeout := o.executionTimeout

/-- A checked timeout is one that the controller supports. -/
theorem InstanceOptions.create_executionTimeout_of_check {o : InstanceOptions}
    (passed : o.check = .ok ()) :
    CompletionSignal.create o.executionTimeout = .ok o.signal := by
  rw [check] at passed
  obtain ⟨_, passed⟩ := Result.refuse_bind_eq_ok_iff.mp passed
  obtain ⟨_, passed⟩ := Result.refuse_bind_eq_ok_iff.mp passed
  obtain ⟨_, passed⟩ := Result.refuse_bind_eq_ok_iff.mp passed
  obtain ⟨_, passed⟩ := Result.check_bind_eq_ok_iff.mp passed
  obtain ⟨inRange, _⟩ := Result.check_bind_eq_ok_iff.mp passed
  rw [checkTimeout, Result.refuse_eq_ok_iff, Bool.or_eq_true, not_or] at inRange
  obtain ⟨notZero, notTooLong⟩ := inRange
  rw [CompletionSignal.create, if_neg notZero, if_neg notTooLong]
  rfl

/-- The object of a URI has the path behind the scheme, with a bucket and a key. -/
theorem StoredObject.eq_of_read {uri : String} {object : StoredObject}
    (isObject : read uri = .ok object) :
    uri = scheme ++ object.path ∧ isPath object.path.toList = true := by
  rw [read] at isObject
  split at isObject
  next found =>
    cases isObject
    rw [ofUri?, Option.ite_none_right_eq_some, Bool.and_eq_true] at found
    obtain ⟨⟨isPrefix, valid⟩, same⟩ := found
    cases same
    have split := List.prefix_iff_eq_append.mp (List.isPrefixOf_iff_prefix.mp isPrefix)
    refine ⟨?_, ?_⟩
    · rw [← String.toList_inj, String.toList_append, String.toList_ofList, ← String.length_toList]
      exact split.symm
    · rwa [String.toList_ofList]
  next => cases isObject

namespace RegistrationOptions

variable {o : RegistrationOptions}

/-- A checked script source is the URI of an object, and checked options contain checked
options of an instance. -/
theorem scriptObject_of_check (passed : o.check = .ok ()) :
    (∃ object, o.scriptObject = .ok object) ∧ o.instanceOptions.check = .ok () := by
  rw [check] at passed
  obtain ⟨_, passed⟩ := Result.refuse_bind_eq_ok_iff.mp passed
  obtain ⟨_, passed⟩ := Result.check_bind_eq_ok_iff.mp passed
  obtain ⟨_, passed⟩ := Result.refuse_bind_eq_ok_iff.mp passed
  obtain ⟨isRead, passed⟩ := Result.check_bind_eq_ok_iff.mp passed
  obtain ⟨_, passed⟩ := Result.check_bind_eq_ok_iff.mp passed
  refine ⟨?_, passed⟩
  rcases read : o.scriptObject with e | object
  · rw [read] at isRead
    cases isRead
  · exact ⟨object, rfl⟩

/-- The prefix of the stream names is not checked. -/
theorem check_effectiveInstanceOptions (o : RegistrationOptions) :
    o.effectiveInstanceOptions.check = o.instanceOptions.check := by
  rw [effectiveInstanceOptions]
  split
  next => rfl
  next => rfl

end RegistrationOptions

/-! ## Steps on an instance -/

namespace ProvisioningInstance

open InPlace (on_bind_of_ok on_bind_of_error on_lift on_get on_pure)

variable {i : ProvisioningInstance} {d d' : Deployment} {path : String}
  {options : InstanceOptions}

/-- An instance that was just declared. -/
def fresh (id : ResourceId) (options : InstanceOptions) (signal : CompletionSignal) :
    ProvisioningInstance where
  id := id
  options := options
  signal := signal
  setup := []
  logStreams := []
  role := .empty
  isRendered := false

/-- Declares an instance, step by step. -/
def construct (path : String) (options : InstanceOptions) :
    InPlace Deployment ProvisioningInstance := do
  options.check
  let signal ← CompletionSignal.create options.executionTimeout
  let id ← Deployment.declareSteps path
  pure (fresh id options signal)

/-- Grants something, as the deployment is at that moment. -/
def granted (i : ProvisioningInstance) (statement : PolicyStatement) :
    InPlace Deployment ProvisioningInstance := do
  i.grant (← get) statement

/-- Adds items to the setup, as the deployment is at that moment. -/
def extended (i : ProvisioningInstance) (items : List ScriptItem) :
    InPlace Deployment ProvisioningInstance := do
  i.addSetup (← get) items

/-- The instance with more items in its setup and more grants. -/
def prepared (i : ProvisioningInstance) (items : List ScriptItem)
    (statements : List PolicyStatement) : ProvisioningInstance :=
  { i with setup := i.setup ++ items, role := i.role.grantAll statements }

theorem prepared_nil (i : ProvisioningInstance) : i.prepared [] [] = i := by
  rw [prepared, List.append_nil]
  rfl

theorem prepared_prepared (i : ProvisioningInstance) (items items' : List ScriptItem)
    (statements statements' : List PolicyStatement) :
    (i.prepared items statements).prepared items' statements' =
      i.prepared (items ++ items') (statements ++ statements') := by
  simp only [prepared, InstanceRole.grantAll, List.append_assoc, List.foldl_append]

/-- Items and grants do not close an instance. -/
theorem checkOpen_prepared (isOpen : i.checkOpen d = .ok ()) (items : List ScriptItem)
    (statements : List PolicyStatement) : (i.prepared items statements).checkOpen d = .ok () :=
  isOpen

theorem pure_on (i : ProvisioningInstance) (d : Deployment) :
    (pure i : InPlace Deployment ProvisioningInstance).on d = (.ok (i.prepared [] []), d) := by
  rw [prepared_nil]
  rfl

theorem grant_of_checkOpen (isOpen : i.checkOpen d = .ok ()) (statement : PolicyStatement) :
    i.grant d statement = .ok (i.prepared [] [statement]) :=
  grant_eq_ok_iff.mpr ⟨isOpen, by rw [prepared, List.append_nil]; rfl⟩

theorem addSetup_of_checkOpen (isOpen : i.checkOpen d = .ok ()) (items : List ScriptItem) :
    i.addSetup d items = .ok (i.prepared items []) :=
  addSetup_eq_ok_iff.mpr ⟨isOpen, rfl⟩

theorem granted_on (isOpen : i.checkOpen d = .ok ()) (statement : PolicyStatement) :
    (i.granted statement).on d = (.ok (i.prepared [] [statement]), d) := by
  rw [granted, on_bind_of_ok (on_get d), on_lift, grant_of_checkOpen isOpen]

theorem extended_on (isOpen : i.checkOpen d = .ok ()) (items : List ScriptItem) :
    (i.extended items).on d = (.ok (i.prepared items []), d) := by
  rw [extended, on_bind_of_ok (on_get d), on_lift, addSetup_of_checkOpen isOpen]

/-- A deployment in which a resource was just declared is open, and so is a new instance. -/
theorem checkOpen_of_declare (declared : declare d path options = .ok (i, d')) :
    i.checkOpen d' = .ok () := by
  obtain ⟨_, _, _, _, added, rfl⟩ := declare_eq_ok_iff.mp declared
  obtain ⟨_, isOpen, _, _, rfl⟩ := Deployment.addResource_eq_ok_iff.mp added
  exact checkOpen_eq_ok_iff.mpr ⟨rfl, isOpen⟩

/-- With options that pass, only the resource can keep an instance from being declared. -/
theorem declare_of_check (passed : options.check = .ok ()) :
    declare d path options = (d.addResource path).map fun (id, d') =>
      (fresh id options options.signal, d') := by
  rw [declare, passed, InstanceOptions.create_executionTimeout_of_check passed]
  rcases d.addResource path with e | ⟨id, d'⟩
  · rfl
  · rfl

/-- Carried out in steps, the declaration of an instance comes to the same. -/
theorem construct_on (d : Deployment) (path : String) (options : InstanceOptions) :
    (construct path options).on d = InPlace.settled (declare d path options) d := by
  rcases passed : options.check with e | ⟨⟩
  · have failed : declare d path options = .error e := by
      rw [declare, passed]
      rfl
    rw [construct, passed, on_bind_of_error (on_lift _ d), failed]
    rfl
  · rw [construct, passed, on_bind_of_ok (on_lift _ d),
      InstanceOptions.create_executionTimeout_of_check passed, on_bind_of_ok (on_lift _ d),
      declare_of_check passed]
    rcases added : d.addResource path with e | ⟨id, d'⟩
    · rw [on_bind_of_error (by rw [Deployment.declareSteps_on, added]; rfl)]
      rfl
    · rw [on_bind_of_ok (by rw [Deployment.declareSteps_on, added]; rfl), on_pure]
      rfl

end ProvisioningInstance

/-! ## Steps of a registration -/

namespace IdentityRegistration

open InPlace (on_bind_of_ok on_bind_of_error on_lift on_pure)
open ProvisioningInstance (prepared_prepared checkOpen_prepared pure_on granted_on extended_on
  grant_of_checkOpen addSetup_of_checkOpen checkOpen_of_declare)

/-- Has the configure command copied, if it comes from an object. -/
def stageScript (o : RegistrationOptions) (host : ProvisioningInstance) :
    InPlace Deployment ProvisioningInstance :=
  match o.scriptSource with
  | none => pure host
  | some uri => do
    let object ← StoredObject.read uri
    let host ← host.granted (RegistrationOptions.copyStatement object)
    host.extended (object.stagingCommands.map .line)

/-- Grants reading the certificate of the render queue, if it is known by one. -/
def trustQueue (o : RegistrationOptions) (host : ProvisioningInstance) :
    InPlace Deployment ProvisioningInstance :=
  match o.queueCertificate with
  | none => pure host
  | some certificate => host.granted (RegistrationOptions.certificateStatement certificate)

/-- Has the instance connect to the render queue, if there is one. -/
def connectQueue (o : RegistrationOptions) (host : ProvisioningInstance) :
    InPlace Deployment ProvisioningInstance :=
  match o.queueConnection with
  | none => pure host
  | some connection => do
    let host ← trustQueue o host
    host.extended ((connection.commands o.osUser).map .line)

/-- What is left to do for a registration once its instance was declared. -/
def complete (o : RegistrationOptions) (storeId : StoreId) (host : ProvisioningInstance) :
    InPlace Deployment (ProvisioningInstance × RegistrationStore) := do
  let host ← host.granted o.credentialsStatement
  let host ← host.granted RegistrationOptions.subnetsStatement
  let host ← stageScript o host
  let host ← connectQueue o host
  let host ← host.extended [.deferred (.registration (o.command storeId))]
  pure (host, .create host.id o.connectionSubnets)

/-- Declares a registration, step by step. -/
def construct (path : String) (o : RegistrationOptions) (storeId : StoreId) :
    InPlace Deployment (ProvisioningInstance × RegistrationStore) := do
  o.check
  let host ← ProvisioningInstance.construct path o.effectiveInstanceOptions
  complete o storeId host

variable {o : RegistrationOptions} {storeId : StoreId} {object : Option StoredObject}
  {host : ProvisioningInstance} {d d' : Deployment}

theorem stageScript_on (isOpen : host.checkOpen d = .ok ())
    (isObject : o.scriptObject = .ok object) :
    (stageScript o host).on d =
      (.ok (host.prepared (((object.map StoredObject.stagingCommands).getD []).map .line)
        (object.map RegistrationOptions.copyStatement).toList), d) := by
  rw [RegistrationOptions.scriptObject] at isObject
  rw [stageScript]
  cases source : o.scriptSource with
  | none =>
    rw [source] at isObject
    cases isObject
    exact pure_on host d
  | some uri =>
    rw [source] at isObject
    obtain ⟨found, isRead, rfl⟩ := Result.map_eq_ok_iff.mp isObject
    dsimp only
    rw [isRead, on_bind_of_ok (on_lift _ d), on_bind_of_ok (granted_on isOpen _),
      extended_on (checkOpen_prepared isOpen _ _), prepared_prepared]
    rfl

theorem trustQueue_on (isOpen : host.checkOpen d = .ok ()) :
    (trustQueue o host).on d =
      (.ok (host.prepared []
        (o.queueCertificate.map RegistrationOptions.certificateStatement).toList), d) := by
  rw [trustQueue]
  cases o.queueCertificate with
  | none => exact pure_on host d
  | some certificate => exact granted_on isOpen _

theorem connectQueue_on (isOpen : host.checkOpen d = .ok ()) :
    (connectQueue o host).on d =
      (.ok (host.prepared (((o.queueConnection.map (·.commands o.osUser)).getD []).map .line)
        (o.queueCertificate.map RegistrationOptions.certificateStatement).toList), d) := by
  rw [connectQueue]
  cases connection : o.queueConnection with
  | none =>
    rw [RegistrationOptions.queueCertificate, connection]
    exact pure_on host d
  | some connection =>
    dsimp only
    rw [on_bind_of_ok (trustQueue_on isOpen), extended_on (checkOpen_prepared isOpen _ _),
      prepared_prepared, List.nil_append, List.append_nil]
    rfl

/-- The instance of a registration as its constructor leaves it. -/
def completed (o : RegistrationOptions) (storeId : StoreId) (object : Option StoredObject)
    (host : ProvisioningInstance) : ProvisioningInstance :=
  host.prepared ((o.preparation object).map .line ++
    [.deferred (.registration (o.command storeId))]) (o.statements object)

/-- Nothing that is left to do after the declaration fails. -/
theorem complete_on (isOpen : host.checkOpen d = .ok ())
    (isObject : o.scriptObject = .ok object) :
    (complete o storeId host).on d =
      (.ok (completed o storeId object host, .create host.id o.connectionSubnets), d) := by
  have stillOpen := checkOpen_prepared isOpen
  -- Each step finds the instance prepared by those before it, and still open.
  rw [complete, on_bind_of_ok (granted_on isOpen _),
    on_bind_of_ok (granted_on (stillOpen _ _) _), prepared_prepared,
    on_bind_of_ok (stageScript_on (stillOpen _ _) isObject), prepared_prepared,
    on_bind_of_ok (connectQueue_on (stillOpen _ _)), prepared_prepared,
    on_bind_of_ok (extended_on (stillOpen _ _) _), on_pure]
  simp only [prepared_prepared, completed, RegistrationOptions.preparation,
    RegistrationOptions.statements, List.map_append, List.append_assoc, List.nil_append,
    List.append_nil, List.cons_append]
  rfl

/-- Several grants succeed on an open instance. -/
theorem grantAll_of_checkOpen (isOpen : host.checkOpen d = .ok ())
    (statements : List PolicyStatement) :
    grantAll host d statements = .ok (host.prepared [] statements) := by
  induction statements generalizing host with
  | nil => exact congrArg Except.ok host.prepared_nil.symm
  | cons statement rest ih =>
    rw [grantAll, List.foldlM_cons, grant_of_checkOpen isOpen, Result.ok_bind]
    have others := ih (checkOpen_prepared isOpen [] [statement])
    rwa [prepared_prepared] at others

/-- With options that pass, only its instance can keep a registration from being declared. -/
theorem declare_of_check {path : String} (passed : o.check = .ok ())
    (isObject : o.scriptObject = .ok object) :
    declare d path o storeId =
      (ProvisioningInstance.declare d path o.effectiveInstanceOptions).map fun (host, d') =>
        { host := completed o storeId object host
          store := .create host.id o.connectionSubnets
          deployment := d' } := by
  rw [declare, passed, isObject]
  rcases declared : ProvisioningInstance.declare d path o.effectiveInstanceOptions with
    e | ⟨host, d'⟩
  · rfl
  · have isOpen := checkOpen_of_declare declared
    have stillOpen := checkOpen_prepared isOpen
    simp only [Result.ok_bind, grantAll_of_checkOpen isOpen,
      ProvisioningInstance.addSetupCommands, ProvisioningInstance.addLazySetup,
      addSetup_of_checkOpen (stillOpen _ _), prepared_prepared, List.nil_append, List.append_nil]
    rfl

/-- Carried out in steps, the declaration of a registration comes to the same. -/
theorem construct_on (d : Deployment) (path : String) (o : RegistrationOptions)
    (storeId : StoreId) :
    (construct path o storeId).on d =
      InPlace.settled ((declare d path o storeId).map fun declared =>
        ((declared.host, declared.store), declared.deployment)) d := by
  rcases passed : o.check with e | ⟨⟩
  · have failed : declare d path o storeId = .error e := by
      rw [declare, passed]
      rfl
    rw [construct, passed, on_bind_of_error (on_lift _ d), failed]
    rfl
  · obtain ⟨⟨object, isObject⟩, _⟩ := RegistrationOptions.scriptObject_of_check passed
    rw [construct, passed, on_bind_of_ok (on_lift _ d), declare_of_check passed isObject]
    have isInstance := ProvisioningInstance.construct_on d path o.effectiveInstanceOptions
    rcases declared : ProvisioningInstance.declare d path o.effectiveInstanceOptions with
      e | ⟨host, d'⟩
    · rw [declared] at isInstance
      exact on_bind_of_error isInstance
    · rw [declared] at isInstance
      rw [on_bind_of_ok isInstance, complete_on (checkOpen_of_declare declared) isObject]
      rfl

end IdentityRegistration

end Provisioning
