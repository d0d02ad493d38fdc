import Provisioning.Deployment.Order
import Provisioning.Instance.Render
import Provisioning.Registration.Identity

/-!
# A deployment and everything in it

A world is one deployment with all that callers make in it: instances, stores of
registrations, commands whose text comes late, and command sequences of their
own.  All of them are shared; callers refer to them by ids.  An operation changes
the world and is answered; one that fails is answered with its error, and a run
is a list of operations one after another.
-/

namespace Provisioning

set_option autoImplicit false

/-! ## Worlds -/

/-- Which instance. -/
structure InstanceId where
  index : Nat
  deriving DecidableEq

/-- Which command sequence. -/
structure SequenceId where
  index : Nat
  deriving DecidableEq

/-- A command sequence with the tags and the role that a guard is attached to. -/
abbrev GuardedSequence := TerminationGuard.Guarded

/-- A deployment and everything in it. -/
structure World where
  deployment : Deployment
  environment : Environment
  instances : List ProvisioningInstance
  sequences : List GuardedSequence

namespace World

/-- A deployment without anything in it. -/
def create (stack region : String) : Result World :=
  (Deployment.create stack region).map fun deployment =>
    { deployment, environment := .empty, instances := [], sequences := [] }

/-- The instance of an id. -/
def findInstance? (w : World) (id : InstanceId) : Option ProvisioningInstance :=
  w.instances[id.index]?

/-- The command sequence of an id. -/
def findSequence? (w : World) (id : SequenceId) : Option GuardedSequence :=
  w.sequences[id.index]?

/-- Replaces an instance. -/
def setInstance (w : World) (id : InstanceId) (i : ProvisioningInstance) : World :=
  { w with instances := w.instances.set id.index i }

/-- Replaces a command sequence. -/
def setSequence (w : World) (id : SequenceId) (s : GuardedSequence) : World :=
  { w with sequences := w.sequences.set id.index s }

/-- Replaces a store. -/
def setStore (w : World) (id : StoreId) (s : RegistrationStore) : World :=
  { w with environment := w.environment.modifyStore id fun _ => s }

end World

/-! ## Operations -/

/-- What can be done with an instance. -/
inductive InstanceOperation where
  | addSetup (items : List ScriptItem)
  | addLogStream (name path : String)
  | addExecutionDependency (resource : ResourceId)
  | grant (statement : PolicyStatement)
  | render
  deriving DecidableEq

/-- What can be done with a command sequence. -/
inductive SequenceOperation where
  | addItems (items : List ScriptItem)
  | addOnExit (commands : List String)
  | applyGuard (guard : TerminationGuard)
  | render
  deriving DecidableEq

/-- What can be done in a world. -/
inductive Operation where
  | addResource (path : String)
  | addDependency (dependent dependency : ResourceId)
  | finalize
  | declareInstance (path : String) (options : InstanceOptions)
  | declareRegistration (path : String) (options : RegistrationOptions)
  | addStore (instanceId : ResourceId) (frontDoor : List String)
  | addSequence
  | addCaller (text : CallerText)
  | setCaller (id : CallerId) (text : CallerText)
  | evaluate (command : LazyCommand)
  | release (command : LazyCommand)
  | register (store : StoreId) (segment : String) (requested : Registration)
      (dependent : ResourceId)
  | onInstance (id : InstanceId) (operation : InstanceOperation)
  | onSequence (id : SequenceId) (operation : SequenceOperation)

/-- What an operation that succeeds is answered with. -/
inductive Reply where
  | done
  | resource (id : ResourceId)
  | order (ids : List ResourceId)
  | declaredInstance (id : InstanceId)
  | declaredRegistration (id : InstanceId) (store : StoreId)
  | addedStore (id : StoreId)
  | addedSequence (id : SequenceId)
  | addedCaller (id : CallerId)
  | text (text : String)
  | rendered (artifacts : RenderedInstance)
  /-- What the operation refers to does not exist. -/
  | unknown
  deriving DecidableEq

/-- What an operation is answered with, and what it reports. -/
structure Answer where
  result : Result Reply
  events : List Event := []

/-! ## What operations do -/

namespace World

/-- Answers with a changed world, or with an error and the world as it was. -/
def settle {α : Type} (w : World) (change : Result α) (accept : α → Answer × World) :
    Answer × World :=
  match change with
  | .ok a => accept a
  | .error e => ({ result := .error e }, w)

/-- Something was done and nothing is to be told. -/
def done (w : World) : Answer × World :=
  ({ result := .ok .done }, w)

/-- What is referred to does not exist. -/
def unknown (w : World) : Answer × World :=
  ({ result := .ok .unknown }, w)

/-- Registers a segment in a store. -/
def register (w : World) (id : StoreId) (segment : String) (requested : Registration)
    (dependent : ResourceId) : Answer × World :=
  match w.environment.store? id with
  | none => w.unknown
  | some store =>
    w.settle (store.register w.deployment segment requested dependent) fun (changed, deployment) =>
      ({ result := .ok .done, events := changed.warnings segment },
        { w with deployment }.setStore id changed)

/-- Renders an instance. -/
def renderInstance (w : World) (id : InstanceId) (i : ProvisioningInstance) : Answer × World :=
  let outcome := i.render w.deployment w.environment
  let w := { w with environment := outcome.environment }
  match outcome.result with
  | .ok (artifacts, i) =>
    ({ result := .ok (.rendered artifacts), events := outcome.events }, w.setInstance id i)
  | .error e => ({ result := .error e, events := outcome.events }, w)

/-- Operates on an instance. -/
def operateInstance (w : World) (id : InstanceId) (i : ProvisioningInstance) :
    InstanceOperation → Answer × World
  | .addSetup items => w.settle (i.addSetup w.deployment items) (done <| w.setInstance id ·)
  | .addLogStream name path =>
    w.settle (i.addLogStream w.deployment name path) (done <| w.setInstance id ·)
  | .grant statement => w.settle (i.grant w.deployment statement) (done <| w.setInstance id ·)
  | .addExecutionDependency resource =>
    w.settle (i.addExecutionDependency w.deployment resource) fun deployment =>
      { w with deployment }.done
  | .render => w.renderInstance id i

/-- Renders a command sequence. -/
def renderSequence (w : World) (id : SequenceId) (s : GuardedSequence) : Answer × World :=
  match s.sequence.render w.environment with
  | (.ok (script, sequence), environment) =>
    ({ result := .ok (.text script) },
      { w with environment }.setSequence id { s with sequence })
  | (.error e, environment) => ({ result := .error e }, { w with environment })

/-- Operates on a command sequence. -/
def operateSequence (w : World) (id : SequenceId) (s : GuardedSequence) :
    SequenceOperation → Answer × World
  | .addItems items =>
    w.settle (s.sequence.addItems items) fun sequence =>
      (w.setSequence id { s with sequence }).done
  | .addOnExit commands =>
    w.settle (s.sequence.addOnExit commands) fun sequence =>
      (w.setSequence id { s with sequence }).done
  | .applyGuard guard => w.settle (guard.apply s) (done <| w.setSequence id ·)
  | .render => w.renderSequence id s

/-- Does one thing in a world. -/
def apply (w : World) : Operation → Answer × World
  | .addResource path =>
    w.settle (w.deployment.addResource path) fun (id, deployment) =>
      ({ result := .ok (.resource id) }, { w with deployment })
  | .addDependency dependent dependency =>
    w.settle (w.deployment.addDependency dependent dependency) fun deployment =>
      { w with deployment }.done
  | .finalize =>
    w.settle w.deployment.finalize fun (ids, deployment) =>
      ({ result := .ok (.order ids) }, { w with deployment })
  | .declareInstance path options =>
    w.settle (ProvisioningInstance.declare w.deployment path options) fun (i, deployment) =>
      ({ result := .ok (.declaredInstance ⟨w.instances.length⟩) },
        { w with deployment, instances := w.instances ++ [i] })
  | .declareRegistration path options =>
    let storeId := w.environment.nextStore
    w.settle (IdentityRegistration.declare w.deployment path options storeId) fun declared =>
      ({ result := .ok (.declaredRegistration ⟨w.instances.length⟩ storeId) },
        { w with
          deployment := declared.deployment
          environment := w.environment.addStore declared.store
          instances := w.instances ++ [declared.host] })
  | .addStore instanceId frontDoor =>
    ({ result := .ok (.addedStore w.environment.nextStore) },
      { w with environment := w.environment.addStore (.create instanceId frontDoor) })
  | .addSequence =>
    ({ result := .ok (.addedSequence ⟨w.sequences.length⟩) },
      { w with sequences := w.sequences ++ [{ tags := ∅, role := .empty, sequence := .empty }] })
  | .addCaller text =>
    ({ result := .ok (.addedCaller w.environment.nextCaller) },
      { w with environment := w.environment.addCaller text })
  | .setCaller id text => { w with environment := w.environment.setCaller id text }.done
  | .evaluate command =>
    let (text, environment) := command.evaluate w.environment
    ({ result := text.map .text }, { w with environment })
  | .release command => { w with environment := command.release w.environment }.done
  | .register store segment requested dependent => w.register store segment requested dependent
  | .onInstance id operation =>
    match w.findInstance? id with
    | none => w.unknown
    | some i => w.operateInstance id i operation
  | .onSequence id operation =>
    match w.findSequence? id with
    | none => w.unknown
    | some s => w.operateSequence id s operation

/-! ## Runs -/

/-- Does several things, one after another. -/
def run (w : World) : List Operation → List Answer × World
  | [] => ([], w)
  | operation :: rest =>
    let (answer, w) := w.apply operation
    let (answers, w) := run w rest
    (answer :: answers, w)

end World

end Provisioning
