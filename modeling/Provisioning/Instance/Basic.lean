import Provisioning.Deployment.Graph
import Provisioning.Instance.Guard
import Provisioning.Options.Instance

/-!
# Provisioning instances

A provisioning instance boots once.  Until it is rendered, and as long as its
deployment is not finalized, it takes commands for its setup, files to ship and
grants.  An instance lives in a deployment, which each operation is given.
-/

namespace Provisioning

set_option autoImplicit false

/-- An instance and what was added to it. -/
structure ProvisioningInstance where
  id : ResourceId
  options : InstanceOptions
  signal : CompletionSignal
  setup : List ScriptItem
  /-- Further files to ship, each with the name of its stream. -/
  logStreams : List (String × String)
  role : InstanceRole
  isRendered : Bool
  deriving DecidableEq

namespace ProvisioningInstance

/-- Declares an instance in a deployment. -/
def declare (d : Deployment) (path : String) (options : InstanceOptions) :
    Result (ProvisioningInstance × Deployment) := do
  options.check
  let signal ← CompletionSignal.create options.executionTimeout
  let (id, d) ← d.addResource path
  pure ({
    id
    options
    signal
    setup := []
    logStreams := []
    role := .empty
    isRendered := false }, d)

/-- The identity of the scaling group, at which the signal is addressed. -/
def groupId (i : ProvisioningInstance) : String :=
  (i.id.child "Group").uniqueId

/-- Fails when nothing can be added any more. -/
def checkOpen (i : ProvisioningInstance) (d : Deployment) : Result Unit := do
  if i.isRendered then throw (.state (.instanceRendered i.id))
  if d.isFinalized then throw (.state (.instanceFinalized d.stack i.id))

/-- Adds items to the setup. -/
def addSetup (i : ProvisioningInstance) (d : Deployment) (items : List ScriptItem) :
    Result ProvisioningInstance := do
  i.checkOpen d
  pure { i with setup := i.setup ++ items }

/-- Adds commands to the setup. -/
def addSetupCommands (i : ProvisioningInstance) (d : Deployment) (commands : List String) :
    Result ProvisioningInstance :=
  i.addSetup d (commands.map .line)

/-- Adds a lazy command to the setup. -/
def addLazySetup (i : ProvisioningInstance) (d : Deployment) (command : LazyCommand) :
    Result ProvisioningInstance :=
  i.addSetup d [.deferred command]

/-- Ships one more file, unless it is shipped under that name already. -/
def addLogStream (i : ProvisioningInstance) (d : Deployment) (name path : String) :
    Result ProvisioningInstance := do
  i.checkOpen d
  pure { i with logStreams := appendNew i.logStreams (name, path) }

/-- Grants something to the instance. -/
def grant (i : ProvisioningInstance) (d : Deployment) (statement : PolicyStatement) :
    Result ProvisioningInstance := do
  i.checkOpen d
  pure { i with role := i.role.grant statement }

/-- Orders the instance after a resource.  Only the deployment decides whether it
is too late for that. -/
def addExecutionDependency (i : ProvisioningInstance) (d : Deployment) (resource : ResourceId) :
    Result Deployment :=
  d.addDependency i.id resource

end ProvisioningInstance

end Provisioning
