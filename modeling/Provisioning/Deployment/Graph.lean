import Provisioning.Error
import Provisioning.SortedMap

/-!
# Deployment graphs

A deployment holds resources and the order between them: a dependent must not
start before what it depends on is ready.  Resources and dependencies are added
until the deployment is finalized; after that nothing changes any more.  An
operation that fails yields no new graph, so the old one stays as it was.
-/

namespace Provisioning

set_option autoImplicit false

/-- A deployment and its graph. -/
structure Deployment where
  stack : String
  region : String
  resources : SortedSet ResourceId
  /-- What each resource depends on. -/
  edges : SortedMap ResourceId (SortedSet ResourceId)
  isFinalized : Bool
  deriving DecidableEq

namespace Deployment

/-- A deployment without resources. -/
def create (stack region : String) : Result Deployment :=
  if stack = "" ∨ region = "" then .error (.config .namelessDeployment)
  else .ok { stack, region, resources := ∅, edges := ∅, isFinalized := false }

/-- The deployment as a value. -/
def inspect (d : Deployment) : String :=
  "Deployment \x7b stack_name: " ++ Text.quoted d.stack ++ ", region: " ++ Text.quoted d.region
    ++ " \x7d"

/-! ## Reading the graph -/

/-- Whether a resource was declared. -/
def declares (d : Deployment) (id : ResourceId) : Bool :=
  d.resources.contains id

/-- What a resource depends on. -/
def dependencySet (d : Deployment) (id : ResourceId) : SortedSet ResourceId :=
  (d.edges.get? id).getD ∅

/-- What a resource depends on, in path order. -/
def dependenciesOf (d : Deployment) (id : ResourceId) : List ResourceId :=
  (d.dependencySet id).keys

/-- Whether one resource directly depends on another. -/
def dependsOn (d : Deployment) (dependent dependency : ResourceId) : Bool :=
  (d.dependencySet dependent).contains dependency

/-! ## Growing the graph -/

/-- Fails once the deployment is finalized. -/
def checkOpen (d : Deployment) : Result Unit :=
  if d.isFinalized then .error (.state .deploymentFinalized) else .ok ()

/-- Fails for a resource that was not declared. -/
def checkDeclared (d : Deployment) (id : ResourceId) : Result Unit :=
  if d.declares id then .ok () else .error (.graph (.unknownResource id))

/-- Declares a resource.  A malformed path is the first thing to be refused. -/
def addResource (d : Deployment) (path : String) : Result (ResourceId × Deployment) := do
  if !ResourceId.isValidPath path then throw (.config (.invalidResourcePath path))
  d.checkOpen
  let id : ResourceId := ⟨path⟩
  if d.declares id then throw (.graph (.repeatedResource id))
  pure (id, { d with resources := SortedSet.add d.resources id })

/-- Orders a dependent after a dependency. -/
def addDependency (d : Deployment) (dependent dependency : ResourceId) : Result Deployment := do
  d.checkOpen
  d.checkDeclared dependent
  d.checkDeclared dependency
  if dependent = dependency then throw (.graph (.selfDependency dependent))
  pure { d with edges := d.edges.insert dependent (SortedSet.add (d.dependencySet dependent) dependency) }

end Deployment

end Provisioning
