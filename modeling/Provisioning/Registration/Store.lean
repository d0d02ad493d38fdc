import Provisioning.Deployment.Graph
import Provisioning.Event
import Provisioning.Registration.SourceSubnet

/-!
# Stores of registrations

Callers register the segments whose clients a repository shall accept.  The
registrations of a store are applied by one instance, and whoever depends on a
registration is ordered after that instance.  Callers may come in any order: a
registration that agrees with an earlier one changes nothing, and one that
disagrees is refused.  Once the registrations have been written into a script the
store is sealed, and it is opened again if that script is given up.
-/

namespace Provisioning

set_option autoImplicit false

/-- Which store. -/
structure StoreId where
  index : Nat
  deriving DecidableEq

/-- The registrations that one instance applies. -/
structure RegistrationStore where
  /-- The instance that applies the registrations. -/
  instanceId : ResourceId
  /-- The segments that clients also connect to. -/
  frontDoor : List String
  /-- What is registered, by segment. -/
  entries : SortedMap String Registration
  isSealed : Bool
  deriving DecidableEq

namespace RegistrationStore

/-- A store without registrations. -/
def create (instanceId : ResourceId) (frontDoor : List String) : RegistrationStore where
  instanceId := instanceId
  frontDoor := frontDoor
  entries := ∅
  isSealed := false

/-- The registered segments, in the order of their ids. -/
def sources (s : RegistrationStore) : List SourceSubnet :=
  s.entries.entries.map fun (segment, r) => ⟨segment, r.role, r.status⟩

/-- The store as a value. -/
def inspect (s : RegistrationStore) : String :=
  "RegistrationSettingsStore \x7b instance: ResourceId(" ++ Text.quoted s.instanceId.path
    ++ "), entries: " ++ Text.decimal s.entries.size ++ " \x7d"

/-! ## Registering -/

/-- Fails when the registrations are already in a script. -/
def checkOpen (s : RegistrationStore) (segment : String) : Result Unit :=
  if s.isSealed then .error (.state (.registrationsRendered segment)) else .ok ()

/-- Fails when the segment is registered otherwise. -/
def checkAgreement (s : RegistrationStore) (segment : String) (requested : Registration) :
    Result Unit :=
  match s.entries.get? segment with
  | none => .ok ()
  | some existing =>
    if existing = requested then .ok () else .error (.conflict { segment, existing, requested })

/-- What is reported about a segment that was registered. -/
def warnings (s : RegistrationStore) (segment : String) : List Event :=
  if s.frontDoor.contains segment then [.frontDoorOverlap segment] else []

/-- Registers a segment, and orders the dependent after the instance.  The store
and the deployment change together or not at all. -/
def register (s : RegistrationStore) (d : Deployment) (segment : String)
    (requested : Registration) (dependent : ResourceId) :
    Result (RegistrationStore × Deployment) := do
  if !requested.role.isRegistrable then throw (.administratorSegment segment)
  checkSubnetId segment
  s.checkOpen segment
  s.checkAgreement segment requested
  let d ← d.addDependency dependent s.instanceId
  pure ({ s with entries := s.entries.insert segment requested }, d)

/-! ## Sealing -/

/-- No more registrations are taken. -/
def close (s : RegistrationStore) : RegistrationStore :=
  { s with isSealed := true }

/-- Registrations are taken again. -/
def reopen (s : RegistrationStore) : RegistrationStore :=
  { s with isSealed := false }

end RegistrationStore

end Provisioning
