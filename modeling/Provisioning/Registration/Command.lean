import Provisioning.Registration.Store
import Provisioning.Secret

/-!
# The registration command

On the instance, a command applies the registrations of a store.  It runs as the
user of the operating system who holds the credentials of the repository.  Its
arguments name the region, the credentials, each connection subnet in the given
order and each registered segment in the order of the ids; so they do not depend
on the order in which callers registered.
-/

namespace Provisioning

set_option autoImplicit false

/-- A command that applies the registrations of a store. -/
structure RegistrationCommand where
  store : StoreId
  region : String
  credentials : SecretReference
  connectionSubnets : List String
  osUser : String
  configureCommand : String
  deriving DecidableEq

namespace RegistrationCommand

/-- An option and its value between double quotation marks. -/
def quotedOption (name value : String) : String :=
  name ++ " " ++ Text.inMarks value

/-- The arguments for the given registrations. -/
def arguments (c : RegistrationCommand) (sources : List SourceSubnet) : String :=
  Text.joined " "
    (["--region " ++ c.region, quotedOption "--credentials" c.credentials.arn]
      ++ c.connectionSubnets.map (quotedOption "--connection-subnet")
      ++ sources.map (quotedOption "--source-subnet" ·.text))

/-- The command for the given registrations. -/
def text (c : RegistrationCommand) (sources : List SourceSubnet) : String :=
  "sudo -u " ++ c.osUser ++ " " ++ c.configureCommand ++ " " ++ c.arguments sources

/-- Checks that there is a connection subnet, and that each is a segment id. -/
def check (c : RegistrationCommand) : Result Unit := do
  if c.connectionSubnets.isEmpty then throw (.config .noRegisteringSubnet)
  c.connectionSubnets.forM checkSubnetId

end RegistrationCommand

end Provisioning
