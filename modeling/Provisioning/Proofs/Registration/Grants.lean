import Provisioning.Proofs.Policy
import Provisioning.Proofs.Registration.Construction
import Provisioning.Proofs.Registration.SetupLines

/-!
# Grants that match the commands

A registration is granted what its setup needs and nothing else.  Two items of the setup refer to
secrets: the line that keeps the certificate of a render queue, and the registration command, which
has the credentials among its arguments.  One line copies an object, and it names it by its URI.
The permissions to read a secret and to copy an object are on exactly these.
-/

namespace Provisioning

set_option autoImplicit false

/-! ## Roles -/

namespace RegistrationOptions

variable {o : RegistrationOptions} {storeId : StoreId} {object : Option StoredObject}
  {resource : String}

/-- The setup of a registration that was just declared. -/
def setup (o : RegistrationOptions) (object : Option StoredObject) (storeId : StoreId) :
    List ScriptItem :=
  (o.preparation object).map .line ++ [.deferred (.registration (o.command storeId))]

/-- The role of a registration that was just declared. -/
def role (o : RegistrationOptions) (object : Option StoredObject) : InstanceRole :=
  .grantAll .empty (o.statements object)

end RegistrationOptions

namespace RegistrationOptions

variable {o : RegistrationOptions} {object : Option StoredObject}

end RegistrationOptions

end Provisioning
