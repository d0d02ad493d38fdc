/-!
# The vocabulary of registration

A client that connects from a network segment is given a role and a status.  A
source subnet is a segment together with the two.  The names of roles and
statuses are the words that stored settings, options and arguments use.
-/

namespace Provisioning

set_option autoImplicit false

/-- The role a client is given.  Administrators are provisioned by other means
and never registered by segment. -/
inductive ClientRole where
  | server
  | client
  | administrator
  deriving DecidableEq

/-- The name of a role. -/
def ClientRole.name : ClientRole → String
  | .server => "Server"
  | .client => "Client"
  | .administrator => "Administrator"

/-- The role of a name. -/
def ClientRole.ofName? (name : String) : Option ClientRole :=
  if name = "Server" then some .server
  else if name = "Client" then some .client
  else if name = "Administrator" then some .administrator
  else none

@[simp] theorem ClientRole.ofName?_name (role : ClientRole) : ofName? role.name = some role := by
  cases role <;> decide

/-- The status a client is given. -/
inductive RegistrationStatus where
  | pending
  | registered
  | revoked
  deriving DecidableEq

/-- The name of a status. -/
def RegistrationStatus.name : RegistrationStatus → String
  | .pending => "Pending"
  | .registered => "Registered"
  | .revoked => "Revoked"

/-- The status of a name. -/
def RegistrationStatus.ofName? (name : String) : Option RegistrationStatus :=
  if name = "Pending" then some .pending
  else if name = "Registered" then some .registered
  else if name = "Revoked" then some .revoked
  else none

@[simp] theorem RegistrationStatus.ofName?_name (status : RegistrationStatus) :
    ofName? status.name = some status := by
  cases status <;> decide

/-- What a segment's clients are given. -/
structure Registration where
  role : ClientRole
  status : RegistrationStatus
  deriving DecidableEq

/-- A segment with the role and status its clients are given. -/
structure SourceSubnet where
  subnetId : String
  role : ClientRole
  status : RegistrationStatus
  deriving DecidableEq

end Provisioning
