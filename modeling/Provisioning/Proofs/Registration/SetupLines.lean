import Provisioning.Proofs.Registration.Identity
import Provisioning.Proofs.Script.QuotedWord
import Provisioning.Proofs.Script.Tracing
import Provisioning.Proofs.Secret

/-!
# The setup of a registration, line by line

What a registration runs on its instance in front of the registrations is written out here: the
lines that copy the configure command, and those that contact a render queue.  Which secret a line
refers to is told by the words that a shell reads: a line refers to a secret when it keeps what
the call for the value of that secret prints.

Much of a line is free text, so it has to be shown that no other line of a setup is of this kind.
A line that keeps what a call prints ends with the parenthesis behind the call, and no other line
of a setup does.
-/

namespace Provisioning

set_option autoImplicit false

/-! ## Items that refer to secrets -/

namespace ScriptItem

variable {name call name' call' text resource : String} {c : Char}

end ScriptItem

/-! ## Certificates -/

namespace SensitiveBlock

end SensitiveBlock

/-! ## The configure command -/

section Contact

variable {osUser command uri : String} {c : QueueConnection} {certificate : SecretReference}

end Contact

end Provisioning
