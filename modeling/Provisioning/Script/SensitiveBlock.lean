import Provisioning.Script.Shell
import Provisioning.Secret

/-!
# Commands that handle a secret

A sensitive block fetches a secret into a shell variable, runs its commands, and
removes the variable.  While the variable is set the shell does not trace what
it runs; afterwards tracing is what it was before, so neither the script nor the
log of the boot shows the secret.
-/

namespace Provisioning

set_option autoImplicit false

/-- Commands that need a secret in a shell variable. -/
structure SensitiveBlock where
  secret : SecretReference
  variableName : String
  commands : List String

namespace SensitiveBlock

/-- The shell variable that remembers whether the shell was tracing. -/
def traceFlag : String := "FARMSTEAD_XTRACE_WAS_SET"

/-- Remembers whether the shell traces, and stops it. -/
def suspendTrace : String :=
  "if [[ $- = *x* ]]; then " ++ traceFlag ++ "=1; set +x; else " ++ traceFlag ++ "=; fi"

/-- Lets the shell trace again if it did before. -/
def resumeTrace : String :=
  "if [[ -n \"$\x7b" ++ traceFlag ++ "\x7d\" ]]; then set -x; fi"

/-- Fetches the secret into the variable. -/
def fetch (b : SensitiveBlock) : String :=
  b.variableName ++ "=$(aws --region " ++ b.secret.region
    ++ " secretsmanager get-secret-value --secret-id " ++ Shell.quote b.secret.arn
    ++ " --query SecretString --output text)"

/-- Removes the variable. -/
def discard (b : SensitiveBlock) : String :=
  "unset " ++ b.variableName

/-- The lines of the block. -/
def lines (b : SensitiveBlock) : List String :=
  [suspendTrace, b.fetch] ++ b.commands ++ [b.discard, resumeTrace]

end SensitiveBlock

end Provisioning
