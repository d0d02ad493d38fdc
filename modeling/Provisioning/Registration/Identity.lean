import Provisioning.Instance.Basic
import Provisioning.Options.Registration
import Provisioning.Script.SensitiveBlock

/-!
# Identity registrations

An identity registration is a provisioning instance and a store.  The setup of
the instance copies the configure command if it has to, connects to the render
queue if there is one, and applies the registrations of the store as they are
when the instance is rendered.  The instance is granted what these commands need
and nothing else.
-/

namespace Provisioning

set_option autoImplicit false

/-! ## Commands -/

/-- Copies the configure command. -/
def StoredObject.stagingCommands (o : StoredObject) : List String := [
  "mkdir -p \"$(dirname " ++ RegistrationOptions.stagedScriptPath ++ ")\"",
  "aws s3 cp " ++ Shell.quote o.uri ++ " " ++ RegistrationOptions.stagedScriptPath,
  "chmod 755 " ++ RegistrationOptions.stagedScriptPath]

namespace QueueConnection

/-- The shell variable that holds the certificate. -/
def certificateVariable : String := "FARMSTEAD_CA_CERT"

/-- Connects to the queue. -/
def invocation (c : QueueConnection) (osUser : String) : String :=
  "sudo -u " ++ osUser ++ " " ++ c.command ++ " --render-queue " ++ Shell.quote c.uri

/-- Connects to the queue, which is known by a certificate. -/
def certifiedBlock (c : QueueConnection) (osUser : String) (certificate : SecretReference) :
    SensitiveBlock where
  secret := certificate
  variableName := certificateVariable
  commands := [
    "printf '%s' \"$" ++ certificateVariable ++ "\" | " ++ c.invocation osUser ++ " --tls-ca-stdin"]

/-- The commands that connect to the queue. -/
def commands (c : QueueConnection) (osUser : String) : List String :=
  match c.certificate with
  | some certificate => (c.certifiedBlock osUser certificate).lines
  | none => [c.invocation osUser]

end QueueConnection

namespace RegistrationOptions

/-- The command that applies the registrations of a store. -/
def command (o : RegistrationOptions) (store : StoreId) : RegistrationCommand where
  store := store
  region := o.region
  credentials := o.adminCredentials
  connectionSubnets := o.connectionSubnets
  osUser := o.osUser
  configureCommand := o.configureCommand

/-! ## Grants -/

/-- The permission to read a secret. -/
def readSecretAction : String := "secretsmanager:GetSecretValue"

/-- The permission to read the credentials and to look at them. -/
def credentialsStatement (o : RegistrationOptions) : PolicyStatement :=
  .allow [readSecretAction, "secretsmanager:DescribeSecret"] [o.adminCredentials.arn]

/-- The permission to find out about subnets. -/
def subnetsStatement : PolicyStatement :=
  .allow ["ec2:DescribeSubnets"] ["*"]

/-- The permission to copy an object. -/
def copyStatement (object : StoredObject) : PolicyStatement :=
  .allow ["s3:GetObject"] [object.arn]

/-- The permission to read a certificate. -/
def certificateStatement (certificate : SecretReference) : PolicyStatement :=
  .allow [readSecretAction] [certificate.arn]

/-- The certificate of the render queue, if it is known by one. -/
def queueCertificate (o : RegistrationOptions) : Option SecretReference :=
  o.queueConnection.bind (·.certificate)

/-- What the instance must be granted. -/
def statements (o : RegistrationOptions) (object : Option StoredObject) : List PolicyStatement :=
  [o.credentialsStatement, subnetsStatement] ++ (object.map copyStatement).toList
    ++ (o.queueCertificate.map certificateStatement).toList

/-! ## Setup -/

/-- The commands that run before the registrations are applied. -/
def preparation (o : RegistrationOptions) (object : Option StoredObject) : List String :=
  (object.map StoredObject.stagingCommands).getD []
    ++ (o.queueConnection.map (·.commands o.osUser)).getD []

/-- What the names of log streams start with when nothing is given. -/
def defaultStreamPrefix : String := "identity-registration-"

/-- The options of the instance, with names of log streams that tell what it is. -/
def effectiveInstanceOptions (o : RegistrationOptions) : InstanceOptions :=
  if o.instanceOptions.logs.streamPrefix = "" then
    { o.instanceOptions with
      logs := { o.instanceOptions.logs with streamPrefix := defaultStreamPrefix } }
  else o.instanceOptions

end RegistrationOptions

/-! ## Declaring -/

/-- An instance, the store it applies, and the deployment they live in. -/
structure IdentityRegistration where
  host : ProvisioningInstance
  store : RegistrationStore
  deployment : Deployment
  deriving DecidableEq

namespace IdentityRegistration

/-- Grants several things to an instance. -/
def grantAll (i : ProvisioningInstance) (d : Deployment) (statements : List PolicyStatement) :
    Result ProvisioningInstance :=
  statements.foldlM (fun i statement => i.grant d statement) i

/-- Declares a registration, whose store is to have the given id. -/
def declare (d : Deployment) (path : String) (o : RegistrationOptions) (storeId : StoreId) :
    Result IdentityRegistration := do
  o.check
  let object ← o.scriptObject
  let (host, d) ← ProvisioningInstance.declare d path o.effectiveInstanceOptions
  let host ← grantAll host d (o.statements object)
  let host ← host.addSetupCommands d (o.preparation object)
  let host ← host.addLazySetup d (.registration (o.command storeId))
  pure { host, store := .create host.id o.connectionSubnets, deployment := d }

end IdentityRegistration

end Provisioning
