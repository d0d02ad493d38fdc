import Provisioning.Options.Instance
import Provisioning.Registration.SourceSubnet
import Provisioning.Repetition
import Provisioning.Secret

/-!
# Options of a registration

An identity registration is an instance that applies registrations.  Its options
say for which repository, on behalf of whom, and through which subnets clients
connect; whether the command that applies the registrations is first copied from
an object store; and whether the instance first connects to a render queue.
-/

namespace Provisioning

set_option autoImplicit false

/-! ## Objects -/

/-- An object in an object store. -/
structure StoredObject where
  uri : String
  /-- Bucket and key. -/
  path : String
  deriving DecidableEq

namespace StoredObject

/-- What the URI of an object starts with. -/
def scheme : String := "s3://"

/-- Whether a path has a bucket and a key, both of them not empty. -/
def isPath (path : List Char) : Bool :=
  !(path.takeWhile (· != '/')).isEmpty && !((path.dropWhile (· != '/')).drop 1).isEmpty

/-- The object of a URI. -/
def ofUri? (uri : String) : Option StoredObject :=
  let cs := uri.toList
  let path := cs.drop scheme.length
  if scheme.toList.isPrefixOf cs && isPath path then some ⟨uri, String.ofList path⟩ else none

/-- Reads the URI of an object. -/
def read (uri : String) : Result StoredObject :=
  match ofUri? uri with
  | some object => .ok object
  | none => .error (.config (.notObjectUri uri))

/-- The name of the object in a policy. -/
def arn (o : StoredObject) : String :=
  "arn:aws:s3:::" ++ o.path

end StoredObject

/-! ## Connections to a render queue -/

/-- A secret given by its reference. -/
def SecretReference.ofDatum? (d : Datum) : Option SecretReference :=
  d.toString?.bind ofText?

/-- How the instance connects to a render queue. -/
structure QueueConnection where
  uri : String
  /-- The certificate by which the queue is known. -/
  certificate : Option SecretReference
  command : String
  deriving DecidableEq

namespace QueueConnection

/-- The command when none is given. -/
def defaultCommand : String := "python3 /opt/farmstead/client-rq-connection.py"

/-- The names of the fields. -/
def fieldNames : List String := ["render_queue_uri", "ca_certificate", "command"]

/-- The connection as data. -/
def toDatum (c : QueueConnection) : Datum :=
  .record (fieldNames.zip [
    .string c.uri, .optionalString (c.certificate.map (·.arn)), .string c.command])

/-- The connection that data stand for. -/
def ofDatum? (format : Datum.Format) (d : Datum) : Option QueueConnection := do
  let [uri, certificate, command] ← d.fields? format fieldNames | none
  pure {
    uri := ← Datum.required Datum.toString? uri
    certificate :=
      ← Datum.withDefault none (Datum.toOptional? SecretReference.ofDatum?) certificate
    command := ← Datum.withDefault defaultCommand Datum.toString? command }

/-- Whether the URI starts with a scheme. -/
def hasScheme (c : QueueConnection) (scheme : String) : Bool :=
  scheme.toList.isPrefixOf c.uri.toList

/-- Checks the scheme, and that a secure queue is known by a certificate. -/
def check (c : QueueConnection) : Result Unit := do
  if !(c.hasScheme "http://" || c.hasScheme "https://") then
    throw (.config (.unsupportedQueueScheme c.uri))
  if c.hasScheme "https://" && c.certificate.isNone then throw (.config .queueNeedsCertificate)

end QueueConnection

/-! ## Registrations -/

/-- What a registration is to be like. -/
structure RegistrationOptions where
  region : String
  adminCredentials : SecretReference
  /-- The segments through which clients connect. -/
  connectionSubnets : List String
  osUser : String
  configureCommand : String
  /-- The URI of the object that the configure command is copied from. -/
  scriptSource : Option String
  queueConnection : Option QueueConnection
  instanceOptions : InstanceOptions
  deriving DecidableEq

namespace RegistrationOptions

/-- Where the configure command is copied to. -/
def stagedScriptPath : String := "/opt/farmstead/configure_identity_registration_settings.py"

/-- The user when none is given. -/
def defaultOsUser : String := "ec2-user"

/-- The configure command when none is given. -/
def defaultConfigureCommand : String := "python3 " ++ stagedScriptPath

/-- Options of which only the necessary ones are given. -/
def create (region : String) (adminCredentials : SecretReference)
    (connectionSubnets : List String) (instanceOptions : InstanceOptions) :
    RegistrationOptions where
  region := region
  adminCredentials := adminCredentials
  connectionSubnets := connectionSubnets
  osUser := defaultOsUser
  configureCommand := defaultConfigureCommand
  scriptSource := none
  queueConnection := none
  instanceOptions := instanceOptions

/-! ### Data -/

/-- The names of the fields. -/
def fieldNames : List String := [
  "region", "admin_credentials", "connection_subnets", "os_user", "configure_command",
  "script_source", "client_connection", "instance"]

/-- A connection or nothing, as data. -/
def connectionDatum : Option QueueConnection → Datum
  | none => .null
  | some connection => connection.toDatum

/-- The options as data. -/
def toDatum (o : RegistrationOptions) : Datum :=
  .record (fieldNames.zip [
    .string o.region, .string o.adminCredentials.arn, .strings o.connectionSubnets,
    .string o.osUser, .string o.configureCommand, .optionalString o.scriptSource,
    connectionDatum o.queueConnection, o.instanceOptions.toDatum])

/-- The options that data stand for. -/
def ofDatum? (format : Datum.Format) (d : Datum) : Option RegistrationOptions := do
  let [region, adminCredentials, connectionSubnets, osUser, configureCommand, scriptSource,
    queueConnection, instanceOptions] ← d.fields? format fieldNames | none
  let given := create
    (← Datum.required Datum.toString? region)
    (← Datum.required SecretReference.ofDatum? adminCredentials)
    (← Datum.required (Datum.toList? Datum.toString?) connectionSubnets)
    (← Datum.required (InstanceOptions.ofDatum? format) instanceOptions)
  pure { given with
    osUser := ← Datum.withDefault given.osUser Datum.toString? osUser
    configureCommand := ← Datum.withDefault given.configureCommand Datum.toString? configureCommand
    scriptSource := ← Datum.withDefault none (Datum.toOptional? Datum.toString?) scriptSource
    queueConnection :=
      ← Datum.withDefault none (Datum.toOptional? (QueueConnection.ofDatum? format)) queueConnection }

/-! ### Checks -/

/-- The object that the configure command is copied from, if it is copied. -/
def scriptObject (o : RegistrationOptions) : Result (Option StoredObject) :=
  match o.scriptSource with
  | none => .ok none
  | some uri => (StoredObject.read uri).map some

/-- Checks that there are connection subnets, that each is a segment id, and that
none is given twice. -/
def checkConnectionSubnets (o : RegistrationOptions) : Result Unit := do
  if o.connectionSubnets.isEmpty then throw (.config .noRegisteringSubnet)
  o.connectionSubnets.forM checkSubnetId
  match firstRepeated [] o.connectionSubnets with
  | some id => throw (.config (.repeatedConnectionSubnet id))
  | none => pure ()

/-- Checks the options.  Of several faults the first in this order is reported. -/
def check (o : RegistrationOptions) : Result Unit := do
  if o.region = "" then throw (.config .emptyRegistrationRegion)
  o.checkConnectionSubnets
  if o.osUser = "" ∨ o.configureCommand = "" then throw (.config .noRegistrationCommand)
  discard o.scriptObject
  o.queueConnection.forM QueueConnection.check
  o.instanceOptions.check

/-- Reads options from a TOML text and checks them. -/
def ofToml (text : String) : Result RegistrationOptions :=
  match (Datum.ofToml? text).bind (ofDatum? .toml) with
  | none => .error (.config .invalidToml)
  | some o => o.check.map fun _ => o

/-- Reads options from a TOML file and checks them. -/
def load (file : TextFile) : Result RegistrationOptions :=
  file.read.bind ofToml

end RegistrationOptions

end Provisioning
