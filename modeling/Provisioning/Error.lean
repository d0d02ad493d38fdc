import Provisioning.Duration
import Provisioning.Instance.BootStage
import Provisioning.Registration.Vocabulary
import Provisioning.ResourceId
import Provisioning.Text.Quoted

/-!
# Errors

Every error names its cause; the wording is in one place.  Causes come in
categories, and the message of an error starts with words for its category.  The
two ways in which a boot fails, an explicit failure and a missing signal, have
messages of their own.

A command that a caller supplies may fail for reasons of its own; such an error
has the category and the text the caller gave it.
-/

namespace Provisioning

set_option autoImplicit false

/-! ## Causes -/

/-- What makes a configuration unusable. -/
inductive ConfigFault where
  | unknownRole (name : String)
  | unknownStatus (name : String)
  | emptySubnetId
  | unsafeSubnetId (id : String)
  | notSourceSubnet (text : String)
  | notSecret (text : String)
  | notCidrBlock (text : String)
  | notIpv4Network (text : String)
  | invalidPrefixLength (text : String)
  | hostBitsSet (text : String)
  | notSubnetCidr (text : String)
  | noConnectionSubnet
  | repeatedSource (id : String)
  | unknownCidr (id : String)
  | namelessDeployment
  | invalidResourcePath (path : String)
  | zeroTimeout
  | excessiveTimeout (timeout limit : Duration)
  | blankInstanceName
  | noInstanceSubnet (name : String)
  | noMachine (name : String)
  | capacityNotOne (min max desired : Nat)
  | timeoutOutOfRange (limit secs : Nat)
  | emptyLogGroup
  | zeroFlushInterval
  | emptyRegistrationRegion
  | noRegisteringSubnet
  | repeatedConnectionSubnet (id : String)
  | noRegistrationCommand
  | notObjectUri (uri : String)
  | unsupportedQueueScheme (uri : String)
  | queueNeedsCertificate
  | invalidToml
  | unreadableFile (path reason : String)
  deriving DecidableEq

/-- What makes a step come too late. -/
inductive StateFault where
  | deploymentFinalized
  | instanceRendered (id : ResourceId)
  | instanceFinalized (stack : String) (id : ResourceId)
  | sequenceRendered
  | registrationsRendered (segment : String)
  deriving DecidableEq

/-- What a deployment graph does not allow. -/
inductive GraphFault where
  | unknownResource (id : ResourceId)
  | repeatedResource (id : ResourceId)
  | selfDependency (id : ResourceId)
  | cycle (among : List ResourceId)
  deriving DecidableEq

/-- A disagreement between callers about one segment. -/
structure Disagreement where
  segment : String
  existing : Registration
  requested : Registration
  deriving DecidableEq

/-- What must never happen within a render. -/
inductive InternalFault where
  | illegalTransition (source target : BootStage)
  | missingResult (task : String)
  deriving DecidableEq

/-- The categories of errors other than failed boots. -/
inductive ErrorCategory where
  | config
  | invalidRole
  | conflict
  | invalidState
  | graph
  | serialization
  | io
  | internal
  deriving DecidableEq

/-- What can go wrong. -/
inductive Error where
  | config (fault : ConfigFault)
  | administratorSegment (segment : String)
  | conflict (disagreement : Disagreement)
  | state (fault : StateFault)
  | graph (fault : GraphFault)
  /-- Stored settings do not have the shape of settings. -/
  | malformedSettings
  | internal (fault : InternalFault)
  /-- The boot reported failure. -/
  | bootFailed (exitCode : Int)
  /-- No signal came within the window. -/
  | timeout (window : Duration)
  /-- A command supplied by a caller failed with a text of its own. -/
  | external (category : ErrorCategory) (text : String)
  deriving DecidableEq

/-! ## Wording -/

/-- The wording of a fault in a configuration. -/
def ConfigFault.text : ConfigFault → String
  | .unknownRole name => "unknown role " ++ Text.inMarks name
  | .unknownStatus name => "unknown registration status " ++ Text.inMarks name
  | .emptySubnetId => "segment id must not be empty"
  | .unsafeSubnetId id =>
    "segment id " ++ Text.quoted id ++ " may only contain letters, digits, '.', '_' and '-'"
  | .notSourceSubnet s => Text.inMarks s ++ " is not a valid source subnet"
  | .notSecret s => Text.inMarks s ++ " is not a valid secret ARN"
  | .notCidrBlock s => Text.inMarks s ++ " is not a CIDR block"
  | .notIpv4Network s => Text.inMarks s ++ " is not an IPv4 network"
  | .invalidPrefixLength s => Text.inMarks s ++ " has an invalid prefix"
  | .hostBitsSet s => Text.inMarks s ++ " has host bits set"
  | .notSubnetCidr s => Text.inMarks s ++ " is not <subnet id>=<cidr>"
  | .noConnectionSubnet => "no connection subnet specified"
  | .repeatedSource id => "subnet " ++ Text.inMarks id ++ " is not unique"
  | .unknownCidr id => "no CIDR block known for subnet " ++ Text.inMarks id
  | .namelessDeployment => "deployment requires a stack name and a region"
  | .invalidResourcePath path => "invalid resource path " ++ Text.inMarks path
  | .zeroTimeout => "execution timeout must be greater than zero"
  | .excessiveTimeout timeout limit =>
    "execution timeout " ++ timeout.text ++ " exceeds the maximum of " ++ limit.text
  | .blankInstanceName => "instance name must not be empty"
  | .noInstanceSubnet name => "instance " ++ name ++ " needs at least one subnet"
  | .noMachine name => "instance " ++ name ++ " needs an instance type and a machine image"
  | .capacityNotOne min max desired =>
    "provisioning instance capacity must be min=max=desired=1, got min=" ++ Text.decimal min
      ++ " max=" ++ Text.decimal max ++ " desired=" ++ Text.decimal desired
  | .timeoutOutOfRange limit secs =>
    "execution timeout must be between 1s and " ++ Text.decimal limit ++ "s, got "
      ++ Text.decimal secs ++ "s"
  | .emptyLogGroup => "log group name must not be empty"
  | .zeroFlushInterval => "log flush interval must be greater than zero"
  | .emptyRegistrationRegion => "registration region must not be empty"
  | .noRegisteringSubnet => "registration needs at least one connection subnet"
  | .repeatedConnectionSubnet id => "connection subnet " ++ id ++ " listed more than once"
  | .noRegistrationCommand => "registration needs an OS user and a configure command"
  | .notObjectUri uri => Text.inMarks uri ++ " is not an s3://bucket/key uri"
  | .unsupportedQueueScheme uri => "render queue uri " ++ Text.inMarks uri ++ " must use http or https"
  | .queueNeedsCertificate => "an https render queue needs a CA certificate"
  | .invalidToml => "invalid TOML"
  | .unreadableFile path reason => "failed to read " ++ path ++ ": " ++ reason

/-- The wording of a step that comes too late. -/
def StateFault.text : StateFault → String
  | .deploymentFinalized => "deployment already finalized"
  | .instanceRendered id => "instance " ++ id.path ++ " already rendered"
  | .instanceFinalized stack id =>
    "deployment " ++ stack ++ " already finalized; instance " ++ id.path
      ++ " can no longer change"
  | .sequenceRendered =>
    "command sequence already rendered; no further commands can be added"
  | .registrationsRendered segment =>
    "registration settings already rendered; cannot register segment " ++ segment

/-- The wording of what a graph does not allow. -/
def GraphFault.text : GraphFault → String
  | .unknownResource id => "unknown resource " ++ id.path
  | .repeatedResource id => "resource " ++ id.path ++ " already exists"
  | .selfDependency id => "resource " ++ id.path ++ " cannot depend on itself"
  | .cycle among => "dependency cycle among: " ++ Text.joined ", " (among.map (·.path))

/-- The wording of a disagreement. -/
def Disagreement.text (d : Disagreement) : String :=
  "segment " ++ d.segment ++ " already registered with role " ++ d.existing.role.name
    ++ " and status " ++ d.existing.status.name ++ ", requested role " ++ d.requested.role.name
    ++ " and status " ++ d.requested.status.name

/-- The wording of what must never happen. -/
def InternalFault.text : InternalFault → String
  | .illegalTransition source target =>
    "illegal boot stage transition " ++ source.name ++ " -> " ++ target.name
  | .missingResult task => task ++ " task must run first"

/-- The name of a category. -/
def ErrorCategory.name : ErrorCategory → String
  | .config => "Config"
  | .invalidRole => "InvalidRole"
  | .conflict => "Conflict"
  | .invalidState => "InvalidState"
  | .graph => "Graph"
  | .serialization => "Serialization"
  | .io => "Io"
  | .internal => "Internal"

/-- All categories. -/
def ErrorCategory.all : List ErrorCategory :=
  [.config, .invalidRole, .conflict, .invalidState, .graph, .serialization, .io, .internal]

/-- The words that messages of a category start with. -/
def ErrorCategory.leadIn : ErrorCategory → String
  | .config => "configuration error: "
  | .invalidRole => "invalid role: "
  | .conflict => "registration conflict: "
  | .invalidState => "invalid state: "
  | .graph => "deployment graph error: "
  | .serialization => "serialization error: "
  | .io => ""
  | .internal => "internal error: "

namespace Error

/-- The category of an error; a failed boot has none. -/
def category? : Error → Option ErrorCategory
  | .config _ => some .config
  | .administratorSegment _ => some .invalidRole
  | .conflict _ => some .conflict
  | .state _ => some .invalidState
  | .graph _ => some .graph
  | .malformedSettings => some .serialization
  | .internal _ => some .internal
  | .bootFailed _ => none
  | .timeout _ => none
  | .external category _ => some category

/-- The wording of an error without its category. -/
def text : Error → String
  | .config fault => fault.text
  | .administratorSegment segment =>
    "segment " ++ segment ++ " cannot be registered as " ++ ClientRole.administrator.name
      ++ "; administrators are provisioned separately"
  | .conflict disagreement => disagreement.text
  | .state fault => fault.text
  | .graph fault => fault.text
  | .malformedSettings => "stored settings do not have the expected shape"
  | .internal fault => fault.text
  | .bootFailed exitCode =>
    "boot sequence failed with exit code " ++ Text.signedDecimal exitCode
  | .timeout window => "completion signal not received within " ++ window.text
  | .external _ text => text

/-- The message of an error. -/
def message (e : Error) : String :=
  (e.category?.map ErrorCategory.leadIn).getD "" ++ e.text

/-- The error as a value: its category and quoted text, or the parts of a failed
boot. -/
def inspect : Error → String
  | .bootFailed exitCode =>
    "BootFailed \x7b exit_code: " ++ Text.signedDecimal exitCode ++ " \x7d"
  | .timeout window => "Timeout(" ++ window.text ++ ")"
  | e => (e.category?.map ErrorCategory.name).getD "" ++ "(" ++ Text.quoted e.text ++ ")"

/-- Errors of this kind are raised before anything is deployed and never retried. -/
def isConfiguration (e : Error) : Bool :=
  match e.category? with
  | some .config => true
  | some .invalidRole => true
  | some .conflict => true
  | _ => false

/-- Whether the boot failed, explicitly or by silence. -/
def isDeploymentFailure (e : Error) : Bool :=
  e.category?.isNone

end Error

/-- What an operation yields: a value or an error. -/
abbrev Result := Except Error

end Provisioning
