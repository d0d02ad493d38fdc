import Provisioning.Reconcile.AddressPattern
import Provisioning.Registration.SourceSubnet
import Provisioning.Secret

/-!
# Arguments of the configure program

Arguments are options with values.  A value follows its option after an equals
sign, or is the next argument if that does not begin with a hyphen.  A value that
is the next argument is looked at only when the next option begins or the
arguments end; so an argument that is not known at all is complained about first.
The region, the credentials and at least one connection subnet are required.
-/

namespace Provisioning

set_option autoImplicit false

/-! ## Options -/

/-- An option of the program. -/
inductive OptionName where
  | region
  | credentials
  | connectionSubnet
  | sourceSubnet
  | subnetCidr
  | existing
  deriving DecidableEq

namespace OptionName

/-- The option as it is written after two hyphens. -/
def text : OptionName → String
  | region => "region"
  | credentials => "credentials"
  | connectionSubnet => "connection-subnet"
  | sourceSubnet => "source-subnet"
  | subnetCidr => "subnet-cidr"
  | existing => "existing"

/-- All options. -/
def all : List OptionName :=
  [region, credentials, connectionSubnet, sourceSubnet, subnetCidr, existing]

/-- The option of a text. -/
def ofText? (text : String) : Option OptionName :=
  all.find? (·.text = text)

end OptionName

/-- What makes arguments unusable. -/
inductive ArgumentFault where
  | missingRequired
  | missingValue
  | invalidValue (error : Error)
  | unknownArgument
  | repeatedOption
  | surplusValue
  /-- Not a fault, but nothing is left to do. -/
  | helpRequested
  deriving DecidableEq

/-- The name of a kind of fault. -/
def ArgumentFault.kind : ArgumentFault → String
  | missingRequired => "MissingRequiredArgument"
  | missingValue => "InvalidValue"
  | invalidValue _ => "ValueValidation"
  | unknownArgument => "UnknownArgument"
  | repeatedOption => "ArgumentConflict"
  | surplusValue => "TooManyValues"
  | helpRequested => "DisplayHelp"

/-! ## Single arguments -/

/-- What one argument is, on its own. -/
inductive ArgumentToken where
  /-- An option, and what follows it after an equals sign. -/
  | option (name : OptionName) (value : Option String)
  | help
  | helpWithValue
  /-- What comes after this is no option. -/
  | terminator
  | unknownOption
  | word (text : String)
  deriving DecidableEq

namespace ArgumentToken

/-- What follows the first occurrence of a character. -/
def after? (c : Char) (cs : List Char) : Option String :=
  match cs.dropWhile (· != c) with
  | [] => none
  | _ :: rest => some (String.ofList rest)

/-- The token of what follows two hyphens. -/
def ofLong (cs : List Char) : ArgumentToken :=
  let name := String.ofList (cs.takeWhile (· != '='))
  let value := after? '=' cs
  match OptionName.ofText? name with
  | some known => .option known value
  | none =>
    if name = "help" then (if value.isSome then .helpWithValue else .help) else .unknownOption

/-- The token of an argument. -/
def ofText (text : String) : ArgumentToken :=
  match text.toList with
  | ['-', '-'] => .terminator
  | '-' :: '-' :: rest => ofLong rest
  | '-' :: 'h' :: _ => .help
  | '-' :: _ :: _ => .unknownOption
  | _ => .word text

end ArgumentToken

/-! ## Values -/

/-- The arguments of the program, as far as they have been read. -/
structure GivenArguments where
  region : Option String := none
  credentials : Option SecretReference := none
  connectionSubnets : List String := []
  sourceSubnets : List SourceSubnet := []
  networks : List (String × String) := []
  existing : Option String := none
  deriving DecidableEq

/-- Reads a subnet and its network with an equals sign between them. -/
def readSubnetNetwork (text : String) : Result (String × String) := do
  let id := String.ofList (text.toList.takeWhile (· != '='))
  match ArgumentToken.after? '=' text.toList with
  | none => throw (.config (.notSubnetCidr text))
  | some network =>
    checkSubnetId id
    discard (addressMatch network)
    pure (id, network)

namespace GivenArguments

/-- A value that was read, or the fault that it could not be read. -/
def valid {α : Type} : Result α → Except ArgumentFault α
  | .ok value => .ok value
  | .error e => .error (.invalidValue e)

/-- Fails for an option that was given already. -/
def checkFirst {α : Type} (former : Option α) : Except ArgumentFault Unit :=
  if former.isSome then .error .repeatedOption else .ok ()

/-- Takes the value of an option. -/
def take (g : GivenArguments) (name : OptionName) (value : String) :
    Except ArgumentFault GivenArguments :=
  match name with
  | .region => do
    checkFirst g.region
    pure { g with region := some value }
  | .credentials => do
    checkFirst g.credentials
    let secret ← valid (SecretReference.read value)
    pure { g with credentials := some secret }
  | .existing => do
    checkFirst g.existing
    if value = "" then throw .missingValue
    pure { g with existing := some value }
  | .connectionSubnet => do
    valid (checkSubnetId value)
    pure { g with connectionSubnets := g.connectionSubnets ++ [value] }
  | .sourceSubnet => do
    let source ← valid (SourceSubnet.read value)
    pure { g with sourceSubnets := g.sourceSubnets ++ [source] }
  | .subnetCidr => do
    let network ← valid (readSubnetNetwork value)
    pure { g with networks := g.networks ++ [network] }

end GivenArguments

/-! ## All arguments -/

/-- A reader of arguments, between two of them. -/
structure ArgumentReader where
  given : GivenArguments
  /-- The option read last and its value, if the value has not been looked at. -/
  pending : Option (OptionName × Option String)
  /-- Whether there are no options any more. -/
  isTerminated : Bool
  deriving DecidableEq

namespace ArgumentReader

/-- The reader before the first argument. -/
def start : ArgumentReader where
  given := {}
  pending := none
  isTerminated := false

/-- Looks at the value of the option read last. -/
def settle (r : ArgumentReader) : Except ArgumentFault GivenArguments :=
  match r.pending with
  | none => .ok r.given
  | some (_, none) => .error .missingValue
  | some (name, some value) => r.given.take name value

/-- Reads one argument. -/
def read (r : ArgumentReader) (token : ArgumentToken) : Except ArgumentFault ArgumentReader :=
  if r.isTerminated then .error .unknownArgument
  else
    match token with
    | .option name none => do
      let given ← r.settle
      pure { r with given, pending := some (name, none) }
    | .option name (some value) => do
      let given ← (← r.settle).take name value
      pure { r with given, pending := none }
    | .help => do
      discard r.settle
      throw .helpRequested
    | .helpWithValue => .error .surplusValue
    | .terminator => .ok { r with isTerminated := true }
    | .unknownOption => .error .unknownArgument
    | .word text =>
      match r.pending with
      | some (name, none) => .ok { r with pending := some (name, some text) }
      | _ => .error .unknownArgument

/-- Reads several arguments, one after another. -/
def readAll (r : ArgumentReader) (tokens : List ArgumentToken) :
    Except ArgumentFault ArgumentReader :=
  tokens.foldlM read r

end ArgumentReader

/-- Arguments of the program that can be used. -/
structure ConfigureArguments where
  region : String
  credentials : SecretReference
  connectionSubnets : List String
  sourceSubnets : List SourceSubnet
  networks : List (String × String)
  /-- The path of the file with the stored settings. -/
  existing : Option String
  deriving DecidableEq

namespace ConfigureArguments

/-- Checks that everything required was given. -/
def ofGiven (g : GivenArguments) : Except ArgumentFault ConfigureArguments :=
  match g.region, g.credentials, g.connectionSubnets with
  | some region, some credentials, _ :: _ => .ok {
      region
      credentials
      connectionSubnets := g.connectionSubnets
      sourceSubnets := g.sourceSubnets
      networks := g.networks
      existing := g.existing }
  | _, _, _ => .error .missingRequired

/-- Reads the arguments of the program. -/
def read (arguments : List String) : Except ArgumentFault ConfigureArguments := do
  let r ← ArgumentReader.start.readAll (arguments.map ArgumentToken.ofText)
  ofGiven (← r.settle)

end ConfigureArguments

end Provisioning
