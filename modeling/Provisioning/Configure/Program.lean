import Provisioning.Configure.Arguments
import Provisioning.Datum.Json
import Provisioning.Datum.Printer
import Provisioning.Event
import Provisioning.Reconcile.Plan
import Provisioning.TextFile

/-!
# The configure program

The program runs on the instance.  It reads the arguments that the registration
command was given and the settings that the repository holds, and prints the
changes that bring the repository to what was registered.
-/

namespace Provisioning

set_option autoImplicit false

namespace ConfigureArguments

/-- The combinations that the arguments ask for. -/
def desired (a : ConfigureArguments) : DesiredSettings where
  connections := a.connectionSubnets
  sources := a.sourceSubnets
  networks := a.networks

/-- What is reported about the arguments. -/
def warnings (a : ConfigureArguments) : List Event :=
  if a.credentials.region = a.region then [] else [.foreignCredentials a.region a.credentials.region]

/-- The settings in a JSON text. -/
def readSettings (text : String) : Result (List RegistrationSetting) :=
  match (Datum.ofJson? text).bind RegistrationSetting.listOfDatum? with
  | some settings => .ok settings
  | none => .error .malformedSettings

/-- The settings that the repository holds, from the file with them; none when
there is no such file among the arguments. -/
def storedSettings : Option TextFile → Result (List RegistrationSetting)
  | none => .ok []
  | some file => file.read.bind readSettings

/-- The changes to the settings of the repository. -/
def plan (a : ConfigureArguments) (file : Option TextFile) : Result (List SettingAction) := do
  Provisioning.plan (← storedSettings file) a.desired

end ConfigureArguments

/-- How a program ends. -/
structure ProgramEnd where
  exitCode : Nat
  output : String := ""
  errorOutput : String := ""
  deriving DecidableEq

namespace ProgramEnd

/-- The end for arguments that cannot be used.  A request for help is no fault. -/
def ofFault : ArgumentFault → ProgramEnd
  | .helpRequested => { exitCode := 0 }
  | _ => { exitCode := 2 }

/-- The line about an error.  Where the stored settings are malformed, no more is
told than that. -/
def errorLine : Error → String
  | .malformedSettings => "Error: Serialization"
  | e => "Error: " ++ e.inspect ++ "\n"

/-- The end for a plan: its changes, or the error. -/
def ofPlan : Result (List SettingAction) → ProgramEnd
  | .ok actions => {
      exitCode := 0
      output := (Datum.array (actions.map SettingAction.toDatum)).pretty ++ "\n" }
  | .error e => { exitCode := 1, errorOutput := errorLine e }

end ProgramEnd

end Provisioning
