/-!
# Names of managed settings

The settings that this library manages in a repository are told apart from those
made by hand by their names.  A managed name is a fixed marker, a connection
subnet and a source subnet with bars between them.
-/

namespace Provisioning.SettingName

set_option autoImplicit false

/-- The word that managed names start with. -/
def marker : String := "FarmsteadSubnet"

/-- The character between the parts of a managed name. -/
def separator : Char := '|'

/-- The name of the setting for a connection and a source subnet. -/
def text (connection source : String) : String :=
  marker ++ String.singleton separator ++ connection ++ String.singleton separator ++ source

/-- The connection and source subnet of a managed name; other names have none. -/
def read? (name : String) : Option (String × String) :=
  match name.toList.splitOn separator with
  | [first, connection, source] =>
    if first == marker.toList && !connection.isEmpty && !source.isEmpty then
      some (String.ofList connection, String.ofList source)
    else none
  | _ => none

end Provisioning.SettingName
