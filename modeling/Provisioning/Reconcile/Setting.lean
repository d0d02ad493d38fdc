import Provisioning.Datum.Record
import Provisioning.Reconcile.SettingName
import Provisioning.Registration.Vocabulary

/-!
# Stored registration settings

A repository stores settings that say which role and status clients get that
connect from one network to another.  Settings are exchanged as JSON under the
repository's own field names.
-/

namespace Provisioning

set_option autoImplicit false

/-- A filter on the address of a client. -/
structure AddressFilter where
  kind : String
  value : String
  deriving DecidableEq

/-- The kind of filter whose value is an address pattern. -/
def AddressFilter.patternKind : String := "IPv4Match"

/-- The filter of a pattern given as text. -/
def AddressFilter.ofPattern (pattern : String) : AddressFilter :=
  ⟨patternKind, pattern⟩

/-- A setting as the repository stores it. -/
structure RegistrationSetting where
  id : String
  name : String
  connectionFilter : AddressFilter
  sourceFilter : AddressFilter
  isEnabled : Bool
  role : ClientRole
  status : RegistrationStatus
  deriving DecidableEq

namespace RegistrationSetting

/-- Whether the setting is managed by this library, by its name. -/
def isManaged (s : RegistrationSetting) : Bool :=
  (SettingName.read? s.name).isSome

/-- The repository's names of the fields. -/
def fieldNames : List String := [
  "SettingsId", "SettingsName", "ConnectionIpFilterType", "ConnectionIpFilterValue",
  "SourceIpFilterType", "SourceIpFilterValue", "IsEnabled", "DefaultRole", "DefaultStatus"]

/-- The setting as data. -/
def toDatum (s : RegistrationSetting) : Datum :=
  .record (fieldNames.zip [
    .string s.id, .string s.name, .string s.connectionFilter.kind,
    .string s.connectionFilter.value, .string s.sourceFilter.kind, .string s.sourceFilter.value,
    .bool s.isEnabled, .string s.role.name, .string s.status.name])

/-- The setting that data stand for. -/
def ofDatum? (d : Datum) : Option RegistrationSetting := do
  let [id, name, connectionKind, connectionValue, sourceKind, sourceValue, isEnabled, role,
    status] ← d.fields? .json fieldNames | none
  pure {
    id := ← Datum.required Datum.toString? id
    name := ← Datum.required Datum.toString? name
    connectionFilter := {
      kind := ← Datum.required Datum.toString? connectionKind
      value := ← Datum.required Datum.toString? connectionValue }
    sourceFilter := {
      kind := ← Datum.required Datum.toString? sourceKind
      value := ← Datum.required Datum.toString? sourceValue }
    isEnabled := ← Datum.required Datum.toBool? isEnabled
    role := ← Datum.required (Datum.toName? ClientRole.ofName?) role
    status := ← Datum.required (Datum.toName? RegistrationStatus.ofName?) status }

/-- The settings that data stand for. -/
def listOfDatum? : Datum → Option (List RegistrationSetting) :=
  Datum.toList? ofDatum?

end RegistrationSetting

end Provisioning
