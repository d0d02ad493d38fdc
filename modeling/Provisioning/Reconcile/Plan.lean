import Provisioning.Reconcile.AddressPattern
import Provisioning.Reconcile.Setting
import Provisioning.Registration.SourceSubnet
import Provisioning.Repetition

/-!
# Planning the changes to stored settings

Given the settings of a repository and the wanted combinations of connection and
source subnets, the plan lists what to change: managed settings that are no
longer wanted are deleted, then each combination is created, updated or, when it
is already as wanted, passed over.  Settings that are not managed are never
touched.  `SettingAction.apply` says what a change does to a repository, so that
the plan can be compared with its aim.
-/

namespace Provisioning

set_option autoImplicit false

/-! ## Changes -/

/-- A change to the settings of a repository. -/
inductive SettingAction where
  | create (setting : RegistrationSetting)
  | update (setting : RegistrationSetting)
  | delete (setting : RegistrationSetting)
  deriving DecidableEq

namespace SettingAction

/-- The setting that the change is about. -/
def setting : SettingAction → RegistrationSetting
  | create s => s
  | update s => s
  | delete s => s

/-- The word for the change. -/
def verb : SettingAction → String
  | create _ => "Create"
  | update _ => "Update"
  | delete _ => "Delete"

/-- The change as data. -/
def toDatum (a : SettingAction) : Datum :=
  .record [("Action", .string a.verb), ("Setting", a.setting.toDatum)]

/-- The settings of a repository after a change.  A setting that is created gets
the given id; the others are found by theirs. -/
def apply (freshId : String) (a : SettingAction) (settings : List RegistrationSetting) :
    List RegistrationSetting :=
  match a with
  | create s => settings ++ [{ s with id := freshId }]
  | update s => settings.map fun old => if old.id = s.id then s else old
  | delete s => settings.filter (·.id ≠ s.id)

/-- The settings of a repository after changes in order, each with an id in case
it creates a setting. -/
def applyAll : List (SettingAction × String) → List RegistrationSetting → List RegistrationSetting
  | [], settings => settings
  | (a, freshId) :: rest, settings => applyAll rest (a.apply freshId settings)

end SettingAction

/-! ## What is wanted -/

/-- The combinations that are wanted, and the network of every subnet. -/
structure DesiredSettings where
  connections : List String
  sources : List SourceSubnet
  /-- Networks by subnet; of several for one subnet the last counts. -/
  networks : List (String × String)
  deriving DecidableEq

namespace DesiredSettings

/-- Checks that there is a connection and that no source is named twice. -/
def check (d : DesiredSettings) : Result Unit :=
  if d.connections.isEmpty then .error (.config .noConnectionSubnet)
  else
    match firstRepeated [] (d.sources.map (·.subnetId)) with
    | some id => .error (.config (.repeatedSource id))
    | none => .ok ()

/-- The network of a subnet. -/
def network? (d : DesiredSettings) (subnetId : String) : Option String :=
  (d.networks.reverse.find? (·.1 = subnetId)).map (·.2)

/-- The pattern of the addresses of a subnet. -/
def patternOf (d : DesiredSettings) (subnetId : String) : Result String :=
  match d.network? subnetId with
  | some network => addressMatch network
  | none => .error (.config (.unknownCidr subnetId))

/-- The setting wanted for a connection and a source.  Its id is still open. -/
def wanted (d : DesiredSettings) (connection : String) (source : SourceSubnet) :
    Result RegistrationSetting := do
  let connectionPattern ← d.patternOf connection
  let sourcePattern ← d.patternOf source.subnetId
  pure {
    id := ""
    name := SettingName.text connection source.subnetId
    connectionFilter := .ofPattern connectionPattern
    sourceFilter := .ofPattern sourcePattern
    isEnabled := true
    role := source.role
    status := source.status }

/-- The combinations, connection by connection. -/
def pairs (d : DesiredSettings) : List (String × SourceSubnet) :=
  d.connections.flatMap fun connection => d.sources.map (connection, ·)

/-- Whether a managed setting is for a combination that is wanted. -/
def covers (d : DesiredSettings) (s : RegistrationSetting) : Bool :=
  match SettingName.read? s.name with
  | some (connection, source) =>
    d.connections.contains connection && (d.sources.map (·.subnetId)).contains source
  | none => false

end DesiredSettings

/-! ## The plan -/

/-- The change that brings the managed settings to hold a wanted one.  Of several
managed settings with its name the last counts, and its id is kept. -/
def settle (managed : List RegistrationSetting) (wanted : RegistrationSetting) :
    Option SettingAction :=
  match managed.reverse.find? (·.name = wanted.name) with
  | none => some (.create wanted)
  | some existing =>
    let kept := { wanted with id := existing.id }
    if existing = kept then none else some (.update kept)

/-- The changes that bring the settings of a repository to what is wanted:
deletions first, then the combinations in order. -/
def plan (prior : List RegistrationSetting) (desired : DesiredSettings) :
    Result (List SettingAction) := do
  desired.check
  let managed := prior.filter (·.isManaged)
  let deletions := (managed.filter (!desired.covers ·)).map SettingAction.delete
  let wanted ← desired.pairs.mapM fun (connection, source) => desired.wanted connection source
  pure (deletions ++ wanted.filterMap (settle managed))

end Provisioning
