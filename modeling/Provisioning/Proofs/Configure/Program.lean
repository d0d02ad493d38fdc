import Provisioning.Configure.Program
import Provisioning.Proofs.Configure.Accepted
import Provisioning.Proofs.Reconcile.Repetition

/-!
# What the configure program plans

The arguments of the program name subnets, and only segment ids are taken for them.  So a
name that the program makes for a setting is read back as the two subnets it was made of,
and each change is for one of the wanted combinations or for a setting that leaves.

A connection may be given twice.  The settings of its combinations are then in the plan
twice, and one that is missing is created twice.
-/

namespace Provisioning

set_option autoImplicit false

/-! ## Changes for one setting -/

namespace ConfigureArguments

open RegistrationSetting

/-- The combinations that accepted arguments ask for are made of segment ids. -/
theorem isSubnetId_of_mem_pairs {arguments : List String} {a : ConfigureArguments}
    (accepted : read arguments = .ok a) :
    ∀ pair ∈ a.desired.pairs, isSubnetId pair.1 = true ∧ isSubnetId pair.2.subnetId = true := by
  obtain ⟨connections, sources⟩ := isSubnetId_of_read accepted
  intro pair mem
  obtain ⟨connection, source⟩ := DesiredSettings.mem_pairs.mp mem
  exact ⟨connections _ connection, sources _ source⟩

/-- **A plan holds as many changes for a setting as its connection was given**, and one
deletion for each setting that leaves.  When no connection is given twice, no two changes
are for one setting. -/
theorem count_changes_of_plan {arguments : List String} {a : ConfigureArguments}
    {file : Option TextFile} {prior : List RegistrationSetting} {actions : List SettingAction}
    (accepted : read arguments = .ok a) (stored : storedSettings file = .ok prior)
    (distinctNames : ((managed prior).map (·.name)).Nodup)
    (planned : a.plan file = .ok actions) :
    (∀ action ∈ actions, ∃ connection source,
      SettingName.read? action.setting.name = some (connection, source) ∧
      (actions.map (·.setting.name)).count action.setting.name =
        if a.desired.covers action.setting then a.connectionSubnets.count connection else 1) ∧
    (a.connectionSubnets.Nodup → (actions.map (·.setting.name)).Nodup) := by
  obtain ⟨prior', stored', planned⟩ := Result.bind_eq_ok_iff.mp planned
  cases Except.ok.inj (stored.symm.trans stored')
  have valid := isSubnetId_of_mem_pairs accepted
  exact ⟨fun action mem => count_name_of_mem_plan distinctNames valid planned mem,
    nodup_name_of_plan distinctNames valid planned⟩

/-- Arguments that give the front twice, for an office behind it. -/
def frontTwice : List String := [
  "--region", "us-west-2",
  "--credentials", "arn:aws:secretsmanager:us-west-2:123456789012:secret:repository",
  "--connection-subnet", "front", "--connection-subnet=front",
  "--source-subnet", "office,Client,Registered",
  "--subnet-cidr", "front=10.0.0.0/24", "--subnet-cidr", "office=10.1.0.0/16"]

/-- What these arguments say. -/
def frontTwiceArguments : ConfigureArguments where
  region := "us-west-2"
  credentials := {
    arn := "arn:aws:secretsmanager:us-west-2:123456789012:secret:repository"
    region := "us-west-2"
    isReference := by decide }
  connectionSubnets := ["front", "front"]
  sourceSubnets := [⟨"office", .client, .registered⟩]
  networks := [("front", "10.0.0.0/24"), ("office", "10.1.0.0/16")]
  existing := none

/-- The setting that the repository holds for an attic behind the front. -/
def attic : RegistrationSetting where
  id := "7"
  name := "FarmsteadSubnet|front|attic"
  connectionFilter := .ofPattern "10.0.0.*"
  sourceFilter := .ofPattern "10.2.*.*"
  isEnabled := true
  role := .client
  status := .registered

/-- What the repository tells about the attic, field by field. -/
def atticFile : TextFile where
  path := "settings.json"
  contents := .ok <|
    "[[\"7\", \"FarmsteadSubnet|front|attic\", \"IPv4Match\", \"10.0.0.*\", "
      ++ "\"IPv4Match\", \"10.2.*.*\", true, \"Client\", \"Registered\"]]"

/-- The setting that is wanted for the office, not stored yet. -/
def office : RegistrationSetting where
  id := ""
  name := "FarmsteadSubnet|front|office"
  connectionFilter := .ofPattern "10.0.0.*"
  sourceFilter := .ofPattern "10.1.*.*"
  isEnabled := true
  role := .client
  status := .registered

/-- The attic is deleted once, and the office created as often as the front is given. -/
theorem count_changes_of_plan_frontTwice :
    read frontTwice = .ok frontTwiceArguments ∧
      storedSettings (some atticFile) = .ok [attic] ∧
      ((managed [attic]).map (·.name)).Nodup ∧
      frontTwiceArguments.plan (some atticFile) =
        .ok [.delete attic, .create office, .create office] ∧
      ∃ connection source, SettingName.read? office.name = some (connection, source) ∧
        [attic.name, office.name, office.name].count office.name =
          if frontTwiceArguments.desired.covers office then
            frontTwiceArguments.connectionSubnets.count connection
          else 1 := by
  have accepted : read frontTwice = .ok frontTwiceArguments := by decide +kernel
  have stored : storedSettings (some atticFile) = .ok [attic] := by decide +kernel
  have distinct : ((managed [attic]).map (·.name)).Nodup := by decide +kernel
  have planned : frontTwiceArguments.plan (some atticFile) =
      .ok [.delete attic, .create office, .create office] := by
    rw [plan, stored]
    decide +kernel
  exact ⟨accepted, stored, distinct, planned,
    (count_changes_of_plan accepted stored distinct planned).1 (.create office) (by simp)⟩

/-- **A connection that is given twice has its settings created twice**: the arguments are
accepted, and the plan for an empty repository holds two changes for the office. -/
theorem changes_repeat_for_repeated_connection :
    ¬ ∀ (arguments : List String) (a : ConfigureArguments) (file : Option TextFile)
        (prior : List RegistrationSetting) (actions : List SettingAction),
      read arguments = .ok a → storedSettings file = .ok prior →
        ((managed prior).map (·.name)).Nodup → a.plan file = .ok actions →
          (actions.map (·.setting.name)).Nodup := by
  intro always
  have accepted : read frontTwice = .ok frontTwiceArguments := by decide +kernel
  have planned : frontTwiceArguments.plan none = .ok [.create office, .create office] := by
    decide +kernel
  have distinct := always frontTwice _ none [] _ accepted rfl List.nodup_nil planned
  exact absurd distinct (by decide)

end ConfigureArguments

end Provisioning
