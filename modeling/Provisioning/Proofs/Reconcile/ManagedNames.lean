import Provisioning.Proofs.Reconcile.Plan

/-!
# Which settings are managed

A name is read as two subnets exactly when it was made of two texts that are not empty and hold
no bar, and it is read as these texts.  Nothing else tells managed settings from others: the
settings that a plan creates are recognised when they are stored, and a setting under any other
name is left alone.
-/

namespace Provisioning

set_option autoImplicit false

namespace SettingName

variable {connection source name : String}

/-- A text that can be told apart in a name. -/
structure IsPart (part : String) : Prop where
  someChar : part ≠ ""
  noBar : '|' ∉ part.toList

theorem IsPart.of_checkSubnetId {id : String} (checked : checkSubnetId id = .ok ()) :
    IsPart id where
  someChar empty := toList_ne_nil_of_isSubnetId (checkSubnetId_eq_ok_iff.mp checked)
    (String.toList_eq_nil_iff.mpr empty)
  noBar := separator_not_mem_of_isSubnetId (checkSubnetId_eq_ok_iff.mp checked)

/-- What is read from a name are parts that can be told apart. -/
theorem isPart_of_read? (read : read? name = some (connection, source)) :
    IsPart connection ∧ IsPart source := by
  obtain ⟨parts, someConnection, someSource⟩ := read?_eq_some_iff.mp read
  have plain (part : List Char) (mem : part ∈ [marker.toList, connection.toList, source.toList]) :
      separator ∉ part := by
    rw [← parts] at mem
    exact Text.not_mem_of_mem_splitOn mem
  exact ⟨⟨mt String.toList_eq_nil_iff.mpr someConnection, plain _ (by simp)⟩,
    ⟨mt String.toList_eq_nil_iff.mpr someSource, plain _ (by simp)⟩⟩

/-- Exactly the parts that can be told apart are read back. -/
theorem read?_text_eq_self_iff :
    read? (text connection source) = some (connection, source) ↔
      IsPart connection ∧ IsPart source := by
  refine ⟨isPart_of_read?, fun ⟨isConnection, isSource⟩ => ?_⟩
  exact read?_text (mt String.toList_eq_nil_iff.mp isConnection.someChar)
    (mt String.toList_eq_nil_iff.mp isSource.someChar) isConnection.noBar isSource.noBar

/-- Parts that can be told apart are determined by their name. -/
theorem eq_of_text_eq {connection' source' : String} (isConnection : IsPart connection)
    (isSource : IsPart source) (isConnection' : IsPart connection') (isSource' : IsPart source')
    (same : text connection source = text connection' source') :
    (connection, source) = (connection', source') := by
  have read := read?_text_eq_self_iff.mpr ⟨isConnection, isSource⟩
  rw [same, read?_text_eq_self_iff.mpr ⟨isConnection', isSource'⟩] at read
  exact (Option.some.inj read).symm

end SettingName

/-- A setting is managed exactly when its name is made of parts that can be told apart. -/
theorem RegistrationSetting.isManaged_iff {s : RegistrationSetting} :
    s.isManaged = true ↔ ∃ connection source, SettingName.IsPart connection ∧
      SettingName.IsPart source ∧ s.name = SettingName.text connection source := by
  rw [isManaged, Option.isSome_iff_exists]
  constructor
  · rintro ⟨⟨connection, source⟩, read⟩
    obtain ⟨isConnection, isSource⟩ := SettingName.isPart_of_read? read
    exact ⟨connection, source, isConnection, isSource, (SettingName.text_of_read? read).symm⟩
  · rintro ⟨connection, source, isConnection, isSource, named⟩
    rw [named]
    exact ⟨_, SettingName.read?_text_eq_self_iff.mpr ⟨isConnection, isSource⟩⟩

/-- Every change of a plan for segment ids is about a managed setting. -/
theorem isManaged_of_mem_plan {prior : List RegistrationSetting} {d : DesiredSettings}
    {actions : List SettingAction}
    (connections : ∀ connection ∈ d.connections, checkSubnetId connection = .ok ())
    (sources : ∀ source ∈ d.sources, checkSubnetId source.subnetId = .ok ())
    (planned : plan prior d = .ok actions) {action : SettingAction} (mem : action ∈ actions) :
    action.setting.isManaged = true := by
  rcases (mem_plan_iff planned).mp mem with
    ⟨s, here, _, rfl⟩ | ⟨⟨connection, source⟩, isPair, wanted, made, settles⟩
  · exact (RegistrationSetting.mem_managed.mp here).2
  · obtain ⟨isConnection, isSource⟩ := DesiredSettings.mem_pairs.mp isPair
    have named : action.setting.name = SettingName.text connection source.subnetId :=
      (name_of_settle settles).trans (DesiredSettings.describes_of_wanted made).name_eq
    exact RegistrationSetting.isManaged_of_name_eq
      (checkSubnetId_eq_ok_iff.mp (connections _ isConnection))
      (checkSubnetId_eq_ok_iff.mp (sources _ isSource)) named

/-- **Managed names are read back, and nothing else is managed.**  A name is read as the two
texts that it was made of exactly when neither of them is empty or holds a bar, and whatever is
read from a name is what it was made of.  So the names for different pairs of segment ids
differ, what a plan for segment ids creates or changes is managed, and a setting whose name was
not made of such texts is not. -/
theorem managed_names_read_back :
    (∀ connection source : String,
      SettingName.read? (SettingName.text connection source) = some (connection, source) ↔
        (connection ≠ "" ∧ '|' ∉ connection.toList) ∧ (source ≠ "" ∧ '|' ∉ source.toList)) ∧
    (∀ name connection source : String, SettingName.read? name = some (connection, source) →
      SettingName.text connection source = name) ∧
    (∀ connection source connection' source' : String,
      checkSubnetId connection = .ok () → checkSubnetId source = .ok () →
      checkSubnetId connection' = .ok () → checkSubnetId source' = .ok () →
      (connection, source) ≠ (connection', source') →
        SettingName.text connection source ≠ SettingName.text connection' source') ∧
    (∀ (prior : List RegistrationSetting) (d : DesiredSettings) (actions : List SettingAction),
      (∀ connection ∈ d.connections, checkSubnetId connection = .ok ()) →
      (∀ source ∈ d.sources, checkSubnetId source.subnetId = .ok ()) →
      plan prior d = .ok actions →
        ∀ action ∈ actions, action.setting.isManaged = true) ∧
    ∀ s : RegistrationSetting, s.isManaged = true ↔ ∃ connection source : String,
      (connection ≠ "" ∧ '|' ∉ connection.toList) ∧ (source ≠ "" ∧ '|' ∉ source.toList) ∧
        s.name = SettingName.text connection source := by
  have isPart_iff (part : String) :
      SettingName.IsPart part ↔ part ≠ "" ∧ '|' ∉ part.toList :=
    ⟨fun isPart => ⟨isPart.someChar, isPart.noBar⟩, fun ⟨someChar, noBar⟩ => ⟨someChar, noBar⟩⟩
  simp only [← isPart_iff]
  refine ⟨fun connection source => SettingName.read?_text_eq_self_iff,
    fun name connection source => SettingName.text_of_read?, ?_, ?_,
    fun s => RegistrationSetting.isManaged_iff⟩
  · intro connection source connection' source' valid validSource valid' validSource' differ same
    exact differ (SettingName.eq_of_text_eq (.of_checkSubnetId valid)
      (.of_checkSubnetId validSource) (.of_checkSubnetId valid')
      (.of_checkSubnetId validSource') same)
  · intro prior d actions connections sources planned action
    exact isManaged_of_mem_plan connections sources planned

/-- An office is wanted behind the front. -/
def officeBehindFront : DesiredSettings where
  connections := ["front"]
  sources := [⟨"office", .client, .registered⟩]
  networks := [("front", "10.0.0.0/24"), ("office", "10.1.0.0/16")]

/-- The name of the office is read back and is not the one of the attic; the setting that is
created for the office is managed. -/
theorem managed_names_read_back_office :
    SettingName.read? "FarmsteadSubnet|front|office" = some ("front", "office") ∧
      SettingName.text "front" "office" = "FarmsteadSubnet|front|office" ∧
    checkSubnetId "front" = .ok () ∧ checkSubnetId "office" = .ok () ∧
      checkSubnetId "attic" = .ok () ∧ ("front", "office") ≠ ("front", "attic") ∧
      SettingName.text "front" "office" ≠ SettingName.text "front" "attic" ∧
    ∃ office, plan [] officeBehindFront = .ok [.create office] ∧ office.isManaged = true := by
  obtain ⟨_, text_of_read, text_ne, managed, _⟩ := managed_names_read_back
  have read : SettingName.read? "FarmsteadSubnet|front|office" = some ("front", "office") := by
    decide +kernel
  have front : checkSubnetId "front" = .ok () := checkSubnetId_eq_ok_iff.mpr (by decide)
  have office : checkSubnetId "office" = .ok () := checkSubnetId_eq_ok_iff.mpr (by decide)
  have attic : checkSubnetId "attic" = .ok () := checkSubnetId_eq_ok_iff.mpr (by decide)
  have differ : ("front", "office") ≠ ("front", "attic") := by decide
  have connections : ∀ connection ∈ officeBehindFront.connections,
      checkSubnetId connection = .ok () := List.forall_mem_singleton.mpr front
  have sources : ∀ source ∈ officeBehindFront.sources,
      checkSubnetId source.subnetId = .ok () := List.forall_mem_singleton.mpr office
  have planned : plan [] officeBehindFront =
      .ok [.create ⟨"", "FarmsteadSubnet|front|office", .ofPattern "10.0.0.*",
        .ofPattern "10.1.*.*", true, .client, .registered⟩] := by
    decide +kernel
  exact ⟨read, text_of_read _ _ _ read, front, office, attic, differ,
    text_ne _ _ _ _ front office front attic differ, _, planned,
    managed _ _ _ connections sources planned _ List.mem_cons_self⟩

end Provisioning
