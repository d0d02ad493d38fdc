import Provisioning.Proofs.Options
import Provisioning.Proofs.Registration.Command
import Provisioning.Proofs.Script.ShellPrefix
import Provisioning.Registration.Identity

/-!
# The region among the arguments

Of the arguments of a registration command the region alone is written without quotation
marks, and a check of the options asks of it only that it is not empty.  The other values
are in marks and hold nothing that is special to a shell.  So the arguments split into the
words that are meant exactly if the region, by itself, reads as the one word that it is.
-/

namespace Provisioning

set_option autoImplicit false

namespace RegistrationCommand

/-! ## What comes behind the region -/

/-- In options with safe values, quotation marks come in pairs. -/
theorem isPaired_joined_quoted {options : List (OptionName × String)}
    (safe : ∀ given ∈ options, IsArgumentValue given.2) :
    Shell.IsPaired (Text.joined " " (options.map quoted)).toList := by
  refine Shell.IsPaired.joined fun text mem => ?_
  obtain ⟨given, here, rfl⟩ := List.mem_map.mp mem
  have together : (quoted given).toList =
      ("--" ++ given.1.text).toList ++ ([' '] ++ (Text.inMarks given.2).toList) := by
    simp [quoted, quotedOption]
  rw [together]
  exact (Shell.IsPaired.of_ordinary (isOrdinary_of_mem_option given.1)).append
    (Shell.IsPaired.blank.append (.of_inMarks (safe given here).ordinary))

/-- Behind its name, an option with others behind it goes on with marked words. -/
theorem exists_behind {given : OptionName × String} {others : List (OptionName × String)}
    (safe : ∀ other ∈ given :: others, IsArgumentValue other.2) :
    ∃ behind, Text.joined " " ((given :: others).map quoted) =
        "--" ++ given.1.text ++ " " ++ behind ∧
      Shell.words? behind = some (given.2 :: others.flatMap pairWords) ∧
      Shell.IsPaired behind.toList := by
  obtain ⟨safeValue, safeOthers⟩ := List.forall_mem_cons.mp safe
  have value := Shell.words?_inMarks safeValue.inert
  have paired := Shell.IsPaired.of_inMarks safeValue.ordinary
  cases others with
  | nil => exact ⟨Text.inMarks given.2, rfl, value, paired⟩
  | cons next rest =>
    refine ⟨Text.inMarks given.2 ++ " " ++ Text.joined " " ((next :: rest).map quoted), ?_, ?_, ?_⟩
    · simp [Text.joined, quoted, quotedOption, String.append_assoc]
    · rw [Shell.words?_append_blank value, words?_joined_quoted safeOthers]
      rfl
    · have later := Shell.IsPaired.blank.append (isPaired_joined_quoted safeOthers)
      simpa using paired.append later

/-! ## The arguments as words -/

variable {c : RegistrationCommand} {sources : List SourceSubnet}

/-- **The arguments split into the words that are meant exactly if the region is one word.** -/
theorem words?_arguments_iff (valid : ∀ id ∈ c.connectionSubnets, isSubnetId id = true)
    (registrable : ∀ source ∈ sources, source.IsRegistrable) :
    Shell.words? (c.arguments sources) = some ("--region" :: c.region :: c.words sources) ↔
      Shell.words? c.region = some [c.region] := by
  obtain ⟨behind, isBehind, read, paired⟩ :=
    exists_behind (isArgumentValue_of_mem valid registrable)
  have isArguments : c.arguments sources =
      "--region" ++ " " ++ (c.region ++ " " ++ ("--credentials" ++ " " ++ behind)) := by
    rw [arguments_eq, optionsBehindRegion, isBehind]
    simp only [String.append_assoc]
    rfl
  have regionOption : Shell.words? "--region" = some ["--region"] :=
    Shell.words?_ordinary (isOrdinary_of_mem_option .region) (toList_option_ne_nil .region)
  have inFront := Shell.words?_in_front_iff c.region (isOrdinary_of_mem_option .credentials)
    (toList_option_ne_nil .credentials) read paired
  rw [← inFront, isArguments, Shell.words?_append_blank regionOption, ← flatMap_pairWords,
    Option.map_eq_some_iff]
  constructor
  · rintro ⟨words, split, same⟩
    cases (List.cons.inj same).2
    exact split
  · intro split
    exact ⟨_, split, rfl⟩

end RegistrationCommand

/-! ## Checked options -/

namespace RegistrationOptions

variable {o : RegistrationOptions} {storeId : StoreId} {s : RegistrationStore} {env : Environment}

/-- The arguments that are meant, as words. -/
def argumentWords (o : RegistrationOptions) (sources : List SourceSubnet) : List String :=
  ["--region", o.region, "--credentials", o.adminCredentials.arn]
    ++ o.connectionSubnets.flatMap (fun id => ["--connection-subnet", id])
    ++ sources.flatMap (fun source => ["--source-subnet",
      source.subnetId ++ "," ++ source.role.name ++ "," ++ source.status.name])

/-- **The region is all that can break out of its argument.**  With checked options, the
command for the registrations of a store is rendered, and its arguments split into the
words that are meant exactly if the region by itself reads as one word. -/
theorem arguments_split_iff (checked : o.check = .ok ()) (reachable : s.Reachable)
    (held : env.store? storeId = some s) :
    (∃ env', (LazyCommand.registration (o.command storeId)).evaluate env =
      (.ok ("sudo -u " ++ o.osUser ++ " " ++ o.configureCommand ++ " "
        ++ (o.command storeId).arguments s.sources), env')) ∧
    (Shell.words? ((o.command storeId).arguments s.sources) =
        some (o.argumentWords s.sources) ↔
      Shell.words? o.region = some [o.region]) := by
  obtain ⟨someConnection, valid, _⟩ :=
    checkConnectionSubnets_eq_ok_iff.mp (region_of_check checked).2
  constructor
  · have passed : (o.command storeId).check = .ok () :=
      RegistrationCommand.check_eq_ok_iff.mpr ⟨someConnection, valid⟩
    refine ⟨_, LazyCommand.evaluate_registration_eq_ok_iff.mpr ⟨passed, ?_, rfl⟩⟩
    change _ = (o.command storeId).text (env.sources storeId)
    rw [Environment.sources_eq_of_store? held]
    rfl
  · exact RegistrationCommand.words?_arguments_iff (c := o.command storeId) valid
      reachable.isRegistrable

/-- Options of a registration in a region that is given as any text. -/
def inRegion (region : String) : RegistrationOptions :=
  .create region LazyCommand.fleetCommand.credentials ["subnet-a"]
    (.ofName "repository" ["subnet-1"])

theorem arguments_split_iff_west :
    (inRegion "us-west-2").check = .ok () ∧ LazyCommand.fleetStore.Reachable ∧
    (Environment.empty.addStore LazyCommand.fleetStore).store? ⟨0⟩ =
      some LazyCommand.fleetStore ∧
    Shell.words? (((inRegion "us-west-2").command ⟨0⟩).arguments LazyCommand.fleetStore.sources) =
      some ((inRegion "us-west-2").argumentWords LazyCommand.fleetStore.sources) := by
  have checked : (inRegion "us-west-2").check = .ok () := by decide
  have held : (Environment.empty.addStore LazyCommand.fleetStore).store? ⟨0⟩ =
      some LazyCommand.fleetStore := rfl
  obtain ⟨_, split_iff⟩ :=
    arguments_split_iff checked LazyCommand.reachable_fleetStore held
  exact ⟨checked, LazyCommand.reachable_fleetStore, held,
    split_iff.mpr (words?_of_isRegion (by decide))⟩

/-- **The checks let a region through that ends the command and begins another one.** -/
theorem arguments_not_always_split :
    ¬ ∀ (o : RegistrationOptions) (storeId : StoreId) (s : RegistrationStore) (env : Environment),
      o.check = .ok () → s.Reachable → env.store? storeId = some s →
        (∃ env', (LazyCommand.registration (o.command storeId)).evaluate env =
          (.ok ("sudo -u " ++ o.osUser ++ " " ++ o.configureCommand ++ " "
            ++ (o.command storeId).arguments s.sources), env')) ∧
        Shell.words? ((o.command storeId).arguments s.sources) =
          some (o.argumentWords s.sources) := by
  intro always
  have checked : (inRegion "us-west-2; reboot").check = .ok () := by decide
  obtain ⟨_, split⟩ := always _ ⟨0⟩ _ (Environment.empty.addStore LazyCommand.fleetStore) checked
    LazyCommand.reachable_fleetStore rfl
  have gaveUp : Shell.words? (((inRegion "us-west-2; reboot").command ⟨0⟩).arguments
      LazyCommand.fleetStore.sources) = none := by
    decide +kernel
  rw [gaveUp] at split
  cases split

end RegistrationOptions

end Provisioning
