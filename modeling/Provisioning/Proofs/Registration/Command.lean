import Provisioning.Proofs.Configure.Arguments
import Provisioning.Proofs.Registration.Store
import Provisioning.Proofs.Script.LazyCommand
import Provisioning.Proofs.Secret

/-!
# What is rendered is what is read

The registration command is written when a boot script is rendered, and its
arguments are read on the instance, by another program, after a shell has split
them into words.  Both sides agree on every registration: no value holds a character
that takes effect between its quotation marks, none begins with a hyphen, and each
is in the grammar in which the other side reads it.
-/

namespace Provisioning

set_option autoImplicit false

/-! ## Values that are safe as arguments -/

/-- A text of characters that stand for themselves, which is no option as an argument. -/
structure IsArgumentValue (value : String) : Prop where
  ordinary : ∀ c ∈ value.toList, Shell.isOrdinary c = true
  head : ∃ first rest, value.toList = first :: rest ∧ first ≠ '-'

namespace IsArgumentValue

theorem ofText_eq {value : String} (safe : IsArgumentValue value) :
    ArgumentToken.ofText value = .word value := by
  obtain ⟨first, rest, chars, noHyphen⟩ := safe.head
  exact ArgumentToken.ofText_of_head chars noHyphen

theorem inert {value : String} (safe : IsArgumentValue value) :
    ∀ c ∈ value.toList, Shell.isInert c = true :=
  fun c mem => Shell.isInert_of_isOrdinary (safe.ordinary c mem)

theorem isOrdinary_of_isSubnetIdChar {c : Char} (mem : isSubnetIdChar c = true) :
    Shell.isOrdinary c = true :=
  Shell.isOrdinary_of_class (by decide) mem

theorem head_of_isSubnetId {id : String} (valid : isSubnetId id = true) (more : List Char) :
    ∃ first rest, id.toList ++ more = first :: rest ∧ first ≠ '-' := by
  obtain ⟨first, rest, chars, alphanum, _⟩ := exists_cons_of_isSubnetId valid
  refine ⟨first, rest ++ more, by rw [chars, List.cons_append], ?_⟩
  rintro rfl
  exact absurd alphanum (by decide)

theorem of_isSubnetId {id : String} (valid : isSubnetId id = true) : IsArgumentValue id where
  ordinary _ mem := isOrdinary_of_isSubnetIdChar (isSubnetIdChar_of_mem valid mem)
  head := by
    have head := head_of_isSubnetId valid []
    rwa [List.append_nil] at head

theorem of_sourceSubnet {source : SourceSubnet} (registrable : source.IsRegistrable) :
    IsArgumentValue source.text where
  ordinary := by
    have inRole : source.role.name.toList.all Shell.isOrdinary = true := by
      cases source.role with
      | server => decide
      | client => decide
      | administrator => decide
    have inStatus : source.status.name.toList.all Shell.isOrdinary = true := by
      cases source.status with
      | pending => decide
      | registered => decide
      | revoked => decide
    intro c mem
    rw [SourceSubnet.toList_text, List.mem_append, List.mem_cons, List.mem_append,
      List.mem_cons] at mem
    rcases mem with inId | rfl | here | rfl | here
    · exact isOrdinary_of_isSubnetIdChar (isSubnetIdChar_of_mem registrable.isSubnetId inId)
    · decide
    · exact List.all_eq_true.mp inRole c here
    · decide
    · exact List.all_eq_true.mp inStatus c here
  head := by
    rw [SourceSubnet.toList_text]
    exact head_of_isSubnetId registrable.isSubnetId _

theorem of_secret (secret : SecretReference) : IsArgumentValue secret.arn where
  ordinary _ mem := isOrdinary_of_mem_reference secret.isReference mem
  head := by
    obtain ⟨partition, account, name, made, _⟩ := secretRegion?_eq_some_iff.mp secret.isReference
    rw [made]
    exact ⟨'a', _, rfl, by decide⟩

end IsArgumentValue

/-! ## The arguments as options with values -/

namespace RegistrationCommand

/-- An option with its value in quotation marks. -/
def quoted (given : OptionName × String) : String :=
  quotedOption ("--" ++ given.1.text) given.2

/-- An option and its value as two words. -/
def pairWords (given : OptionName × String) : List String :=
  ["--" ++ given.1.text, given.2]

/-- The options behind the region, with their values. -/
def optionsBehindRegion (c : RegistrationCommand) (sources : List SourceSubnet) :
    List (OptionName × String) :=
  (.credentials, c.credentials.arn) ::
    (c.connectionSubnets.map (.connectionSubnet, ·) ++ sources.map (.sourceSubnet, ·.text))

/-- The region comes first; then come options with values in quotation marks. -/
theorem arguments_eq (c : RegistrationCommand) (sources : List SourceSubnet) :
    c.arguments sources = "--region " ++ c.region ++ " " ++
      Text.joined " " ((c.optionsBehindRegion sources).map quoted) := by
  have connections : c.connectionSubnets.map (quotedOption "--connection-subnet") =
      (c.connectionSubnets.map (OptionName.connectionSubnet, ·)).map quoted := by
    rw [List.map_map]
    rfl
  have registrations : sources.map (quotedOption "--source-subnet" ·.text) =
      (sources.map (OptionName.sourceSubnet, ·.text)).map quoted := by
    rw [List.map_map]
    rfl
  rw [arguments, connections, registrations, optionsBehindRegion, List.map_cons, List.map_append,
    List.append_assoc, List.cons_append, List.singleton_append, Text.joined]
  · rfl
  · exact List.cons_ne_nil _ _

theorem isOrdinary_of_mem_option (name : OptionName) :
    ∀ c ∈ ("--" ++ name.text).toList, Shell.isOrdinary c = true := by
  have plain : ("--" ++ name.text).toList.all Shell.isOrdinary = true := by
    cases name with
    | _ => decide
  exact List.all_eq_true.mp plain

theorem toList_option_ne_nil (name : OptionName) : ("--" ++ name.text).toList ≠ [] := by
  simp

theorem words?_quoted {given : OptionName × String} (safe : IsArgumentValue given.2) :
    Shell.words? (quoted given) = some (pairWords given) := by
  have option : Shell.words? ("--" ++ given.1.text) = some ["--" ++ given.1.text] :=
    Shell.words?_ordinary (isOrdinary_of_mem_option given.1) (toList_option_ne_nil given.1)
  rw [quoted, quotedOption, Shell.words?_append_blank option, Shell.words?_inMarks safe.inert]
  rfl

theorem map_ofText_pairWords {given : OptionName × String} (safe : IsArgumentValue given.2) :
    (pairWords given).map ArgumentToken.ofText = ArgumentReader.pairTokens given := by
  have option : ArgumentToken.ofText ("--" ++ given.1.text) = .option given.1 none := by
    cases given.1 with
    | _ => decide
  rw [pairWords, List.map_cons, option, List.map_singleton, safe.ofText_eq]
  rfl

variable {c : RegistrationCommand} {sources : List SourceSubnet}

theorem isArgumentValue_of_mem (valid : ∀ id ∈ c.connectionSubnets, isSubnetId id = true)
    (registrable : ∀ source ∈ sources, source.IsRegistrable) :
    ∀ given ∈ c.optionsBehindRegion sources, IsArgumentValue given.2 := by
  intro given mem
  rw [optionsBehindRegion, List.mem_cons, List.mem_append, List.mem_map, List.mem_map] at mem
  rcases mem with rfl | ⟨id, here, rfl⟩ | ⟨source, here, rfl⟩
  · exact .of_secret c.credentials
  · exact .of_isSubnetId (valid id here)
  · exact .of_sourceSubnet (registrable source here)

/-- A shell splits options with safe values into the options and the values. -/
theorem words?_joined_quoted {options : List (OptionName × String)}
    (safe : ∀ given ∈ options, IsArgumentValue given.2) :
    Shell.words? (Text.joined " " (options.map quoted)) = some (options.flatMap pairWords) := by
  have each : List.Forall₂ (fun text words => Shell.words? text = some words)
      (options.map quoted) (options.map pairWords) := by
    rw [List.forall₂_map_left_iff, List.forall₂_map_right_iff, List.forall₂_same]
    exact fun given mem => words?_quoted (safe given mem)
  rw [Shell.words?_joined each, List.flatMap]

theorem map_ofText_flatMap_pairWords {options : List (OptionName × String)}
    (safe : ∀ given ∈ options, IsArgumentValue given.2) :
    (options.flatMap pairWords).map ArgumentToken.ofText =
      options.flatMap ArgumentReader.pairTokens := by
  rw [List.map_flatMap]
  exact List.flatMap_congr fun given mem => map_ofText_pairWords (safe given mem)

/-- The words of the arguments behind the region. -/
def words (c : RegistrationCommand) (sources : List SourceSubnet) : List String :=
  ["--credentials", c.credentials.arn]
    ++ c.connectionSubnets.flatMap (fun id => ["--connection-subnet", id])
    ++ sources.flatMap (fun source => ["--source-subnet", source.text])

theorem flatMap_pairWords (c : RegistrationCommand) (sources : List SourceSubnet) :
    (c.optionsBehindRegion sources).flatMap pairWords = c.words sources := by
  rw [optionsBehindRegion, List.flatMap_cons, List.flatMap_append, List.flatMap_map,
    List.flatMap_map, words, List.append_assoc]
  rfl

/-- The arguments behind the region split into their words. -/
theorem exists_words? (valid : ∀ id ∈ c.connectionSubnets, isSubnetId id = true)
    (registrable : ∀ source ∈ sources, source.IsRegistrable) :
    ∃ rest, c.arguments sources = "--region " ++ c.region ++ " " ++ rest ∧
      Shell.words? rest = some (c.words sources) := by
  refine ⟨_, c.arguments_eq sources, ?_⟩
  rw [words?_joined_quoted (isArgumentValue_of_mem valid registrable), flatMap_pairWords]

/-- The options behind the region are taken as what they were made of. -/
theorem foldlM_take_optionsBehindRegion (region : String)
    (valid : ∀ id ∈ c.connectionSubnets, isSubnetId id = true)
    (registrable : ∀ source ∈ sources, source.IsRegistrable) :
    (c.optionsBehindRegion sources).foldlM (fun g given => g.take given.1 given.2)
        ({ region := some region } : GivenArguments) =
      .ok {
        region := some region
        credentials := some c.credentials
        connectionSubnets := c.connectionSubnets
        sourceSubnets := sources } := by
  have taken : ({ region := some region } : GivenArguments).take .credentials c.credentials.arn =
      .ok { region := some region, credentials := some c.credentials } := by
    rw [GivenArguments.take, SecretReference.read_arn]
    rfl
  rw [optionsBehindRegion, List.foldlM_cons, taken, Result.ok_bind, List.foldlM_append,
    GivenArguments.foldlM_take_connectionSubnets valid, Result.ok_bind,
    GivenArguments.foldlM_take_sourceSubnets registrable]
  rfl

/-- The words behind the region are read as what the command was made of, whatever
region is given in front of them. -/
theorem read_words (region : String) (someConnection : c.connectionSubnets ≠ [])
    (valid : ∀ id ∈ c.connectionSubnets, isSubnetId id = true)
    (registrable : ∀ source ∈ sources, source.IsRegistrable) :
    ConfigureArguments.read (("--region=" ++ region) :: c.words sources) = .ok {
      region := region
      credentials := c.credentials
      connectionSubnets := c.connectionSubnets
      sourceSubnets := sources
      networks := []
      existing := none } := by
  have safe := isArgumentValue_of_mem valid registrable
  have regionRead : ArgumentReader.start.read (.option .region (some region)) =
      .ok { given := { region := some region }, pending := none, isTerminated := false } := rfl
  rw [← flatMap_pairWords, ConfigureArguments.read, List.map_cons, ArgumentToken.ofText_region,
    map_ofText_flatMap_pairWords safe, ArgumentReader.readAll, List.foldlM_cons, regionRead,
    Result.ok_bind, ← bind_assoc]
  change (ArgumentReader.readAll _ _ >>= ArgumentReader.settle) >>= _ = _
  rw [ArgumentReader.readAll_pairs_settle_of_given,
    foldlM_take_optionsBehindRegion region valid registrable, Result.ok_bind]
  obtain ⟨first, others, some⟩ := List.exists_cons_of_ne_nil someConnection
  rw [some]
  rfl

end RegistrationCommand

/-! ## Both sides of the command -/

namespace LazyCommand

section Agreement

variable {c : RegistrationCommand} {s : RegistrationStore} {env env' : Environment} {text : String}

/-- **What is rendered on one side is read on the other.**  The text of a registration
command ends with its arguments, which are the same before the store is sealed and
after.  Behind the region the arguments split into words; and when these words are
read, with any region in front, the result is what the command and its store hold. -/
theorem evaluate_registration_read (reachable : s.Reachable)
    (held : env.store? c.store = some s)
    (rendered : (registration c).evaluate env = (.ok text, env')) :
    text = "sudo -u " ++ c.osUser ++ " " ++ c.configureCommand ++ " "
        ++ c.arguments (env.sources c.store) ∧
    c.arguments (env'.sources c.store) = c.arguments (env.sources c.store) ∧
    ∃ rest words,
      c.arguments (env.sources c.store) = "--region " ++ c.region ++ " " ++ rest ∧
      Shell.words? rest = some words ∧
      (∀ region, ConfigureArguments.read (("--region=" ++ region) :: words) = .ok {
        region := region
        credentials := c.credentials
        connectionSubnets := c.connectionSubnets
        sourceSubnets := s.sources
        networks := []
        existing := none }) ∧
      s.sources.Pairwise (·.subnetId < ·.subnetId) := by
  obtain ⟨passed, rfl, rfl⟩ := evaluate_registration_eq_ok_iff.mp rendered
  obtain ⟨someConnection, valid⟩ := RegistrationCommand.check_eq_ok_iff.mp passed
  have registrable := reachable.isRegistrable
  have isSealed : ((env.note (.evaluated (.registration c))).modifyStore c.store
      RegistrationStore.close).store? c.store = some s.close := by
    rw [Environment.store?_modifyStore_self, Environment.store?_note, held]
    rfl
  rw [Environment.sources_eq_of_store? held, Environment.sources_eq_of_store? isSealed,
    RegistrationStore.sources_close]
  obtain ⟨rest, isBehind, split⟩ := RegistrationCommand.exists_words? valid registrable
  refine ⟨rfl, rfl, rest, c.words s.sources, isBehind, split, fun region => ?_,
    s.pairwise_sources⟩
  exact RegistrationCommand.read_words region someConnection valid registrable

end Agreement

/-- A deployment of a repository and a fleet. -/
def fleetDeployment : Deployment where
  stack := "Farm"
  region := "us-west-2"
  resources := SortedSet.add (SortedSet.add ∅ ⟨"Fleet"⟩) ⟨"Repository"⟩
  edges := ∅
  isFinalized := false

/-- A store in which the fleet registered its segment. -/
def fleetStore : RegistrationStore where
  instanceId := ⟨"Repository"⟩
  frontDoor := ["subnet-a"]
  entries := SortedMap.insert ∅ "subnet-b" ⟨.client, .registered⟩
  isSealed := false

/-- The command that applies the registration of the fleet. -/
def fleetCommand : RegistrationCommand where
  store := ⟨0⟩
  region := "us-west-2"
  credentials := {
    arn := "arn:aws:secretsmanager:us-west-2:123456789012:secret:admin"
    region := "us-west-2"
    isReference := by decide }
  connectionSubnets := ["subnet-a"]
  osUser := "ec2-user"
  configureCommand := "/opt/configure"

/-- The store of the fleet is what registering the fleet leads to. -/
theorem reachable_fleetStore : fleetStore.Reachable := by
  have accepted : (RegistrationStore.create ⟨"Repository"⟩ ["subnet-a"]).register fleetDeployment
      "subnet-b" ⟨.client, .registered⟩ ⟨"Fleet"⟩ = .ok (fleetStore, { fleetDeployment with
        edges := SortedMap.insert ∅ ⟨"Fleet"⟩ (SortedSet.add ∅ ⟨"Repository"⟩) }) := by
    decide +kernel
  exact .register (.create _ _) accepted

theorem evaluate_registration_read_fleet :
    fleetStore.Reachable ∧
    (Environment.empty.addStore fleetStore).store? fleetCommand.store = some fleetStore ∧
    (∃ text env', (registration fleetCommand).evaluate (Environment.empty.addStore fleetStore) =
      (.ok text, env')) ∧
    ∃ rest words,
      fleetCommand.arguments fleetStore.sources =
        "--region " ++ fleetCommand.region ++ " " ++ rest ∧
      Shell.words? rest = some words ∧
      ∀ region, ConfigureArguments.read (("--region=" ++ region) :: words) = .ok {
        region := region
        credentials := fleetCommand.credentials
        connectionSubnets := ["subnet-a"]
        sourceSubnets := [⟨"subnet-b", .client, .registered⟩]
        networks := []
        existing := none } := by
  have passed : fleetCommand.check = .ok () := by decide
  have rendered := evaluate_registration_eq_ok_iff.mpr
    ⟨passed, rfl, rfl (a := (((Environment.empty.addStore fleetStore).note
      (.evaluated (.registration fleetCommand))).modifyStore fleetCommand.store
        RegistrationStore.close))⟩
  obtain ⟨_, _, rest, words, same, split, read, _⟩ :=
    evaluate_registration_read reachable_fleetStore rfl rendered
  exact ⟨reachable_fleetStore, rfl, ⟨_, _, rendered⟩, rest, words, same, split, read⟩

end LazyCommand

end Provisioning
