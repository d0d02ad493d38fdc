import Mathlib.Data.List.Nodup
import Mathlib.Data.List.ProdSigma
import Provisioning.Proofs.Reconcile.SettingName
import Provisioning.Proofs.Result
import Provisioning.Reconcile.Plan

/-!
# What a plan consists of

A plan exists when the wanted combinations make sense and every subnet among them
has a network.  It then consists of one deletion for each managed setting that no
wanted combination covers, and of at most one change for each wanted setting:
none when the repository holds the setting as it is wanted, an update under the
old id when it holds another one of that name, and a creation when it holds none.
-/

namespace Provisioning

set_option autoImplicit false

/-! ## Managed and unmanaged settings -/

namespace RegistrationSetting

/-- The settings of a repository that are managed. -/
def managed (settings : List RegistrationSetting) : List RegistrationSetting :=
  settings.filter (·.isManaged)

/-- The settings of a repository that are not managed. -/
def unmanaged (settings : List RegistrationSetting) : List RegistrationSetting :=
  settings.filter (!·.isManaged)

theorem mem_managed {settings : List RegistrationSetting} {s : RegistrationSetting} :
    s ∈ managed settings ↔ s ∈ settings ∧ s.isManaged = true :=
  List.mem_filter

/-- Whether a setting is managed depends on its name only. -/
theorem isManaged_congr {s t : RegistrationSetting} (same : s.name = t.name) :
    s.isManaged = t.isManaged := by
  rw [isManaged, isManaged, same]

/-- A setting under the name of two segment ids is managed. -/
theorem isManaged_of_name_eq {s : RegistrationSetting} {connection source : String}
    (connectionValid : isSubnetId connection = true) (sourceValid : isSubnetId source = true)
    (named : s.name = SettingName.text connection source) : s.isManaged = true := by
  rw [isManaged, named, SettingName.read?_text_of_isSubnetId connectionValid sourceValid]
  rfl

/-- Settings of a repository with distinct ids are equal when their ids are. -/
theorem eq_of_id_eq {settings : List RegistrationSetting} (distinct : (settings.map (·.id)).Nodup)
    {s t : RegistrationSetting} (left : s ∈ settings) (right : t ∈ settings) (same : s.id = t.id) :
    s = t :=
  List.inj_on_of_nodup_map distinct left right same

end RegistrationSetting

open RegistrationSetting

/-! ## What is wanted -/

namespace DesiredSettings

variable {d : DesiredSettings}

/-- The filter on the addresses of a subnet: the pattern of its network. -/
def IsFilterOf (d : DesiredSettings) (subnetId : String) (filter : AddressFilter) : Prop :=
  filter.kind = "IPv4Match" ∧
    ∃ network, d.network? subnetId = some network ∧ addressMatch network = .ok filter.value

/-- The setting that is wanted for a connection and a source: it has the name of
the two, filters the addresses of each, is enabled, and gives the role and the
status of the source. -/
structure Describes (d : DesiredSettings) (pair : String × SourceSubnet)
    (s : RegistrationSetting) : Prop where
  name_eq : s.name = SettingName.text pair.1 pair.2.subnetId
  connectionFilter : d.IsFilterOf pair.1 s.connectionFilter
  sourceFilter : d.IsFilterOf pair.2.subnetId s.sourceFilter
  isEnabled : s.isEnabled = true
  role_eq : s.role = pair.2.role
  status_eq : s.status = pair.2.status

/-- The description of a setting leaves its id open. -/
theorem Describes.withId {pair : String × SourceSubnet} {s : RegistrationSetting}
    (describes : d.Describes pair s) (id : String) : d.Describes pair { s with id := id } :=
  ⟨describes.name_eq, describes.connectionFilter, describes.sourceFilter, describes.isEnabled,
    describes.role_eq, describes.status_eq⟩

/-- A subnet has one filter at most. -/
theorem IsFilterOf.unique {subnetId : String} {first second : AddressFilter}
    (isFirst : d.IsFilterOf subnetId first) (isSecond : d.IsFilterOf subnetId second) :
    first = second := by
  obtain ⟨kind, value⟩ := first
  obtain ⟨kind', value'⟩ := second
  obtain ⟨rfl, network, known, isValue⟩ := isFirst
  obtain ⟨rfl, network', known', isValue'⟩ := isSecond
  cases Option.some.inj (known.symm.trans known')
  cases Except.ok.inj (isValue.symm.trans isValue')
  rfl

/-- Two settings that one combination describes differ in their ids at most. -/
theorem Describes.eq_withId {pair : String × SourceSubnet} {s t : RegistrationSetting}
    (first : d.Describes pair s) (second : d.Describes pair t) : t = { s with id := t.id } := by
  obtain ⟨id, name, connectionFilter, sourceFilter, isEnabled, role, status⟩ := s
  obtain ⟨id', name', connectionFilter', sourceFilter', isEnabled', role', status'⟩ := t
  cases first.name_eq.trans second.name_eq.symm
  cases first.connectionFilter.unique second.connectionFilter
  cases first.sourceFilter.unique second.sourceFilter
  cases first.isEnabled.trans second.isEnabled.symm
  cases first.role_eq.trans second.role_eq.symm
  cases first.status_eq.trans second.status_eq.symm
  rfl

theorem check_eq_ok_iff :
    d.check = .ok () ↔ d.connections ≠ [] ∧ (d.sources.map (·.subnetId)).Nodup := by
  rw [check, ← firstRepeated_nil_eq_none_iff, Ne, ← List.isEmpty_iff]
  split
  next empty => exact iff_of_false (by rintro ⟨⟩) fun passes => passes.1 empty
  next some =>
    cases firstRepeated [] (d.sources.map (·.subnetId)) with
    | none => exact iff_of_true rfl ⟨some, rfl⟩
    | some id => exact iff_of_false (by rintro ⟨⟩) (by rintro ⟨_, ⟨⟩⟩)

/-- The pattern of a subnet is the pattern of its network. -/
theorem patternOf_eq_ok_iff {subnetId pattern : String} :
    d.patternOf subnetId = .ok pattern ↔
      ∃ network, d.network? subnetId = some network ∧ addressMatch network = .ok pattern := by
  unfold patternOf
  split
  next network known => simp [known]
  next unknown => simp [unknown]

/-- A setting that is wanted is described by its combination. -/
theorem describes_of_wanted {connection : String} {source : SourceSubnet}
    {s : RegistrationSetting} (wanted : d.wanted connection source = .ok s) :
    d.Describes (connection, source) s := by
  obtain ⟨connectionPattern, first, rest⟩ := Result.bind_eq_ok_iff.mp wanted
  obtain ⟨sourcePattern, second, made⟩ := Result.bind_eq_ok_iff.mp rest
  cases made
  exact ⟨rfl, ⟨rfl, patternOf_eq_ok_iff.mp first⟩, ⟨rfl, patternOf_eq_ok_iff.mp second⟩, rfl, rfl,
    rfl⟩

/-- Settings are named after the combinations that they are wanted for. -/
theorem map_name_eq {pairs : List (String × SourceSubnet)} {settings : List RegistrationSetting}
    (describe : List.Forall₂ d.Describes pairs settings) :
    settings.map (·.name) = pairs.map fun pair => SettingName.text pair.1 pair.2.subnetId := by
  induction describe with
  | nil => rfl
  | cons describes _ ih => rw [List.map_cons, List.map_cons, describes.name_eq, ih]

theorem mem_pairs {connection : String} {source : SourceSubnet} :
    (connection, source) ∈ d.pairs ↔ connection ∈ d.connections ∧ source ∈ d.sources :=
  List.mem_product

/-- A managed setting is covered exactly when it has the name of a wanted combination. -/
theorem covers_iff {s : RegistrationSetting} (isManaged : s.isManaged = true) :
    d.covers s = true ↔
      ∃ pair ∈ d.pairs, s.name = SettingName.text pair.1 pair.2.subnetId := by
  obtain ⟨⟨connection, sourceId⟩, read⟩ := Option.isSome_iff_exists.mp isManaged
  simp only [covers, read, Bool.and_eq_true, List.contains_iff_mem]
  constructor
  · rintro ⟨left, right⟩
    obtain ⟨source, mem, rfl⟩ := List.mem_map.mp right
    exact ⟨(connection, source), mem_pairs.mpr ⟨left, mem⟩, (SettingName.text_of_read? read).symm⟩
  · rintro ⟨⟨connection', source⟩, mem, named⟩
    rw [named] at read
    obtain ⟨rfl, rfl⟩ := SettingName.eq_of_read?_text read
    obtain ⟨left, right⟩ := mem_pairs.mp mem
    exact ⟨left, List.mem_map_of_mem right⟩

/-- Whether a setting is covered depends on its name only. -/
theorem covers_congr {s t : RegistrationSetting} (same : s.name = t.name) :
    d.covers s = d.covers t := by
  rw [covers, covers, same]

/-- A managed name is the name of one wanted combination at most. -/
theorem pair_eq_of_text_eq (distinctSources : (d.sources.map (·.subnetId)).Nodup)
    {pair pair' : String × SourceSubnet} (mem : pair ∈ d.pairs) (mem' : pair' ∈ d.pairs)
    (isManaged : (SettingName.read? (SettingName.text pair.1 pair.2.subnetId)).isSome = true)
    (same : SettingName.text pair.1 pair.2.subnetId =
      SettingName.text pair'.1 pair'.2.subnetId) : pair = pair' := by
  obtain ⟨⟨connection, sourceId⟩, read⟩ := Option.isSome_iff_exists.mp isManaged
  obtain ⟨sameConnection, sameId⟩ := SettingName.eq_of_read?_text read
  rw [same] at read
  obtain ⟨sameConnection', sameId'⟩ := SettingName.eq_of_read?_text read
  have sameSource : pair.2 = pair'.2 :=
    List.inj_on_of_nodup_map distinctSources (mem_pairs.mp mem).2 (mem_pairs.mp mem').2
      (sameId.trans sameId'.symm)
  exact Prod.ext (sameConnection.trans sameConnection'.symm) sameSource

/-- The setting is as it is wanted for some combination. -/
def Wants (d : DesiredSettings) (s : RegistrationSetting) : Prop :=
  ∃ pair ∈ d.pairs, d.Describes pair s

/-- A managed setting with the name of what is wanted for a combination is as it is wanted
exactly when they differ in their ids at most. -/
theorem wants_iff_eq_withId (distinctSources : (d.sources.map (·.subnetId)).Nodup)
    {pair : String × SourceSubnet} (mem : pair ∈ d.pairs) {s wanted : RegistrationSetting}
    (made : d.wanted pair.1 pair.2 = .ok wanted) (isManaged : s.isManaged = true)
    (named : s.name = wanted.name) : d.Wants s ↔ s = { wanted with id := s.id } := by
  have describes : d.Describes pair wanted := describes_of_wanted made
  constructor
  · rintro ⟨pair', mem', describes'⟩
    rw [RegistrationSetting.isManaged, named, describes.name_eq] at isManaged
    cases pair_eq_of_text_eq distinctSources mem mem' isManaged
      (describes.name_eq.symm.trans (named.symm.trans describes'.name_eq))
    exact describes.eq_withId describes'
  · intro same
    exact ⟨pair, mem, same ▸ describes.withId s.id⟩

end DesiredSettings

/-! ## Repositories and wishes that fit together -/

/-- What a planner may take for granted: the repository keeps ids distinct, no two
managed settings have one name, and the wanted subnets are segment ids among which
no connection is repeated. -/
structure WellPosed (prior : List RegistrationSetting) (desired : DesiredSettings) : Prop where
  distinctIds : (prior.map (·.id)).Nodup
  distinctNames : ((managed prior).map (·.name)).Nodup
  validConnections : ∀ connection ∈ desired.connections, checkSubnetId connection = .ok ()
  validSources : ∀ source ∈ desired.sources, checkSubnetId source.subnetId = .ok ()
  distinctConnections : desired.connections.Nodup

namespace WellPosed

variable {prior : List RegistrationSetting} {desired : DesiredSettings}

theorem isSubnetId_of_mem_pairs (fits : WellPosed prior desired) {pair : String × SourceSubnet}
    (mem : pair ∈ desired.pairs) :
    isSubnetId pair.1 = true ∧ isSubnetId pair.2.subnetId = true := by
  obtain ⟨connection, source⟩ := DesiredSettings.mem_pairs.mp mem
  exact ⟨checkSubnetId_eq_ok_iff.mp (fits.validConnections _ connection),
    checkSubnetId_eq_ok_iff.mp (fits.validSources _ source)⟩

/-- Different combinations have different names. -/
theorem nodup_names (fits : WellPosed prior desired)
    (distinctSources : (desired.sources.map (·.subnetId)).Nodup) :
    (desired.pairs.map fun pair => SettingName.text pair.1 pair.2.subnetId).Nodup := by
  have distinctPairs : desired.pairs.Nodup :=
    fits.distinctConnections.product (List.Nodup.of_map _ distinctSources)
  refine distinctPairs.map_on fun pair left pair' right same => ?_
  obtain ⟨connectionValid, sourceValid⟩ := fits.isSubnetId_of_mem_pairs left
  have read := SettingName.read?_text_of_isSubnetId connectionValid sourceValid
  exact DesiredSettings.pair_eq_of_text_eq distinctSources left right
    (Option.isSome_iff_exists.mpr ⟨_, read⟩) same

end WellPosed

/-! ## Settings that share a name -/

/-- Behind the setting no other one of the repository has its name. -/
def LastOfName (settings : List RegistrationSetting) (s : RegistrationSetting) : Prop :=
  ∃ before after, settings = before ++ s :: after ∧ ∀ other ∈ after, other.name ≠ s.name

section LastOfName

variable {settings : List RegistrationSetting} {s wanted : RegistrationSetting}

theorem LastOfName.mem (last : LastOfName settings s) : s ∈ settings := by
  obtain ⟨before, after, rfl, _⟩ := last
  exact List.mem_append_right _ List.mem_cons_self

/-- Looking from behind finds the last setting of a name. -/
theorem find?_reverse_eq_some_iff {name : String} :
    settings.reverse.find? (·.name = name) = some s ↔ LastOfName settings s ∧ s.name = name := by
  rw [List.find?_eq_some_iff_append, decide_eq_true_iff, and_comm]
  refine and_congr_left fun named => ?_
  subst named
  constructor
  · rintro ⟨after, before, reversed, differ⟩
    refine ⟨before.reverse, after.reverse, ?_, fun other mem => ?_⟩
    · rw [← List.reverse_reverse settings, reversed]
      simp
    · simpa using differ other (List.mem_reverse.mp mem)
  · rintro ⟨before, after, rfl, differ⟩
    refine ⟨after.reverse, before.reverse, by simp, fun other mem => ?_⟩
    simpa using differ other (List.mem_reverse.mp mem)

/-- Among the settings of a name there is a last one. -/
theorem exists_lastOfName (mem : s ∈ settings) :
    ∃ last, LastOfName settings last ∧ last.name = s.name := by
  cases found : settings.reverse.find? (·.name = s.name) with
  | none =>
    have differs := List.find?_eq_none.mp found s (List.mem_reverse.mpr mem)
    exact absurd (decide_eq_true rfl) differs
  | some last => exact ⟨last, find?_reverse_eq_some_iff.mp found⟩

/-- The one change, if any, that a wanted setting leads to. -/
theorem settle_cases (settings : List RegistrationSetting) (wanted : RegistrationSetting) :
    (settle settings wanted = some (.create wanted) ∧ ∀ old ∈ settings, old.name ≠ wanted.name) ∨
      ∃ old, LastOfName settings old ∧ old.name = wanted.name ∧
        (settle settings wanted = some (.update { wanted with id := old.id }) ∧
            old ≠ { wanted with id := old.id } ∨
          settle settings wanted = none ∧ old = { wanted with id := old.id }) := by
  unfold settle
  split
  next missing =>
    refine .inl ⟨rfl, fun old mem same => ?_⟩
    have differs := List.find?_eq_none.mp missing old (List.mem_reverse.mpr mem)
    exact differs (decide_eq_true same)
  next old found =>
    obtain ⟨last, named⟩ := find?_reverse_eq_some_iff.mp found
    refine .inr ⟨old, last, named, ?_⟩
    by_cases same : old = { wanted with id := old.id }
    · exact .inr ⟨if_pos same, same⟩
    · exact .inl ⟨if_neg same, same⟩

/-- The change that a wanted setting leads to when there are settings of its name. -/
theorem LastOfName.settle_eq (last : LastOfName settings s) (named : s.name = wanted.name) :
    settle settings wanted =
      if s = { wanted with id := s.id } then none else some (.update { wanted with id := s.id }) := by
  rw [settle, find?_reverse_eq_some_iff.mpr ⟨last, named⟩]

/-- A change is about the setting that was wanted. -/
theorem name_of_settle {action : SettingAction} (settles : settle settings wanted = some action) :
    action.setting.name = wanted.name := by
  rcases settle_cases settings wanted with
    ⟨creates, _⟩ | ⟨old, _, _, ⟨updates, _⟩ | ⟨keeps, _⟩⟩
  · cases creates.symm.trans settles
    rfl
  · cases updates.symm.trans settles
    rfl
  · cases keeps.symm.trans settles

end LastOfName

/-! ## The parts of a plan -/

/-- A plan deletes what is not covered and then settles each wanted setting. -/
theorem plan_eq_ok_iff {prior : List RegistrationSetting} {desired : DesiredSettings}
    {actions : List SettingAction} :
    plan prior desired = .ok actions ↔
      desired.check = .ok () ∧
        ∃ wanted, List.Forall₂ (fun pair s => desired.wanted pair.1 pair.2 = .ok s)
            desired.pairs wanted ∧
          actions = ((managed prior).filter (!desired.covers ·)).map SettingAction.delete ++
            wanted.filterMap (settle (managed prior)) := by
  unfold plan
  rw [Result.bind_eq_ok_iff]
  constructor
  · rintro ⟨_, checked, rest⟩
    obtain ⟨wanted, run, made⟩ := Result.bind_eq_ok_iff.mp rest
    cases made
    exact ⟨checked, wanted, Result.mapM_eq_ok_iff.mp run, rfl⟩
  · rintro ⟨checked, wanted, run, rfl⟩
    exact ⟨(), checked, Result.bind_eq_ok_iff.mpr ⟨wanted, Result.mapM_eq_ok_iff.mpr run, rfl⟩⟩

/-- A change of a plan deletes a managed setting that is not covered, or settles what is
wanted for a combination. -/
theorem mem_plan_iff {prior : List RegistrationSetting} {desired : DesiredSettings}
    {actions : List SettingAction} (planned : plan prior desired = .ok actions)
    {action : SettingAction} :
    action ∈ actions ↔
      (∃ s ∈ managed prior, desired.covers s = false ∧ action = .delete s) ∨
        ∃ pair ∈ desired.pairs, ∃ wanted, desired.wanted pair.1 pair.2 = .ok wanted ∧
          settle (managed prior) wanted = some action := by
  obtain ⟨_, wanted, run, rfl⟩ := plan_eq_ok_iff.mp planned
  rw [List.mem_append]
  refine or_congr ?_ ?_
  · simp only [List.mem_map, List.mem_filter, Bool.not_eq_true', and_assoc]
    exact exists_congr fun s => and_congr_right fun _ => and_congr_right fun _ => eq_comm
  · rw [List.mem_filterMap]
    constructor
    · rintro ⟨s, mem, settles⟩
      obtain ⟨pair, there, made⟩ := Result.exists_of_forall₂_right run mem
      exact ⟨pair, there, s, made, settles⟩
    · rintro ⟨pair, mem, s, made, settles⟩
      obtain ⟨s', there, made'⟩ := Result.exists_of_forall₂_left run mem
      cases Except.ok.inj (made.symm.trans made')
      exact ⟨s, there, settles⟩

end Provisioning
