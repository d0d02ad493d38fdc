import Mathlib.Data.List.Count
import Mathlib.Data.Prod.Basic
import Provisioning.Proofs.Reconcile.Plan

/-!
# How many changes a plan holds for one setting

A plan refuses a source that is wanted twice, but not a connection.  It goes through the
combinations connection by connection, so those of a connection that is given twice are
settled twice, and a setting that they need is created or replaced twice.  Deletions are
made from the repository and not from the wishes; each of them stands in the plan once.
-/

namespace Provisioning

set_option autoImplicit false

open RegistrationSetting

/-! ## Counting combinations -/

section Pairs

variable {d : DesiredSettings} {pair : String × SourceSubnet}

/-- A pair occurs in a product as often as its parts do in theirs. -/
theorem count_flatMap_map {α β : Type} [DecidableEq α] [DecidableEq β] (first : List α)
    (second : List β) (a : α) (b : β) :
    (first.flatMap fun x => second.map (x, ·)).count (a, b) = first.count a * second.count b := by
  induction first with
  | nil => simp
  | cons x rest ih =>
    rw [List.flatMap_cons, List.count_append, ih, List.count_cons, Nat.add_mul, Nat.add_comm]
    refine congrArg _ ?_
    by_cases same : x = a
    · subst same
      rw [List.count_map_of_injective _ _ (Prod.mk_right_injective x)]
      simp
    · rw [List.count_eq_zero.mpr fun mem => ?_]
      · simp [same]
      · obtain ⟨_, _, isPair⟩ := List.mem_map.mp mem
        exact same (congrArg Prod.fst isPair)

/-- A wanted combination occurs as often as its connection is given. -/
theorem DesiredSettings.count_pairs (distinctSources : (d.sources.map (·.subnetId)).Nodup)
    (mem : pair ∈ d.pairs) : d.pairs.count pair = d.connections.count pair.1 := by
  have once : d.sources.count pair.2 = 1 :=
    List.count_eq_one_of_mem (List.Nodup.of_map _ distinctSources) (mem_pairs.mp mem).2
  rw [pairs, count_flatMap_map, once, Nat.mul_one]

end Pairs

/-! ## Counting changes -/

section Changes

variable {prior settings wanted : List RegistrationSetting} {desired : DesiredSettings}
  {actions : List SettingAction} {action : SettingAction}

/-- When what is wanted for a combination leads to a change, there are as many changes of its
name as the combination occurs.  The induction is on the combinations. -/
theorem count_name_filterMap_settle {pair : String × SourceSubnet} {w : RegistrationSetting}
    (made : desired.wanted pair.1 pair.2 = .ok w) (settles : settle settings w = some action)
    {pairs : List (String × SourceSubnet)}
    (run : List.Forall₂ (fun pair s => desired.wanted pair.1 pair.2 = .ok s) pairs wanted)
    (distinctNames : ∀ other ∈ pairs, SettingName.text other.1 other.2.subnetId =
      SettingName.text pair.1 pair.2.subnetId → other = pair) :
    ((wanted.filterMap (settle settings)).map (·.setting.name)).count w.name =
      pairs.count pair := by
  induction run with
  | nil => rfl
  | @cons other s pairs wanted madeOther _ ih =>
    have later := ih fun other mem => distinctNames other (List.mem_cons_of_mem _ mem)
    by_cases same : other = pair
    · subst same
      cases Except.ok.inj (made.symm.trans madeOther)
      rw [List.filterMap_cons_some settles, List.map_cons, name_of_settle settles,
        List.count_cons_self, List.count_cons_self, later]
    · have differ : s.name ≠ w.name := by
        rw [(DesiredSettings.describes_of_wanted madeOther).name_eq,
          (DesiredSettings.describes_of_wanted made).name_eq]
        exact mt (distinctNames other List.mem_cons_self) same
      rw [List.count_cons_of_ne same]
      cases settlesOther : settle settings s with
      | none => rw [List.filterMap_cons_none settlesOther, later]
      | some change =>
        rw [List.filterMap_cons_some settlesOther, List.map_cons, name_of_settle settlesOther,
          List.count_cons_of_ne differ, later]

/-- What is settled for a combination is covered, and its name is read as the combination. -/
theorem covers_setting_of_settle {pair : String × SourceSubnet} (mem : pair ∈ desired.pairs)
    (valid : isSubnetId pair.1 = true ∧ isSubnetId pair.2.subnetId = true)
    {w : RegistrationSetting} (made : desired.wanted pair.1 pair.2 = .ok w)
    (settles : settle settings w = some action) :
    SettingName.read? action.setting.name = some (pair.1, pair.2.subnetId) ∧
      desired.covers action.setting = true := by
  have named : action.setting.name = SettingName.text pair.1 pair.2.subnetId :=
    (name_of_settle settles).trans (DesiredSettings.describes_of_wanted made).name_eq
  refine ⟨?_, (DesiredSettings.covers_iff ?_).mpr ⟨pair, mem, named⟩⟩
  · rw [named, SettingName.read?_text_of_isSubnetId valid.1 valid.2]
  · exact isManaged_of_name_eq valid.1 valid.2 named

/-- A managed setting that is not covered is deleted once. -/
theorem count_name_filter_covers (distinctNames : ((managed prior).map (·.name)).Nodup)
    {s : RegistrationSetting} (isManaged : s ∈ managed prior)
    (uncovered : desired.covers s = false) :
    (((managed prior).filter (!desired.covers ·)).map (·.name)).count s.name = 1 := by
  refine List.count_eq_one_of_mem (distinctNames.sublist (List.filter_sublist.map _)) ?_
  exact List.mem_map_of_mem (List.mem_filter.mpr ⟨isManaged, by simp [uncovered]⟩)

/-- A setting with a name that is covered is not deleted. -/
theorem count_name_filter_covers_eq_zero {s : RegistrationSetting}
    (covered : desired.covers s = true) :
    (((managed prior).filter (!desired.covers ·)).map (·.name)).count s.name = 0 := by
  refine List.count_eq_zero.mpr fun mem => ?_
  obtain ⟨gone, isGone, sameName⟩ := List.mem_map.mp mem
  obtain ⟨_, uncovered⟩ := List.mem_filter.mp isGone
  rw [DesiredSettings.covers_congr sameName, covered] at uncovered
  cases uncovered

/-- No change for a wanted combination has the name of a setting that is not covered. -/
theorem count_name_filterMap_settle_eq_zero
    (valid : ∀ pair ∈ desired.pairs, isSubnetId pair.1 = true ∧ isSubnetId pair.2.subnetId = true)
    (run : List.Forall₂ (fun pair s => desired.wanted pair.1 pair.2 = .ok s) desired.pairs wanted)
    {s : RegistrationSetting} (uncovered : desired.covers s = false) :
    ((wanted.filterMap (settle settings)).map (·.setting.name)).count s.name = 0 := by
  refine List.count_eq_zero.mpr fun mem => ?_
  obtain ⟨change, isChange, sameName⟩ := List.mem_map.mp mem
  obtain ⟨w, isWanted, settles⟩ := List.mem_filterMap.mp isChange
  obtain ⟨pair, there, made⟩ := Result.exists_of_forall₂_right run isWanted
  obtain ⟨_, covered⟩ := covers_setting_of_settle there (valid pair there) made settles
  rw [DesiredSettings.covers_congr sameName, uncovered] at covered
  cases covered

/-- What is wanted for a combination is changed as often as its connection is given, if it is
changed at all. -/
theorem count_name_filterMap_settle_of_mem {pair : String × SourceSubnet}
    {w : RegistrationSetting} (distinctSources : (desired.sources.map (·.subnetId)).Nodup)
    (run : List.Forall₂ (fun pair s => desired.wanted pair.1 pair.2 = .ok s) desired.pairs wanted)
    (there : pair ∈ desired.pairs)
    (valid : isSubnetId pair.1 = true ∧ isSubnetId pair.2.subnetId = true)
    (made : desired.wanted pair.1 pair.2 = .ok w) (settles : settle settings w = some action) :
    ((wanted.filterMap (settle settings)).map (·.setting.name)).count w.name =
      desired.connections.count pair.1 := by
  have isRead := SettingName.read?_text_of_isSubnetId valid.1 valid.2
  have distinctNames : ∀ other ∈ desired.pairs, SettingName.text other.1 other.2.subnetId =
      SettingName.text pair.1 pair.2.subnetId → other = pair := fun other isPair sameName =>
    (DesiredSettings.pair_eq_of_text_eq distinctSources there isPair
      (Option.isSome_iff_exists.mpr ⟨_, isRead⟩) sameName.symm).symm
  rw [count_name_filterMap_settle made settles run distinctNames,
    DesiredSettings.count_pairs distinctSources there]

/-- **A setting that is covered is changed as often as its connection is given**, if it is
changed at all; one that is not covered is deleted once. -/
theorem count_name_of_mem_plan (distinctNames : ((managed prior).map (·.name)).Nodup)
    (valid : ∀ pair ∈ desired.pairs, isSubnetId pair.1 = true ∧ isSubnetId pair.2.subnetId = true)
    (planned : plan prior desired = .ok actions) (mem : action ∈ actions) :
    ∃ connection source, SettingName.read? action.setting.name = some (connection, source) ∧
      (actions.map (·.setting.name)).count action.setting.name =
        if desired.covers action.setting then desired.connections.count connection else 1 := by
  have kinds := (mem_plan_iff planned).mp mem
  obtain ⟨checked, wanted, run, rfl⟩ := plan_eq_ok_iff.mp planned
  have distinctSources := (DesiredSettings.check_eq_ok_iff.mp checked).2
  have deleted : (((managed prior).filter (!desired.covers ·)).map SettingAction.delete).map
      (·.setting.name) = ((managed prior).filter (!desired.covers ·)).map (·.name) :=
    List.map_map
  rw [List.map_append, List.count_append, deleted]
  rcases kinds with ⟨s, isManaged, uncovered, rfl⟩ | ⟨pair, there, w, made, settles⟩
  · obtain ⟨⟨connection, source⟩, read⟩ :=
      Option.isSome_iff_exists.mp (mem_managed.mp isManaged).2
    refine ⟨connection, source, read, ?_⟩
    have isDeleted : (SettingAction.delete s).setting = s := rfl
    rw [isDeleted, count_name_filter_covers distinctNames isManaged uncovered,
      count_name_filterMap_settle_eq_zero valid run uncovered, uncovered]
    rfl
  · obtain ⟨read, covered⟩ := covers_setting_of_settle there (valid pair there) made settles
    refine ⟨pair.1, pair.2.subnetId, read, ?_⟩
    rw [count_name_filter_covers_eq_zero covered, name_of_settle settles,
      count_name_filterMap_settle_of_mem distinctSources run there (valid pair there) made settles,
      covered, Nat.zero_add]
    rfl

/-- When no connection is given twice, a plan holds one change for each setting. -/
theorem nodup_name_of_plan (distinctNames : ((managed prior).map (·.name)).Nodup)
    (valid : ∀ pair ∈ desired.pairs, isSubnetId pair.1 = true ∧ isSubnetId pair.2.subnetId = true)
    (planned : plan prior desired = .ok actions) (distinctConnections : desired.connections.Nodup) :
    (actions.map (·.setting.name)).Nodup := by
  refine List.nodup_iff_count_eq_one.mpr fun name mem => ?_
  obtain ⟨action, there, rfl⟩ := List.mem_map.mp mem
  obtain ⟨connection, source, read, count⟩ :=
    count_name_of_mem_plan distinctNames valid planned there
  rw [count]
  split
  next covered =>
    simp only [DesiredSettings.covers, read, Bool.and_eq_true, List.contains_iff_mem] at covered
    exact List.count_eq_one_of_mem distinctConnections covered.1
  next => rfl

end Changes

end Provisioning
